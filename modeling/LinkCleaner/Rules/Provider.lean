import LinkCleaner.Pattern.Match
import LinkCleaner.Json.Shown

/-!
Rule documents. A document names providers in order; a provider says which URLs it covers, how they
redirect, and which parameters and parts of a URL are to go.
-/

namespace LinkCleaner.Rules

open Json (Value Str)

/-- A rule about a parameter: its name in small letters, or a pattern. -/
inductive Entry where
  | literal (name : Text)
  | pattern (p : Pattern)
  deriving DecidableEq, Repr

/-- Characters that make an entry more than a name. -/
def metaCharacters : Text := ".*+?^$\x7b\x7d()|[]\\=".toList

/-- Whether an entry is just a name. -/
def isLiteral (entry : Text) : Bool := !entry.any metaCharacters.contains

structure Provider where
  name : Text
  urlPattern : Option Pattern := none
  exceptions : List Pattern := []
  redirections : List Pattern := []
  rules : List Entry := []
  referralMarketing : List Entry := []
  rawRules : List Pattern := []
  deriving DecidableEq, Repr

/-- A provider covers a URL that its pattern matches and no exception does; without a pattern it
covers none. -/
def Provider.appliesTo (p : Provider) (url : Text) : Bool :=
  match p.urlPattern with
  | none => false
  | some q => q.occurs url && !p.exceptions.any fun e => e.occurs url

theorem Provider.appliesTo_of_none {p : Provider} (h : p.urlPattern = none) (url : Text) :
    p.appliesTo url = false := by
  simp [appliesTo, h]

/-- A provider as its document gives it: texts that are yet to be read as patterns. -/
structure Spec where
  urlPattern : Option Text := none
  exceptions : List Text := []
  redirections : List Text := []
  rules : List Text := []
  referralMarketing : List Text := []
  rawRules : List Text := []
  deriving DecidableEq, Repr

/-- A field under either of its two names, of which the first comes before the second. -/
def fieldOf (fields : List (Str × Value)) (name other : String) : Option Value :=
  (Value.field? fields name.toList).or (Value.field? fields other.toList)

/-- The members of a list, each as shown; anything else is no list. -/
def listOf : Option Value → List Text
  | some (.arr vs) => vs.map Value.shown
  | _ => []

def textOf : Option Value → Option Text
  | some (.str s) => some (Str.toText s)
  | _ => none

def Spec.ofFields (fields : List (Str × Value)) : Spec :=
  { urlPattern := textOf (fieldOf fields "urlPattern" "url_pattern")
    exceptions := listOf (Value.field? fields "exceptions".toList)
    redirections := listOf (Value.field? fields "redirections".toList)
    rules := listOf (Value.field? fields "rules".toList)
    referralMarketing := listOf (fieldOf fields "referralMarketing" "referral_marketing")
    rawRules := listOf (fieldOf fields "rawRules" "raw_rules") }

/-- The providers of a document in order; one that is not a record has no specification. -/
def specs? (doc : Value) : Option (List (Text × Option Spec)) :=
  match doc.get? "providers".toList with
  | some (.obj fields) =>
    some (fields.map fun (name, v) =>
      (Str.toText name,
        match v with
        | .obj fs => some (Spec.ofFields fs)
        | _ => none))
  | _ => none

end LinkCleaner.Rules
