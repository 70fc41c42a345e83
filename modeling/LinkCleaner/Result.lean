import LinkCleaner.Lenient

/-!
What cleaning a URL yields, and the one-line status that is shown beside it.
-/

namespace LinkCleaner

open Json (Value Str)

inductive CleanError where
  | invalidUrl
  | rulesUnavailable
  deriving DecidableEq, Repr

def CleanError.code : CleanError → Text
  | .invalidUrl => "invalid_url".toList
  | .rulesUnavailable => "rules_unavailable".toList

def CleanError.all : List CleanError := [.invalidUrl, .rulesUnavailable]

def CleanError.ofCode? (s : Text) : Option CleanError := all.find? fun e => e.code == s

/-- The outcome of cleaning: the URL, whether it was changed, and the provider of a redirect that
was unwrapped. -/
structure CleanResult where
  url : Text
  changed : Bool := false
  unwrappedFrom : Option Text := none
  error : Option CleanError := none
  deriving DecidableEq, Repr

namespace CleanResult

def ok (r : CleanResult) : Bool := r.error.isNone

/-- The input handed back with an error. -/
def refused (url : Text) (e : CleanError) : CleanResult := { url := url, error := some e }

def errorOf : Value → Except Lenient.Issue (Option CleanError)
  | .null => .ok none
  | .str s =>
    match CleanError.ofCode? (Str.toText s) with
    | some e => .ok (some e)
    | none => .error .notOneOf
  | _ => .error .notOneOf

def sourceOf : Value → Except Lenient.Issue (Option Text)
  | .null => .ok none
  | v => (Lenient.text v).map some

/-- Reads a result from loose fields. -/
def read (fields : List (Str × Value)) : Except (List Lenient.FieldIssue) CleanResult :=
  let url := Lenient.required Lenient.text fields "url".toList
  let changed := Lenient.optional Lenient.switch false fields "changed".toList
  let source := Lenient.optional sourceOf none fields "unwrapped_from".toList
  let error := Lenient.optional errorOf none fields "error".toList
  match url, changed, source, error with
  | .ok u, .ok c, .ok s, .ok e => .ok ⟨u, c, s, e⟩
  | _, _, _, _ =>
    .error (Lenient.issue url ++ Lenient.issue changed ++ Lenient.issue source
      ++ Lenient.issue error)

def toValue (r : CleanResult) : Value :=
  Value.ofFields
    [("url".toList, .text r.url), ("changed".toList, .bool r.changed),
      ("unwrapped_from".toList, (r.unwrappedFrom.map Value.text).getD .null),
      ("error".toList, (r.error.map fun e => Value.text e.code).getD .null)]

/-- The status of a URL that was cleaned. -/
def progress (r : CleanResult) : Text :=
  if r.changed then "Cleaned ✓".toList else "Already clean ✨".toList

/-- The status line. -/
def status (r : CleanResult) : Text :=
  match r.error with
  | some .invalidUrl => "Invalid URL".toList
  | some .rulesUnavailable => "Rules not available".toList
  | none =>
    match r.unwrappedFrom with
    | none | some [] => r.progress
    | some provider => "Unwrapped from ".toList ++ provider ++ " · ".toList ++ r.progress

end CleanResult

end LinkCleaner
