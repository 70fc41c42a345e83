import LinkCleaner.Json.Shown

/-!
Lenient reading of loosely typed values: switches, whole numbers and numbers may come as text or as
one another. Each refusal has a code, and the refusals of a record are listed by field.
-/

namespace LinkCleaner.Lenient

open Json (Value Str)

/-- Why a value is not what a field holds. -/
inductive Issue where
  | missing
  | notText
  | notOneOf
  | notSwitch
  | badSwitch
  | notWhole
  | badWhole
  | longWhole
  | fractional
  | notFinite
  | belowLeast
  | notNumber
  | badNumber
  deriving DecidableEq, Repr

def Issue.code : Issue → Text
  | .missing => "missing".toList
  | .notText => "string_type".toList
  | .notOneOf => "enum".toList
  | .notSwitch => "bool_type".toList
  | .badSwitch => "bool_parsing".toList
  | .notWhole => "int_type".toList
  | .badWhole => "int_parsing".toList
  | .longWhole => "int_parsing_size".toList
  | .fractional => "int_from_float".toList
  | .notFinite => "finite_number".toList
  | .belowLeast => "greater_than_equal".toList
  | .notNumber => "float_type".toList
  | .badNumber => "float_parsing".toList

/-- A field and what is wrong with it. -/
abbrev FieldIssue := Text × Issue

def trueWords : List Text :=
  ["1".toList, "t".toList, "y".toList, "on".toList, "yes".toList, "true".toList]

def falseWords : List Text :=
  ["0".toList, "f".toList, "n".toList, "no".toList, "off".toList, "false".toList]

/-- A switch in words, in letters of any case. -/
def switchOfText (s : Text) : Except Issue Bool :=
  let w := Text.asciiLower s
  if falseWords.contains w then .ok false
  else if trueWords.contains w then .ok true
  else .error .badSwitch

def switchOfInt (n : Int) : Except Issue Bool :=
  if n = 0 then .ok false else if n = 1 then .ok true else .error .badSwitch

/-- Whole numbers of a machine word lie below this size, but for the least one. -/
def wordBound : Nat := Decimal.twos 63

def isWord (n : Int) : Bool := -(wordBound : Int) ≤ n && n < wordBound

def switch : Value → Except Issue Bool
  | .bool b => .ok b
  | .str s => switchOfText (Str.toText s)
  | .int n => if isWord n then switchOfInt n else .error .notSwitch
  | .float x =>
    match x.toInt? with
    | some n => if wordBound ≤ n.natAbs then .error .notSwitch else switchOfInt n
    | none => .error .notSwitch
  | _ => .error .notSwitch

def text : Value → Except Issue Text
  | .str s => .ok (Str.toText s)
  | _ => .error .notText

/-- A field that keeps its default when it is not given. -/
def optional {α : Type} (read : Value → Except Issue α) (default : α)
    (fields : List (Str × Value)) (name : Text) : Except FieldIssue α :=
  match Value.field? fields name with
  | none => .ok default
  | some v => (read v).mapError fun e => (name, e)

def required {α : Type} (read : Value → Except Issue α) (fields : List (Str × Value))
    (name : Text) : Except FieldIssue α :=
  match Value.field? fields name with
  | none => .error (name, .missing)
  | some v => (read v).mapError fun e => (name, e)

/-- The refusal of a field, if it was refused. -/
def issue {α : Type} : Except FieldIssue α → List FieldIssue
  | .ok _ => []
  | .error e => [e]

end LinkCleaner.Lenient
