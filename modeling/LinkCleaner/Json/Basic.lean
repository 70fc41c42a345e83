import LinkCleaner.Decimal.Binary64

/-!
JSON values. Fields keep the order in which they first came, and whole numbers are told apart from
those with a fraction or an exponent.
-/

namespace LinkCleaner.Json

/-- A unit of a string: a character, or half of a surrogate pair that stands alone. -/
inductive StrUnit where
  | char (c : Char)
  | half (code : Nat)
  deriving DecidableEq, Repr

abbrev Str := List StrUnit

def Str.ofText (s : Text) : Str := s.map .char

/-- A lone half is shown as its escape. -/
def StrUnit.toText : StrUnit → Text
  | .char c => [c]
  | .half code => '\\' :: 'u' :: Text.hexPadded 4 code

def Str.toText (s : Str) : Text := s.flatMap StrUnit.toText

/-- No half stands alone, so the string is a text. -/
def Str.isText (s : Str) : Bool :=
  s.all fun
    | .char _ => true
    | .half _ => false

@[simp] theorem Str.toText_ofText (s : Text) : Str.toText (Str.ofText s) = s := by
  induction s with
  | nil => rfl
  | cons c r ih => simpa [Str.toText, Str.ofText, StrUnit.toText] using ih

@[simp] theorem Str.isText_ofText (s : Text) : Str.isText (Str.ofText s) = true := by
  simp [Str.isText, Str.ofText]

inductive Value where
  | null
  | bool (b : Bool)
  | int (n : Int)
  | float (x : Decimal.Binary64)
  | str (s : Str)
  | arr (xs : List Value)
  | obj (fields : List (Str × Value))

namespace Value

def text (s : Text) : Value := .str (Str.ofText s)

/-- An object with plain names. -/
def ofFields (fields : List (Text × Value)) : Value :=
  .obj (fields.map fun f => (Str.ofText f.1, f.2))

/-- The value under a name. -/
def field? (fields : List (Str × Value)) (name : Text) : Option Value :=
  fields.lookup (Str.ofText name)

def get? : Value → Text → Option Value
  | .obj fields, name => field? fields name
  | _, _ => none

/-- Puts a value under a name: in place if the name is there, else at the end. -/
def putField (key : Str) (v : Value) : List (Str × Value) → List (Str × Value)
  | [] => [(key, v)]
  | (k, w) :: r => if k = key then (k, v) :: r else (k, w) :: putField key v r

/-- Fields as they come, of which the last under a name wins and stands where the first stood. -/
def collect (fields : List (Str × Value)) : List (Str × Value) :=
  fields.foldl (fun acc f => putField f.1 f.2 acc) []

/-- Empty and zero values count as false. -/
def truthy : Value → Bool
  | .null => false
  | .bool b => b
  | .int n => n != 0
  | .float x => !x.isZero
  | .str s => !s.isEmpty
  | .arr xs => !xs.isEmpty
  | .obj fs => !fs.isEmpty

mutual

/-- No string in the value, and no name, holds half a surrogate pair. -/
def isText : Value → Bool
  | .str s => Str.isText s
  | .arr xs => areText xs
  | .obj fs => fieldsAreText fs
  | _ => true

def areText : List Value → Bool
  | [] => true
  | v :: r => isText v && areText r

def fieldsAreText : List (Str × Value) → Bool
  | [] => true
  | (k, v) :: r => Str.isText k && isText v && fieldsAreText r

end

end Value

end LinkCleaner.Json
