import LinkCleaner.Json.Basic

/-!
Reading JSON. A fault remembers what was left to read, from which its place is found; the names
for the three numbers that JSON lacks are accepted.
-/

namespace LinkCleaner.Json

inductive Problem where
  | expectingValue
  | expectingName
  | expectingColon
  | expectingComma
  | extraData
  | unterminatedString
  | controlCharacter
  | badEscape
  | badUnicodeEscape
  | byteOrderMark
  deriving DecidableEq, Repr

def Problem.message : Problem → Text
  | .expectingValue => "Expecting value".toList
  | .expectingName => "Expecting property name enclosed in double quotes".toList
  | .expectingColon => "Expecting ':' delimiter".toList
  | .expectingComma => "Expecting ',' delimiter".toList
  | .extraData => "Extra data".toList
  | .unterminatedString => "Unterminated string starting at".toList
  | .controlCharacter => "Invalid control character at".toList
  | .badEscape => "Invalid \\escape".toList
  | .badUnicodeEscape => "Invalid \\uXXXX escape".toList
  | .byteOrderMark => "Unexpected UTF-8 BOM (decode using utf-8-sig)".toList

/-- Why reading stopped: a problem and the text from there on, or a number of too many digits. -/
inductive Fault where
  | at (problem : Problem) (rest : Text)
  | tooManyDigits (count : Nat)
  deriving DecidableEq, Repr

/-- Whole numbers of more digits are refused. -/
def digitLimit : Nat := 4300

/-- The refusal of a number that is written with too many digits. -/
def tooManyDigitsMessage (count : Nat) : Text :=
  "Exceeds the limit (4300 digits) for integer string conversion: value has ".toList
    ++ Text.ofNat count
    ++ " digits; use sys.set_int_max_str_digits() to increase the limit".toList

def isSpace (c : Char) : Bool := c == ' ' || c == '\t' || c == '\n' || c == '\r'

def skipSpace (s : Text) : Text := s.dropWhile isSpace

/-- The character that a one-letter escape stands for. -/
def escaped? : Char → Option Char
  | '\x22' => some '\x22'
  | '\\' => some '\\'
  | '/' => some '/'
  | 'b' => some '\x08'
  | 'f' => some '\x0C'
  | 'n' => some '\n'
  | 'r' => some '\r'
  | 't' => some '\t'
  | _ => none

/-- The number that four hexadecimal digits write. -/
def hex4? (a b c d : Char) : Option Nat := do
  let a ← Text.hexValue? a
  let b ← Text.hexValue? b
  let c ← Text.hexValue? c
  let d ← Text.hexValue? d
  return ((a * 16 + b) * 16 + c) * 16 + d

def unitOf (code : Nat) : StrUnit :=
  if 0xD800 ≤ code ∧ code ≤ 0xDFFF then .half code else .char (Char.ofNat code)

/-- A high half in front of a low half makes one character with it. -/
def joinHalf (u : StrUnit) (r : Str) : Str :=
  match u, r with
  | .half a, .half b :: t =>
    if a < 0xDC00 ∧ 0xDC00 ≤ b then
      .char (Char.ofNat (0x10000 + (a - 0xD800) * 0x400 + (b - 0xDC00))) :: t
    else u :: r
  | _, _ => u :: r

/-- The rest of a string, after its opening quote, and what follows it. -/
def readUnits (opening : Text) : Text → Except Fault (Str × Text)
  | [] => .error (.at .unterminatedString opening)
  | '\\' :: 'u' :: a :: b :: c :: d :: r =>
    if r.isEmpty then .error (.at .badUnicodeEscape ('u' :: a :: b :: c :: d :: r))
    else
      match hex4? a b c d with
      | none => .error (.at .badUnicodeEscape ('u' :: a :: b :: c :: d :: r))
      | some code => do
        let (us, rest) ← readUnits opening r
        return (joinHalf (unitOf code) us, rest)
  | '\\' :: c :: r =>
    if c = 'u' then .error (.at .badUnicodeEscape (c :: r))
    else
      match escaped? c with
      | none => .error (.at .badEscape ('\\' :: c :: r))
      | some e => do
        let (us, rest) ← readUnits opening r
        return (.char e :: us, rest)
  | c :: r =>
    if c = '\x22' then .ok ([], r)
    else if c = '\\' then .error (.at .unterminatedString opening)
    else if c.toNat < 0x20 then .error (.at .controlCharacter (c :: r))
    else do
      let (us, rest) ← readUnits opening r
      return (.char c :: us, rest)

/-- The digits of a whole number: a lone zero, or a run that starts with another digit. -/
def wholeDigits : Text → Option (Text × Text)
  | '0' :: r => some (['0'], r)
  | s =>
    let ds := s.takeWhile Text.isAsciiDigit
    if ds.isEmpty then none else some (ds, s.drop ds.length)

/-- A point and the digits after it, if digits do follow. -/
def fractionDigits : Text → Text × Text
  | '.' :: r => (r.takeWhile Text.isAsciiDigit, r.dropWhile Text.isAsciiDigit)
  | s => ([], s)

/-- The sign and the digits of an exponent, if there is one. -/
def exponentDigits : Text → Option (Bool × Text × Text)
  | c :: r =>
    if c = 'e' ∨ c = 'E' then
      let (negative, t) :=
        match r with
        | '-' :: t => (true, t)
        | '+' :: t => (false, t)
        | _ => (false, r)
      let ds := t.takeWhile Text.isAsciiDigit
      if ds.isEmpty then none else some (negative, ds, t.drop ds.length)
    else none
  | [] => none

/-- A number without its sign. -/
def readMagnitude (negative : Bool) (s : Text) : Except Fault (Option (Value × Text)) :=
  match wholeDigits s with
  | none => .ok none
  | some (whole, r) =>
    let (fraction, t) :=
      match fractionDigits r with
      | ([], _) => ([], r)
      | found => found
    match exponentDigits t with
    | some (down, es, u) =>
      let e : Int := if down then -(Text.digitsValue es : Int) else Text.digitsValue es
      .ok (some (.float (.ofDecimal negative (Text.digitsValue (whole ++ fraction))
        (e - fraction.length)), u))
    | none =>
      if fraction.isEmpty then
        if digitLimit < whole.length then .error (.tooManyDigits whole.length)
        else
          let n : Int := Text.digitsValue whole
          .ok (some (.int (if negative then -n else n), r))
      else
        .ok (some (.float (.ofDecimal negative (Text.digitsValue (whole ++ fraction))
          (-(fraction.length : Int))), t))

/-- What starts a value by its spelling. -/
def keywords : List (Text × Value) :=
  [("null".toList, .null), ("true".toList, .bool true), ("false".toList, .bool false),
    ("NaN".toList, .float .nan), ("Infinity".toList, .float (.infinite false)),
    ("-Infinity".toList, .float (.infinite true))]

/-- A value that is neither a string nor a container. -/
def readScalar (s : Text) : Except Fault (Value × Text) :=
  match keywords.find? fun k => k.1.isPrefixOf s with
  | some (k, v) => .ok (v, s.drop k.length)
  | none => do
    let found ←
      match s with
      | '-' :: r => readMagnitude true r
      | _ => readMagnitude false s
    match found with
    | some r => .ok r
    | none => .error (.at .expectingValue s)

mutual

def readValue : Nat → Text → Except Fault (Value × Text)
  | 0, s => .error (.at .expectingValue s)
  | fuel + 1, s =>
    match s with
    | '\x22' :: r => do
      let (us, t) ← readUnits s r
      return (.str us, t)
    | '[' :: r =>
      match skipSpace r with
      | ']' :: t => .ok (.arr [], t)
      | t => do
        let (vs, u) ← readElements fuel t
        return (.arr vs, u)
    | '\x7b' :: r =>
      match skipSpace r with
      | '\x7d' :: t => .ok (.obj [], t)
      | t => do
        let (fs, u) ← readMembers fuel t
        return (.obj (Value.collect fs), u)
    | _ => readScalar s

/-- The elements of an array, from the first on, and its closing bracket. -/
def readElements : Nat → Text → Except Fault (List Value × Text)
  | 0, s => .error (.at .expectingValue s)
  | fuel + 1, s => do
    let (v, t) ← readValue fuel s
    match skipSpace t with
    | ']' :: u => return ([v], u)
    | ',' :: u =>
      let (vs, w) ← readElements fuel (skipSpace u)
      return (v :: vs, w)
    | u => .error (.at .expectingComma u)

/-- The members of an object, from the first on, and its closing brace. -/
def readMembers : Nat → Text → Except Fault (List (Str × Value) × Text)
  | 0, s => .error (.at .expectingName s)
  | fuel + 1, s =>
    match s with
    | '\x22' :: r => do
      let (k, t) ← readUnits s r
      match skipSpace t with
      | ':' :: u =>
        let (v, w) ← readValue fuel (skipSpace u)
        match skipSpace w with
        | '\x7d' :: x => return ([(k, v)], x)
        | ',' :: x =>
          let (fs, y) ← readMembers fuel (skipSpace x)
          return ((k, v) :: fs, y)
        | x => .error (.at .expectingComma x)
      | u => .error (.at .expectingColon u)
    | _ => .error (.at .expectingName s)

end

/-- A document is one value, with space around it. -/
def readDocument (s : Text) : Except Fault Value :=
  match s with
  | '\uFEFF' :: _ => .error (.at .byteOrderMark s)
  | _ => do
    let (v, r) ← readValue (2 * s.length + 2) (skipSpace s)
    match skipSpace r with
    | [] => return v
    | t => .error (.at .extraData t)

/-- What was wrong, with its line, its column and its place in the whole document. -/
def Fault.message (whole : Text) : Fault → Text
  | .tooManyDigits count => tooManyDigitsMessage count
  | .at problem rest =>
    let place := whole.length - rest.length
    let before := whole.take place
    problem.message ++ ": line ".toList ++ Text.ofNat (before.count '\n' + 1)
      ++ " column ".toList ++ Text.ofNat ((before.reverse.takeWhile (· != '\n')).length + 1)
      ++ " (char ".toList ++ Text.ofNat place ++ [')']

end LinkCleaner.Json
