import LinkCleaner.Decimal.Binary64
import LinkCleaner.Yaml.Cursor

/-!
What a plain scalar means by its form: nothing, a switch, a whole number, a number, a moment in
time, or else its own text.
-/

namespace LinkCleaner.Yaml

open Decimal (Binary64)

/-- A word in small letters, with a capital first letter, and in capitals. -/
def spellings (w : String) : List Text :=
  let s := w.toList
  [s, (s.take 1).map Char.toUpper ++ s.drop 1, s.map Char.toUpper]

def nullWords : List Text := [] :: ['~'] :: spellings "null"

def trueWords : List Text := ["yes", "true", "on"].flatMap spellings

def falseWords : List Text := ["no", "false", "off"].flatMap spellings

/-- The switch that a word sets. -/
def switchOf? (s : Text) : Option Bool :=
  if trueWords.contains s then some true else if falseWords.contains s then some false else none

/-- The sign in front of a number, and the rest. -/
def signed (s : Text) : Bool × Text :=
  match s with
  | '-' :: r => (true, r)
  | '+' :: r => (false, r)
  | _ => (false, s)

def unspaced (s : Text) : Text := s.filter (· != '_')

def isDigitOrGap (c : Char) : Bool := Text.isAsciiDigit c || c == '_'

/-- Starts with a digit and goes on with digits and underscores. -/
def isDigits (s : Text) : Bool := s.head?.any Text.isAsciiDigit && s.all isDigitOrGap

/-- A number below sixty in one or two digits. -/
def isSixtieth (s : Text) : Bool :=
  match s with
  | [a] => Text.isAsciiDigit a
  | [a, b] => '0' ≤ a && a ≤ '5' && Text.isAsciiDigit b
  | _ => false

/-- The number that digits of a base write, if there are any. -/
def digitsIn (base : Nat) (s : Text) : Except Fault Nat :=
  match (unspaced s).mapM Text.hexValue? with
  | some (d :: ds) => .ok ((d :: ds).foldl (fun n d => base * n + d) 0)
  | _ => .error .badValue

/-- Whole numbers of more digits are refused. -/
def digitLimit : Nat := 4300

def decimalDigits (s : Text) : Except Fault Nat :=
  if digitLimit < (unspaced s).length then .error .badValue else digitsIn 10 s

/-- Numbers to the base sixty, the greatest first. -/
def sixties (parts : List Text) : Nat :=
  parts.foldl (fun n p => 60 * n + Text.digitsValue (unspaced p)) 0

/-- A whole number without its sign, if the text has the form of one. -/
def wholeForm? (s : Text) : Option (Except Fault Nat) :=
  match s with
  | ['0'] => some (.ok 0)
  | '0' :: 'b' :: r =>
    if !r.isEmpty && r.all (fun c => c == '0' || c == '1' || c == '_') then some (digitsIn 2 r)
    else none
  | '0' :: 'x' :: r =>
    if !r.isEmpty && r.all (fun c => Text.isHex c || c == '_') then some (digitsIn 16 r) else none
  | '0' :: r =>
    if r.all fun c => ('0' ≤ c && c ≤ '7') || c == '_' then some (digitsIn 8 ('0' :: r)) else none
  | _ =>
    match Text.pieces ':' s with
    | [p] => if isDigits p then some (decimalDigits p) else none
    | p :: ps => if isDigits p && ps.all isSixtieth then some (.ok (sixties (p :: ps))) else none
    | [] => none

def wholeOf? (s : Text) : Option (Except Fault Int) :=
  let (negative, r) := signed s
  (wholeForm? r).map fun n => n.map fun n => if negative then -(n : Int) else n

/-- The places of an exponent: a letter, a sign and digits, or nothing at all. -/
def exponentOf? (s : Text) : Option Int :=
  match s with
  | [] => some 0
  | c :: sign :: ds =>
    if (c == 'e' || c == 'E') && (sign == '-' || sign == '+') && !ds.isEmpty
        && ds.all Text.isAsciiDigit then
      let n : Int := Text.digitsValue ds
      some (if sign = '-' then -n else n)
    else none
  | _ => none

/-- Digits around a point, with a power of ten. -/
def decimalOf (negative : Bool) (before after : Text) (exponent : Int) : Binary64 :=
  let fraction := unspaced after
  .ofDecimal negative (Text.digitsValue (unspaced before ++ fraction))
    (exponent - fraction.length)

/-- A number with a point, without its sign. -/
def pointForm? (negative isSigned : Bool) (s : Text) : Option Binary64 :=
  if (spellings "inf").any fun w => s == '.' :: w then some (.infinite negative)
  else if !isSigned && ["nan", "NaN", "NAN"].any fun w => s == '.' :: w.toList then some .nan
  else
    match Text.cut '.' s with
    | (_, none) => none
    | (before, some r) =>
      let after := r.takeWhile isDigitOrGap
      match exponentOf? (r.drop after.length) with
      | none => none
      | some e =>
        if before.isEmpty then
          if !isSigned && isDigits after then some (decimalOf negative [] after e) else none
        else if isDigits before then some (decimalOf negative before after e)
        else
          match Text.pieces ':' before with
          | p :: ps =>
            if isDigits p && ps.all isSixtieth && r.length == after.length then
              let whole := Nat.toDigits 10 (sixties (p :: ps))
              some (decimalOf negative whole after 0)
            else none
          | [] => none

def numberOf? (s : Text) : Option Binary64 :=
  let (negative, r) := signed s
  pointForm? negative (r.length < s.length) r

/-- One or two digits, or exactly two, and what follows. -/
def digitPair (exact : Bool) (s : Text) : Option (Nat × Text) :=
  match s with
  | a :: b :: r =>
    if !Text.isAsciiDigit a then none
    else if Text.isAsciiDigit b then some (Text.digitsValue [a, b], r)
    else if exact then none
    else some (Text.digitsValue [a], b :: r)
  | [a] => if !exact && Text.isAsciiDigit a then some (Text.digitsValue [a], []) else none
  | [] => none

def after? (c : Char) (s : Text) : Option Text :=
  match s with
  | x :: r => if x = c then some r else none
  | [] => none

def skipBlanks (s : Text) : Text := s.dropWhile fun c => c == ' ' || c == '\t'

/-- The hours and minutes that a clock is ahead or behind, or nothing. -/
def zone? (s : Text) : Option (Nat × Nat) :=
  match skipBlanks s with
  | [] => if s.isEmpty then some (0, 0) else none
  | ['Z'] => some (0, 0)
  | c :: r =>
    if c == '-' || c == '+' then
      match digitPair false r with
      | some (h, []) => some (h, 0)
      | some (h, ':' :: t) =>
        match digitPair true t with
        | some (m, []) => some (h, m)
        | _ => none
      | _ => none
    else none

def isLeap (year : Nat) : Bool := year % 4 == 0 && (year % 100 != 0 || year % 400 == 0)

def monthLength (year month : Nat) : Nat :=
  if month = 2 then (if isLeap year then 29 else 28)
  else if [4, 6, 9, 11].contains month then 30
  else 31

def isDate (year month day : Nat) : Bool :=
  0 < year && 0 < month && month ≤ 12 && 0 < day && day ≤ monthLength year month

/-- The time of day in a text: whether it is one, if the text has the form of one. -/
def timeForm? (s : Text) : Option Bool := do
  let r ←
    match s with
    | 'T' :: r => some r
    | 't' :: r => some r
    | c :: r => if c == ' ' || c == '\t' then some (skipBlanks r) else none
    | [] => none
  let (h, r) ← digitPair false r
  let (m, r) ← digitPair true (← after? ':' r)
  let (sec, r) ← digitPair true (← after? ':' r)
  let r := match r with
    | '.' :: t => t.dropWhile Text.isAsciiDigit
    | t => t
  let (zh, zm) ← zone? r
  return h < 24 && m < 60 && sec < 60 && 60 * zh + zm < 60 * 24

/-- A date, with a time or without: whether it is one, if the text has the form of one. -/
def momentForm? (s : Text) : Option Bool := do
  let year := s.take 4
  if year.length < 4 || !year.all Text.isAsciiDigit then none
  else
    let (month, r) ← digitPair false (← after? '-' (s.drop 4))
    let (day, r) ← digitPair false (← after? '-' r)
    let valid := isDate (Text.digitsValue year) month day
    if r.isEmpty then if s.length = 10 then some valid else none
    else return valid && (← timeForm? r)

end LinkCleaner.Yaml
