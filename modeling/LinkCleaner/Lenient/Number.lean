import LinkCleaner.Lenient

/-!
Lenient reading of numbers. A text may have space around it and single underscores between its
digits; a whole number may come with zeros in front and with a fraction of zeros.
-/

namespace LinkCleaner.Lenient

open Json (Value Str)
open Decimal (Binary64)

/-- Space around a number; the four separator controls are no space here. -/
def isMargin (c : Char) : Bool := Text.isBlank c && !(0x1C ≤ c.toNat && c.toNat ≤ 0x1F)

def trimMargin (s : Text) : Text :=
  ((s.dropWhile isMargin).reverse.dropWhile isMargin).reverse

/-- The text without its underscores, if it has some and each stands alone inside. -/
def joined? (s : Text) : Option Text :=
  let ps := Text.pieces '_' s
  if 1 < ps.length && ps.all (fun p => !p.isEmpty) then some ps.flatten else none

/-- Drops the zeros in front of a number that starts with a digit or a minus sign. -/
def significant? (s : Text) : Option Text :=
  match s with
  | '0' :: r =>
    match r.dropWhile (· == '0') with
    | [] => some ['0']
    | '.' :: t => some ('0' :: '.' :: t)
    | c :: t => if Text.isAsciiDigit c then some (c :: t) else none
  | c :: r => if Text.isAsciiDigit c || c == '-' then some (c :: r) else none
  | [] => none

/-- Drops a fraction that is all zeros. -/
def withoutZeroFraction (s : Text) : Text :=
  match Text.cut '.' s with
  | (whole, some fraction) => if fraction.all (· == '0') then whole else s
  | (_, none) => s

/-- Whole numbers of more digits are refused. -/
def digitLimit : Nat := 4300

/-- A whole number in digits, without needless zeros. -/
def plainWhole (s : Text) : Except Issue Int :=
  let (negative, ds) :=
    match s with
    | '-' :: r => (true, r)
    | _ => (false, s)
  if ds.isEmpty || !ds.all Text.isAsciiDigit then .error .badWhole
  else if ds.head? = some '0' && 1 < ds.length then .error .badWhole
  else if digitLimit < ds.length then .error .longWhole
  else
    let n : Int := Text.digitsValue ds
    .ok (if negative then -n else n)

def wholeOfText (s : Text) : Except Issue Int :=
  let t := trimMargin s
  let t :=
    match t with
    | '+' :: '-' :: _ => []
    | '+' :: r => r
    | _ => t
  match significant? t with
  | none => .error .badWhole
  | some t =>
    let t := withoutZeroFraction t
    plainWhole ((joined? t).getD t)

/-- A whole number, also as a switch, as a number without a fraction, or in digits. -/
def whole : Value → Except Issue Int
  | .int n => .ok n
  | .bool b => .ok (if b then 1 else 0)
  | .float x =>
    if x.isFinite then
      match x.toInt? with
      | none => .error .fractional
      | some n => if wordBound ≤ n.natAbs then .error .longWhole else .ok n
    else .error .notFinite
  | .str s => wholeOfText (Str.toText s)
  | _ => .error .notWhole

/-- A whole number that is not negative. -/
def count (v : Value) : Except Issue Nat :=
  match whole v with
  | .ok n => if n < 0 then .error .belowLeast else .ok n.toNat
  | .error e => .error e

/-- The digits of an exponent with its sign, if that is all there is. -/
def exponentOf? (s : Text) : Option Int :=
  let (negative, ds) :=
    match s with
    | '-' :: r => (true, r)
    | '+' :: r => (false, r)
    | _ => (false, s)
  if ds.isEmpty || !ds.all Text.isAsciiDigit then none
  else
    let n : Int := Text.digitsValue ds
    some (if negative then -n else n)

/-- A number without its sign: a word, or digits with a point and an exponent. -/
def magnitude? (negative : Bool) (s : Text) : Option Binary64 :=
  let w := Text.asciiLower s
  if w = "inf".toList || w = "infinity".toList then some (.infinite negative)
  else if w = "nan".toList then some .nan
  else
    let (mantissa, exponent) := Text.cut 'e' w
    let (before, after) := Text.cut '.' mantissa
    let fraction := after.getD []
    let ds := before ++ fraction
    if ds.isEmpty || !ds.all Text.isAsciiDigit then none
    else
      match exponent with
      | none => some (.ofDecimal negative (Text.digitsValue ds) (-(fraction.length : Int)))
      | some e =>
        (exponentOf? e).map fun e =>
          .ofDecimal negative (Text.digitsValue ds) (e - fraction.length)

def plainNumber? (s : Text) : Option Binary64 :=
  match s with
  | '-' :: r => magnitude? true r
  | '+' :: r => magnitude? false r
  | _ => magnitude? false s

/-- A number in digits or words. -/
def numberOfText (s : Text) : Except Issue Binary64 :=
  match plainNumber? (trimMargin s), (joined? s).bind plainNumber? with
  | some x, _ => .ok x
  | none, some x => .ok x
  | none, none => .error .badNumber

end LinkCleaner.Lenient
