import LinkCleaner.Text.Basic

/-!
Numbers of double precision, as exact values. A decimal is read to the nearest of them, and a half
goes to the even neighbour.
-/

namespace LinkCleaner.Decimal

/-- A power of two. -/
def twos (k : Nat) : Nat := Nat.pow 2 k

/-- A power of ten. -/
def tens (k : Nat) : Nat := Nat.pow 10 k

/-- A double. A finite one is `mantissa * 2 ^ exponent`, with 53 bits of mantissa unless the
exponent is the least one. -/
inductive Binary64 where
  | finite (negative : Bool) (mantissa : Nat) (exponent : Int)
  | infinite (negative : Bool)
  | nan
  deriving DecidableEq, Repr

namespace Binary64

def leastExponent : Int := -1074

def greatestExponent : Int := 971

/-- The quotient rounded to the nearest whole number, a half to the even one. -/
def divEven (num den : Nat) : Nat :=
  let q := num / den
  let twice := 2 * (num % den)
  if twice < den then q else if den < twice then q + 1 else if q % 2 = 0 then q else q + 1

/-- `num / den * 2 ^ k` as a quotient of whole numbers. -/
def scaled (num den : Nat) (k : Int) : Nat × Nat :=
  if 0 ≤ k then (num * twos k.toNat, den) else (num, den * twos (-k).toNat)

/-- The greatest `k` with `2 ^ k ≤ num / den`. -/
def log2Ratio (num den : Nat) : Int :=
  let k : Int := num.log2 - den.log2
  let (a, b) := scaled num den (-k)
  if b ≤ a then k else k - 1

/-- The double nearest to a quotient of whole numbers. -/
def ofRatio (negative : Bool) (num den : Nat) : Binary64 :=
  if num = 0 then .finite negative 0 leastExponent
  else
    let e := max (log2Ratio num den - 52) leastExponent
    let (a, b) := scaled num den (-e)
    let m := divEven a b
    let (m, e) := if m = twos 53 then (twos 52, e + 1) else (m, e)
    if greatestExponent < e then .infinite negative else .finite negative m e

/-- The double nearest to `digits * 10 ^ exponent`. Beyond three hundred and some places the answer
does not depend on the digits. -/
def ofDecimal (negative : Bool) (digits : Nat) (exponent : Int) : Binary64 :=
  let places : Int := (Nat.toDigits 10 digits).length + exponent
  if digits = 0 ∨ places < -330 then .finite negative 0 leastExponent
  else if 400 < places then .infinite negative
  else if 0 ≤ exponent then ofRatio negative (digits * tens exponent.toNat) 1
  else ofRatio negative digits (tens (-exponent).toNat)

/-- The whole number that a finite double is, if it is one. -/
def toInt? : Binary64 → Option Int
  | .finite negative m e =>
    let sign : Int := if negative then -1 else 1
    if 0 ≤ e then some (sign * (m * twos e.toNat : Nat))
    else if m % twos (-e).toNat = 0 then some (sign * (m / twos (-e).toNat : Nat))
    else none
  | _ => none

def isFinite : Binary64 → Bool
  | .finite .. => true
  | _ => false

def isZero : Binary64 → Bool
  | .finite _ m _ => m == 0
  | _ => false

end Binary64

end LinkCleaner.Decimal
