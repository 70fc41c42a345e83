import LinkCleaner.Decimal.Binary64

/-!
The shortest decimal that reads back as a double, and of those the nearest to it.
-/

namespace LinkCleaner.Decimal

/-- A positive double and the interval that rounds to it, in one unit: `value`, `low` and `high`
are numerators over `den`. -/
structure Neighbourhood where
  value : Nat
  low : Nat
  high : Nat
  den : Nat
  closed : Bool

/-- The interval reaches halfway to both neighbours; below a power of two the neighbour is
nearer. -/
def Neighbourhood.of (m : Nat) (e : Int) : Neighbourhood :=
  let low := if m = twos 52 ∧ e ≠ Binary64.leastExponent then 4 * m - 1 else 4 * m - 2
  let up := twos (e - 2).toNat
  ⟨4 * m * up, low * up, (4 * m + 2) * up, twos (2 - e).toNat, m % 2 = 0⟩

/-- The digits `digits` with the point `point` places from their left end. -/
structure Digits where
  digits : Nat
  point : Int
  deriving DecidableEq, Repr

/-- The place of the point in `num / den`: the least `p` with `num / den < 10 ^ p`. -/
def pointOf (num den : Nat) : Int :=
  if den ≤ num then (Nat.toDigits 10 (num / den)).length
  else below 400 num 0
where
  below : Nat → Nat → Int → Int
    | 0, _, p => p
    | fuel + 1, n, p => if den ≤ n * 10 then p else below fuel (n * 10) (p - 1)

/-- The decimals of `n` digits around the value that lie in its interval, the nearer one first. -/
def candidate? (v : Neighbourhood) (point : Int) (n : Nat) : Option Nat :=
  let up := tens (n - point).toNat
  let unit := v.den * tens (point - n).toNat
  let floor := v.value * up / unit
  let inside (c : Nat) : Bool :=
    if v.closed then v.low * up ≤ c * unit && c * unit ≤ v.high * up
    else v.low * up < c * unit && c * unit < v.high * up
  let below := v.value * up - floor * unit
  let above := (floor + 1) * unit - v.value * up
  let preferFloor := below < above || (below == above && floor % 2 == 0)
  match inside floor, inside (floor + 1) with
  | true, true => some (if preferFloor then floor else floor + 1)
  | true, false => some floor
  | false, true => some (floor + 1)
  | false, false => none

def shortestFrom (v : Neighbourhood) (point : Int) : Nat → Nat → Digits
  | 0, n => ⟨v.value * tens (n - point).toNat / (v.den * tens (point - n).toNat), point⟩
  | fuel + 1, n =>
    match candidate? v point n with
    | some c => if c = tens n then ⟨1, point + 1⟩ else ⟨c, point⟩
    | none => shortestFrom v point fuel (n + 1)

/-- The fewest digits that read back as `m * 2 ^ e`, which is positive. -/
def shortest (m : Nat) (e : Int) : Digits :=
  let v := Neighbourhood.of m e
  shortestFrom v (pointOf v.value v.den) 17 1

/-- How numbers are written: positionally where the point stands near the digits, else with an
exponent of two digits or more; a whole number keeps `.0`. -/
def digitsText (d : Digits) : Text :=
  let ds := Nat.toDigits 10 d.digits
  let n : Int := ds.length
  if -4 < d.point ∧ d.point ≤ 16 then
    if d.point ≤ 0 then '0' :: '.' :: (List.replicate (-d.point).toNat '0' ++ ds)
    else if n ≤ d.point then ds ++ List.replicate (d.point - n).toNat '0' ++ ['.', '0']
    else ds.take d.point.toNat ++ '.' :: ds.drop d.point.toNat
  else
    let e := d.point - 1
    let es := Nat.toDigits 10 e.natAbs
    let mantissa :=
      match ds with
      | [] => []
      | [c] => [c]
      | c :: r => c :: '.' :: r
    let pad := if es.length < 2 then ['0'] else []
    mantissa ++ 'e' :: (if e < 0 then '-' else '+') :: (pad ++ es)

/-- The text of a finite double; `none` for the others, which each format spells its own way. -/
def finiteText? : Binary64 → Option Text
  | .finite negative m e =>
    let text := if m = 0 then ['0', '.', '0'] else digitsText (shortest m e)
    some (if negative then '-' :: text else text)
  | _ => none

end LinkCleaner.Decimal
