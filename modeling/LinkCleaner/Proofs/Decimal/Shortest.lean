import Mathlib.Data.Nat.Cast.Order.Field
import LinkCleaner.Decimal.Shortest
import LinkCleaner.Proofs.Decimal.Rounding

/-!
The shortest decimal of a double lies in the interval of the double, so that it is read as the
double again.
-/

namespace LinkCleaner.Decimal

open Binary64

variable {m n fuel num den c : Nat} {e point : Int} {v : Neighbourhood} {x : ℚ}

/-! ### Powers of ten on both sides of a quotient -/

lemma tens_pos (k : Nat) : (0 : ℚ) < tens k := by
  rw [tens_eq]
  positivity

lemma tens_quotient (k : Int) : (tens k.toNat / tens (-k).toNat : ℚ) = 10 ^ k := by
  simp only [tens_eq]
  push_cast
  rw [← zpow_natCast, ← zpow_natCast, ← zpow_sub₀ (by norm_num)]
  congr 1
  omega

lemma ten_split {k l : Int} (h : k = n + l) : (10 : ℚ) ^ k = 10 ^ n * 10 ^ l := by
  rw [h, zpow_add₀ (by norm_num), zpow_natCast]

/-! ### The place of the point -/

lemma below_spec (p : Int) (hn : num < den) (hf : den ≤ num * 10 ^ fuel) :
    (10 : ℚ) ^ (pointOf.below den fuel num p - p - 1) ≤ num / den ∧
      (num / den : ℚ) < 10 ^ (pointOf.below den fuel num p - p) := by
  have hden : (0 : ℚ) < den := by exact_mod_cast (Nat.zero_le num).trans_lt hn
  induction fuel generalizing num p with
  | zero => omega
  | succ fuel ih =>
    unfold pointOf.below
    split_ifs with h
    · rw [sub_self, zero_sub, zpow_zero, div_lt_one hden, le_div_iff₀ hden]
      refine ⟨?_, by exact_mod_cast hn⟩
      qify at h
      norm_num
      linarith
    · have hf : den ≤ num * 10 * 10 ^ fuel := by rwa [Nat.mul_assoc, ← pow_succ']
      obtain ⟨h1, h2⟩ := ih (p - 1) (by omega) hf
      generalize pointOf.below den fuel (num * 10) (p - 1) = r at *
      rw [show r - (p - 1) - 1 = (r - p - 1) + 1 by ring, zpow_add_one₀ (by norm_num)] at h1
      rw [show r - (p - 1) = (r - p) + 1 by ring, zpow_add_one₀ (by norm_num)] at h2
      push_cast at h1 h2
      rw [mul_div_right_comm] at h1 h2
      exact ⟨by linarith, by linarith⟩

lemma pointOf_spec (hd : 0 < den) (hn : den ≤ num * 10 ^ 400) :
    (10 : ℚ) ^ (pointOf num den - 1) ≤ num / den ∧ (num / den : ℚ) < 10 ^ pointOf num den := by
  have hden : (0 : ℚ) < den := by exact_mod_cast hd
  unfold pointOf
  split_ifs with h
  · have hpos : 0 < num / den := Nat.div_pos h hd
    obtain ⟨h1, -⟩ := places_spec hpos 0
    have h2 : num < 10 ^ (Text.ofNat (num / den)).length * den :=
      (Nat.div_lt_iff_lt_mul hd).mp (Text.lt_pow_length _)
    rw [add_zero, zpow_zero, mul_one] at h1
    refine ⟨h1.trans Nat.cast_div_le, ?_⟩
    rw [div_lt_iff₀ hden, zpow_natCast]
    exact_mod_cast h2
  · simpa using below_spec 0 (not_le.mp h) hn

/-! ### The interval in whole numbers -/

/-- The number lies in the interval. -/
def Neighbourhood.Holds (v : Neighbourhood) (x : ℚ) : Prop :=
  if v.closed then (v.low : ℚ) ≤ x * v.den ∧ x * v.den ≤ v.high
  else (v.low : ℚ) < x * v.den ∧ x * v.den < v.high

lemma of_den_pos (m : Nat) (e : Int) : 0 < (Neighbourhood.of m e).den := Nat.pow_pos (by decide)

/-- The unit of the interval is a quarter of the last bit. -/
lemma of_unit (e : Int) : (twos (e - 2).toNat / twos (2 - e).toNat : ℚ) = 2 ^ e / 4 := by
  simp only [twos_eq]
  push_cast
  rw [← zpow_natCast, ← zpow_natCast, ← zpow_sub₀ two_ne_zero]
  have hsum : ((e - 2).toNat : ℤ) - (2 - e).toNat = e - 2 := by omega
  rw [hsum, zpow_sub₀ two_ne_zero]
  norm_num

lemma of_value (m : Nat) (e : Int) :
    ((Neighbourhood.of m e).value / (Neighbourhood.of m e).den : ℚ) = m * 2 ^ e := by
  simp only [Neighbourhood.of]
  push_cast
  rw [mul_div_assoc, of_unit]
  ring

lemma rounds_of_holds (hm : 0 < m) (h : (Neighbourhood.of m e).Holds x) : Rounds m e x := by
  have hden : (0 : ℚ) < (Neighbourhood.of m e).den := by exact_mod_cast of_den_pos m e
  have hquarters : (Neighbourhood.of m e).low = (4 * m - reach m e) * twos (e - 2).toNat := by
    simp only [Neighbourhood.of, reach]
    split_ifs <;> rfl
  have hlow : ((Neighbourhood.of m e).low / (Neighbourhood.of m e).den : ℚ) =
      (m - reach m e / 4) * 2 ^ e := by
    have hle : reach m e ≤ 4 * m := by
      have := reach_le m e
      norm_cast at this
      omega
    rw [hquarters, Nat.cast_mul, Nat.cast_sub hle, mul_div_assoc]
    push_cast
    exact (congrArg _ (of_unit e)).trans (by ring)
  have hhigh : ((Neighbourhood.of m e).high / (Neighbourhood.of m e).den : ℚ) =
      (m + 1 / 2) * 2 ^ e := by
    simp only [Neighbourhood.of]
    push_cast
    rw [mul_div_assoc, of_unit]
    ring
  have hclosed : (Neighbourhood.of m e).closed = decide (m % 2 = 0) := rfl
  unfold Neighbourhood.Holds at h
  rw [← div_le_iff₀ hden, ← le_div_iff₀ hden, ← div_lt_iff₀ hden, ← lt_div_iff₀ hden, hlow, hhigh,
    hclosed] at h
  by_cases hodd : m % 2 = 1
  · rw [if_neg (by simpa using hodd)] at h
    exact ⟨h.1.le, h.2.le, fun _ => h⟩
  · rw [if_pos (by simp; omega)] at h
    exact ⟨h.1, h.2, fun ho => absurd ho hodd⟩

/-! ### Candidates -/

/-- The decimals of some length below a value. -/
def floorAt (v : Neighbourhood) (point : Int) (n : Nat) : Nat :=
  v.value * tens (n - point).toNat / (v.den * tens (point - n).toNat)

lemma floorAt_spec (hd : 0 < v.den) (point : Int) (n : Nat) :
    (floorAt v point n * 10 ^ (point - n) : ℚ) ≤ v.value / v.den ∧
      (v.value / v.den : ℚ) < (floorAt v point n + 1) * 10 ^ (point - n) := by
  have hdq : (0 : ℚ) < v.den := by exact_mod_cast hd
  have hpow := tens_quotient (point - n)
  rw [neg_sub] at hpow
  have hup := tens_pos (n - point).toNat
  have hdown := tens_pos (point - n).toNat
  have hunit : 0 < v.den * tens (point - n).toNat := Nat.mul_pos hd (Nat.pow_pos (by decide))
  have h1 := Nat.div_mul_le_self (v.value * tens (n - point).toNat) (v.den * tens (point - n).toNat)
  have h2 := Nat.lt_mul_of_div_lt (Nat.lt_succ_self
    (v.value * tens (n - point).toNat / (v.den * tens (point - n).toNat))) hunit
  rw [← floorAt] at h1 h2
  rw [← hpow, mul_div_assoc', mul_div_assoc', div_le_div_iff₀ hup hdq, div_lt_div_iff₀ hdq hup]
  qify at h1 h2
  exact ⟨by linarith, by linarith⟩

/-- Whether a decimal of some length lies in the interval. -/
def inside (v : Neighbourhood) (point : Int) (n c : Nat) : Bool :=
  let up := tens (n - point).toNat
  let unit := v.den * tens (point - n).toNat
  if v.closed then v.low * up ≤ c * unit && c * unit ≤ v.high * up
  else v.low * up < c * unit && c * unit < v.high * up

lemma holds_of_inside (h : inside v point n c) : v.Holds (c * 10 ^ (point - n)) := by
  have hpow := tens_quotient (point - n)
  rw [neg_sub] at hpow
  have hup := tens_pos (n - point).toNat
  unfold inside at h
  unfold Neighbourhood.Holds
  rw [← hpow, mul_div_assoc', div_mul_eq_mul_div, le_div_iff₀ hup, div_le_iff₀ hup, lt_div_iff₀ hup,
    div_lt_iff₀ hup]
  split_ifs at h ⊢
  all_goals
    simp only [Bool.and_eq_true, decide_eq_true_eq] at h
    obtain ⟨h1, h2⟩ := h
    qify at h1 h2
    exact ⟨by linarith, by linarith⟩

lemma candidate_spec (h : candidate? v point n = some c) :
    (c = floorAt v point n ∨ c = floorAt v point n + 1) ∧ inside v point n c := by
  unfold candidate? at h
  dsimp only at h
  split at h
  · next h1 h2 =>
    cases h
    split_ifs
    · exact ⟨Or.inl rfl, h1⟩
    · exact ⟨Or.inr rfl, h2⟩
  · next h1 _ =>
    cases h
    exact ⟨Or.inl rfl, h1⟩
  · next _ h2 =>
    cases h
    exact ⟨Or.inr rfl, h2⟩
  · cases h

/-! ### The shortest -/

/-- What digits stand for: their number, with the point where it is said to be. -/
def Digits.value (d : Digits) : ℚ := d.digits * 10 ^ (d.point - (Text.ofNat d.digits).length)

/-- Digits that are read as the double. -/
def Digits.Tell (d : Digits) (m : Nat) (e : Int) : Prop := 0 < d.digits ∧ Rounds m e d.value

section Value

variable (hlow : (10 : ℚ) ^ (point - 1) ≤ m * 2 ^ e) (hhigh : (m * 2 ^ e : ℚ) < 10 ^ point)

include hlow hhigh in
lemma floorAt_bounds (n : Nat) : 10 ^ n ≤ floorAt (.of m e) point (n + 1) ∧
    floorAt (.of m e) point (n + 1) < 10 ^ (n + 1) := by
  obtain ⟨h1, h2⟩ := floorAt_spec (of_den_pos m e) point (n + 1)
  have hpow : (0 : ℚ) < 10 ^ (point - (n + 1 : ℕ)) := by positivity
  have hsplit : (10 : ℚ) ^ point = 10 ^ (n + 1) * 10 ^ (point - (n + 1 : ℕ)) :=
    ten_split (by omega)
  have hsplit' : (10 : ℚ) ^ (point - 1) = 10 ^ n * 10 ^ (point - (n + 1 : ℕ)) :=
    ten_split (by omega)
  rw [of_value] at h1 h2
  rw [hsplit'] at hlow
  rw [hsplit] at hhigh
  have h3 := lt_of_mul_lt_mul_right (hlow.trans_lt h2) hpow.le
  have h4 := lt_of_mul_lt_mul_right (h1.trans_lt hhigh) hpow.le
  constructor
  · have : 10 ^ n < floorAt (.of m e) point (n + 1) + 1 := by exact_mod_cast h3
    omega
  · exact_mod_cast h4

include hlow in
/-- Eighteen digits are always enough. -/
lemma rounds_floorAt (hc : Canonical m e) :
    Rounds m e (floorAt (.of m e) point 18 * 10 ^ (point - (18 : ℕ))) := by
  obtain ⟨h1, h2⟩ := floorAt_spec (of_den_pos m e) point 18
  have hsplit : (10 : ℚ) ^ (point - 1) = 10 ^ 17 * 10 ^ (point - (18 : ℕ)) :=
    ten_split (by omega)
  have hpow : (0 : ℚ) < 2 ^ e := by positivity
  have hreach : (1 : ℚ) ≤ reach m e := by
    unfold reach
    split_ifs <;> norm_num
  have hm53 : (m : ℚ) < 2 ^ 53 := by exact_mod_cast hc.lt
  rw [of_value] at h1 h2
  rw [hsplit] at hlow
  have htop : (m * 2 ^ e : ℚ) < 2 ^ 53 * 2 ^ e := by gcongr
  suffices h : (m - reach m e / 4 : ℚ) * 2 ^ e <
        floorAt (.of m e) point 18 * 10 ^ (point - (18 : ℕ)) ∧
      (floorAt (.of m e) point 18 * 10 ^ (point - (18 : ℕ)) : ℚ) < (m + 1 / 2) * 2 ^ e from
    ⟨h.1.le, h.2.le, fun _ => h⟩
  have hgap : (2 ^ e : ℚ) ≤ reach m e * 2 ^ e := le_mul_of_one_le_left hpow.le hreach
  generalize (10 : ℚ) ^ (point - (18 : ℕ)) = digit at *
  generalize (2 : ℚ) ^ e = bit at *
  -- the last digit is worth less than a quarter of the last bit
  have hlast : digit < bit / 4 := by linarith
  exact ⟨by linarith, by linarith⟩

lemma tell_of_length (hle : 10 ^ n ≤ c) (hlt : c < 10 ^ (n + 1))
    (h : Rounds m e (c * 10 ^ (point - (n + 1 : ℕ)))) : Digits.Tell ⟨c, point⟩ m e := by
  refine ⟨lt_of_lt_of_le (by positivity) hle, ?_⟩
  rwa [Digits.value, Text.length_ofNat_eq hle hlt]

include hlow hhigh in
lemma shortestFrom_tell (hc : Canonical m e) (hm : 0 < m) (hn : n + fuel = 17) :
    (shortestFrom (.of m e) point fuel (n + 1)).Tell m e := by
  induction fuel generalizing n with
  | zero =>
    obtain rfl : n = 17 := hn
    obtain ⟨h1, h2⟩ := floorAt_bounds hlow hhigh 17
    exact tell_of_length h1 h2 (rounds_floorAt hlow hc)
  | succ fuel ih =>
    unfold shortestFrom
    cases hcand : candidate? (.of m e) point (n + 1) with
    | none => exact ih (n := n + 1) (by omega)
    | some c =>
      obtain ⟨hnear, hinside⟩ := candidate_spec hcand
      obtain ⟨h1, h2⟩ := floorAt_bounds hlow hhigh n
      have hrounds := rounds_of_holds hm (holds_of_inside hinside)
      rcases eq_or_ne c (tens (n + 1)) with hround | hround
      · simp only [if_pos hround]
        refine ⟨Nat.one_pos, ?_⟩
        have hone : (Text.ofNat 1).length = 1 := rfl
        have hval : (Digits.mk 1 (point + 1)).value = c * 10 ^ (point - (n + 1 : ℕ)) := by
          rw [Digits.value, hone, hround, tens_eq, Nat.cast_one, one_mul]
          push_cast
          exact ten_split (by push_cast; omega)
        rwa [hval]
      · simp only [if_neg hround]
        rw [tens_eq] at hround
        exact tell_of_length (by omega) (by omega) hrounds

end Value

/-- **The shortest digits of a double are read as the double.** -/
theorem shortest_tell (hc : Canonical m e) (hm : 0 < m) : (shortest m e).Tell m e := by
  have hden := of_den_pos m e
  have hdq : (0 : ℚ) < (Neighbourhood.of m e).den := by exact_mod_cast hden
  have hreach : (Neighbourhood.of m e).den ≤ (Neighbourhood.of m e).value * 10 ^ 400 := by
    have hone : (1 : ℚ) ≤ m := by exact_mod_cast hm
    have hleast : (2 : ℚ) ^ (-1075 : ℤ) ≤ 2 ^ e :=
      zpow_le_zpow_right₀ one_le_two (by have := hc.least; omega)
    have hsmall : (1 : ℚ) ≤ m * 2 ^ e * 10 ^ 400 := by
      calc (1 : ℚ) ≤ 10 ^ (-330 : ℤ) * 10 ^ 400 := by
            rw [← zpow_natCast, ← zpow_add₀ (by norm_num)]
            exact one_le_zpow₀ (by norm_num) (by norm_num)
        _ ≤ 1 * 2 ^ e * 10 ^ 400 := by
            rw [one_mul]
            gcongr
            exact (ten_bounds.1.le).trans hleast
        _ ≤ m * 2 ^ e * 10 ^ 400 := by gcongr
    rw [← of_value, div_mul_eq_mul_div, le_div_iff₀ hdq, one_mul] at hsmall
    exact_mod_cast hsmall
  obtain ⟨h1, h2⟩ := pointOf_spec hden hreach
  rw [of_value] at h1 h2
  exact shortestFrom_tell h1 h2 hc hm rfl

end LinkCleaner.Decimal
