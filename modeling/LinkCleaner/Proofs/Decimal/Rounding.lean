import Mathlib.Algebra.Order.Field.Power
import Mathlib.Data.Rat.Lemmas
import Mathlib.Data.Nat.Log
import Mathlib.Tactic.FieldSimp
import Mathlib.Tactic.Linarith
import Mathlib.Tactic.Positivity
import Mathlib.Tactic.Qify
import LinkCleaner.Decimal.Binary64
import LinkCleaner.Proofs.Text.Digits

/-!
Doubles and the numbers that are read as them. Each positive double has an interval around it, up to
halfway to its neighbours, and every number in it is rounded to the double.
-/

namespace LinkCleaner.Decimal.Binary64

variable {m num den a b : Nat} {e : Int} {x : ℚ}

/-- A finite double has 53 bits of mantissa, unless its exponent is the least one. -/
structure Canonical (m : Nat) (e : Int) : Prop where
  lt : m < 2 ^ 53
  least : -1074 ≤ e
  greatest : e ≤ 971
  full : 2 ^ 52 ≤ m ∨ e = -1074

/-- A double as it is read: if it is finite, it is written in the one way that is canonical. -/
def IsCanonical : Binary64 → Prop
  | .finite _ m e => Canonical m e
  | _ => True

/-- How far the interval of a double reaches down, in quarters of its last bit: to halfway, and only
half as far below a power of two, where the next double is nearer. -/
def reach (m : Nat) (e : Int) : Nat := if m = twos 52 ∧ e ≠ leastExponent then 1 else 2

/-- The number lies in the interval of the double; its ends belong to it if the mantissa is even. -/
structure Rounds (m : Nat) (e : Int) (x : ℚ) : Prop where
  low : (m - reach m e / 4 : ℚ) * 2 ^ e ≤ x
  high : x ≤ (m + 1 / 2 : ℚ) * 2 ^ e
  inner : m % 2 = 1 → (m - reach m e / 4 : ℚ) * 2 ^ e < x ∧ x < (m + 1 / 2 : ℚ) * 2 ^ e

lemma reach_le (m : Nat) (e : Int) : (reach m e : ℚ) ≤ 2 := by
  unfold reach
  split_ifs <;> norm_num

section Bounds

variable (hx : Rounds m e x)
include hx

lemma Rounds.ge (hm : 0 < m) : (2 : ℚ) ^ (e - 1) ≤ x := by
  have hpow : (0 : ℚ) < 2 ^ e := by positivity
  have hm1 : (1 : ℚ) ≤ m := by exact_mod_cast hm
  have hr := reach_le m e
  have hlow := hx.low
  rw [zpow_sub_one₀ two_ne_zero]
  nlinarith

lemma Rounds.lt (hc : Canonical m e) : x < 2 ^ (53 + e) := by
  have hpow : (0 : ℚ) < 2 ^ e := by positivity
  have hm : (m : ℚ) + 1 ≤ 2 ^ 53 := by exact_mod_cast hc.lt
  have htop : (2 : ℚ) ^ (53 + e) = 2 ^ 53 * 2 ^ e := by
    rw [zpow_add₀ two_ne_zero]
    norm_num
  rw [htop]
  nlinarith [hx.high]

end Bounds

/-! ### Quotients -/

lemma twos_eq (k : Nat) : twos k = 2 ^ k := rfl

lemma tens_eq (k : Nat) : tens k = 10 ^ k := rfl

lemma scaled_pos (h : 0 < den) (k : Int) : 0 < (scaled num den k).2 := by
  unfold scaled
  split_ifs
  · exact h
  · exact Nat.mul_pos h (Nat.pow_pos (by decide))

lemma scaled_quotient (num den : Nat) (k : Int) :
    ((scaled num den k).1 / (scaled num den k).2 : ℚ) = num / den * 2 ^ k := by
  unfold scaled
  split_ifs with h
  · obtain ⟨n, rfl⟩ := Int.eq_ofNat_of_zero_le h
    simp only [twos_eq]
    push_cast
    rw [Int.toNat_natCast, zpow_natCast]
    ring
  · obtain ⟨n, hn⟩ := Int.eq_ofNat_of_zero_le (show 0 ≤ -k by omega)
    obtain rfl : k = -n := by omega
    simp only [twos_eq]
    push_cast
    rw [neg_neg, Int.toNat_natCast, zpow_neg, zpow_natCast]
    field_simp

lemma le_scaled (hd : 0 < den) (n : Nat) (k : Int) :
    n * (scaled num den k).2 ≤ (scaled num den k).1 ↔ (n : ℚ) ≤ num / den * 2 ^ k := by
  have hq : (0 : ℚ) < (scaled num den k).2 := by exact_mod_cast scaled_pos hd k
  rw [← scaled_quotient, le_div_iff₀ hq]
  exact_mod_cast Iff.rfl

lemma scaled_le (hd : 0 < den) (n : Nat) (k : Int) :
    (scaled num den k).1 ≤ n * (scaled num den k).2 ↔ (num / den * 2 ^ k : ℚ) ≤ n := by
  have hq : (0 : ℚ) < (scaled num den k).2 := by exact_mod_cast scaled_pos hd k
  rw [← scaled_quotient, div_le_iff₀ hq]
  exact_mod_cast Iff.rfl

lemma two_pow_le_iff (hd : 0 < den) (k : Int) :
    (scaled num den (-k)).2 ≤ (scaled num den (-k)).1 ↔ (2 : ℚ) ^ k ≤ num / den := by
  have hk : (0 : ℚ) < 2 ^ k := by positivity
  rw [← one_mul (scaled num den (-k)).2, le_scaled hd, Nat.cast_one, zpow_neg, ← div_eq_mul_inv,
    le_div_iff₀ hk, one_mul]

lemma divEven_eq (hb : 0 < b) (hlow : 2 * m * b ≤ 2 * a + b) (hhigh : 2 * a ≤ (2 * m + 1) * b)
    (hodd : m % 2 = 1 → 2 * m * b < 2 * a + b ∧ 2 * a < (2 * m + 1) * b) : divEven a b = m := by
  have hr := Nat.mod_lt a hb
  have ha := Nat.div_add_mod a b
  unfold divEven
  generalize a / b = q at *
  generalize a % b = r at *
  subst ha
  -- the number is the quotient or the next one, and the remainder tells which
  have hle : q ≤ m := by
    by_contra hgt
    have := Nat.mul_le_mul_left b (show m + 1 ≤ q by omega)
    nlinarith
  have hge : m ≤ q + 1 := by
    by_contra hlt
    have := Nat.mul_le_mul_left b (show q + 2 ≤ m by omega)
    nlinarith
  obtain rfl | rfl : m = q ∨ m = q + 1 := by omega
  · have h1 : 2 * r ≤ b := by linarith
    have h2 : m % 2 = 1 → 2 * r < b := fun ho => by linarith [(hodd ho).2]
    simp only
    split_ifs <;> omega
  · have h1 : b ≤ 2 * r := by linarith
    have h2 : (q + 1) % 2 = 1 → b < 2 * r := fun ho => by linarith [(hodd ho).1]
    simp only
    split_ifs <;> omega

lemma divEven_le (h : a ≤ m * b) (hb : 0 < b) : divEven a b ≤ m := by
  have ha := Nat.div_add_mod a b
  have hle : a / b ≤ m := Nat.div_le_of_le_mul (by rwa [Nat.mul_comm])
  unfold divEven
  rcases hle.lt_or_eq with hlt | he
  · simp only
    split_ifs <;> omega
  · have hr : a % b = 0 := by
      rw [he, Nat.mul_comm] at ha
      omega
    simp only [hr, he]
    split_ifs <;> omega

lemma le_divEven (h : m * b ≤ a) (hb : 0 < b) : m ≤ divEven a b := by
  have hle : m ≤ a / b := (Nat.le_div_iff_mul_le hb).mpr h
  unfold divEven
  simp only
  split_ifs <;> omega

lemma log2Ratio_spec (hn : 0 < num) (hd : 0 < den) :
    (2 : ℚ) ^ log2Ratio num den ≤ num / den ∧ (num / den : ℚ) < 2 ^ (log2Ratio num den + 1) := by
  have hdq : (0 : ℚ) < den := by exact_mod_cast hd
  have hn1 : (2 : ℚ) ^ num.log2 ≤ num := by exact_mod_cast Nat.log2_self_le hn.ne'
  have hn2 : (num : ℚ) < 2 ^ num.log2 * 2 := by
    rw [← pow_succ]
    exact_mod_cast Nat.lt_log2_self
  have hd1 : (2 : ℚ) ^ den.log2 ≤ den := by exact_mod_cast Nat.log2_self_le hd.ne'
  have hd2 : (den : ℚ) < 2 ^ den.log2 * 2 := by
    rw [← pow_succ]
    exact_mod_cast Nat.lt_log2_self
  have hpow : (2 : ℚ) ^ ((num.log2 : ℤ) - den.log2) * 2 ^ den.log2 = 2 ^ num.log2 := by
    rw [zpow_sub₀ two_ne_zero, zpow_natCast, zpow_natCast]
    field_simp
  have hk : (0 : ℚ) < 2 ^ ((num.log2 : ℤ) - den.log2) := by positivity
  unfold log2Ratio
  simp only
  generalize (num.log2 : ℤ) - den.log2 = k at *
  split_ifs with hc
  · refine ⟨(two_pow_le_iff hd k).mp hc, ?_⟩
    rw [zpow_add_one₀ two_ne_zero, div_lt_iff₀ hdq]
    nlinarith
  · rw [sub_add_cancel, zpow_sub_one₀ two_ne_zero, le_div_iff₀ hdq]
    refine ⟨?_, not_le.mp fun h => hc ((two_pow_le_iff hd k).mpr h)⟩
    nlinarith

/-! ### Reading a quotient -/

/-- The exponent of the double nearest to a quotient. -/
def exponentOf (num den : Nat) : Int := max (log2Ratio num den - 52) leastExponent

/-- The mantissa before it is seen whether it has grown by a bit. -/
def mantissaOf (num den : Nat) : Nat :=
  divEven (scaled num den (-exponentOf num den)).1 (scaled num den (-exponentOf num den)).2

lemma ofRatio_eq (negative : Bool) (h : num ≠ 0) : ofRatio negative num den =
    if mantissaOf num den = 2 ^ 53 then
      if greatestExponent < exponentOf num den + 1 then .infinite negative
      else .finite negative (2 ^ 52) (exponentOf num den + 1)
    else if greatestExponent < exponentOf num den then .infinite negative
    else .finite negative (mantissaOf num den) (exponentOf num den) := by
  have hpair : ofRatio negative num den =
      let p := if mantissaOf num den = 2 ^ 53 then (2 ^ 52, exponentOf num den + 1)
        else (mantissaOf num den, exponentOf num den)
      if greatestExponent < p.2 then .infinite negative else .finite negative p.1 p.2 := by
    rw [ofRatio, if_neg h]
    rfl
  rw [hpair]
  by_cases hm : mantissaOf num den = 2 ^ 53
  · simp only [if_pos hm]
  · simp only [if_neg hm]

lemma exponentOf_eq (hn : 0 < num) (hd : 0 < den) (he : -1074 ≤ e)
    (hlow : (2 : ℚ) ^ (52 + e) ≤ num / den ∨ e = -1074) (hhigh : (num / den : ℚ) < 2 ^ (53 + e)) :
    exponentOf num den = e := by
  obtain ⟨h1, h2⟩ := log2Ratio_spec hn hd
  have hk : log2Ratio num den < 53 + e :=
    (zpow_lt_zpow_iff_right₀ one_lt_two).mp (h1.trans_lt hhigh)
  unfold exponentOf leastExponent
  rcases hlow with hlow | rfl
  · have hk' : 52 + e < log2Ratio num den + 1 :=
      (zpow_lt_zpow_iff_right₀ one_lt_two).mp (hlow.trans_lt h2)
    omega
  · omega

lemma mantissaOf_bounds (hn : 0 < num) (hd : 0 < den) :
    mantissaOf num den ≤ 2 ^ 53 ∧ (2 ^ 52 ≤ mantissaOf num den ∨ exponentOf num den = -1074) := by
  obtain ⟨h1, h2⟩ := log2Ratio_spec hn hd
  have hpos : 0 < (scaled num den (-exponentOf num den)).2 := scaled_pos hd _
  have hscale : (0 : ℚ) < 2 ^ (-exponentOf num den) := by positivity
  constructor
  · refine divEven_le ((scaled_le hd _ _).mpr ?_) hpos
    have hexp : log2Ratio num den + 1 + -exponentOf num den ≤ (53 : ℕ) := by
      unfold exponentOf
      omega
    calc (num / den * 2 ^ (-exponentOf num den) : ℚ)
        ≤ 2 ^ (log2Ratio num den + 1) * 2 ^ (-exponentOf num den) := by gcongr
      _ = 2 ^ (log2Ratio num den + 1 + -exponentOf num den) := (zpow_add₀ two_ne_zero _ _).symm
      _ ≤ 2 ^ ((53 : ℕ) : ℤ) := zpow_le_zpow_right₀ one_le_two hexp
      _ = ((2 ^ 53 : ℕ) : ℚ) := by norm_num
  · rw [or_iff_not_imp_right]
    intro hleast
    refine le_divEven ((le_scaled hd _ _).mpr ?_) hpos
    have hexp : log2Ratio num den + -exponentOf num den = (52 : ℕ) := by
      unfold exponentOf leastExponent at *
      omega
    calc ((2 ^ 52 : ℕ) : ℚ) = 2 ^ ((52 : ℕ) : ℤ) := by norm_num
      _ = 2 ^ log2Ratio num den * 2 ^ (-exponentOf num den) := by
          rw [← hexp, zpow_add₀ two_ne_zero]
      _ ≤ num / den * 2 ^ (-exponentOf num den) := by gcongr

lemma ofRatio_isCanonical (negative : Bool) (hd : 0 < den) :
    (ofRatio negative num den).IsCanonical := by
  rcases Nat.eq_zero_or_pos num with rfl | hn
  · exact ⟨by decide, le_rfl, by decide, Or.inr rfl⟩
  · obtain ⟨hle, hfull⟩ := mantissaOf_bounds hn hd
    have hleast : -1074 ≤ exponentOf num den := le_max_right _ _
    rw [ofRatio_eq negative hn.ne']
    unfold greatestExponent
    split_ifs with hm hbig hbig
    · trivial
    · exact ⟨by decide, by omega, by omega, Or.inl le_rfl⟩
    · trivial
    · exact ⟨by omega, hleast, by omega, hfull⟩

lemma mantissaOf_eq (hd : 0 < den) (he : exponentOf num den = e)
    (hlow : (m - 1 / 2 : ℚ) * 2 ^ e ≤ num / den) (hhigh : (num / den : ℚ) ≤ (m + 1 / 2) * 2 ^ e)
    (hodd : m % 2 = 1 →
      (m - 1 / 2 : ℚ) * 2 ^ e < num / den ∧ (num / den : ℚ) < (m + 1 / 2) * 2 ^ e) :
    mantissaOf num den = m := by
  have hb : 0 < (scaled num den (-e)).2 := scaled_pos hd _
  have hbq : (0 : ℚ) < (scaled num den (-e)).2 := by exact_mod_cast hb
  have hquot : (num / den : ℚ) = (scaled num den (-e)).1 / (scaled num den (-e)).2 * 2 ^ e := by
    rw [scaled_quotient, mul_assoc, ← zpow_add₀ two_ne_zero, neg_add_cancel, zpow_zero, mul_one]
  have hpow : (0 : ℚ) < 2 ^ e := by positivity
  rw [hquot, mul_le_mul_iff_left₀ hpow, le_div_iff₀ hbq] at hlow
  rw [hquot, mul_le_mul_iff_left₀ hpow, div_le_iff₀ hbq] at hhigh
  rw [hquot, mul_lt_mul_iff_left₀ hpow, mul_lt_mul_iff_left₀ hpow, lt_div_iff₀ hbq,
    div_lt_iff₀ hbq] at hodd
  rw [mantissaOf, he]
  generalize (scaled num den (-e)).1 = a at *
  generalize (scaled num den (-e)).2 = b at *
  refine divEven_eq hb ?_ ?_ fun ho => ⟨?_, ?_⟩
  · qify
    linarith
  · qify
    linarith
  · have := (hodd ho).1
    qify
    linarith
  · have := (hodd ho).2
    qify
    linarith

lemma two_pow_full (e : Int) : (2 : ℚ) ^ (52 + e) = 2 ^ 52 * 2 ^ e := by
  rw [zpow_add₀ two_ne_zero]
  norm_num

lemma ofRatio_of_fits (negative : Bool) (hc : Canonical m e) (hn : 0 < num) (hd : 0 < den)
    (hx : Rounds m e (num / den)) (hlow : (2 : ℚ) ^ (52 + e) ≤ num / den ∨ e = -1074) :
    ofRatio negative num den = .finite negative m e := by
  have hpow : (0 : ℚ) < 2 ^ e := by positivity
  have hr := reach_le m e
  have he := exponentOf_eq hn hd hc.least hlow (hx.lt hc)
  have hmant : mantissaOf num den = m := by
    refine mantissaOf_eq hd he ?_ hx.high fun ho => ⟨?_, (hx.inner ho).2⟩
    · nlinarith [hx.low]
    · nlinarith [(hx.inner ho).1]
  have hgreat := hc.greatest
  have hlt := hc.lt
  rw [ofRatio_eq negative hn.ne', he, hmant, if_neg (by omega),
    if_neg (by unfold greatestExponent; omega)]

/-- Just below a power of two the exponent is one less, and the mantissa grows by a bit. -/
lemma ofRatio_of_below (negative : Bool) (hc : Canonical m e) (hn : 0 < num) (hd : 0 < den)
    (hx : Rounds m e (num / den)) (hlow : (num / den : ℚ) < 2 ^ (52 + e)) (hleast : e ≠ -1074) :
    ofRatio negative num den = .finite negative m e := by
  have hpow : (0 : ℚ) < 2 ^ e := by positivity
  have hr := reach_le m e
  rw [two_pow_full] at hlow
  -- of the doubles of an exponent only the first reaches below the power of two
  have hfull : m = 2 ^ 52 := by
    have hge := hc.full.resolve_right hleast
    by_contra hne
    have : 2 ^ 52 + 1 ≤ m := by omega
    qify at this
    nlinarith [hx.low]
  subst hfull
  have hreach : reach (2 ^ 52) e = 1 := if_pos ⟨rfl, hleast⟩
  have hx1 := hx.low
  rw [hreach] at hx1
  have hhalf : (2 : ℚ) ^ e = 2 * 2 ^ (e - 1) := by
    rw [zpow_sub_one₀ two_ne_zero]
    ring
  have hstep : (53 : ℤ) + (e - 1) = 52 + e := by ring
  have hleast' := hc.least
  have he : exponentOf num den = e - 1 := by
    refine exponentOf_eq hn hd (by omega) (Or.inl ?_) ?_
    · rw [two_pow_full]
      push_cast at hx1
      nlinarith
    · rwa [hstep, two_pow_full]
  have hmant : mantissaOf num den = 2 ^ 53 := by
    refine mantissaOf_eq hd he ?_ ?_ fun ho => absurd ho (by decide)
    all_goals push_cast at hx1 ⊢; nlinarith
  have hgreat := hc.greatest
  rw [ofRatio_eq negative hn.ne', he, hmant, if_pos rfl, sub_add_cancel,
    if_neg (by unfold greatestExponent; omega)]

/-- **A quotient in the interval of a double is read as that double.** -/
theorem ofRatio_of_rounds (negative : Bool) (hc : Canonical m e) (hm : 0 < m) (hd : 0 < den)
    (hx : Rounds m e (num / den)) : ofRatio negative num den = .finite negative m e := by
  have hpow : (0 : ℚ) < 2 ^ e := by positivity
  have hpos : (0 : ℚ) < num / den := lt_of_lt_of_le (by positivity) (hx.ge hm)
  have hn : 0 < num := by
    rw [Nat.pos_iff_ne_zero]
    rintro rfl
    simp at hpos
  by_cases hlow : (2 : ℚ) ^ (52 + e) ≤ num / den ∨ e = -1074
  · exact ofRatio_of_fits negative hc hn hd hx hlow
  · obtain ⟨hlow, hleast⟩ := not_or.mp hlow
    exact ofRatio_of_below negative hc hn hd hx (not_le.mp hlow) hleast

/-! ### Reading a decimal -/

lemma ofDecimal_isCanonical (negative : Bool) (digits : Nat) (exponent : Int) :
    (ofDecimal negative digits exponent).IsCanonical := by
  have hzero : (finite negative 0 leastExponent).IsCanonical :=
    ⟨by decide, le_rfl, by decide, Or.inr rfl⟩
  unfold ofDecimal
  simp only
  split_ifs
  · exact hzero
  · trivial
  · exact ofRatio_isCanonical negative Nat.one_pos
  · exact ofRatio_isCanonical negative (Nat.pow_pos (by decide))

lemma places_spec {digits : Nat} (h : 0 < digits) (exponent : Int) :
    (10 : ℚ) ^ ((Nat.toDigits 10 digits).length + exponent - 1) ≤ digits * 10 ^ exponent ∧
      (digits * 10 ^ exponent : ℚ) < 10 ^ ((Nat.toDigits 10 digits).length + exponent) := by
  have hten : (10 : ℚ) ≠ 0 := by norm_num
  have hlen := Text.length_ofNat_pos digits
  have hlow : (10 ^ ((Text.ofNat digits).length - 1) : ℚ) ≤ digits := by
    exact_mod_cast Text.pow_length_le h
  have hhigh : (digits : ℚ) < 10 ^ (Text.ofNat digits).length := by
    exact_mod_cast Text.lt_pow_length digits
  have hexp : ((Nat.toDigits 10 digits).length : ℤ) + exponent - 1 =
      ((Text.ofNat digits).length - 1 : ℕ) + exponent := by
    rw [Text.ofNat] at *
    omega
  rw [hexp, zpow_add₀ hten, zpow_add₀ hten, zpow_natCast, zpow_natCast]
  exact ⟨by gcongr, by rw [← Text.ofNat]; gcongr⟩

lemma ten_bounds : (10 : ℚ) ^ (-330 : ℤ) < 2 ^ (-1075 : ℤ) ∧
    (2 : ℚ) ^ (1024 : ℤ) < 10 ^ (400 : ℤ) := by
  constructor
  · rw [zpow_neg, zpow_neg, inv_lt_inv₀ (by positivity) (by positivity)]
    calc (2 : ℚ) ^ (1075 : ℤ) = (2 ^ 43) ^ 25 * 1 := by rw [← pow_mul, mul_one]; rfl
      _ < (10 ^ 13) ^ 25 * 10 ^ 5 := by gcongr <;> norm_num
      _ = 10 ^ (330 : ℤ) := by rw [← pow_mul, ← pow_add]; rfl
  · calc (2 : ℚ) ^ (1024 : ℤ) = (2 ^ 64) ^ 16 := by rw [← pow_mul]; rfl
      _ < (10 ^ 25) ^ 16 := by gcongr; norm_num
      _ = 10 ^ (400 : ℤ) := by rw [← pow_mul]; rfl

/-- **A decimal in the interval of a double is read as that double.** -/
theorem ofDecimal_of_rounds (negative : Bool) (hc : Canonical m e) (hm : 0 < m) {digits : Nat}
    {exponent : Int} (hx : Rounds m e (digits * 10 ^ exponent)) :
    ofDecimal negative digits exponent = .finite negative m e := by
  have hten : (1 : ℚ) < 10 := by norm_num
  -- next to a double, the decimal is neither so small nor so large that its digits are not read
  have hlow : (10 : ℚ) ^ (-330 : ℤ) < digits * 10 ^ exponent := by
    refine ten_bounds.1.trans_le ?_
    exact (zpow_le_zpow_right₀ one_le_two (by have := hc.least; omega)).trans (hx.ge hm)
  have hhigh : (digits * 10 ^ exponent : ℚ) < 10 ^ (400 : ℤ) := by
    refine lt_trans ?_ ten_bounds.2
    exact (hx.lt hc).trans_le (zpow_le_zpow_right₀ one_le_two (by have := hc.greatest; omega))
  have hdigits : 0 < digits := by
    rw [Nat.pos_iff_ne_zero]
    rintro rfl
    rw [Nat.cast_zero, zero_mul] at hlow
    exact absurd hlow (not_lt.mpr (by positivity))
  obtain ⟨h1, h2⟩ := places_spec hdigits exponent
  have hplaces1 := (zpow_lt_zpow_iff_right₀ hten).mp (hlow.trans h2)
  have hplaces2 := (zpow_lt_zpow_iff_right₀ hten).mp (h1.trans_lt hhigh)
  unfold ofDecimal
  simp only
  rw [if_neg (by omega), if_neg (by omega)]
  split_ifs with hexp
  · obtain ⟨k, rfl⟩ := Int.eq_ofNat_of_zero_le hexp
    refine ofRatio_of_rounds negative hc hm Nat.one_pos ?_
    rw [zpow_natCast] at hx
    rw [Int.toNat_natCast, tens_eq]
    push_cast
    rwa [div_one]
  · obtain ⟨k, hk⟩ := Int.eq_ofNat_of_zero_le (show 0 ≤ -exponent by omega)
    obtain rfl : exponent = -k := by omega
    refine ofRatio_of_rounds negative hc hm (Nat.pow_pos (by decide)) ?_
    rw [zpow_neg, zpow_natCast, ← div_eq_mul_inv] at hx
    rw [neg_neg, Int.toNat_natCast, tens_eq]
    push_cast
    exact hx

end LinkCleaner.Decimal.Binary64
