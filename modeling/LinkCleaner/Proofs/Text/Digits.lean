import Mathlib.Data.List.Induction
import Mathlib.Data.Nat.Digits.Defs
import Mathlib.Tactic.Ring
import LinkCleaner.Proofs.Text.Ascii

/-!
Whole numbers in decimal digits. What is written of a number reads as that number, has no zero in
front unless it is zero, and is as long as the number is large.
-/

namespace LinkCleaner.Text

variable {s t : Text} {n : Nat}

/-! ### Runs of digits -/

/-- A text of nothing but digits. -/
abbrev IsDigits (s : Text) : Prop := ∀ c ∈ s, isAsciiDigit c

lemma digitsValue_eq (s : Text) : digitsValue s = Nat.ofDigitChars 10 s 0 := by
  rw [Nat.ofDigitChars_eq_foldl]
  rfl

lemma digitsValue_append (s t : Text) :
    digitsValue (s ++ t) = digitsValue s * 10 ^ t.length + digitsValue t := by
  simp only [digitsValue_eq, Nat.ofDigitChars_append]
  rw [Nat.ofDigitChars_eq_ofDigitChars_zero, Nat.mul_comm]

lemma digitsValue_zeros (n : Nat) : digitsValue (List.replicate n '0') = 0 := by
  rw [digitsValue_eq, Nat.ofDigitChars_replicate_zero, Nat.mul_zero]

lemma digitsValue_zero_cons (s : Text) : digitsValue ('0' :: s) = digitsValue s := by
  have h : digitsValue ['0'] = 0 := rfl
  rw [← List.singleton_append, digitsValue_append, h, Nat.zero_mul, Nat.zero_add]

lemma isDigits_zeros (n : Nat) : IsDigits (List.replicate n '0') := by
  intro c hc
  rw [List.eq_of_mem_replicate hc]
  rfl

lemma isDigits_nil : IsDigits [] := isDigits_zeros 0

lemma isDigits_zero : IsDigits ['0'] := isDigits_zeros 1

lemma isDigits_append (hs : IsDigits s) (ht : IsDigits t) : IsDigits (s ++ t) :=
  List.forall_mem_append.mpr ⟨hs, ht⟩

lemma digitsValue_lt (h : IsDigits s) : digitsValue s < 10 ^ s.length := by
  induction s using List.reverseRecOn with
  | nil => decide
  | append_singleton s c ih =>
    obtain ⟨hs, hc⟩ := List.forall_mem_append.mp h
    have hlt := ih hs
    have hd := digit_bounds (hc c List.mem_cons_self)
    have hone : digitsValue [c] = c.toNat - 48 := by simp [digitsValue]
    rw [digitsValue_append, hone, List.length_append, List.length_singleton, pow_one, pow_succ]
    omega

/-! ### What is written of a number -/

lemma isDigits_ofNat (n : Nat) : IsDigits (ofNat n) := by
  intro c hc
  have hd := Nat.isDigit_of_mem_toDigits (by decide) (by decide) hc
  simpa [isAsciiDigit, Char.isDigit, Char.le_def] using hd

lemma ofNat_ne_nil (n : Nat) : ofNat n ≠ [] := Nat.toDigits_ne_nil

@[simp] lemma digitsValue_ofNat (n : Nat) : digitsValue (ofNat n) = n := by
  rw [digitsValue_eq, ofNat, Nat.ofDigitChars_ten_toDigits]

lemma length_ofNat_pos (n : Nat) : 0 < (ofNat n).length := Nat.length_toDigits_pos

lemma lt_pow_length (n : Nat) : n < 10 ^ (ofNat n).length :=
  (Nat.length_toDigits_le_iff (by decide) (length_ofNat_pos n)).mp le_rfl

lemma pow_length_le (h : 0 < n) : 10 ^ ((ofNat n).length - 1) ≤ n := by
  rcases Nat.eq_zero_or_pos ((ofNat n).length - 1) with h0 | hpos
  · rwa [h0]
  · by_contra hlt
    have hlen := (Nat.length_toDigits_le_iff (b := 10) (by decide) hpos).mpr (not_le.mp hlt)
    have := length_ofNat_pos n
    rw [ofNat] at *
    omega

lemma length_ofNat_eq {k : Nat} (hlow : 10 ^ k ≤ n) (hhigh : n < 10 ^ (k + 1)) :
    (ofNat n).length = k + 1 := by
  have hpos : 0 < n := lt_of_lt_of_le (by positivity) hlow
  have h1 := (Nat.length_toDigits_le_iff (b := 10) (by decide) (Nat.succ_pos k)).mpr hhigh
  have h2 : k < (ofNat n).length :=
    (Nat.pow_lt_pow_iff_right (by decide)).mp (lt_of_le_of_lt hlow (lt_pow_length n))
  rw [ofNat] at *
  omega

lemma ofNat_head (h : 0 < n) {c : Char} {r : Text} (hn : ofNat n = c :: r) : c ≠ '0' := by
  rintro rfl
  have hr : IsDigits r := fun d hd => isDigits_ofNat n d (hn ▸ List.mem_cons_of_mem _ hd)
  have hvalue : n = digitsValue r := by rw [← digitsValue_zero_cons, ← hn, digitsValue_ofNat]
  have hlow := pow_length_le h
  have hhigh := digitsValue_lt hr
  rw [hn, List.length_cons, Nat.add_sub_cancel, hvalue] at hlow
  omega

end LinkCleaner.Text
