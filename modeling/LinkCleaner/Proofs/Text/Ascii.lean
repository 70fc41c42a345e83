import Mathlib.Tactic.Lemma
import Mathlib.Tactic.SplitIfs
import LinkCleaner.Text.Basic

/-!
Letters, digits and hexadecimal digits are ASCII, so that what is said of them can be checked code by
code.
-/

namespace LinkCleaner.Text

variable {c : Char}

@[elab_as_elim]
lemma of_ascii {p : Char → Prop} (c : Char) (hc : c.toNat < 128)
    (h : ∀ n : Fin 128, p (Char.ofNat n)) : p c := by
  have hn := h ⟨c.toNat, hc⟩
  rwa [Char.ofNat_toNat] at hn

lemma letter_bounds (h : isAsciiLetter c) : 0x41 ≤ c.toNat ∧ c.toNat ≤ 0x7A := by
  simp only [isAsciiLetter, Bool.or_eq_true, Bool.and_eq_true, decide_eq_true_eq, Char.le_def] at h
  rcases h with ⟨h1, h2⟩ | ⟨h1, h2⟩
  · have : 0x61 ≤ c.toNat := h1
    have : c.toNat ≤ 0x7A := h2
    omega
  · have : 0x41 ≤ c.toNat := h1
    have : c.toNat ≤ 0x5A := h2
    omega

lemma digit_bounds (h : isAsciiDigit c) : 0x30 ≤ c.toNat ∧ c.toNat ≤ 0x39 := by
  simp only [isAsciiDigit, Bool.and_eq_true, decide_eq_true_eq, Char.le_def] at h
  exact h

lemma toNat_lt_of_hex (h : isHex c) : c.toNat < 128 := by
  unfold isHex hexValue? at h
  split_ifs at h with h1 h2 h3
  · have : c.toNat ≤ 0x39 := h1.2
    omega
  · have : c.toNat ≤ 0x66 := h2.2
    omega
  · have : c.toNat ≤ 0x46 := h3.2
    omega
  · simp at h

end LinkCleaner.Text
