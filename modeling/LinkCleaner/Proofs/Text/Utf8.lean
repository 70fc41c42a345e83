import Mathlib.Tactic.Lemma
import LinkCleaner.Text.Utf8

/-!
The bytes of a text give the text back: a character is read from its bytes whatever follows them.
-/

namespace LinkCleaner.Text

lemma toNat_toUInt8 {n : Nat} (h : n < 256) : n.toUInt8.toNat = n := by
  simp [Nat.mod_eq_of_lt h]

@[simp] lemma utf8Pieces_cons (st : Option Utf8Partial) (b : UInt8) (r : List UInt8) :
    utf8Pieces st (b :: r) = (utf8Step st b.toNat).1 ++ utf8Pieces (utf8Step st b.toNat).2 r := by
  cases st <;> rfl

lemma utf8Step_more {bits need lo hi b : Nat} (hlo : lo ≤ b) (hhi : b ≤ hi) (hn : need ≠ 1) :
    utf8Step (some ⟨bits, need, lo, hi⟩) b =
      ([], some ⟨bits * 0x40 + (b - 0x80), need - 1, 0x80, 0xBF⟩) := by
  simp [utf8Step, hlo, hhi, hn]

lemma utf8Step_last {bits lo hi b : Nat} (hlo : lo ≤ b) (hhi : b ≤ hi) :
    utf8Step (some ⟨bits, 1, lo, hi⟩) b =
      ([some (Char.ofNat (bits * 0x40 + (b - 0x80)))], none) := by
  simp [utf8Step, hlo, hhi]

lemma utf8Start_two {b : Nat} (h1 : 0xC2 ≤ b) (h2 : b < 0xE0) :
    utf8Step none b = ([], some ⟨b - 0xC0, 1, 0x80, 0xBF⟩) := by
  simp only [utf8Step, utf8Start, utf8Lead]
  rw [if_neg (by omega), if_neg (by omega), if_pos h2]

lemma utf8Start_three {b : Nat} (h1 : 0xE0 ≤ b) (h2 : b < 0xF0) :
    ∃ lo hi, utf8Step none b = ([], some ⟨b - 0xE0, 2, lo, hi⟩) ∧
      (lo = 0x80 ∨ b = 0xE0 ∧ lo = 0xA0) ∧ (hi = 0xBF ∨ b = 0xED ∧ hi = 0x9F) := by
  simp only [utf8Step, utf8Start, utf8Lead]
  rw [if_neg (by omega), if_neg (by omega), if_neg (by omega)]
  by_cases he : b = 0xE0
  · subst he
    exact ⟨0xA0, 0xBF, rfl, by omega, by omega⟩
  by_cases hd : b = 0xED
  · subst hd
    exact ⟨0x80, 0x9F, rfl, by omega, by omega⟩
  · rw [if_neg he, if_neg hd, if_pos h2]
    exact ⟨0x80, 0xBF, rfl, by omega, by omega⟩

lemma utf8Start_four {b : Nat} (h1 : 0xF0 ≤ b) (h2 : b ≤ 0xF4) :
    ∃ lo hi, utf8Step none b = ([], some ⟨b - 0xF0, 3, lo, hi⟩) ∧
      (lo = 0x80 ∨ b = 0xF0 ∧ lo = 0x90) ∧ (hi = 0xBF ∨ b = 0xF4 ∧ hi = 0x8F) := by
  simp only [utf8Step, utf8Start, utf8Lead]
  rw [if_neg (by omega), if_neg (by omega), if_neg (by omega), if_neg (by omega),
    if_neg (by omega), if_neg (by omega)]
  by_cases he : b = 0xF0
  · subst he
    exact ⟨0x90, 0xBF, rfl, by omega, by omega⟩
  by_cases hd : b = 0xF4
  · subst hd
    exact ⟨0x80, 0x8F, rfl, by omega, by omega⟩
  · rw [if_neg he, if_pos (by omega)]
    exact ⟨0x80, 0xBF, rfl, by omega, by omega⟩

lemma utf8Pieces_utf8Char (c : Char) (r : List UInt8) :
    utf8Pieces none (utf8Char c ++ r) = some c :: utf8Pieces none r := by
  have hv : c.toNat < 0xD800 ∨ 0xDFFF < c.toNat ∧ c.toNat < 0x110000 := c.valid
  have hc : Char.ofNat c.toNat = c := Char.ofNat_toNat c
  unfold utf8Char
  generalize c.toNat = n at hv hc
  -- one case for each number of bytes; the bits that were shared out among them are put together
  by_cases h1 : n < 0x80
  · simp only [if_pos h1, List.cons_append, List.nil_append, utf8Pieces_cons,
      toNat_toUInt8 (show n < 256 by omega), utf8Step, utf8Start, utf8Lead]
    rw [hc]
  by_cases h2 : n < 0x800
  · simp only [if_neg h1, if_pos h2, List.cons_append, List.nil_append, utf8Pieces_cons,
      toNat_toUInt8 (show 0xC0 + n / 0x40 < 256 by omega),
      toNat_toUInt8 (show 0x80 + n % 0x40 < 256 by omega)]
    rw [utf8Start_two (by omega) (by omega), utf8Step_last (by omega) (by omega)]
    rw [show (0xC0 + n / 0x40 - 0xC0) * 0x40 + (0x80 + n % 0x40 - 0x80) = n by omega, hc]
    rfl
  by_cases h3 : n < 0x10000
  · obtain ⟨lo, hi, he, hlo, hhi⟩ := utf8Start_three (b := 0xE0 + n / 0x1000) (by omega) (by omega)
    simp only [if_neg h1, if_neg h2, if_pos h3, List.cons_append, List.nil_append, utf8Pieces_cons,
      toNat_toUInt8 (show 0xE0 + n / 0x1000 < 256 by omega),
      toNat_toUInt8 (show 0x80 + n / 0x40 % 0x40 < 256 by omega),
      toNat_toUInt8 (show 0x80 + n % 0x40 < 256 by omega)]
    rw [he, utf8Step_more (by omega) (by omega) (by omega), utf8Step_last (by omega) (by omega)]
    rw [show ((0xE0 + n / 0x1000 - 0xE0) * 0x40 + (0x80 + n / 0x40 % 0x40 - 0x80)) * 0x40 +
      (0x80 + n % 0x40 - 0x80) = n by omega, hc]
    rfl
  · obtain ⟨lo, hi, he, hlo, hhi⟩ := utf8Start_four (b := 0xF0 + n / 0x40000) (by omega) (by omega)
    simp only [if_neg h1, if_neg h2, if_neg h3, List.cons_append, List.nil_append, utf8Pieces_cons,
      toNat_toUInt8 (show 0xF0 + n / 0x40000 < 256 by omega),
      toNat_toUInt8 (show 0x80 + n / 0x1000 % 0x40 < 256 by omega),
      toNat_toUInt8 (show 0x80 + n / 0x40 % 0x40 < 256 by omega),
      toNat_toUInt8 (show 0x80 + n % 0x40 < 256 by omega)]
    rw [he, utf8Step_more (by omega) (by omega) (by omega),
      utf8Step_more (by omega) (by omega) (by omega), utf8Step_last (by omega) (by omega)]
    rw [show (((0xF0 + n / 0x40000 - 0xF0) * 0x40 + (0x80 + n / 0x1000 % 0x40 - 0x80)) * 0x40 +
      (0x80 + n / 0x40 % 0x40 - 0x80)) * 0x40 + (0x80 + n % 0x40 - 0x80) = n by omega, hc]
    rfl

lemma utf8Pieces_utf8 (s : Text) : utf8Pieces none (utf8 s) = s.map some := by
  induction s with
  | nil => rfl
  | cons c r ih =>
    rw [utf8, List.flatMap_cons, utf8Pieces_utf8Char, List.map_cons]
    exact congrArg _ ih

lemma ofUtf8?_utf8 (s : Text) : ofUtf8? (utf8 s) = some s := by
  rw [ofUtf8?, utf8Pieces_utf8]
  induction s with
  | nil => rfl
  | cons c r ih =>
    rw [List.map_cons, List.mapM_cons, ih]
    rfl

/-- **The bytes of a text give it back.** -/
theorem ofUtf8Lossy_utf8 (s : Text) : ofUtf8Lossy (utf8 s) = s := by
  rw [ofUtf8Lossy, utf8Pieces_utf8, List.map_map]
  exact List.map_id s

end LinkCleaner.Text
