import Mathlib.Tactic.SplitIfs
import LinkCleaner.Text.Class
import LinkCleaner.Text.Case

/-!
The table of small forms is settled: a small form has no further small form, and is neither ASCII
other than a small letter, nor a blank, nor a lookalike of a delimiter. The table is checked row
against row.
-/

namespace LinkCleaner.Text

/-! ### The table of small forms -/

/-- A row of the table: the code points from the first to the last, by a stride, and their shift. -/
abbrev FormRow := Nat × Nat × Nat × Int

namespace FormRow

/-- The least small form of a row. -/
def lo (e : FormRow) : Nat := (e.1 + e.2.2.2).toNat

/-- The greatest small form of a row. -/
def hi (e : FormRow) : Nat := (e.2.1 + e.2.2.2).toNat

def Covers (e : FormRow) (n : Nat) : Prop := e.1 ≤ n ∧ n ≤ e.2.1 ∧ (n - e.1) % e.2.2.1 = 0

/-- The small forms of one row are not covered by another: they lie apart, or are interleaved. -/
def clears (e f : FormRow) : Bool :=
  Nat.blt e.hi f.1 || Nat.blt f.2.1 e.lo
    || (Nat.beq f.2.2.1 2 && (Nat.beq e.2.2.1 2 || Nat.beq e.lo e.hi)
      && Nat.beq ((e.lo + f.1) % 2) 1)

/-- The small forms of a row lie outside a range. -/
def avoids (e : FormRow) (r : Nat × Nat) : Bool := Nat.blt e.hi r.1 || Nat.blt r.2 e.lo

/-- What no small form is: ASCII that is no small letter, the two capitals whose form depends on
their neighbours, what no text holds, a blank or a lookalike. -/
def reserved : List (Nat × Nat) :=
  [(0, 0x60), (0x7B, 0x7F), (0x130, 0x130), (0x3A3, 0x3A3), (0xD800, 0xDFFF)] ++ blankRanges
    ++ lookalikes.map fun n => (n, n)

/-- A row is of capitals, and its small forms are settled. -/
def sound (e : FormRow) : Bool :=
  (Nat.ble 0x80 e.1 || (Nat.beq e.1 0x41 && Nat.beq e.2.1 0x5A)) && decide (0 ≤ e.1 + e.2.2.2)
    && Nat.blt e.hi 0x110000 && reserved.all e.avoids && smallForms.all e.clears

variable {e f : FormRow} {n : Nat}

lemma form_bounds (h : e.Covers n) :
    e.lo ≤ (n + e.2.2.2).toNat ∧ (n + e.2.2.2).toNat ≤ e.hi := by
  obtain ⟨h1, h2, -⟩ := h
  unfold lo hi
  omega

lemma not_covers_form (h : e.Covers n) (h0 : 0 ≤ e.1 + e.2.2.2) (hc : e.clears f) :
    ¬ f.Covers (n + e.2.2.2).toNat := by
  obtain ⟨hlo, hhi⟩ := form_bounds h
  obtain ⟨h1, h2, h3⟩ := h
  rintro ⟨g1, g2, g3⟩
  simp only [clears, Bool.or_eq_true, Bool.and_eq_true, Nat.blt_eq, Nat.beq_eq] at hc
  rcases hc with (hc | hc) | ⟨⟨hs, hc | hc⟩, hp⟩
  · omega
  · omega
  · rw [hc] at h3
    rw [hs] at g3
    unfold lo at hp
    omega
  · rw [hs] at g3
    omega

end FormRow

open FormRow

lemma sound_smallForms : ∀ e ∈ smallForms, FormRow.sound e := by
  have h : smallForms.all FormRow.sound = true := by decide +kernel
  exact List.all_eq_true.mp h

lemma go_eq_self {n : Nat} {es : List FormRow} (h : ∀ e ∈ es, ¬ e.Covers n) :
    smallCode.go n es = n := by
  induction es with
  | nil => rfl
  | cons e r ih =>
    obtain ⟨first, last, stride, shift⟩ := e
    have he := h _ List.mem_cons_self
    simp only [Covers] at he
    rw [smallCode.go]
    split
    · rfl
    · rw [if_neg (by omega), ih fun f hf => h f (List.mem_cons_of_mem _ hf)]

lemma go_cases (n : Nat) (es : List FormRow) :
    smallCode.go n es = n ∨
      ∃ e ∈ es, e.Covers n ∧ smallCode.go n es = (n + e.2.2.2).toNat := by
  induction es with
  | nil => exact Or.inl rfl
  | cons e r ih =>
    obtain ⟨first, last, stride, shift⟩ := e
    rw [smallCode.go]
    split
    · exact Or.inl rfl
    · split
      · next hlt hle =>
        exact Or.inr ⟨_, List.mem_cons_self, ⟨by simpa using hlt, hle⟩, rfl⟩
      · rcases ih with ih | ⟨f, hf, hcov, ih⟩
        · exact Or.inl ih
        · exact Or.inr ⟨f, List.mem_cons_of_mem _ hf, hcov, ih⟩

/-! ### Characters -/

/-- ASCII that is no letter. -/
def isMark (c : Char) : Bool :=
  c.toNat < 0x41 || (0x5A < c.toNat && c.toNat < 0x61) || (0x7A < c.toNat && c.toNat < 0x80)

/-- Lowering leaves the character alone, whatever stands around it. -/
def Settled (c : Char) : Prop := c ≠ 'Σ' ∧ c ≠ 'İ' ∧ lowerChar c = c

/-- What lowering turns a capital into. -/
structure IsForm (c : Char) : Prop where
  settled : Settled c
  mark : isMark c = false
  blank : isBlank c = false
  lookalike : isLookalike c = false

lemma inRanges_eq_false {rs : List (Nat × Nat)} {n : Nat}
    (h : ∀ r ∈ rs, n < r.1 ∨ r.2 < n) : inRanges rs n = false := by
  induction rs with
  | nil => rfl
  | cons r rs ih =>
    obtain ⟨lo, hi⟩ := r
    have hr := h _ List.mem_cons_self
    rw [inRanges, ih fun x hx => h x (List.mem_cons_of_mem _ hx)]
    split
    · rfl
    · rw [if_neg (by omega)]

lemma settled_of_code {c : Char} (h1 : c ≠ 'Σ') (h2 : c ≠ 'İ')
    (h : smallCode c.toNat = c.toNat) : Settled c :=
  ⟨h1, h2, by rw [lowerChar, h, Char.ofNat_toNat]⟩

lemma toNat_ofNat_of_valid {n : Nat} (h : n.isValidChar) : (Char.ofNat n).toNat = n := by
  have he : Char.ofNat n = Char.ofNatAux n h := dif_pos h
  rw [he]
  rfl

lemma isForm_of_covers {e : FormRow} {n : Nat} (he : e ∈ smallForms) (h : e.Covers n) :
    IsForm (Char.ofNat (n + e.2.2.2).toNat) := by
  have hs := sound_smallForms e he
  simp only [FormRow.sound, Bool.and_eq_true, decide_eq_true_eq, Nat.blt_eq] at hs
  obtain ⟨⟨⟨⟨-, h0⟩, hmax⟩, hres⟩, hcl⟩ := hs
  obtain ⟨hlo, hhi⟩ := form_bounds h
  have hself : smallCode (n + e.2.2.2).toNat = (n + e.2.2.2).toNat :=
    go_eq_self fun f hf => not_covers_form h h0 (List.all_eq_true.mp hcl f hf)
  generalize (n + e.2.2.2).toNat = m at *
  -- no form is a mark, a blank, a lookalike or half a surrogate pair, as these are reserved
  have hout : ∀ r ∈ reserved, m < r.1 ∨ r.2 < m := by
    intro r hr
    have := List.all_eq_true.mp hres r hr
    simp only [avoids, Bool.or_eq_true, Nat.blt_eq] at this
    omega
  have h1 := hout (0, 0x60) (by decide)
  have h2 := hout (0x7B, 0x7F) (by decide)
  have h3 := hout (0x130, 0x130) (by decide)
  have h4 := hout (0x3A3, 0x3A3) (by decide)
  have h5 := hout (0xD800, 0xDFFF) (by decide)
  simp only at h1 h2 h3 h4 h5
  have hval : m.isValidChar := by
    rcases h5 with h5 | h5
    · exact Or.inl h5
    · exact Or.inr ⟨h5, by omega⟩
  have hm : (Char.ofNat m).toNat = m := toNat_ofNat_of_valid hval
  refine ⟨settled_of_code ?_ ?_ (by rw [hm, hself]), ?_, ?_, ?_⟩
  · intro hc
    have : m = 0x3A3 := by rw [← hm, hc]; rfl
    omega
  · intro hc
    have : m = 0x130 := by rw [← hm, hc]; rfl
    omega
  · simp only [isMark, hm, Bool.or_eq_false_iff, Bool.and_eq_false_iff, decide_eq_false_iff_not]
    omega
  · rw [isBlank, hm]
    exact inRanges_eq_false fun r hr => hout r (by simp [reserved, hr])
  · rw [isLookalike, hm]
    have hne : m ∉ lookalikes := by
      intro hmem
      have := hout (m, m) (List.mem_append_right _ (List.mem_map.mpr ⟨m, hmem, rfl⟩))
      omega
    simpa using hne

lemma lowerChar_cases (c : Char) : lowerChar c = c ∨ IsForm (lowerChar c) := by
  rcases go_cases c.toNat smallForms with h | ⟨e, he, hcov, h⟩
  · exact Or.inl (by rw [lowerChar, smallCode, h, Char.ofNat_toNat])
  · refine Or.inr ?_
    rw [lowerChar, smallCode, h]
    exact isForm_of_covers he hcov

lemma settled_of_mark {c : Char} (h : isMark c) : Settled c := by
  simp only [isMark, Bool.or_eq_true, Bool.and_eq_true, decide_eq_true_eq] at h
  refine settled_of_code (by rintro rfl; revert h; decide) (by rintro rfl; revert h; decide) ?_
  refine go_eq_self fun e he => ?_
  have hs := sound_smallForms e he
  simp only [FormRow.sound, Bool.and_eq_true, Bool.or_eq_true, Nat.ble_eq, Nat.beq_eq] at hs
  obtain ⟨⟨⟨⟨hs, -⟩, -⟩, -⟩, -⟩ := hs
  rintro ⟨h1, h2, -⟩
  omega

lemma isForm_small : IsForm 'σ' ∧ IsForm 'ς' ∧ IsForm 'i' ∧ IsForm '\u0307' := by
  refine ⟨⟨?_, rfl, ?_, ?_⟩, ⟨?_, rfl, ?_, ?_⟩, ⟨?_, rfl, ?_, ?_⟩, ⟨?_, rfl, ?_, ?_⟩⟩
  all_goals first
    | exact settled_of_code (by decide) (by decide) (by decide)
    | decide

lemma lowerIn_of_settled {c : Char} (h : Settled c) (before after : Text) :
    lowerIn before c after = [c] := by
  rw [lowerIn, if_neg h.1, if_neg h.2.1, h.2.2]

lemma lowerIn_cases (before : Text) (c : Char) (after : Text) :
    (Settled c ∧ lowerIn before c after = [c]) ∨ ∀ d ∈ lowerIn before c after, IsForm d := by
  obtain ⟨h1, h2, h3, h4⟩ := isForm_small
  by_cases hs : c = 'Σ'
  · refine Or.inr fun d hd => ?_
    rw [lowerIn, if_pos hs, List.mem_singleton] at hd
    rw [hd]
    split
    · exact h2
    · exact h1
  by_cases hi : c = 'İ'
  · refine Or.inr fun d hd => ?_
    rw [lowerIn, if_neg hs, if_pos hi] at hd
    simp only [List.mem_cons, List.not_mem_nil, or_false] at hd
    rcases hd with rfl | rfl
    · exact h3
    · exact h4
  rcases lowerChar_cases c with h | h
  · exact Or.inl ⟨⟨hs, hi, h⟩, lowerIn_of_settled ⟨hs, hi, h⟩ before after⟩
  · refine Or.inr fun d hd => ?_
    rw [lowerIn, if_neg hs, if_neg hi, List.mem_singleton] at hd
    rw [hd]
    exact h

lemma lowerIn_ne_nil (before : Text) (c : Char) (after : Text) : lowerIn before c after ≠ [] := by
  unfold lowerIn
  split_ifs <;> simp

end LinkCleaner.Text
