import Mathlib.Data.List.Forall2
import LinkCleaner.Proofs.Text.Cut
import LinkCleaner.Proofs.Text.SmallForms

/-!
A text in small letters, character by character. Lowering a text twice is lowering it once, and it
moves no delimiter: cuts and pieces of the lowered text are those of the text, lowered.
-/

namespace LinkCleaner.Text

/-- The second text is the first with each character lowered in some surroundings. -/
inductive Small : Text → Text → Prop where
  | nil : Small [] []
  | cons {s t : Text} (before : Text) (c : Char) (after : Text) (h : Small s t) :
    Small (c :: s) (lowerIn before c after ++ t)

lemma small_lowerFrom (before s : Text) : Small s (lowerFrom before s) := by
  induction s generalizing before with
  | nil => exact .nil
  | cons c r ih => exact .cons before c r (ih (c :: before))

lemma small_lower (s : Text) : Small s (lower s) := small_lowerFrom [] s

namespace Small

variable {s t : Text}

lemma mem_right (h : Small s t) {d : Char} (hd : d ∈ t) : (d ∈ s ∧ Settled d) ∨ IsForm d := by
  induction h with
  | nil => simp at hd
  | cons before c after h ih =>
    rcases List.mem_append.mp hd with hd | hd
    · rcases lowerIn_cases before c after with ⟨hs, he⟩ | hf
      · rw [he, List.mem_singleton] at hd
        exact Or.inl (by simp [hd, hs])
      · exact Or.inr (hf d hd)
    · rcases ih hd with ⟨h1, h2⟩ | h1
      · exact Or.inl ⟨List.mem_cons_of_mem _ h1, h2⟩
      · exact Or.inr h1

lemma eq_nil_iff (h : Small s t) : t = [] ↔ s = [] := by
  cases h with
  | nil => simp
  | cons before c after h => simp [lowerIn_ne_nil]

lemma append_left {a b : Text} (h : Small (a ++ b) t) :
    ∃ a' b', t = a' ++ b' ∧ Small a a' ∧ Small b b' := by
  induction a generalizing t with
  | nil => exact ⟨[], t, rfl, .nil, h⟩
  | cons c r ih =>
    cases h with
    | cons before c after h =>
      obtain ⟨a', b', rfl, ha, hb⟩ := ih h
      exact ⟨_, b', (List.append_assoc _ _ _).symm, .cons before c after ha, hb⟩

lemma cons_settled {c : Char} (h : Small (c :: s) t) (hc : Settled c) :
    ∃ r, t = c :: r ∧ Small s r := by
  cases h with
  | cons before c after h => exact ⟨_, by rw [lowerIn_of_settled hc]; rfl, h⟩

lemma eq_of_settled (h : Small s t) (hs : ∀ c ∈ s, Settled c) : t = s := by
  induction h with
  | nil => rfl
  | cons before c after h ih =>
    rw [lowerIn_of_settled (hs c List.mem_cons_self),
      ih fun d hd => hs d (List.mem_cons_of_mem _ hd)]
    rfl

lemma mem_mark_iff (h : Small s t) {d : Char} (hd : isMark d) : d ∈ t ↔ d ∈ s := by
  constructor
  · intro hm
    rcases h.mem_right hm with ⟨hm, -⟩ | hf
    · exact hm
    · rw [hf.mark] at hd
      simp at hd
  · intro hm
    obtain ⟨a, b, rfl⟩ := List.append_of_mem hm
    obtain ⟨a', b', rfl, -, hb⟩ := h.append_left
    obtain ⟨r, rfl, -⟩ := hb.cons_settled (settled_of_mark hd)
    simp

lemma cut_cases {sep : Char} (hm : isMark sep) (h : Small s t) :
    (sep ∉ s ∧ cut sep s = (s, none) ∧ cut sep t = (t, none)) ∨
      ∃ a b a' b', cut sep s = (a, some b) ∧ cut sep t = (a', some b') ∧ s = a ++ sep :: b ∧
        Small a a' ∧ Small b b' := by
  rcases Text.cut_cases sep s with ⟨hn, he⟩ | ⟨a, b, ha, rfl, he⟩
  · have ht : sep ∉ t := by rwa [h.mem_mark_iff hm]
    exact Or.inl ⟨hn, he, cut_of_not_mem ht⟩
  · obtain ⟨a', b', rfl, h1, h2⟩ := h.append_left
    obtain ⟨r, rfl, h3⟩ := h2.cons_settled (settled_of_mark hm)
    have ha' : sep ∉ a' := by rwa [h1.mem_mark_iff hm]
    exact Or.inr ⟨a, b, a', r, he, cut_append ha' r, rfl, h1, h3⟩

lemma cut_fst {sep : Char} (hm : isMark sep) (h : Small s t) :
    Small (cut sep s).1 (cut sep t).1 := by
  rcases h.cut_cases hm with ⟨-, h1, h2⟩ | ⟨a, b, a', b', h1, h2, -, ha, -⟩ <;> rw [h1, h2]
  · exact h
  · exact ha

lemma cut_rest {sep : Char} (hm : isMark sep) (h : Small s t) :
    Small ((cut sep s).2.getD []) ((cut sep t).2.getD []) := by
  rcases h.cut_cases hm with ⟨-, h1, h2⟩ | ⟨a, b, a', b', h1, h2, -, -, hb⟩ <;> rw [h1, h2]
  · exact .nil
  · exact hb

lemma isEmpty_eq (h : Small s t) : t.isEmpty = s.isEmpty := by
  rw [Bool.eq_iff_iff, List.isEmpty_iff, List.isEmpty_iff]
  exact h.eq_nil_iff

lemma contains_mark (h : Small s t) {d : Char} (hd : isMark d) : t.contains d = s.contains d := by
  rw [Bool.eq_iff_iff, List.contains_iff_mem, List.contains_iff_mem]
  exact h.mem_mark_iff hd

lemma starts_mark (h : Small s t) {d : Char} (hd : isMark d) :
    [d].isPrefixOf t = [d].isPrefixOf s := by
  cases h with
  | nil => rfl
  | cons before c after h =>
    by_cases hc : d = c
    · subst hc
      rw [lowerIn_of_settled (settled_of_mark hd)]
      simp
    · rcases lowerIn_cases before c after with ⟨-, he⟩ | hf
      · simp [he, List.isPrefixOf]
      · obtain ⟨e, r, he⟩ := List.exists_cons_of_ne_nil (lowerIn_ne_nil before c after)
        have hne : d ≠ e := by
          rintro rfl
          have := (hf d (by rw [he]; exact List.mem_cons_self)).mark
          simp [hd] at this
        simp [he, List.isPrefixOf, hc, hne]

lemma pieces {sep : Char} (hm : isMark sep) (h : Small s t) :
    List.Forall₂ Small (pieces sep s) (pieces sep t) := by
  induction h with
  | nil => exact .cons .nil .nil
  | @cons s t before c after h ih =>
    by_cases hc : c = sep
    · subst hc
      rw [lowerIn_of_settled (settled_of_mark hm), List.singleton_append]
      simpa [Text.pieces] using And.intro Small.nil ih
    · have hl : sep ∉ lowerIn before c after := by
        intro hmem
        rcases lowerIn_cases before c after with ⟨-, he⟩ | hf
        · rw [he, List.mem_singleton] at hmem
          exact hc hmem.symm
        · rw [(hf sep hmem).mark] at hm
          simp at hm
      have hc' : sep ∉ [c] := by simpa using Ne.symm hc
      obtain ⟨p, ps, h1, h2⟩ := pieces_append_of_not_mem hc' s
      obtain ⟨q, qs, h3, h4⟩ := pieces_append_of_not_mem hl t
      rw [h1, h3] at ih
      rw [← List.singleton_append, h2, h4]
      cases ih with
      | cons hp hps => exact .cons (.cons before c after hp) hps

end Small

lemma settled_of_mem_lower {s : Text} {d : Char} (h : d ∈ lower s) : Settled d := by
  rcases (small_lower s).mem_right h with ⟨-, h⟩ | h
  · exact h
  · exact h.settled

/-- **Lowering twice is lowering once.** -/
theorem lower_lower (s : Text) : lower (lower s) = lower s :=
  (small_lower (lower s)).eq_of_settled fun _ hd => settled_of_mem_lower hd

end LinkCleaner.Text
