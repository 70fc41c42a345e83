import Mathlib.Tactic.Lemma
import LinkCleaner.Text.Basic

/-!
What cuts at a character leave: the part without the character, and the way back to the whole.
Joined pieces come apart again at the character that joined them.
-/

namespace LinkCleaner.Text

variable {sep : Char} {s : Text}

lemma cut_cases (sep : Char) (s : Text) :
    (sep ∉ s ∧ cut sep s = (s, none)) ∨
      ∃ a b, sep ∉ a ∧ s = a ++ sep :: b ∧ cut sep s = (a, some b) := by
  induction s with
  | nil => exact Or.inl ⟨by simp, rfl⟩
  | cons c r ih =>
    by_cases hc : c = sep
    · subst hc
      exact Or.inr ⟨[], r, by simp, rfl, by simp⟩
    · rcases ih with ⟨hn, he⟩ | ⟨a, b, ha, rfl, he⟩
      · refine Or.inl ⟨by simp [hn, Ne.symm hc], ?_⟩
        rw [cut, if_neg hc, he]
      · refine Or.inr ⟨c :: a, b, by simp [ha, Ne.symm hc], rfl, ?_⟩
        rw [cut, if_neg hc, he]

lemma cutLast_cases (sep : Char) (s : Text) :
    (sep ∉ s ∧ cutLast sep s = (none, s)) ∨
      ∃ a b, sep ∉ b ∧ s = a ++ sep :: b ∧ cutLast sep s = (some a, b) := by
  rcases cut_cases sep s.reverse with ⟨hn, he⟩ | ⟨a, b, ha, hs, he⟩
  · exact Or.inl ⟨by simpa using hn, by rw [cutLast, he]⟩
  · refine Or.inr ⟨b.reverse, a.reverse, by simpa using ha, ?_, by rw [cutLast, he]⟩
    rw [← List.reverse_reverse s, hs]
    simp

lemma cutLast_append {b : Text} (h : sep ∉ b) (a : Text) :
    cutLast sep (a ++ sep :: b) = (some a, b) := by
  have he : (a ++ sep :: b).reverse = b.reverse ++ sep :: a.reverse := by simp
  rw [cutLast, he, cut_append (by simpa using h)]
  simp

lemma cut_fst_sublist (sep : Char) (s : Text) : (cut sep s).1.Sublist s := by
  rcases cut_cases sep s with ⟨-, he⟩ | ⟨a, b, -, rfl, he⟩
  · simp only [he, List.Sublist.refl]
  · rw [he]
    exact List.sublist_append_left a (sep :: b)

lemma cut_rest_sublist (sep : Char) (s : Text) : ((cut sep s).2.getD []).Sublist s := by
  rcases cut_cases sep s with ⟨-, he⟩ | ⟨a, b, -, rfl, he⟩ <;> rw [he]
  · exact List.nil_sublist s
  · exact (List.sublist_cons_self sep b).trans (List.sublist_append_right a (sep :: b))

lemma mem_of_mem_cut {c : Char} (h : c ∈ (cut sep s).1) : c ∈ s :=
  (cut_fst_sublist sep s).mem h

lemma mem_of_mem_cut_rest {c : Char} (h : c ∈ (cut sep s).2.getD []) : c ∈ s :=
  (cut_rest_sublist sep s).mem h

lemma not_mem_cut (sep : Char) (s : Text) : sep ∉ (cut sep s).1 := by
  rcases cut_cases sep s with ⟨hn, he⟩ | ⟨a, b, ha, -, he⟩ <;> rw [he]
  · exact hn
  · exact ha

/-! ### Pieces -/

lemma pieces_of_not_mem (h : sep ∉ s) : pieces sep s = [s] := by
  induction s with
  | nil => rfl
  | cons c r ih =>
    simp only [List.mem_cons, not_or] at h
    rw [pieces, if_neg (Ne.symm h.1), ih h.2]

lemma pieces_append (h : sep ∉ s) (r : Text) : pieces sep (s ++ sep :: r) = s :: pieces sep r := by
  induction s with
  | nil => simp [pieces]
  | cons c t ih =>
    simp only [List.mem_cons, not_or] at h
    rw [List.cons_append, pieces, if_neg (Ne.symm h.1), ih h.2]

lemma pieces_append_of_not_mem (h : sep ∉ s) (r : Text) :
    ∃ p ps, pieces sep r = p :: ps ∧ pieces sep (s ++ r) = (s ++ p) :: ps := by
  induction s with
  | nil =>
    obtain ⟨p, ps, hp⟩ := List.exists_cons_of_ne_nil (pieces_ne_nil sep r)
    exact ⟨p, ps, hp, hp⟩
  | cons c t ih =>
    simp only [List.mem_cons, not_or] at h
    obtain ⟨p, ps, h1, h2⟩ := ih h.2
    refine ⟨p, ps, h1, ?_⟩
    rw [List.cons_append, pieces, if_neg (Ne.symm h.1), h2]
    rfl

lemma mem_pieces (sep : Char) {c : Char} (h : c ∈ s) :
    c = sep ∨ ∃ p ∈ pieces sep s, c ∈ p := by
  induction s with
  | nil => simp at h
  | cons d r ih =>
    by_cases hd : d = sep
    · rw [pieces, if_pos hd]
      rcases List.mem_cons.mp h with rfl | h
      · exact Or.inl hd
      · rcases ih h with h | ⟨p, hp, h⟩
        · exact Or.inl h
        · exact Or.inr ⟨p, List.mem_cons_of_mem _ hp, h⟩
    · have hs : sep ∉ [d] := by simpa using Ne.symm hd
      obtain ⟨p, ps, h1, h2⟩ := pieces_append_of_not_mem hs r
      rw [← List.singleton_append, h2]
      rcases List.mem_cons.mp h with rfl | h
      · exact Or.inr ⟨_, List.mem_cons_self, by simp⟩
      · rcases ih h with h | ⟨q, hq, h⟩
        · exact Or.inl h
        · rw [h1] at hq
          rcases List.mem_cons.mp hq with rfl | hq
          · exact Or.inr ⟨_, List.mem_cons_self, by simp [h]⟩
          · exact Or.inr ⟨q, List.mem_cons_of_mem _ hq, h⟩

lemma pieces_join {ps : List Text} (hne : ps ≠ []) (h : ∀ p ∈ ps, sep ∉ p) :
    pieces sep (join [sep] ps) = ps := by
  induction ps with
  | nil => exact absurd rfl hne
  | cons p ps ih =>
    have hp : sep ∉ p := h p List.mem_cons_self
    cases ps with
    | nil => exact pieces_of_not_mem hp
    | cons q qs =>
      have he : join [sep] (p :: q :: qs) = p ++ sep :: join [sep] (q :: qs) := by simp [join]
      rw [he, pieces_append hp, ih (by simp) fun x hx => h x (List.mem_cons_of_mem _ hx)]

lemma mem_join {c : Char} {j : Text} {ps : List Text} (h : c ∈ join j ps) :
    c ∈ j ∨ ∃ p ∈ ps, c ∈ p := by
  induction ps with
  | nil => simp [join] at h
  | cons p ps ih =>
    cases ps with
    | nil => exact Or.inr ⟨p, by simp, h⟩
    | cons q qs =>
      simp only [join, List.append_assoc, List.mem_append] at h
      rcases h with h | h | h
      · exact Or.inr ⟨p, by simp, h⟩
      · exact Or.inl h
      · rcases ih h with h | ⟨x, hx, h⟩
        · exact Or.inl h
        · exact Or.inr ⟨x, List.mem_cons_of_mem _ hx, h⟩

/-! ### Trimming -/

lemma trim_sublist (s : Text) : (trim s).Sublist s := by
  have hl : (trimLeft s).Sublist s := List.dropWhile_sublist _
  have hr : (trimRight (trimLeft s)).Sublist (trimLeft s) := by
    have h := (List.dropWhile_sublist (l := (trimLeft s).reverse) isBlank).reverse
    rwa [List.reverse_reverse] at h
  exact hr.trans hl

lemma trimLeft_blanks {before : Text} (h : ∀ c ∈ before, isBlank c) (s : Text) :
    trimLeft (before ++ s) = trimLeft s :=
  List.dropWhile_append_of_pos h

lemma trimLeft_of_no_blank (h : ∀ c ∈ s, isBlank c = false) : trimLeft s = s := by
  cases s with
  | nil => rfl
  | cons c r => exact List.dropWhile_cons_of_neg (by simp [h c List.mem_cons_self])

lemma trimRight_blanks {after : Text} (h : ∀ c ∈ after, isBlank c)
    (hs : ∀ c ∈ s, isBlank c = false) : trimRight (s ++ after) = s := by
  have hr : trimLeft (after.reverse ++ s.reverse) = s.reverse := by
    rw [trimLeft_blanks fun c hc => h c (List.mem_reverse.mp hc),
      trimLeft_of_no_blank fun c hc => hs c (List.mem_reverse.mp hc)]
  rw [trimRight, List.reverse_append]
  exact (congrArg List.reverse hr).trans (List.reverse_reverse s)

lemma trim_around {before after : Text} (hb : ∀ c ∈ before, isBlank c)
    (hs : ∀ c ∈ s, isBlank c = false) (ha : ∀ c ∈ after, isBlank c) :
    trim (before ++ s ++ after) = s := by
  rw [trim, List.append_assoc, trimLeft_blanks hb]
  cases s with
  | nil =>
    have h : trimLeft (after ++ []) = [] := trimLeft_blanks ha []
    rw [List.append_nil] at h
    rw [List.nil_append, h]
    rfl
  | cons c r =>
    have hc : trimLeft (c :: r ++ after) = c :: r ++ after :=
      List.dropWhile_cons_of_neg (by simp [hs c List.mem_cons_self])
    rw [hc, trimRight_blanks ha hs]

lemma trim_eq_self (h : ∀ c ∈ s, isBlank c = false) : trim s = s := by
  have hs := trim_around (List.forall_mem_nil _) h (List.forall_mem_nil _)
  rwa [List.nil_append, List.append_nil] at hs

end LinkCleaner.Text
