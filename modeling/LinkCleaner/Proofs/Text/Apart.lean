import LinkCleaner.Proofs.Text.Lowered

/-!
Texts that are lowered part by part. A letter is lowered with a look at what stands around it, as
far as the next character that counts; where that has no case, each side is lowered as if it stood
alone.
-/

namespace LinkCleaner.Text

/-- A character that counts and has no case. -/
def isStop (c : Char) : Bool := !isCaseIgnorable c && !isCased c

lemma meetsCased_cons_stop {c : Char} (hc : isStop c) (r : Text) : meetsCased (c :: r) = false := by
  simp only [isStop, Bool.and_eq_true, Bool.not_eq_true'] at hc
  rw [meetsCased, List.dropWhile_cons_of_neg (by simp [hc.1])]
  exact hc.2

lemma meetsCased_append {t : Text} (h : meetsCased t = false) (s : Text) :
    meetsCased (s ++ t) = meetsCased s := by
  rw [meetsCased, meetsCased, List.dropWhile_append]
  cases hs : s.dropWhile isCaseIgnorable with
  | nil => exact h
  | cons c r => rfl

lemma lowerIn_append_after {t : Text} (h : meetsCased t = false) (before : Text) (c : Char)
    (after : Text) : lowerIn before c (after ++ t) = lowerIn before c after := by
  rw [lowerIn, lowerIn, endsWord, endsWord, meetsCased_append h]

lemma lowerIn_append_before {t : Text} (h : meetsCased t = false) (before : Text) (c : Char)
    (after : Text) : lowerIn (before ++ t) c after = lowerIn before c after := by
  rw [lowerIn, lowerIn, endsWord, endsWord, meetsCased_append h]

lemma lowerFrom_append_before {t : Text} (h : meetsCased t = false) (before s : Text) :
    lowerFrom (before ++ t) s = lowerFrom before s := by
  induction s generalizing before with
  | nil => rfl
  | cons c r ih => rw [lowerFrom, lowerFrom, lowerIn_append_before h, ← List.cons_append, ih]

lemma lowerFrom_append {t : Text} (h : meetsCased t = false) (before s : Text) :
    lowerFrom before (s ++ t) = lowerFrom before s ++ lowerFrom (s.reverse ++ before) t := by
  induction s generalizing before with
  | nil => rfl
  | cons c r ih =>
    rw [List.cons_append, lowerFrom, lowerFrom, lowerIn_append_after h, ih, List.append_assoc,
      List.reverse_cons, List.append_assoc, List.singleton_append]

lemma lower_append {t : Text} (h : meetsCased t = false) (s : Text) :
    lower (s ++ t) = lower s ++ lowerFrom s.reverse t := by
  rw [lower, lowerFrom_append h, List.append_nil]
  rfl

/-- **The two sides of a stop are lowered apart.** -/
theorem lower_append_stop {c : Char} (hs : isStop c) (hc : Settled c) (s t : Text) :
    lower (s ++ c :: t) = lower s ++ c :: lower t := by
  have hside : lowerFrom (c :: s.reverse) t = lower t :=
    lowerFrom_append_before (meetsCased_cons_stop hs s.reverse) [] t
  rw [lower_append (meetsCased_cons_stop hs t), lowerFrom, lowerIn_of_settled hc, hside]
  rfl

end LinkCleaner.Text
