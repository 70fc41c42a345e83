import LinkCleaner.Proofs.Url.Address

/-!
Authorities in small letters. Lowering an authority moves none of its delimiters, so that every
check it has passed is passed again, and it has a host if it had one.
-/

namespace LinkCleaner.Url

open Text

variable {a : Text}

lemma lowerAuthority_cases (a : Text) :
    ('@' ∉ a ∧ hostPart a = a ∧ lowerAuthority a = lower a) ∨
      ∃ x b, a = x ++ '@' :: b ∧ hostPart a = b ∧ lowerAuthority a = x ++ '@' :: lower b := by
  rcases cutLast_cases '@' a with ⟨hn, he⟩ | ⟨x, b, -, ha, he⟩
  · exact Or.inl ⟨hn, by rw [hostPart, he], by rw [lowerAuthority, he]⟩
  · exact Or.inr ⟨x, b, ha, by rw [hostPart, he], by rw [lowerAuthority, he]⟩

lemma not_at_hostPart (a : Text) : '@' ∉ hostPart a := by
  rcases cutLast_cases '@' a with ⟨hn, he⟩ | ⟨x, b, hb, -, he⟩ <;> rw [hostPart, he]
  · exact hn
  · exact hb

lemma not_at_lower_hostPart (a : Text) : '@' ∉ lower (hostPart a) := by
  rw [(small_lower _).mem_mark_iff (by decide)]
  exact not_at_hostPart a

lemma cutLast_lowerAuthority (a : Text) :
    cutLast '@' (lowerAuthority a) = ((cutLast '@' a).1, lower (hostPart a)) := by
  have hn := not_at_lower_hostPart a
  rcases cutLast_cases '@' a with ⟨-, he⟩ | ⟨x, b, -, -, he⟩
  · rw [hostPart, he] at hn ⊢
    rw [lowerAuthority, he]
    exact cutLast_of_not_mem hn
  · rw [hostPart, he] at hn ⊢
    rw [lowerAuthority, he]
    exact cutLast_append hn x

lemma hostPart_lowerAuthority (a : Text) : hostPart (lowerAuthority a) = lower (hostPart a) := by
  rw [hostPart, cutLast_lowerAuthority]

/-- Lowering an authority twice is lowering it once. -/
theorem lowerAuthority_lowerAuthority (a : Text) :
    lowerAuthority (lowerAuthority a) = lowerAuthority a := by
  have he := cutLast_lowerAuthority a
  rcases cutLast_cases '@' a with ⟨-, h⟩ | ⟨x, b, -, -, h⟩
  · rw [h] at he
    rw [lowerAuthority, he, lowerAuthority, h]
    simp only [hostPart, h, lower_lower]
  · rw [h] at he
    rw [lowerAuthority, he, lowerAuthority, h]
    simp only [hostPart, h, lower_lower]

lemma mem_lowerAuthority {d : Char} (h : d ∈ lowerAuthority a) : d ∈ a ∨ IsForm d := by
  rcases lowerAuthority_cases a with ⟨-, -, he⟩ | ⟨x, b, rfl, -, he⟩ <;> rw [he] at h
  · exact ((small_lower a).mem_right h).imp_left And.left
  · rcases List.mem_append.mp h with h | h
    · exact Or.inl (List.mem_append_left _ h)
    · rcases List.mem_cons.mp h with rfl | h
      · exact Or.inl (by simp)
      · rcases (small_lower b).mem_right h with ⟨h, -⟩ | h
        · exact Or.inl (by simp [h])
        · exact Or.inr h

lemma mem_mark_lowerAuthority {d : Char} (hd : isMark d) : d ∈ lowerAuthority a ↔ d ∈ a := by
  rcases lowerAuthority_cases a with ⟨-, -, he⟩ | ⟨x, b, ha, -, he⟩ <;> rw [he]
  · exact (small_lower a).mem_mark_iff hd
  · rw [ha]
    simp only [List.mem_append, List.mem_cons, (small_lower b).mem_mark_iff hd]

lemma lowerAuthority_eq_nil : lowerAuthority a = [] ↔ a = [] := by
  rcases lowerAuthority_cases a with ⟨-, -, he⟩ | ⟨x, b, ha, -, he⟩ <;> rw [he]
  · exact (small_lower a).eq_nil_iff
  · rw [ha]
    simp

/-! ### Host and port -/

lemma hostAndPort_small (a : Text) :
    Small (hostAndPort a).1 (hostAndPort (lowerAuthority a)).1 ∧
      Small (hostAndPort a).2 (hostAndPort (lowerAuthority a)).2 := by
  have h := small_lower (hostPart a)
  unfold hostAndPort
  rw [hostPart_lowerAuthority]
  rcases h.cut_cases (show isMark '[' by decide) with ⟨-, h1, h2⟩ | ⟨x, b, x', b', h1, h2, -, -, hb⟩
  · rw [h1, h2]
    exact ⟨h.cut_fst (by decide), h.cut_rest (by decide)⟩
  · rw [h1, h2]
    exact ⟨hb.cut_fst (by decide), (hb.cut_rest (by decide)).cut_rest (by decide)⟩

lemma hostName_eq_nil : hostName a = [] ↔ (hostAndPort a).1 = [] := by
  unfold hostName
  rcases cut_cases '%' (hostAndPort a).1 with ⟨-, he⟩ | ⟨x, b, -, hs, he⟩ <;> rw [he]
  · exact (small_lower _).eq_nil_iff
  · rw [hs]
    simp

lemma hostName_lowerAuthority_eq_nil : hostName (lowerAuthority a) = [] ↔ hostName a = [] := by
  rw [hostName_eq_nil, hostName_eq_nil]
  exact (hostAndPort_small a).1.eq_nil_iff

lemma hostName_nil : hostName [] = [] := by decide

/-! ### Checks -/

lemma checkBrackets_lowerAuthority (h : checkBrackets a = .ok ()) :
    checkBrackets (lowerAuthority a) = .ok () := by
  have hmark : ∀ d : Char, isMark d → (lowerAuthority a).contains d = a.contains d := by
    intro d hd
    rw [Bool.eq_iff_iff, List.contains_iff_mem, List.contains_iff_mem]
    exact mem_mark_lowerAuthority hd
  have hs := small_lower (hostPart a)
  unfold checkBrackets at h ⊢
  simp only [hmark '[' (by decide), hmark ']' (by decide), hostPart_lowerAuthority]
  simp only at h
  split_ifs at h ⊢ with h1 h2
  · rfl
  · rcases hs.cut_cases (show isMark '[' by decide) with
      ⟨-, e1, e2⟩ | ⟨x, b, x', b', e1, e2, -, hx, hb⟩
    · rw [e1] at h
      rw [e2]
      exact checkBracketed_small (hs.cut_fst (by decide)) h
    · have hafter := hb.cut_rest (show isMark ']' by decide)
      rw [e1] at h
      rw [e2]
      simp only at h ⊢
      rw [hx.isEmpty_eq, hafter.isEmpty_eq, hafter.starts_mark (by decide)]
      split_ifs at h ⊢
      exact checkBracketed_small (hb.cut_fst (by decide)) h

lemma checkLookalikes_lowerAuthority (h : checkLookalikes a = .ok ()) :
    checkLookalikes (lowerAuthority a) = .ok () := by
  unfold checkLookalikes at h ⊢
  split_ifs at h with h1
  rw [if_neg]
  simp only [List.any_eq_true, not_exists, not_and] at h1 ⊢
  intro d hd
  rcases mem_lowerAuthority hd with hd | hf
  · exact h1 d hd
  · simp [hf.lookalike]

lemma checkPort_small {s t : Text} (hs : Small s t) (h : checkPort s = .ok ()) :
    checkPort t = .ok () := by
  have hsame : t = s := by
    refine hs.eq_of_settled fun c hc => settled_of_mark ?_
    unfold checkPort at h
    split_ifs at h with h1 h2 h3 h4
    · rw [List.isEmpty_iff] at h1
      simp [h1] at hc
    · simp only [Bool.not_eq_true', Bool.not_eq_false, List.all_eq_true] at h2
      exact isMark_of_digit (h2 c hc)
  rw [hsame, h]

lemma checkAuthority_eq_ok :
    checkAuthority a = .ok () ↔ checkBrackets a = .ok () ∧ checkLookalikes a = .ok () ∧
      checkPort (hostAndPort a).2 = .ok () := by
  unfold checkAuthority
  cases checkBrackets a with
  | error e => simp [bind, Except.bind]
  | ok x =>
    cases checkLookalikes a with
    | error e => simp [bind, Except.bind]
    | ok y => simp [bind, Except.bind]

/-- **An authority that passed its checks passes them in small letters.** -/
theorem checkAuthority_lowerAuthority (h : checkAuthority a = .ok ()) :
    checkAuthority (lowerAuthority a) = .ok () := by
  rw [checkAuthority_eq_ok] at h ⊢
  exact ⟨checkBrackets_lowerAuthority h.1, checkLookalikes_lowerAuthority h.2.1,
    checkPort_small (hostAndPort_small a).2 h.2.2⟩

end LinkCleaner.Url
