import LinkCleaner.Proofs.Text.Ascii
import LinkCleaner.Proofs.Text.Lowered
import LinkCleaner.Url.Parse

/-!
Numeric hosts in small letters: what is an address stays one, and a lowered address is not taken
for an address of another kind.
-/

namespace LinkCleaner.Url

open Text

/-! ### Characters of an address -/

lemma isMark_of_digit {c : Char} (h : isAsciiDigit c) : isMark c := by
  have hb := digit_bounds h
  simp only [isMark, Bool.or_eq_true, decide_eq_true_eq]
  omega

lemma lowerIn_hex {c : Char} (h : isHex c) (before after : Text) :
    ∃ d, lowerIn before c after = [d] ∧ isHex d := by
  have hc : isHex c → c ≠ 'Σ' ∧ c ≠ 'İ' ∧ isHex (lowerChar c) :=
    of_ascii c (toNat_lt_of_hex h) (by decide)
  obtain ⟨h1, h2, h3⟩ := hc h
  exact ⟨lowerChar c, by rw [lowerIn, if_neg h1, if_neg h2], h3⟩

lemma small_hex {s t : Text} (h : Small s t) (hs : ∀ c ∈ s, isHex c) :
    t.length = s.length ∧ ∀ c ∈ t, isHex c := by
  induction h with
  | nil => simp
  | cons before c after h ih =>
    obtain ⟨d, hd, hx⟩ := lowerIn_hex (hs c List.mem_cons_self) before after
    obtain ⟨h1, h2⟩ := ih fun e he => hs e (List.mem_cons_of_mem _ he)
    rw [hd]
    refine ⟨by simp [h1], fun e he => ?_⟩
    rcases List.mem_cons.mp he with rfl | he
    · exact hx
    · exact h2 e he

lemma isGroup_small {s t : Text} (h : Small s t) (hs : isGroup s) : isGroup t := by
  simp only [isGroup, Bool.and_eq_true, List.all_eq_true, decide_eq_true_eq] at hs ⊢
  obtain ⟨⟨h1, h2⟩, h3⟩ := hs
  obtain ⟨h4, h5⟩ := small_hex h h3
  exact ⟨⟨by rw [h.isEmpty_eq, h1], by omega⟩, h5⟩

lemma mem_dotted {s : Text} (h : isDottedAddress s) {c : Char} (hc : c ∈ s) :
    c = '.' ∨ isAsciiDigit c := by
  simp only [isDottedAddress, Bool.and_eq_true, List.all_eq_true] at h
  rcases mem_pieces '.' hc with hc | ⟨p, hp, hc⟩
  · exact Or.inl hc
  · have ho := h.2 p hp
    simp only [isOctet, Bool.and_eq_true, List.all_eq_true] at ho
    exact Or.inr (ho.1.1.1.2 c hc)

lemma dotted_small {s t : Text} (h : Small s t) (hs : isDottedAddress s) : t = s := by
  refine h.eq_of_settled fun c hc => settled_of_mark ?_
  rcases mem_dotted hs hc with rfl | hd
  · decide
  · exact isMark_of_digit hd

/-! ### Colon addresses -/

/-- Parts, one by one in small letters. -/
abbrev SmallParts : List Text → List Text → Prop := List.Forall₂ Small

lemma all_isGroup_small {ps qs : List Text} (h : SmallParts ps qs) (hp : ps.all isGroup) :
    qs.all isGroup := by
  induction h with
  | nil => rfl
  | cons ha h ih =>
    simp only [List.all_cons, Bool.and_eq_true] at hp ⊢
    exact ⟨isGroup_small ha hp.1, ih hp.2⟩

lemma beq_empty_small {ps qs : List Text} (h : SmallParts ps qs) :
    (qs == [[]]) = (ps == [[]]) := by
  rw [Bool.eq_iff_iff, beq_iff_eq, beq_iff_eq]
  cases h with
  | nil => simp
  | cons ha h =>
    cases h with
    | nil => simp [ha.eq_nil_iff]
    | cons hb h => simp

lemma getD_small {ps qs : List Text} (h : SmallParts ps qs) (i : Nat) :
    Small (ps.getD i []) (qs.getD i []) := by
  induction h generalizing i with
  | nil => exact .nil
  | cons ha h ih =>
    cases i with
    | zero => exact ha
    | succ i => exact ih i

lemma innerGaps_small {ps qs : List Text} (h : SmallParts ps qs) : innerGaps qs = innerGaps ps := by
  unfold innerGaps
  rw [h.length_eq]
  refine List.filter_congr fun i _ => ?_
  rw [(getD_small h i).isEmpty_eq]

lemma areGroups_small {ps qs : List Text} (h : SmallParts ps qs) (hp : areGroups ps) :
    areGroups qs := by
  -- one side of the gap, where a single empty part counts for nothing
  have side : ∀ {as bs : List Text}, SmallParts as bs →
      SmallParts (if as == [[]] then [] else as) (if bs == [[]] then [] else bs) := by
    intro as bs hab
    rw [beq_empty_small hab]
    split
    · exact .nil
    · exact hab
  unfold areGroups at hp ⊢
  rw [innerGaps_small h]
  split at hp
  · simp only [Bool.and_eq_true] at hp ⊢
    exact ⟨by rw [← h.length_eq]; exact hp.1, all_isGroup_small h hp.2⟩
  · next gap _ =>
    simp only [Bool.and_eq_true, decide_eq_true_eq] at hp ⊢
    have h1 := side (List.forall₂_take gap h)
    have h2 := side (List.forall₂_drop (gap + 1) h)
    obtain ⟨⟨g1, g2⟩, g3⟩ := hp
    refine ⟨⟨all_isGroup_small h1 g1, all_isGroup_small h2 g2⟩, ?_⟩
    rw [← h1.length_eq, ← h2.length_eq]
    exact g3
  · simp at hp

lemma expandDotted_small {ps qs rs : List Text} (h : SmallParts ps qs)
    (hp : expandDotted ps = some rs) : ∃ ts, expandDotted qs = some ts ∧ SmallParts rs ts := by
  have hr : SmallParts ps.reverse qs.reverse := List.rel_reverse h
  unfold expandDotted at hp ⊢
  generalize ps.reverse = ps' at hr hp
  generalize qs.reverse = qs' at hr
  cases hr with
  | nil => exact ⟨[], rfl, by cases hp; exact .nil⟩
  | @cons last last' before before' hl hb =>
    simp only at hp ⊢
    rw [hl.contains_mark (by decide)]
    by_cases hdot : last.contains '.'
    · rw [if_pos hdot] at hp ⊢
      by_cases hd : isDottedAddress last
      · rw [if_pos hd] at hp
        cases hp
        rw [dotted_small hl hd, if_pos hd]
        exact ⟨_, rfl, List.rel_append (List.rel_reverse hb)
          (.cons (small_lower ['0']) (.cons (small_lower ['0']) .nil))⟩
      · rw [if_neg hd] at hp
        cases hp
    · rw [if_neg hdot] at hp ⊢
      cases hp
      exact ⟨qs, rfl, h⟩

lemma isColonAddress_small {s t : Text} (h : Small s t) (hs : isColonAddress s) :
    isColonAddress t := by
  have hparts := (h.cut_fst (show isMark '%' by decide)).pieces (show isMark ':' by decide)
  have hzone : zoneIsSound (cut '%' s).2 → zoneIsSound (cut '%' t).2 := by
    rcases h.cut_cases (show isMark '%' by decide) with
      ⟨-, h1, h2⟩ | ⟨a, b, a', b', h1, h2, -, -, hb⟩
    · rw [h1, h2]
      exact id
    · rw [h1, h2]
      simp only [zoneIsSound, Bool.and_eq_true]
      rw [hb.isEmpty_eq, hb.contains_mark (by decide)]
      exact id
  unfold isColonAddress at hs ⊢
  simp only [Bool.and_eq_true, decide_eq_true_eq] at hs ⊢
  obtain ⟨⟨⟨h1, h2⟩, h3⟩, h4⟩ := hs
  refine ⟨⟨⟨by rw [h.contains_mark (by decide)]; exact h1, hzone h2⟩, ?_⟩, ?_⟩
  · rw [← hparts.length_eq]
    exact h3
  · cases he : expandDotted (pieces ':' (cut '%' s).1) with
    | none => simp [he] at h4
    | some rs =>
      obtain ⟨ts, ht, hrel⟩ := expandDotted_small hparts he
      simp only [he, Bool.and_eq_true, decide_eq_true_eq] at h4
      simp only [ht, Bool.and_eq_true, decide_eq_true_eq]
      exact ⟨by rw [← hrel.length_eq]; exact h4.1, areGroups_small hrel h4.2⟩

/-! ### One kind of address is not another -/

lemma colon_mem {s : Text} (h : isColonAddress s) : ':' ∈ s := by
  unfold isColonAddress at h
  simp only [Bool.and_eq_true, decide_eq_true_eq] at h
  obtain ⟨⟨-, h3⟩, -⟩ := h
  by_contra hn
  have hc : ':' ∉ (cut '%' s).1 := fun hm => hn (mem_of_mem_cut hm)
  rw [pieces_of_not_mem hc] at h3
  simp at h3

lemma not_dotted_of_colon {s : Text} (h : isColonAddress s) : isDottedAddress s = false := by
  by_contra hd
  rw [Bool.not_eq_false] at hd
  rcases mem_dotted hd (colon_mem h) with h | h <;> revert h <;> decide

lemma expandDotted_cons {p q : Text} {ps rs : List Text}
    (h : expandDotted (p :: q :: ps) = some rs) : ∃ l, rs = p :: l := by
  have hrev : (p :: q :: ps).reverse = (q :: ps).reverse ++ [p] := by simp
  unfold expandDotted at h
  rw [hrev] at h
  cases hq : (q :: ps).reverse with
  | nil => simp at hq
  | cons last before =>
    rw [hq, List.cons_append] at h
    simp only at h
    split_ifs at h
    · cases h
      exact ⟨before.reverse ++ [['0'], ['0']], by simp⟩
    · cases h
      exact ⟨_, rfl⟩

lemma isGroup_of_areGroups {p : Text} {ps : List Text} (h : areGroups (p :: ps)) (hp : p ≠ []) :
    isGroup p := by
  unfold areGroups at h
  split at h
  · simp only [List.all_cons, Bool.and_eq_true] at h
    exact h.2.1
  · next gap hgap =>
    have hpos : 0 < gap := by
      have hm : gap ∈ innerGaps (p :: ps) := by rw [hgap]; exact List.mem_singleton_self _
      simp only [innerGaps, List.mem_filter, Bool.and_eq_true, decide_eq_true_eq] at hm
      exact hm.2.1.1
    obtain ⟨k, rfl⟩ : ∃ k, gap = k + 1 := ⟨gap - 1, by omega⟩
    have hne : (p :: ps.take k == [[]]) = false := by
      rw [beq_eq_false_iff_ne]
      intro he
      exact hp (List.cons.inj he).1
    simp only [List.take_succ_cons, hne, Bool.false_eq_true, if_false, List.all_cons,
      Bool.and_eq_true] at h
    exact h.1.1.1
  · simp at h

lemma not_future_of_colon {r : Text} : isColonAddress ('v' :: r) = false := by
  by_contra h
  rw [Bool.not_eq_false] at h
  have hv : cut '%' ('v' :: r) = ('v' :: (cut '%' r).1, (cut '%' r).2) := by simp [cut]
  unfold isColonAddress at h
  rw [hv] at h
  simp only [Bool.and_eq_true, decide_eq_true_eq] at h
  obtain ⟨⟨-, h3⟩, h4⟩ := h
  obtain ⟨p, ps, hp, hps⟩ := pieces_append_of_not_mem (show ':' ∉ ['v'] by decide)
    (cut '%' r).1
  simp only [List.singleton_append] at hps
  rw [hps] at h3 h4
  cases ps with
  | nil => simp at h3
  | cons q qs =>
    cases he : expandDotted (('v' :: p) :: q :: qs) with
    | none => simp [he] at h4
    | some rs =>
      obtain ⟨l, rfl⟩ := expandDotted_cons he
      simp only [he, Bool.and_eq_true] at h4
      have hg := isGroup_of_areGroups h4.2 (by simp)
      simp only [isGroup, List.all_cons, Bool.and_eq_true] at hg
      exact absurd hg.2.1 (by decide)

/-! ### The form kept for later -/

lemma settled_v : Settled 'v' := settled_of_code (by decide) (by decide) (by decide)

lemma isFutureAddress_small {r t : Text} (h : Small ('v' :: r) t)
    (hs : isFutureAddress ('v' :: r)) : ∃ u, t = 'v' :: u ∧ isFutureAddress t := by
  obtain ⟨u, rfl, hu⟩ := h.cons_settled settled_v
  refine ⟨u, rfl, ?_⟩
  simp only [isFutureAddress] at hs ⊢
  split at hs
  · next rest hrest =>
    have hr : r = r.takeWhile isHex ++ '.' :: rest := by
      rw [← hrest]
      exact (List.prefix_iff_eq_append.mp (List.takeWhile_prefix isHex)).symm
    have hx : ∀ c ∈ r.takeWhile isHex, isHex c := List.all_eq_true.mp List.all_takeWhile
    generalize r.takeWhile isHex = version at hr hs hx
    rw [hr] at hu
    obtain ⟨v', t', rfl, hv, ht⟩ := hu.append_left
    obtain ⟨rest', rfl, hrest'⟩ := ht.cons_settled (settled_of_mark (by decide))
    obtain ⟨-, hx'⟩ := small_hex hv hx
    have htake : (v' ++ '.' :: rest').takeWhile isHex = v' := by
      rw [List.takeWhile_append_of_pos hx', List.takeWhile_cons, if_neg (by decide),
        List.append_nil]
    rw [htake, List.drop_left]
    simp only [Bool.and_eq_true] at hs ⊢
    rw [hv.isEmpty_eq, hrest'.isEmpty_eq, hrest'.contains_mark (by decide)]
    exact hs
  · simp at hs

/-! ### Hosts in brackets -/

lemma checkBracketed_small {s t : Text} (h : Small s t) (hs : checkBracketed s = .ok ()) :
    checkBracketed t = .ok () := by
  unfold checkBracketed at hs
  split_ifs at hs with h1 h2 h3 h4
  · obtain ⟨r, rfl⟩ : ∃ r, s = 'v' :: r := by
      cases s with
      | nil => simp at h1
      | cons c r =>
        have hc : 'v' = c := by simpa using h1
        exact ⟨r, by rw [← hc]⟩
    obtain ⟨u, rfl, hu⟩ := isFutureAddress_small h h2
    simp [checkBracketed, hu]
  · have ht := isColonAddress_small h h4
    have hv : ¬ ['v'].isPrefixOf t := by
      intro hv
      cases t with
      | nil => simp at hv
      | cons c r =>
        have hc : 'v' = c := by simpa using hv
        rw [← hc, not_future_of_colon] at ht
        simp at ht
    rw [checkBracketed, if_neg hv, not_dotted_of_colon ht, if_neg (by decide), if_pos ht]

end LinkCleaner.Url
