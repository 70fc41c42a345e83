import LinkCleaner.Proofs.Url.Sound

/-!
The texts of a URL read back. A URL that was read, and then perhaps lost pairs or got another
fragment, is read back from either of its texts, unless its path takes the place of an authority
that it lacks.
-/

namespace LinkCleaner.Url

open Text

/-! ### Texts put together and split again -/

/-- A path that cannot be told from an authority when the URL has none: it starts with `//`, or it
is relative although the scheme calls for `//`. -/
def Ambiguous (u : Url) : Prop :=
  u.authority = [] ∧ (['/', '/'].isPrefixOf u.path ∨
    (slashSchemes.contains u.scheme ∧ u.path ≠ [] ∧ ¬ ['/'].isPrefixOf u.path))

instance (u : Url) : Decidable u.Ambiguous := inferInstanceAs (Decidable (_ ∧ _))

lemma mem_hierarchy {s a p : Text} {c : Char} (h : c ∈ hierarchy s a p) :
    c = '/' ∨ c ∈ a ∨ c ∈ p := by
  unfold hierarchy at h
  simp only at h
  split_ifs at h
  · simp only [List.mem_cons, List.mem_append] at h
    tauto
  · simp only [List.mem_cons, List.mem_append] at h
    tauto
  · exact Or.inr (Or.inr h)

lemma mem_marked {m c : Char} {p : Text} (h : c ∈ marked m p) : c = m ∨ c ∈ p := by
  unfold marked at h
  split_ifs at h
  · simp at h
  · exact List.mem_cons.mp h

lemma marked_cases (m : Char) (p : Text) :
    (p = [] ∧ marked m p = []) ∨ (p ≠ [] ∧ marked m p = m :: p) := by
  cases p with
  | nil => exact Or.inl ⟨rfl, rfl⟩
  | cons c r => exact Or.inr ⟨by simp, rfl⟩

lemma cut_marked {m : Char} {s : Text} (h : m ∉ s) (p : Text) :
    (cut m (s ++ marked m p)).1 = s ∧ (cut m (s ++ marked m p)).2.getD [] = p := by
  rcases marked_cases m p with ⟨rfl, he⟩ | ⟨-, he⟩ <;> rw [he]
  · rw [List.append_nil, cut_of_not_mem h]
    exact ⟨rfl, rfl⟩
  · rw [cut_append h]
    exact ⟨rfl, rfl⟩

/-- What comes after a hierarchy: nothing, a query or a fragment. -/
def IsTail (t : Text) : Prop := t = [] ∨ ∃ c r, t = c :: r ∧ (c = '?' ∨ c = '#')

lemma isTail_marked (q f : Text) : IsTail (marked '?' q ++ marked '#' f) := by
  rcases marked_cases '?' q with ⟨-, he⟩ | ⟨-, he⟩ <;> rw [he]
  · rcases marked_cases '#' f with ⟨-, hf⟩ | ⟨-, hf⟩ <;> rw [hf]
    · exact Or.inl rfl
    · exact Or.inr ⟨'#', f, rfl, Or.inr rfl⟩
  · exact Or.inr ⟨'?', q ++ marked '#' f, rfl, Or.inl rfl⟩

lemma span_append_tail {t : Text} (ht : IsTail t) (r : Text) :
    ((r ++ t).takeWhile fun c => !endsAuthority c) = (r.takeWhile fun c => !endsAuthority c) ∧
      ((r ++ t).dropWhile fun c => !endsAuthority c) =
        (r.dropWhile fun c => !endsAuthority c) ++ t := by
  induction r with
  | nil =>
    rcases ht with rfl | ⟨c, r, rfl, rfl | rfl⟩
    · exact ⟨rfl, rfl⟩
    · exact ⟨rfl, rfl⟩
    · exact ⟨rfl, rfl⟩
  | cons c r ih =>
    rw [List.cons_append, List.takeWhile_cons, List.dropWhile_cons, List.takeWhile_cons,
      List.dropWhile_cons]
    split_ifs
    · rw [ih.1, ih.2]
      exact ⟨rfl, rfl⟩
    · exact ⟨rfl, rfl⟩

lemma splitAuthority_slashes (r : Text) : splitAuthority ('/' :: '/' :: r) =
    (r.takeWhile fun c => !endsAuthority c, r.dropWhile fun c => !endsAuthority c) := rfl

lemma splitAuthority_of_not {s : Text} (h : ¬ ['/', '/'].isPrefixOf s) :
    splitAuthority s = ([], s) := by
  unfold splitAuthority
  split
  · exact absurd (by simp) h
  · rfl

lemma splitAuthority_append {t : Text} (ht : IsTail t) (s : Text) :
    splitAuthority (s ++ t) = ((splitAuthority s).1, (splitAuthority s).2 ++ t) := by
  by_cases h : ['/', '/'].isPrefixOf s
  · obtain ⟨r, rfl⟩ := List.isPrefixOf_iff_prefix.mp h
    obtain ⟨h1, h2⟩ := span_append_tail ht r
    simp only [List.cons_append, List.nil_append, splitAuthority_slashes, h1, h2]
  · have hst : ¬ ['/', '/'].isPrefixOf (s ++ t) := by
      match s, h with
      | [], _ => rcases ht with rfl | ⟨c, r, rfl, rfl | rfl⟩ <;> simp [List.isPrefixOf]
      | [c], _ => rcases ht with rfl | ⟨d, r, rfl, rfl | rfl⟩ <;> simp [List.isPrefixOf]
      | c :: d :: r, h => simpa [List.isPrefixOf] using h
    rw [splitAuthority_of_not h, splitAuthority_of_not hst]

lemma scrub_eq_self {c : Char} {r : Text} (hc : 0x20 < c.toNat)
    (h : ∀ d ∈ c :: r, isBlank d = false) : scrub (c :: r) = c :: r := by
  rw [scrub, List.dropWhile_cons, if_neg (by simpa using hc)]
  refine List.filter_eq_self.mpr fun d hd => ?_
  have hb := h d hd
  simp only [Bool.and_eq_true, bne_iff_ne, ne_eq]
  refine ⟨⟨?_, ?_⟩, ?_⟩ <;> rintro rfl <;> revert hb <;> decide

/-- The authority and the path as they are read from the hierarchy. -/
def shown (u : Url) : Text × Text := splitAuthority (hierarchy u.scheme u.authority u.path)

namespace Sound

variable {u : Url} {q : Text}

lemma unblank_assemble (h : Sound u) (hq : IsQuery q) :
    ∀ c ∈ u.assemble q, isBlank c = false := by
  intro c hc
  simp only [assemble, List.mem_append, List.mem_cons] at hc
  rcases hc with hc | rfl | (hc | hc) | hc
  · exact (schemeChar_spec (h.scheme.chars c hc)).2
  · decide
  · rcases mem_hierarchy hc with rfl | hc | hc
    · decide
    · exact (h.authority c hc).2
    · exact (h.path c hc).2.2
  · rcases mem_marked hc with rfl | hc
    · decide
    · exact (hq c hc).2
  · rcases mem_marked hc with rfl | hc
    · decide
    · cases hf : u.fragment with
      | none => simp [hf] at hc
      | some f =>
        rw [hf] at hc
        exact h.fragment f hf c hc

lemma trim_assemble (h : Sound u) (hq : IsQuery q) : trim (u.assemble q) = u.assemble q :=
  trim_eq_self (h.unblank_assemble hq)

lemma scrub_assemble (h : Sound u) (hq : IsQuery q) : scrub (u.assemble q) = u.assemble q := by
  have hb := h.unblank_assemble hq
  obtain ⟨c, name, hs, hc⟩ := h.scheme.starts
  have hbounds := letter_bounds hc
  rw [assemble, hs, List.cons_append] at hb ⊢
  exact scrub_eq_self (by omega) hb

lemma mem_shown (h : Sound u) {c : Char} (hc : c ∈ u.shown.2) :
    c ≠ '?' ∧ c ≠ '#' ∧ isBlank c = false := by
  have hm : c ∈ hierarchy u.scheme u.authority u.path := by
    rcases splitAuthority_cases (hierarchy u.scheme u.authority u.path) with he |
        ⟨a, r, hs, he, -, -⟩
    · rwa [shown, he] at hc
    · rw [shown, he] at hc
      rw [hs]
      simp [hc]
  rcases mem_hierarchy hm with rfl | hc | hc
  · decide
  · obtain ⟨h1, h2⟩ := h.authority c hc
    refine ⟨?_, ?_, h2⟩ <;> rintro rfl <;> revert h1 <;> decide
  · exact h.path c hc

lemma splitParts_assemble (h : Sound u) (hq : IsQuery q) :
    splitParts (u.assemble q) =
      ⟨u.scheme, u.shown.1, u.shown.2, q, u.fragment.getD []⟩ := by
  -- neither mark stands in front of where it was put, so that the text is cut there
  have hq' : '#' ∉ q := fun hm => (hq _ hm).1 rfl
  have h1 : '?' ∉ u.shown.2 := fun hm => (h.mem_shown hm).1 rfl
  have h2 : '#' ∉ u.shown.2 ++ marked '?' q := by
    intro hm
    rcases List.mem_append.mp hm with hm | hm
    · exact (h.mem_shown hm).2.1 rfl
    · rcases mem_marked hm with he | hm
      · exact absurd he (by decide)
      · exact hq' hm
  obtain ⟨e1, e2⟩ := cut_marked h2 (u.fragment.getD [])
  obtain ⟨e3, e4⟩ := cut_marked h1 q
  have hsplit : splitScheme (u.assemble q) = (u.scheme, hierarchy u.scheme u.authority u.path ++
      (marked '?' q ++ marked '#' (u.fragment.getD []))) := by
    rw [assemble, List.append_assoc]
    exact h.scheme.split _
  rw [splitParts_eq, h.scrub_assemble hq, hsplit]
  simp only [splitAuthority_append (isTail_marked q (u.fragment.getD []))]
  rw [← shown, ← List.append_assoc, pathOf, e1, e2, e3, e4]

lemma assemble_ne_nil (u : Url) (q : Text) : u.assemble q ≠ [] := by simp [assemble]

lemma contains_assemble (h : Sound u) (hq : IsQuery q) :
    (u.assemble q).contains '#' = !(u.fragment.getD []).isEmpty := by
  have hq' : '#' ∉ q := fun hm => (hq _ hm).1 rfl
  have hs : '#' ∉ u.scheme := by
    intro hm
    have := h.scheme.chars _ hm
    revert this
    decide
  have hh : '#' ∉ hierarchy u.scheme u.authority u.path := by
    intro hm
    rcases mem_hierarchy hm with he | hm | hm
    · exact absurd he (by decide)
    · have := (h.authority _ hm).1
      revert this
      decide
    · exact (h.path _ hm).2.1 rfl
  have hmq : '#' ∉ marked '?' q := by
    intro hm
    rcases mem_marked hm with he | hm
    · exact absurd he (by decide)
    · exact hq' hm
  rw [Bool.eq_iff_iff, List.contains_iff_mem]
  rcases marked_cases '#' (u.fragment.getD []) with ⟨h0, he⟩ | ⟨h0, he⟩
  · rw [assemble, he, h0]
    simp [hs, hh, hmq]
  · simp [assemble, he, h0]

lemma parse_assemble (h : Sound u) (hq : IsQuery q) :
    parse (u.assemble q) = ofChecked (u.assemble q)
      ⟨u.scheme, u.shown.1, u.shown.2, q, u.fragment.getD []⟩ := by
  rw [parse_of_ne_nil (assemble_ne_nil u q), h.trim_assemble hq, h.splitParts_assemble hq]

end Sound

/-! ### What is shown -/

variable {u : Url} {q : Text}

lemma takeWhile_of_rooted {p : Text} (h : Rooted p) :
    (p.takeWhile fun c => !endsAuthority c) = [] ∧
      (p.dropWhile fun c => !endsAuthority c) = p := by
  rcases h with rfl | ⟨r, rfl⟩
  · exact ⟨rfl, rfl⟩
  · exact ⟨rfl, rfl⟩

lemma rooted_iff {p : Text} : Rooted p ↔ (p.isEmpty || ['/'].isPrefixOf p) := by
  unfold Rooted
  cases p with
  | nil => simp
  | cons c r =>
    rw [Bool.or_eq_true, List.isPrefixOf_iff_prefix, List.cons_prefix_cons]
    simp [eq_comm]

lemma splitAuthority_rooted {a p : Text} (ha : ∀ c ∈ a, endsAuthority c = false)
    (hp : Rooted p) : splitAuthority ('/' :: '/' :: (a ++ p)) = (a, p) := by
  have hall : ∀ c ∈ a, !endsAuthority c := fun c hc => by rw [ha c hc]; rfl
  obtain ⟨h1, h2⟩ := takeWhile_of_rooted hp
  rw [splitAuthority_slashes, List.takeWhile_append_of_pos hall, List.dropWhile_append_of_pos hall,
    h1, h2, List.append_nil]

lemma hierarchy_slashes {s a p : Text}
    (h : a ≠ [] ∨ (slashSchemes.contains s ∧ ¬ ['/', '/'].isPrefixOf p)) :
    (Rooted p → hierarchy s a p = '/' :: '/' :: (a ++ p)) ∧
      (¬ Rooted p → hierarchy s a p = '/' :: '/' :: (a ++ '/' :: p)) := by
  have hcond : !a.isEmpty || (slashSchemes.contains s && !(['/', '/'].isPrefixOf p)) := by
    rcases h with h | ⟨h1, h2⟩
    · simp [h]
    · rw [Bool.not_eq_true] at h2
      rw [h1, h2]
      simp
  rw [hierarchy, if_pos hcond, rooted_iff]
  refine ⟨fun hp => ?_, fun hp => ?_⟩
  · simp only [if_pos hp]
  · simp only [if_neg hp]

lemma hierarchy_bare {s p : Text} (h : slashSchemes.contains s → ['/', '/'].isPrefixOf p) :
    hierarchy s [] p = p := by
  rw [hierarchy, if_neg]
  simp only [List.isEmpty_nil, Bool.not_true, Bool.false_or, Bool.and_eq_true, Bool.not_eq_true',
    not_and, Bool.not_eq_false]
  exact h

lemma Sound.shown_of_not_ambiguous (h : Sound u) (hn : ¬ u.Ambiguous) :
    u.shown = (u.authority, u.path) := by
  have hends : ∀ c ∈ u.authority, endsAuthority c = false := fun c hc => (h.authority c hc).1
  by_cases h0 : u.authority = []
  · -- the path must not be taken for an authority, whether slashes are written or not
    have hp : ¬ ['/', '/'].isPrefixOf u.path := fun hp => hn ⟨h0, Or.inl hp⟩
    by_cases hs : slashSchemes.contains u.scheme
    · have hr : Rooted u.path := by
        rw [rooted_iff, Bool.or_eq_true, List.isEmpty_iff]
        by_contra hr
        rw [not_or] at hr
        exact hn ⟨h0, Or.inr ⟨hs, hr⟩⟩
      rw [shown, (hierarchy_slashes (Or.inr ⟨hs, hp⟩)).1 hr]
      exact splitAuthority_rooted hends hr
    · rw [shown, h0, hierarchy_bare fun hh => absurd hh hs]
      exact splitAuthority_of_not hp
  · have hr := h.rooted h0
    rw [shown, (hierarchy_slashes (Or.inl h0)).1 hr]
    exact splitAuthority_rooted hends hr

/-- An ambiguous path is taken for an authority and a shorter path, or gets a slash. -/
lemma shown_of_ambiguous (h : u.Ambiguous) :
    (∃ r, u.path = '/' :: '/' :: r ∧ u.shown =
      (r.takeWhile fun c => !endsAuthority c, r.dropWhile fun c => !endsAuthority c)) ∨
      u.shown = ([], '/' :: u.path) := by
  obtain ⟨h0, hp | ⟨hs, hne, hr⟩⟩ := h
  · obtain ⟨r, hr⟩ := List.isPrefixOf_iff_prefix.mp hp
    refine Or.inl ⟨r, hr.symm, ?_⟩
    rw [shown, h0, hierarchy_bare fun _ => hp, ← hr]
    rfl
  · refine Or.inr ?_
    have h2 : ¬ ['/', '/'].isPrefixOf u.path := by
      intro h2
      obtain ⟨r, hr'⟩ := List.isPrefixOf_iff_prefix.mp h2
      rw [← hr'] at hr
      simp at hr
    have hroot : ¬ Rooted u.path := by
      rw [rooted_iff, Bool.or_eq_true, List.isEmpty_iff]
      exact fun hh => hh.elim hne hr
    rw [shown, (hierarchy_slashes (Or.inr ⟨hs, h2⟩)).2 hroot, h0]
    rfl

lemma shown_path_ne_of_ambiguous (h : u.Ambiguous) : u.shown.2 ≠ u.path := by
  intro he
  rcases shown_of_ambiguous h with ⟨r, hp, hs⟩ | hs
  · rw [hs, hp] at he
    have h1 := congrArg List.length he
    have h2 := (List.dropWhile_sublist (l := r) fun c => !endsAuthority c).length_le
    simp only [List.length_cons] at h1
    omega
  · rw [hs] at he
    have h1 := congrArg List.length he
    simp only [List.length_cons] at h1
    omega

namespace Sound

lemma not_special_of_ambiguous (h : Sound u) (ha : u.Ambiguous) :
    specialSchemes.contains u.scheme = false := by
  by_contra hs
  rw [Bool.not_eq_false] at hs
  exact (h.special hs).1 (by rw [ha.1, hostName_nil])

lemma not_ambiguous_of_special (h : Sound u) (hs : u.scheme ∈ specialSchemes) : ¬ u.Ambiguous := by
  intro ha
  have hno := h.not_special_of_ambiguous ha
  simp [hs] at hno

lemma checked_shown (h : Sound u) (f : Text) :
    Parts.Checked ⟨u.scheme, u.shown.1, u.shown.2, q, f⟩ ↔ checkAuthority u.shown.1 = .ok () := by
  refine ⟨fun hc => hc.authority, fun hc => ⟨hc, h.scheme.ne_nil, ?_, ?_⟩⟩
  · intro c hc
    by_cases ha : u.Ambiguous
    · rcases shown_of_ambiguous ha with ⟨r, hp, hs⟩ | hs
      · simp only [hs] at hc
        have hm : c ∈ u.path := by
          rw [hp]
          simp [(List.takeWhile_sublist _).subset hc]
        exact (h.path c hm).2.2
      · simp [hs] at hc
    · simp only [h.shown_of_not_ambiguous ha] at hc
      exact (h.authority c hc).2
  · -- a scheme that needs a host has one, and then nothing is ambiguous
    intro hs
    have ha : ¬ u.Ambiguous := by
      intro ha
      rw [h.not_special_of_ambiguous ha] at hs
      exact absurd hs (by decide)
    simp only [h.shown_of_not_ambiguous ha]
    exact (h.special hs).1

lemma query_of_parse_assemble (h : Sound u) (hq : IsQuery q) {v : Url}
    (hv : parse (u.assemble q) = .ok v) : v.scheme = u.scheme ∧ v.query = Form.decode q := by
  rw [h.parse_assemble hq] at hv
  obtain ⟨-, rfl⟩ := checked_of_ofChecked hv
  refine ⟨rfl, ?_⟩
  rw [ofParts, Percent.escapeBlanks_eq_self fun c hc => (hq c hc).2]

lemma escapeBlanks_fragment (h : Sound u) :
    Percent.escapeBlanks (u.fragment.getD []) = u.fragment.getD [] := by
  refine Percent.escapeBlanks_eq_self fun c hc => ?_
  cases hf : u.fragment with
  | none => simp [hf] at hc
  | some f =>
    rw [hf] at hc
    exact h.fragment f hf c hc

lemma fragment_of_parse_assemble (h : Sound u) (hq : IsQuery q) {v : Url}
    (hv : parse (u.assemble q) = .ok v) : v.fragment.getD [] = u.fragment.getD [] := by
  rw [h.parse_assemble hq] at hv
  obtain ⟨-, rfl⟩ := checked_of_ofChecked hv
  simp only [ofParts, h.contains_assemble hq, h.escapeBlanks_fragment]
  split_ifs with hf
  · rfl
  · exact (List.isEmpty_iff.mp (by simpa using hf)).symm

end Sound

/-! ### Reading back -/

/-- The URL with this query, as it is read from its text. -/
def reread (u : Url) (q : Text) : Url :=
  { u with
    query := Form.decode q
    fragment := if (u.fragment.getD []).isEmpty then none else u.fragment
    written := some q }

lemma getD_fragment_reread (u : Url) (q : Text) :
    (u.reread q).fragment.getD [] = u.fragment.getD [] := by
  unfold reread
  simp only
  split_ifs with h
  · rw [List.isEmpty_iff.mp h]
    rfl
  · rfl

/-- **Without ambiguity a text of a URL is read as that URL.** -/
theorem Sound.parse_assemble_eq (h : Sound u) (hn : ¬ u.Ambiguous) (hq : IsQuery q) :
    parse (u.assemble q) = .ok (u.reread q) := by
  have hs := h.shown_of_not_ambiguous hn
  have hpath : ¬ (specialSchemes.contains u.scheme && u.path.isEmpty) := by
    rw [Bool.and_eq_true, List.isEmpty_iff]
    exact fun hh => (h.special hh.1).2 hh.2
  have hc : Parts.Checked ⟨u.scheme, u.shown.1, u.shown.2, q, u.fragment.getD []⟩ := by
    rw [h.checked_shown, hs]
    exact h.checked
  rw [h.parse_assemble hq, ofChecked_of_checked hc, h.contains_assemble hq, hs]
  congr 1
  unfold ofParts reread
  simp only [h.small, h.escapeBlanks_fragment, Percent.escapeBlanks_eq_self fun c hc => (hq c hc).2,
    Percent.escapeBlanks_eq_self fun c hc => (h.path c hc).2.2, if_neg hpath]
  congr 1
  cases hfr : u.fragment with
  | none => rfl
  | some f => cases f <;> rfl

lemma Sound.parse_serialize (h : Sound u) (hn : ¬ u.Ambiguous) :
    parse u.serialize = .ok (u.reread (Form.encode u.query)) :=
  h.parse_assemble_eq hn (isQuery_encode u.query)

lemma Sound.parse_serialize_special (h : Sound u)
    (hs : (splitParts (trim u.serialize)).scheme ∈ specialSchemes) :
    parse u.serialize = .ok (u.reread (Form.encode u.query)) := by
  have hq := isQuery_encode u.query
  rw [serialize, h.trim_assemble hq, h.splitParts_assemble hq] at hs
  simp only at hs
  refine h.parse_serialize fun ha => ?_
  have hno := h.not_special_of_ambiguous ha
  simp [hs] at hno

/-- A URL without authority whose path starts with `//` and then with what no authority is. -/
def Unreadable (u : Url) : Prop :=
  u.authority = [] ∧ ['/', '/'].isPrefixOf u.path ∧
    checkAuthority ((u.path.drop 2).takeWhile fun c => !endsAuthority c) ≠ .ok ()

instance (u : Url) : Decidable u.Unreadable := inferInstanceAs (Decidable (_ ∧ _))

lemma Sound.checkAuthority_shown (h : Sound u) :
    checkAuthority u.shown.1 = .ok () ↔ ¬ u.Unreadable := by
  constructor
  · rintro hc ⟨h0, hp, hbad⟩
    obtain ⟨r, hr⟩ := List.isPrefixOf_iff_prefix.mp hp
    rw [shown, h0, hierarchy_bare fun _ => hp, ← hr] at hc
    rw [← hr] at hbad
    exact hbad hc
  · intro hn
    by_cases ha : u.Ambiguous
    · rcases shown_of_ambiguous ha with ⟨r, hp, hs⟩ | hs
      · rw [hs]
        by_contra hbad
        exact hn ⟨ha.1, by rw [hp]; rfl, by rw [hp]; exact hbad⟩
      · rw [hs]
        rfl
    · rw [h.shown_of_not_ambiguous ha]
      exact h.checked

/-- **A URL that is written down is read again**, perhaps as another one, unless its path starts
with what is taken for a bad authority. -/
theorem Sound.parse_serialize_ok (h : Sound u) :
    (∃ v, parse u.serialize = .ok v) ↔ ¬ u.Unreadable := by
  rw [← h.checkAuthority_shown, serialize, h.parse_assemble (isQuery_encode u.query)]
  constructor
  · rintro ⟨v, hv⟩
    exact (checked_of_ofChecked hv).1.authority
  · intro hc
    exact ⟨_, ofChecked_of_checked ((h.checked_shown _).mpr hc) _⟩

/-- The outcome of reading is this URL again, where an empty fragment counts as none. -/
def Restored (u : Url) (outcome : Except ParseError Url) : Prop :=
  ∃ v, outcome = .ok v ∧ v.scheme = u.scheme ∧ v.authority = u.authority ∧ v.path = u.path ∧
    v.query = u.query ∧ v.fragment.getD [] = u.fragment.getD []

lemma Sound.restored_assemble (h : Sound u) (hq : IsQuery q) (hd : Form.decode q = u.query) :
    Restored u (parse (u.assemble q)) ↔ ¬ u.Ambiguous := by
  constructor
  · -- of what is read from an ambiguous URL, at least the path is another one
    rintro ⟨v, hv, -, -, hpath, -, -⟩ ha
    rw [h.parse_assemble hq] at hv
    obtain ⟨-, rfl⟩ := checked_of_ofChecked hv
    refine shown_path_ne_of_ambiguous ha ?_
    rw [← hpath, ofParts, h.not_special_of_ambiguous ha]
    exact (Percent.escapeBlanks_eq_self fun c hc => (h.mem_shown hc).2.2).symm
  · intro hn
    exact ⟨_, h.parse_assemble_eq hn hq, rfl, rfl, rfl, hd, getD_fragment_reread u q⟩

/-- What a URL turns into when pairs are taken out of it and its fragment is dropped or replaced by
pairs. -/
inductive Edited (u : Url) : Url → Prop where
  | read : Edited u u
  | without {v : Url} (doomed : Text → Bool) (h : Edited u v) : Edited u (v.without doomed)
  | withFragment {v : Url} (pairs : Option (List Form.Pair)) (h : Edited u v) :
    Edited u (v.withFragment (pairs.map Form.encode))

lemma Edited.sound {u v : Url} (hu : Sound u) (h : Edited u v) : Sound v := by
  induction h with
  | read => exact hu
  | without doomed h ih => exact ih.without doomed
  | withFragment pairs h ih =>
    refine ih.withFragment fun t ht c hc => ?_
    obtain ⟨ps, -, rfl⟩ := Option.map_eq_some_iff.mp ht
    exact (isQuery_encode ps c hc).2

lemma Edited.place {u v : Url} (h : Edited u v) :
    v.scheme = u.scheme ∧ v.authority = u.authority ∧ v.path = u.path := by
  induction h with
  | read => exact ⟨rfl, rfl, rfl⟩
  | without doomed h ih => exact ih
  | withFragment pairs h ih => exact ih

lemma Sound.query_href {u : Url} (h : Sound u) :
    IsQuery (u.written.getD (Form.encode u.query)) ∧
      Form.decode (u.written.getD (Form.encode u.query)) = u.query := by
  cases hw : u.written with
  | none => exact ⟨isQuery_encode u.query, Form.decode_encode u.query⟩
  | some q => exact h.written q hw

/-- **Round trip**: a URL that was read and edited is read back from both of its texts, exactly if
it is not ambiguous; and a query that is known as it was written decodes to the pairs. -/
theorem restored_iff {raw : Text} {u v : Url} (h : parse raw = .ok u) (he : Edited u v) :
    (Restored v (parse v.serialize) ↔ ¬ v.Ambiguous) ∧
      (Restored v (parse v.href) ↔ ¬ v.Ambiguous) ∧
      (∀ q, v.written = some q → Form.decode q = v.query) := by
  have hv := he.sound (parse_sound h)
  refine ⟨?_, ?_, fun q hq => (hv.written q hq).2⟩
  · exact hv.restored_assemble (isQuery_encode v.query) (Form.decode_encode v.query)
  · exact hv.restored_assemble hv.query_href.1 hv.query_href.2

theorem restored_without_source :
    let u : Url := ⟨"https".toList, "Me@example.org".toList, "/".toList,
      [("id".toList, "1".toList), ("utm_source".toList, "x y".toList)], some "top".toList,
      some "id=1&utm_source=x%20y".toList⟩
    let v := (u.without fun k => k == "utm_source".toList).withFragment none
    parse " HTTPS://Me@Example.ORG?id=1&utm_source=x y#top ".toList = .ok u ∧
      v.query = [("id".toList, "1".toList)] ∧
      Restored v (parse v.serialize) ∧ Restored v (parse v.href) := by
  intro u v
  have h : parse " HTTPS://Me@Example.ORG?id=1&utm_source=x y#top ".toList = .ok u := by
    decide +kernel
  have he : Edited u v := .withFragment none (.without _ .read)
  have hn : ¬ v.Ambiguous := by decide
  have hr := restored_iff h he
  exact ⟨h, by decide, hr.1.mpr hn, hr.2.1.mpr hn⟩

/-- The first name of a path without authority is read back as the authority. -/
theorem network_path_not_restored : ∃ u v,
    parse "file:////srv/share".toList = .ok u ∧ Edited u u ∧
      u.authority = [] ∧ u.path = "//srv/share".toList ∧
      parse u.serialize = .ok v ∧ v.authority = "srv".toList ∧ v.path = "/share".toList ∧
      ¬ Restored u (parse u.serialize) ∧ ¬ Restored u (parse u.href) := by
  refine ⟨_, _, rfl, .read, rfl, rfl, rfl, rfl, rfl, ?_, ?_⟩
  · rintro ⟨v, hv, -, ha, -⟩
    cases hv
    exact absurd ha (by decide)
  · rintro ⟨v, hv, -, ha, -⟩
    cases hv
    exact absurd ha (by decide)

end LinkCleaner.Url
