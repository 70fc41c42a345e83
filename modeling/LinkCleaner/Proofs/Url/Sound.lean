import LinkCleaner.Proofs.Form.RoundTrip
import LinkCleaner.Proofs.Url.Authority

/-!
What holds of every URL that was read, and goes on to hold when pairs are taken out of it or its
fragment is replaced.
-/

namespace LinkCleaner

open Text

namespace Form

lemma toNat_lt_of_isEncoded {c : Char} (h : isEncoded c) : c.toNat < 128 := by
  simp only [isEncoded, isPlain, Bool.or_eq_true, beq_iff_eq] at h
  rcases h with ((((((h | h) | rfl) | rfl) | rfl) | rfl) | rfl) | rfl
  · have := letter_bounds h
    omega
  · have := digit_bounds h
    omega
  all_goals decide

lemma isEncoded_spec {c : Char} (h : isEncoded c) :
    isBlank c = false ∧ c ≠ '#' ∧ c ≠ '?' ∧ c ≠ '/' := by
  have hc : isEncoded c → isBlank c = false ∧ c ≠ '#' ∧ c ≠ '?' ∧ c ≠ '/' :=
    of_ascii c (toNat_lt_of_isEncoded h) (by decide)
  exact hc h

end Form

namespace Url

/-! ### Texts that stand in a URL -/

/-- A scheme in small letters. -/
structure IsScheme (s : Text) : Prop where
  starts : ∃ c name, s = c :: name ∧ isAsciiLetter c
  chars : ∀ c ∈ s, isSchemeChar c
  small : asciiLower s = s

/-- What may stand between `?` and `#`. -/
def IsQuery (q : Text) : Prop := ∀ c ∈ q, c ≠ '#' ∧ isBlank c = false

/-- What may stand in a path. -/
def IsPath (p : Text) : Prop := ∀ c ∈ p, c ≠ '?' ∧ c ≠ '#' ∧ isBlank c = false

lemma mem_escapeBlanks {s : Text} {d : Char} (h : d ∈ Percent.escapeBlanks s) :
    (d ∈ s ∧ isBlank d = false) ∨ Form.isEncoded d := by
  obtain ⟨c, hc, hd⟩ := List.mem_flatMap.mp h
  split_ifs at hd with hb
  · exact Or.inr (Form.isEncoded_escapeChar hd)
  · rw [List.mem_singleton] at hd
    subst hd
    exact Or.inl ⟨hc, by simpa using hb⟩

lemma not_blank_escapeBlanks {s : Text} {d : Char} (h : d ∈ Percent.escapeBlanks s) :
    isBlank d = false := by
  rcases mem_escapeBlanks h with ⟨-, h⟩ | h
  · exact h
  · exact (Form.isEncoded_spec h).1

lemma isQuery_escapeBlanks {q : Text} (h : '#' ∉ q) : IsQuery (Percent.escapeBlanks q) := by
  intro d hd
  refine ⟨?_, not_blank_escapeBlanks hd⟩
  rintro rfl
  rcases mem_escapeBlanks hd with ⟨hq, -⟩ | he
  · exact h hq
  · exact (Form.isEncoded_spec he).2.1 rfl

lemma isPath_escapeBlanks {p : Text} (h1 : '?' ∉ p) (h2 : '#' ∉ p) :
    IsPath (Percent.escapeBlanks p) := by
  intro d hd
  refine ⟨?_, isQuery_escapeBlanks h2 d hd⟩
  rintro rfl
  rcases mem_escapeBlanks hd with ⟨hp, -⟩ | he
  · exact h1 hp
  · exact (Form.isEncoded_spec he).2.2.1 rfl

lemma isQuery_encode (ps : List Form.Pair) : IsQuery (Form.encode ps) := by
  intro c hc
  rcases Form.mem_encode hc with h | rfl | rfl
  · exact ⟨(Form.isEncoded_spec h).2.1, (Form.isEncoded_spec h).1⟩
  all_goals decide

/-! ### Characters of a scheme -/

lemma toNat_lt_of_schemeChar {c : Char} (h : isSchemeChar c) : c.toNat < 128 := by
  simp only [isSchemeChar, Bool.or_eq_true, beq_iff_eq] at h
  rcases h with (((h | h) | rfl) | rfl) | rfl
  · have := letter_bounds h
    omega
  · have := digit_bounds h
    omega
  all_goals decide

lemma schemeChar_spec {c : Char} (h : isSchemeChar c) : c ≠ ':' ∧ isBlank c = false := by
  have hc : isSchemeChar c → c ≠ ':' ∧ isBlank c = false :=
    of_ascii c (toNat_lt_of_schemeChar h) (by decide)
  exact hc h

/-- A character made small. -/
def lowerAscii (c : Char) : Char := if 'A' ≤ c ∧ c ≤ 'Z' then Char.ofNat (c.toNat + 32) else c

lemma asciiLower_eq (s : Text) : asciiLower s = s.map lowerAscii := rfl

lemma schemeChar_lowerAscii {c : Char} (h : isSchemeChar c) :
    isSchemeChar (lowerAscii c) ∧ lowerAscii (lowerAscii c) = lowerAscii c ∧
      (isAsciiLetter c → isAsciiLetter (lowerAscii c)) := by
  have hc : isSchemeChar c → isSchemeChar (lowerAscii c) ∧
      lowerAscii (lowerAscii c) = lowerAscii c ∧
      (isAsciiLetter c → isAsciiLetter (lowerAscii c)) :=
    of_ascii c (toNat_lt_of_schemeChar h) (by decide)
  exact hc h

lemma isScheme_asciiLower {c : Char} {name : Text} (h1 : isAsciiLetter c)
    (h2 : ∀ d ∈ c :: name, isSchemeChar d) : IsScheme (asciiLower (c :: name)) := by
  refine ⟨⟨lowerAscii c, name.map lowerAscii, rfl, ?_⟩, ?_, ?_⟩
  · exact (schemeChar_lowerAscii (h2 c List.mem_cons_self)).2.2 h1
  · intro d hd
    obtain ⟨e, he, rfl⟩ := List.mem_map.mp hd
    exact (schemeChar_lowerAscii (h2 e he)).1
  · rw [asciiLower_eq, asciiLower_eq, List.map_map]
    exact List.map_congr_left fun d hd => (schemeChar_lowerAscii (h2 d hd)).2.1

lemma IsScheme.not_colon {s : Text} (h : IsScheme s) : ':' ∉ s :=
  fun hm => (schemeChar_spec (h.chars _ hm)).1 rfl

lemma IsScheme.ne_nil {s : Text} (h : IsScheme s) : s ≠ [] := by
  obtain ⟨c, name, rfl, -⟩ := h.starts
  simp

lemma IsScheme.split {s : Text} (h : IsScheme s) (r : Text) :
    splitScheme (s ++ ':' :: r) = (s, r) := by
  have hcut := cut_append h.not_colon r
  obtain ⟨c, name, rfl, hc⟩ := h.starts
  have hall : (c :: name).all isSchemeChar := List.all_eq_true.mpr h.chars
  rw [splitScheme, hcut]
  simp only [hc, hall, Bool.and_self, if_true, h.small]

/-! ### Splitting -/

lemma splitScheme_cases (s : Text) :
    splitScheme s = ([], s) ∨
      ∃ t r, s = t ++ ':' :: r ∧ splitScheme s = (asciiLower t, r) ∧ IsScheme (asciiLower t) := by
  unfold splitScheme
  rcases cut_cases ':' s with ⟨-, he⟩ | ⟨a, b, -, hs, he⟩ <;> rw [he]
  · cases s <;> exact Or.inl rfl
  · cases a with
    | nil => exact Or.inl rfl
    | cons c name =>
      simp only
      split_ifs with h
      · rw [Bool.and_eq_true, List.all_eq_true] at h
        exact Or.inr ⟨c :: name, b, hs, rfl, isScheme_asciiLower h.1 h.2⟩
      · exact Or.inl rfl

lemma splitAuthority_cases (s : Text) :
    splitAuthority s = ([], s) ∨
      ∃ a r, s = '/' :: '/' :: (a ++ r) ∧ splitAuthority s = (a, r) ∧
        (∀ c ∈ a, endsAuthority c = false) ∧ (r = [] ∨ ∃ c t, r = c :: t ∧ endsAuthority c) := by
  unfold splitAuthority
  split
  · next r =>
    refine Or.inr ⟨_, _, by rw [List.takeWhile_append_dropWhile], rfl, ?_, ?_⟩
    · intro c hc
      have hall := List.all_eq_true.mp
        (List.all_takeWhile (p := fun c => !endsAuthority c) (l := r))
      simpa using hall c hc
    · cases hd : r.dropWhile fun c => !endsAuthority c with
      | nil => exact Or.inl rfl
      | cons c t =>
        have hne : (r.dropWhile fun c => !endsAuthority c) ≠ [] := by simp [hd]
        have hh := List.head_dropWhile_not (fun c => !endsAuthority c) hne
        refine Or.inr ⟨c, t, rfl, ?_⟩
        simpa [hd] using hh
  · exact Or.inl rfl

lemma endsAuthority_iff {c : Char} : endsAuthority c ↔ c = '/' ∨ c = '?' ∨ c = '#' := by
  simp [endsAuthority, or_assoc]

/-- What is left of the rest in front of its query and its fragment. -/
abbrev pathOf (rest : Text) : Text := (cut '?' (cut '#' rest).1).1

/-- A path that may follow an authority: it is empty or starts with a slash. -/
def Rooted (p : Text) : Prop := p = [] ∨ ∃ r, p = '/' :: r

lemma pathOf_rooted {r : Text} (h : r = [] ∨ ∃ c t, r = c :: t ∧ endsAuthority c) :
    Rooted (pathOf r) := by
  rcases h with rfl | ⟨c, t, rfl, hc⟩
  · exact Or.inl rfl
  · rcases endsAuthority_iff.mp hc with rfl | rfl | rfl
    · exact Or.inr ⟨pathOf t, by simp [pathOf, cut]⟩
    · exact Or.inl (by simp [pathOf, cut])
    · exact Or.inl (by simp [pathOf, cut])

/-- What the parts of a text satisfy before anything is checked. -/
structure Parts.Sound (p : Parts) : Prop where
  scheme : p.scheme = [] ∨ IsScheme p.scheme
  authority : ∀ c ∈ p.authority, endsAuthority c = false
  path : '?' ∉ p.path ∧ '#' ∉ p.path
  rooted : p.authority ≠ [] → Rooted p.path
  query : '#' ∉ p.query

lemma splitParts_eq (text : Text) :
    splitParts text =
      ⟨(splitScheme (scrub text)).1, (splitAuthority (splitScheme (scrub text)).2).1,
        pathOf (splitAuthority (splitScheme (scrub text)).2).2,
        ((cut '?' (cut '#' (splitAuthority (splitScheme (scrub text)).2).2).1).2).getD [],
        ((cut '#' (splitAuthority (splitScheme (scrub text)).2).2).2).getD []⟩ := rfl

lemma splitParts_sound (text : Text) : (splitParts text).Sound := by
  rw [splitParts_eq]
  generalize scrub text = s
  generalize hr : splitAuthority (splitScheme s).2 = ar
  refine ⟨?_, ?_, ⟨not_mem_cut _ _, ?_⟩, ?_, ?_⟩
  · rcases splitScheme_cases s with he | ⟨t, r, -, he, ht⟩ <;> rw [he]
    · exact Or.inl rfl
    · exact Or.inr ht
  · rcases splitAuthority_cases (splitScheme s).2 with he | ⟨a, r, -, he, ha, -⟩ <;>
      rw [← hr, he]
    · simp
    · exact ha
  · exact fun hm => not_mem_cut '#' ar.2 (mem_of_mem_cut hm)
  · intro hne
    rcases splitAuthority_cases (splitScheme s).2 with he | ⟨a, r, -, he, -, hrest⟩
    · rw [← hr, he] at hne
      exact absurd rfl hne
    · rw [← hr, he]
      exact pathOf_rooted hrest
  · exact fun hm => not_mem_cut '#' ar.2 (mem_of_mem_cut_rest hm)

/-! ### Reading -/

/-- The checks that parts have to pass. -/
structure Parts.Checked (p : Parts) : Prop where
  authority : checkAuthority p.authority = .ok ()
  scheme : p.scheme ≠ []
  unblank : ∀ c ∈ p.authority, isBlank c = false
  host : specialSchemes.contains p.scheme → hostName p.authority ≠ []

lemma ofChecked_of_checked {p : Parts} (h : p.Checked) (text : Text) :
    ofChecked text p = .ok (ofParts p (text.contains '#')) := by
  have hblank : ¬ p.authority.any isBlank := by
    simpa using h.unblank
  have hhost : ¬ (specialSchemes.contains p.scheme && (hostName p.authority).isEmpty) := by
    rw [Bool.and_eq_true, List.isEmpty_iff]
    exact fun hh => h.host hh.1 hh.2
  unfold ofChecked
  rw [h.authority]
  simp only
  rw [if_neg (by simpa using h.scheme), if_neg hblank, if_neg hhost]

lemma checked_of_ofChecked {p : Parts} {text : Text} {u : Url} (h : ofChecked text p = .ok u) :
    p.Checked ∧ u = ofParts p (text.contains '#') := by
  unfold ofChecked at h
  cases hc : checkAuthority p.authority with
  | error e =>
    rw [hc] at h
    cases h
  | ok x =>
    rw [hc] at h
    simp only at h
    split_ifs at h with h1 h2 h3
    refine ⟨⟨hc, by simpa using h1, by simpa using h2, ?_⟩, by cases h; rfl⟩
    intro hs he
    exact h3 (by rw [hs, he]; rfl)

lemma parse_of_ne_nil {raw : Text} (h : raw ≠ []) :
    parse raw = ofChecked (trim raw) (splitParts (trim raw)) := by
  rw [parse, if_neg (by simpa using h)]

lemma checked_of_parse {raw : Text} {u : Url} (h : parse raw = .ok u) :
    (splitParts (trim raw)).Checked ∧
      u = ofParts (splitParts (trim raw)) ((trim raw).contains '#') := by
  unfold parse at h
  split_ifs at h
  exact checked_of_ofChecked h

/-- What holds of a URL that was read. -/
structure Sound (u : Url) : Prop where
  scheme : IsScheme u.scheme
  authority : ∀ c ∈ u.authority, endsAuthority c = false ∧ isBlank c = false
  checked : checkAuthority u.authority = .ok ()
  small : lowerAuthority u.authority = u.authority
  path : IsPath u.path
  rooted : u.authority ≠ [] → Rooted u.path
  special : specialSchemes.contains u.scheme → hostName u.authority ≠ [] ∧ u.path ≠ []
  written : ∀ q, u.written = some q → IsQuery q ∧ Form.decode q = u.query
  fragment : ∀ f, u.fragment = some f → ∀ c ∈ f, isBlank c = false

lemma authority_chars_lowerAuthority {a : Text} (h1 : ∀ c ∈ a, endsAuthority c = false)
    (h2 : ∀ c ∈ a, isBlank c = false) {c : Char} (h : c ∈ lowerAuthority a) :
    endsAuthority c = false ∧ isBlank c = false := by
  rcases mem_lowerAuthority h with h | h
  · exact ⟨h1 c h, h2 c h⟩
  · refine ⟨?_, h.blank⟩
    rw [Bool.eq_false_iff]
    intro he
    have hm : isMark c := by
      rcases endsAuthority_iff.mp he with rfl | rfl | rfl <;> decide
    simp [h.mark] at hm

lemma escapeBlanks_rooted {p : Text} (h : Rooted p) : Rooted (Percent.escapeBlanks p) := by
  rcases h with rfl | ⟨r, rfl⟩
  · exact Or.inl rfl
  · exact Or.inr ⟨Percent.escapeBlanks r, rfl⟩

/-- **Every URL that is read is sound.** -/
theorem parse_sound {raw : Text} {u : Url} (h : parse raw = .ok u) : Sound u := by
  obtain ⟨⟨hcheck, hscheme, hblank, hhost⟩, rfl⟩ := checked_of_parse h
  have hp := splitParts_sound (trim raw)
  generalize splitParts (trim raw) = p at hcheck hscheme hblank hhost hp
  have hpath := isPath_escapeBlanks hp.path.1 hp.path.2
  unfold ofParts
  refine ⟨hp.scheme.resolve_left hscheme, ?_, checkAuthority_lowerAuthority hcheck,
    lowerAuthority_lowerAuthority _, ?_, ?_, ?_, ?_, ?_⟩
  · exact fun c hc => authority_chars_lowerAuthority hp.authority hblank hc
  · simp only
    split_ifs
    · intro c hc
      rw [List.mem_singleton] at hc
      subst hc
      decide
    · exact hpath
  · -- escaping blanks does not touch the slash in front
    intro hne
    have hroot := escapeBlanks_rooted (hp.rooted fun h0 => hne (lowerAuthority_eq_nil.mpr h0))
    simp only
    split_ifs
    · exact Or.inr ⟨[], rfl⟩
    · exact hroot
  · -- the host was looked for before the authority was lowered
    intro hs
    refine ⟨fun h0 => hhost hs (hostName_lowerAuthority_eq_nil.mp h0), ?_⟩
    simp only at hs ⊢
    rw [hs, Bool.true_and]
    split_ifs with he
    · simp
    · simpa using he
  · intro q hq
    cases hq
    exact ⟨isQuery_escapeBlanks hp.query, rfl⟩
  · intro f hf c hc
    simp only at hf
    split_ifs at hf
    · cases hf
      exact not_blank_escapeBlanks hc

namespace Sound

variable {u : Url}

lemma without (h : Sound u) (doomed : Text → Bool) : Sound (u.without doomed) :=
  { h with written := fun _ hq => by cases hq }

lemma withFragment (h : Sound u) {f : Option Text}
    (hf : ∀ t, f = some t → ∀ c ∈ t, isBlank c = false) : Sound (u.withFragment f) :=
  { h with fragment := hf }

end Sound

end Url

end LinkCleaner
