import LinkCleaner.Proofs.Url.RoundTrip
import LinkCleaner.Strip

/-!
Cleaning by the built-in lists takes out every parameter that is not wanted, from the query and
from a fragment that reads like one, and nothing else.
-/

namespace LinkCleaner

open Text Url

/-! ### Names -/

/-- A parameter that is not wanted: it is listed, or starts as tracking parameters do, and it is
not to be kept. -/
def CleaningOptions.Unwanted (o : CleaningOptions) (key : Text) : Prop :=
  lower key ∉ o.keep ∧
    (trackingPrefix <+: lower key ∨ lower key ∈ trackingParams ∨ lower key ∈ o.remove ∨
      (o.removeReferral ∧ lower key ∈ referralParams))

instance (o : CleaningOptions) (key : Text) : Decidable (o.Unwanted key) :=
  inferInstanceAs (Decidable (_ ∧ _))

lemma CleaningOptions.removes_iff {o : CleaningOptions} {key : Text} :
    o.removes key ↔ o.Unwanted key := by
  simp only [removes, lists, Unwanted, Bool.and_eq_true, Bool.or_eq_true, Bool.not_eq_true',
    List.contains_eq_mem, decide_eq_true_eq, decide_eq_false_iff_not, List.isPrefixOf_iff_prefix]
  tauto

/-- The pairs that are wanted. -/
def wanted (o : CleaningOptions) (ps : List Form.Pair) : List Form.Pair :=
  ps.filter fun p => ¬ o.Unwanted p.1

lemma filter_removes (o : CleaningOptions) (ps : List Form.Pair) :
    (ps.filter fun p => !o.removes p.1) = wanted o ps := by
  refine List.filter_congr fun p _ => ?_
  rw [Bool.eq_iff_iff, Bool.not_eq_true', Bool.eq_false_iff, ne_eq,
    CleaningOptions.removes_iff, decide_eq_true_iff]

namespace Url

lemma mem_gathered {k : Text} (ps : List Form.Pair) (ks : List Text) :
    k ∈ ps.foldl (fun ks p => if p.1 ∈ ks then ks else ks ++ [p.1]) ks ↔
      k ∈ ks ∨ ∃ p ∈ ps, p.1 = k := by
  induction ps generalizing ks with
  | nil => simp
  | cons p ps ih =>
    have hstep : k ∈ (if p.1 ∈ ks then ks else ks ++ [p.1]) ↔ k ∈ ks ∨ p.1 = k := by
      split_ifs with hp
      · exact ⟨Or.inl, fun h => h.elim id fun he => he ▸ hp⟩
      · rw [List.mem_append, List.mem_singleton, eq_comm]
    rw [List.foldl_cons, ih, hstep, List.exists_mem_cons_iff, or_assoc]

lemma mem_keys {u : Url} {k : Text} : k ∈ u.keys ↔ ∃ p ∈ u.query, p.1 = k := by
  rw [keys, mem_gathered]
  simp

lemma filter_of_not_hit {u : Url} {doomed : Text → Bool} (h : ¬ u.keys.any doomed) :
    (u.query.filter fun p => !doomed p.1) = u.query := by
  refine List.filter_eq_self.mpr fun p hp => ?_
  rw [Bool.not_eq_true, List.any_eq_false] at h
  simpa using h p.1 (mem_keys.mpr ⟨p, hp, rfl⟩)

end Url

/-! ### Fragments -/

/-- The pairs of a fragment that is written like a query, perhaps after a `?`. -/
def fragmentPairs (f : Text) : List Form.Pair := Form.decode (dropPrefix ['?'] f)

/-- A fragment that reads like a query with a doomed pair in it. -/
def Hit (doomed : Text → Prop) (f : Text) : Prop :=
  '=' ∈ f ∧ ∃ p ∈ fragmentPairs f, doomed p.1

instance (doomed : Text → Prop) [DecidablePred doomed] (f : Text) : Decidable (Hit doomed f) :=
  inferInstanceAs (Decidable (_ ∧ _))

lemma cleanFragment_cases (doomed : Text → Bool) (f : Text) :
    (cleanFragment? doomed f = none ∧ ¬ Hit (fun k => doomed k) f) ∨
      ∃ ps : Option (List Form.Pair), cleanFragment? doomed f = some (ps.map Form.encode) ∧
        Hit (fun k => doomed k) f ∧
        (ps.map Form.encode).getD [] =
          Form.encode ((fragmentPairs f).filter fun p => !doomed p.1) := by
  unfold cleanFragment?
  rw [← fragmentPairs]
  by_cases h0 : '=' ∈ f
  · rw [if_neg (by simpa using h0)]
    simp only
    -- a pair is doomed exactly if fewer are left
    by_cases hlen : ((fragmentPairs f).filter fun p => !doomed p.1).length =
        (fragmentPairs f).length
    · rw [if_pos hlen]
      refine Or.inl ⟨rfl, ?_⟩
      rintro ⟨-, p, hp, hd⟩
      rw [List.length_filter_eq_length_iff] at hlen
      have := hlen p hp
      simp [hd] at this
    · rw [if_neg hlen]
      have hit : Hit (fun k => doomed k) f := by
        refine ⟨h0, ?_⟩
        by_contra hn
        refine hlen (List.length_filter_eq_length_iff.mpr fun p hp => ?_)
        by_contra hd
        exact hn ⟨p, hp, by simpa using hd⟩
      generalize ((fragmentPairs f).filter fun p => !doomed p.1) = kept
      split_ifs with he
      · exact Or.inr ⟨none, rfl, hit, (List.isEmpty_iff.mp he).symm⟩
      · exact Or.inr ⟨some kept, rfl, hit, rfl⟩
  · rw [if_pos (by simpa using h0)]
    exact Or.inl ⟨rfl, fun hit => h0 hit.1⟩

namespace Url

variable {u : Url} {doomed : Text → Bool}

lemma strip_cases (doomed : Text → Bool) (u : Url) : ∃ v, Edited u v ∧
    v.query = (u.query.filter fun p => !doomed p.1) ∧ v.fragment = u.fragment ∧
    (u.strip doomed).1 = match v.fragment.bind (cleanFragment? doomed) with
      | none => v
      | some fragment => v.withFragment fragment := by
  refine ⟨if u.keys.any doomed then u.without doomed else u, ?_, ?_, ?_, ?_⟩
  · split_ifs
    · exact .without doomed .read
    · exact .read
  · split_ifs with h
    · rfl
    · exact (filter_of_not_hit h).symm
  · split_ifs <;> rfl
  · unfold strip
    simp only
    generalize (if u.keys.any doomed then u.without doomed else u) = v
    cases v.fragment.bind (cleanFragment? doomed) <;> rfl

lemma strip_edited (doomed : Text → Bool) (u : Url) : Edited u (u.strip doomed).1 := by
  obtain ⟨v, hv, -, -, he⟩ := strip_cases doomed u
  rw [he]
  cases v.fragment with
  | none => exact hv
  | some f =>
    rw [Option.bind_some]
    rcases cleanFragment_cases doomed f with ⟨hc, -⟩ | ⟨ps, hc, -, -⟩ <;> rw [hc]
    · exact hv
    · exact .withFragment ps hv

lemma Sound.strip (h : Sound u) (doomed : Text → Bool) : Sound (u.strip doomed).1 :=
  (strip_edited doomed u).sound h

lemma strip_query (doomed : Text → Bool) (u : Url) :
    (u.strip doomed).1.query = u.query.filter fun p => !doomed p.1 := by
  obtain ⟨v, -, hq, -, he⟩ := strip_cases doomed u
  rw [he, ← hq]
  split <;> rfl

lemma strip_fragment (doomed : Text → Bool) (u : Url) :
    (¬ Hit (fun k => doomed k) (u.fragment.getD []) →
      (u.strip doomed).1.fragment.getD [] = u.fragment.getD []) ∧
    (Hit (fun k => doomed k) (u.fragment.getD []) →
      (u.strip doomed).1.fragment.getD [] =
        Form.encode ((fragmentPairs (u.fragment.getD [])).filter fun p => !doomed p.1)) := by
  obtain ⟨v, -, -, hf, he⟩ := strip_cases doomed u
  rw [he, hf]
  cases hu : u.fragment with
  | none =>
    rw [hu] at hf
    refine ⟨fun _ => by rw [Option.bind_none, hf], fun hit => absurd hit.1 (by simp)⟩
  | some f =>
    rw [hu] at hf
    rw [Option.bind_some, Option.getD_some]
    rcases cleanFragment_cases doomed f with ⟨hc, hn⟩ | ⟨ps, hc, hit, hps⟩ <;> rw [hc]
    · exact ⟨fun _ => by rw [hf]; rfl, fun hit => absurd hit hn⟩
    · exact ⟨fun hn => absurd hit hn, fun _ => hps⟩

/-! ### Redirectors -/

/-- The URL that is cleaned: where the first redirector that has a target leads, if that is a URL,
and else the URL itself. -/
def landing (u : Url) : Url :=
  match Redirector.all.findSome? fun r => r.target? u with
  | none => u
  | some target => (parse? target).getD u

lemma find_fst (rs : List Redirector) (u : Url) :
    (Redirector.find? rs u).map Prod.fst = rs.findSome? fun r => r.target? u := by
  rw [Redirector.find?, List.map_findSome?]
  congr 1
  funext r
  cases h : r.target? u <;> simp [h]

lemma unwrap_cases (u : Url) :
    (u.unwrap? = none ∧ u.landing = u) ∨
      ∃ v provider, u.unwrap? = some (v, provider) ∧ u.landing = v ∧ ∃ t, parse t = .ok v := by
  unfold unwrap? landing
  rw [← find_fst]
  cases Redirector.find? Redirector.all u with
  | none => exact Or.inl ⟨rfl, rfl⟩
  | some found =>
    obtain ⟨t, provider⟩ := found
    cases hp : parse t with
    | error e => exact Or.inl (by simp [Redirector.hop?, parse?, hp, Except.toOption])
    | ok v =>
      refine Or.inr ⟨v, provider, ?_, ?_, t, hp⟩
      · simp [Redirector.hop?, parse?, hp, Except.toOption]
      · simp [parse?, hp, Except.toOption]

lemma landing_of_unwrap {v : Url} {provider : Text} (h : u.unwrap? = some (v, provider)) :
    u.landing = v := by
  rcases unwrap_cases u with ⟨hn, -⟩ | ⟨w, _, hw, he, -⟩
  · rw [hn] at h
    cases h
  · rw [hw] at h
    cases h
    exact he

lemma landing_sound (h : Sound u) : Sound u.landing := by
  rcases unwrap_cases u with ⟨-, he⟩ | ⟨v, provider, -, he, t, ht⟩ <;> rw [he]
  · exact h
  · exact parse_sound ht

end Url

/-! ### The whole -/

/-- One URL is the other without the pairs that are not wanted. A fragment stays as it is, unless
it reads like a query that holds such a pair. -/
structure StrippedTo (o : CleaningOptions) (u v : Url) : Prop where
  scheme : v.scheme = u.scheme
  authority : v.authority = u.authority
  path : v.path = u.path
  query : v.query = wanted o u.query
  fragment : ¬ Hit o.Unwanted (u.fragment.getD []) → v.fragment.getD [] = u.fragment.getD []
  fragmentPairs : Hit o.Unwanted (u.fragment.getD []) →
    Form.decode (v.fragment.getD []) = wanted o (fragmentPairs (u.fragment.getD []))

lemma stripTracking_of_ok {raw : Text} {u : Url} (h : parse raw = .ok u) (o : CleaningOptions) :
    stripTracking raw o =
      { url := (u.landing.strip o.removes).1.serialize
        changed := u.unwrap?.isSome || (u.landing.strip o.removes).2
        unwrappedFrom := u.unwrap?.map Prod.snd } := by
  rcases unwrap_cases u with ⟨hu, he⟩ | ⟨v, provider, hu, he, -⟩
  · simp only [stripTracking, cleanHop, h, hu, he, Option.isSome_none, Option.map_none]
  · simp only [stripTracking, cleanHop, h, hu, he, Option.isSome_some, Option.map_some]

/-- **Cleaning by the lists is exact**: it does not fail on a URL, and its outcome is read as the
URL that is cleaned without the pairs that are not wanted. -/
theorem stripTracking_exact {raw : Text} {u : Url} (h : parse raw = .ok u) (o : CleaningOptions) :
    (stripTracking raw o).error = none ∧
      (u.landing.scheme ∈ specialSchemes →
        ∃ v, parse (stripTracking raw o).url = .ok v ∧ StrippedTo o u.landing v) := by
  rw [stripTracking_of_ok h o]
  refine ⟨rfl, fun hs => ?_⟩
  have hland := landing_sound (parse_sound h)
  have hedit := strip_edited o.removes u.landing
  have hquery := strip_query o.removes u.landing
  obtain ⟨hkeep, hnew⟩ := strip_fragment o.removes u.landing
  simp only
  generalize (u.landing.strip o.removes).1 = w at hedit hquery hkeep hnew ⊢
  obtain ⟨h1, h2, h3⟩ := hedit.place
  have hsound := hedit.sound hland
  have hn : ¬ w.Ambiguous := by
    intro ha
    have hno := hsound.not_special_of_ambiguous ha
    rw [h1] at hno
    simp [hs] at hno
  -- the test that is run and the names that are not wanted agree
  have hhit : Hit (fun k => o.removes k) (u.landing.fragment.getD []) ↔
      Hit o.Unwanted (u.landing.fragment.getD []) := by
    simp only [Hit, CleaningOptions.removes_iff]
  rw [hhit] at hkeep hnew
  rw [filter_removes] at hquery hnew
  refine ⟨_, hsound.parse_serialize hn, h1, h2, h3, ?_, ?_, ?_⟩
  · rw [← hquery]
    exact Form.decode_encode w.query
  · intro hit
    rw [getD_fragment_reread, hkeep hit]
  · intro hit
    rw [getD_fragment_reread, hnew hit, Form.decode_encode]

theorem stripTracking_redirector :
    let raw := "https://l.facebook.com/l.php?u=http://A.b/?k=1%26gclid=2%23%3Futm_id%26p=3".toList
    let u : Url := ⟨"https".toList, "l.facebook.com".toList, "/l.php".toList,
      [("u".toList, "http://A.b/?k=1&gclid=2#?utm_id&p=3".toList)], none,
      some "u=http://A.b/?k=1%26gclid=2%23%3Futm_id%26p=3".toList⟩
    parse raw = .ok u ∧ u.landing.scheme ∈ specialSchemes ∧ (stripTracking raw {}).error = none ∧
      u.landing.query = [("k".toList, "1".toList), ("gclid".toList, "2".toList)] ∧
      Hit (CleaningOptions.Unwanted {}) (u.landing.fragment.getD []) ∧
      ∃ v, parse (stripTracking raw {}).url = .ok v ∧ StrippedTo {} u.landing v := by
  intro raw u
  have h : parse raw = .ok u := by decide +kernel
  have hs : u.landing.scheme ∈ specialSchemes := by decide +kernel
  have hq : u.landing.query = [("k".toList, "1".toList), ("gclid".toList, "2".toList)] := by
    decide +kernel
  have hf : Hit (CleaningOptions.Unwanted {}) (u.landing.fragment.getD []) := by
    decide +kernel
  obtain ⟨herr, hv⟩ := stripTracking_exact h {}
  exact ⟨h, hs, herr, hq, hf, hv hs⟩

end LinkCleaner
