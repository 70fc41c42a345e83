import LinkCleaner.Proofs.Changed

/-!
Cleaning by the lists a second time. What was stripped stays as it is, also when it is written down
and read again; so a second run does nothing, unless it finds a redirector where the first run
found none or landed.
-/

namespace LinkCleaner

open Text Url

namespace Url

variable {u v : Url} {doomed : Text → Bool}

/-! ### Nothing left to strip -/

/-- Neither the query nor the fragment holds a doomed pair. -/
def Stripped (doomed : Text → Bool) (u : Url) : Prop :=
  (∀ p ∈ u.query, doomed p.1 = false) ∧ ¬ Hit (fun k => doomed k) (u.fragment.getD [])

lemma strip_of_stripped (h : Stripped doomed u) : u.strip doomed = (u, false) := by
  have hflag : (u.strip doomed).2 = false := by
    rw [Bool.eq_false_iff, ne_eq, strip_flag]
    rintro (⟨p, hp, hd⟩ | hit)
    · rw [h.1 p hp] at hd
      exact absurd hd (by decide)
    · exact h.2 hit
  exact Prod.ext (strip_of_not_flag hflag) hflag

lemma stripped_strip (doomed : Text → Bool) (u : Url) : Stripped doomed (u.strip doomed).1 := by
  have hkept : ∀ ps : List Form.Pair, ∀ p ∈ ps.filter (fun p => !doomed p.1),
      doomed p.1 = false := by
    intro ps p hp
    simpa using (List.mem_filter.mp hp).2
  refine ⟨by rw [strip_query]; exact hkept u.query, ?_⟩
  obtain ⟨hsame, hnew⟩ := strip_fragment doomed u
  by_cases hit : Hit (fun k => doomed k) (u.fragment.getD [])
  · rw [hnew hit]
    rintro ⟨-, p, hp, hd⟩
    rw [fragmentPairs_encode] at hp
    rw [hkept _ p hp] at hd
    exact absurd hd (by decide)
  · rwa [hsame hit]

lemma Stripped.reread (h : Stripped doomed u) :
    Stripped doomed (u.reread (Form.encode u.query)) := by
  have hq : (u.reread (Form.encode u.query)).query = u.query := Form.decode_encode u.query
  rw [Stripped, hq, getD_fragment_reread]
  exact h

lemma serialize_reread (u : Url) : (u.reread (Form.encode u.query)).serialize = u.serialize := by
  have hq : (u.reread (Form.encode u.query)).query = u.query := Form.decode_encode u.query
  rw [serialize, serialize, assemble, assemble, hq, getD_fragment_reread]
  rfl

/-! ### Redirectors that are seen again -/

lemma get?_of_filter {name : Text} (hd : doomed name = false)
    (hq : v.query = u.query.filter fun p => !doomed p.1) : v.get? name = u.get? name := by
  rw [get?, get?, hq]
  induction u.query with
  | nil => rfl
  | cons p ps ih =>
    by_cases hp : name = p.1
    · have heq : (name == p.1) = true := by simpa using hp
      rw [List.filter_cons_of_pos (by rw [← hp, hd]; rfl), List.lookup_cons, List.lookup_cons, heq]
    · have hne : (name == p.1) = false := by simpa using hp
      rw [List.lookup_cons, hne]
      by_cases hdp : doomed p.1
      · rwa [List.filter_cons_of_neg (by simp [hdp])]
      · rw [List.filter_cons_of_pos (by simp [hdp]), List.lookup_cons, hne]
        exact ih

lemma unwrap_of_filter (hplace : v.authority = u.authority ∧ v.path = u.path)
    (hq : v.query = u.query.filter fun p => !doomed p.1)
    (hkeep : ∀ r ∈ Redirector.all, ∀ name ∈ r.params, doomed name = false) :
    v.unwrap? = u.unwrap? := by
  have hhost : v.host = u.host := by rw [host, host, hplace.1]
  rw [unwrap?, unwrap?, Redirector.find_congr hhost hplace.2 fun r hr name hname =>
    get?_of_filter (hkeep r hr name hname) hq]

end Url

/-- The parameters of redirectors. -/
def targetNames : List Text := ["url".toList, "q".toList, "u".toList]

lemma removes_targetName {o : CleaningOptions} {name : Text} (hn : name ∈ targetNames)
    (h : name ∈ o.remove → name ∈ o.keep) : o.removes name = false := by
  have hlists : ∀ name ∈ targetNames, lower name = name ∧ ¬ trackingPrefix <+: name ∧
      name ∉ trackingParams ∧ name ∉ referralParams := by decide +kernel
  obtain ⟨hl, h1, h2, h3⟩ := hlists name hn
  rw [Bool.eq_false_iff, ne_eq, CleaningOptions.removes_iff, CleaningOptions.Unwanted, hl]
  rintro ⟨hkeep, hp | hp | hp | ⟨-, hp⟩⟩
  · exact h1 hp
  · exact h2 hp
  · exact hkeep (h hp)
  · exact h3 hp

/-! ### The whole -/

/-- **Cleaning twice is cleaning once**, but for redirectors: the second run does not fail, and
unless it unwraps one it changes nothing. It does not unwrap one if the first run did not and the
parameters of redirectors were not removed. -/
theorem stripTracking_again {raw : Text} {u : Url} (h : parse raw = .ok u) (o : CleaningOptions)
    (hs : (splitParts (trim (stripTracking raw o).url)).scheme ∈ specialSchemes) :
    let once := stripTracking raw o
    let twice := stripTracking once.url o
    twice.error = none ∧
      (twice.unwrappedFrom = none → twice.url = once.url ∧ twice.changed = false) ∧
      (once.unwrappedFrom = none → (∀ name ∈ targetNames, name ∈ o.remove → name ∈ o.keep) →
        twice.unwrappedFrom = none) := by
  simp only [stripTracking_of_ok h o] at hs ⊢
  have hedit := strip_edited o.removes u.landing
  have hquery := strip_query o.removes u.landing
  have hstripped := (stripped_strip o.removes u.landing).reread
  have hsound := hedit.sound (landing_sound (parse_sound h))
  obtain ⟨-, hauth, hpath⟩ := hedit.place
  generalize (u.landing.strip o.removes).1 = w at hs hquery hstripped hsound hauth hpath ⊢
  rw [stripTracking_of_ok (hsound.parse_serialize_special hs) o]
  refine ⟨rfl, ?_, ?_⟩
  · -- without a hop it is the stripped URL that is stripped again
    intro hnone
    rcases unwrap_cases (w.reread (Form.encode w.query)) with ⟨hx, hl⟩ | ⟨v, provider, hx, -⟩
    · rw [hx, hl, strip_of_stripped hstripped]
      exact ⟨serialize_reread w, rfl⟩
    · rw [hx] at hnone
      cases hnone
  · -- where redirectors look, the second URL is like the first
    intro hfirst hnames
    rcases unwrap_cases u with ⟨hu, hl⟩ | ⟨v, provider, hu, -⟩
    · rw [hl] at hquery hauth hpath
      have hq : (w.reread (Form.encode w.query)).query =
          u.query.filter fun p => !o.removes p.1 := by
        rw [← hquery]
        exact Form.decode_encode w.query
      have hall : ∀ r ∈ Redirector.all, ∀ name ∈ r.params, name ∈ targetNames := by decide
      have hagain : (w.reread (Form.encode w.query)).unwrap? = u.unwrap? :=
        unwrap_of_filter ⟨hauth, hpath⟩ hq fun r hr name hname =>
          removes_targetName (hall r hr name hname) (hnames name (hall r hr name hname))
      rw [hagain, hu]
      rfl
    · rw [hu] at hfirst
      cases hfirst

theorem stripTracking_again_refused_target :
    let raw := "https://l.facebook.com/l.php?utm_id=1&u=nope&a=%2B+%C3#??fbclid=2&a=b".toList
    let once := stripTracking raw {}
    once.url = "https://l.facebook.com/l.php?u=nope&a=%2B+%EF%BF%BD#??fbclid=2&a=b".toList ∧
      (splitParts (trim once.url)).scheme ∈ specialSchemes ∧
      (stripTracking once.url {}).error = none ∧ (stripTracking once.url {}).url = once.url ∧
      (stripTracking once.url {}).changed = false := by
  intro raw once
  have h : parse raw = .ok ⟨"https".toList, "l.facebook.com".toList, "/l.php".toList,
      [("utm_id".toList, "1".toList), ("u".toList, "nope".toList), ("a".toList, "+ \uFFFD".toList)],
      some "??fbclid=2&a=b".toList, some "utm_id=1&u=nope&a=%2B+%C3".toList⟩ := by decide +kernel
  have hurl : once.url =
      "https://l.facebook.com/l.php?u=nope&a=%2B+%EF%BF%BD#??fbclid=2&a=b".toList := by
    decide +kernel
  have hs : (splitParts (trim once.url)).scheme ∈ specialSchemes := by
    rw [hurl]
    decide +kernel
  obtain ⟨herr, hsame, hnone⟩ := stripTracking_again h {} hs
  obtain ⟨hagain, hflag⟩ := hsame (hnone (by decide +kernel) (by decide))
  exact ⟨hurl, hs, herr, hagain, hflag⟩

end LinkCleaner
