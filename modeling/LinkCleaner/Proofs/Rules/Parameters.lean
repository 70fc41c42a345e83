import LinkCleaner.Proofs.Rules.Apply

/-!
Rules that neither redirect nor delete parts of the text. Whichever providers come to act on the
way, all they do is take out parameters, and the pairs of one name, in whatever letters, go
together.
-/

namespace LinkCleaner

open Text Url

namespace Rules

variable {u v : Url} {c : Cleaning} {o : CleaningOptions} {gone : Text → Bool}

/-- A provider that has nothing but rules about parameters. -/
structure Provider.IsPlain (p : Provider) : Prop where
  redirections : p.redirections = []
  rawRules : p.rawRules = []

instance (p : Provider) : Decidable p.IsPlain :=
  decidable_of_iff (p.redirections = [] ∧ p.rawRules = [])
    ⟨fun h => ⟨h.1, h.2⟩, fun h => ⟨h.1, h.2⟩⟩

/-- Whether a provider takes out parameters of this name, given in small letters. -/
def Provider.removesName (o : CleaningOptions) (p : Provider) (name : Text) : Bool :=
  !o.keep.contains name && (p.entries o).any (Entry.hits name)

lemma Provider.removes_eq (o : CleaningOptions) (p : Provider) (key : Text) :
    p.removes o key = p.removesName o (lower key) := rfl

/-- The pairs whose name is not among those that are gone. -/
def spared (gone : Text → Bool) (ps : List Form.Pair) : List Form.Pair :=
  ps.filter fun p => !gone (lower p.1)

lemma spared_sublist (gone : Text → Bool) (ps : List Form.Pair) :
    (spared gone ps).Sublist ps := List.filter_sublist

lemma mem_spared {ps : List Form.Pair} {p : Form.Pair} :
    p ∈ spared gone ps ↔ p ∈ ps ∧ gone (lower p.1) = false := by
  simp [spared]

lemma spared_spared (gone gone' : Text → Bool) (ps : List Form.Pair) :
    spared gone' (spared gone ps) = spared (fun k => gone k || gone' k) ps := by
  rw [spared, spared, spared, List.filter_filter]
  refine List.filter_congr fun p _ => ?_
  cases gone (lower p.1) <;> simp

lemma spared_ne_iff {ps : List Form.Pair} :
    spared gone ps ≠ ps ↔ ∃ p ∈ ps, gone (lower p.1) := by
  rw [ne_eq, spared, List.filter_eq_self]
  simp

/-- A cleaning that has taken the pairs of some names out of a URL, all of them and nothing else;
its flag tells whether there were any. -/
structure Thinned (u : Url) (gone : Text → Bool) (c : Cleaning) : Prop where
  edited : Edited u c.url
  fragment : c.url.fragment = u.fragment
  query : c.url.query = spared gone u.query
  changed : c.changed = true ↔ ∃ p ∈ u.query, gone (lower p.1)

lemma thinned_start (u : Url) : Thinned u (fun _ => false) { url := u } where
  edited := .read
  fragment := rfl
  query := by simp [spared]
  changed := by simp

lemma stripParams_thinned (h : Thinned u gone c) (p : Provider) :
    Thinned u (fun k => gone k || p.removesName o k) (stripParams o p c) := by
  have hquery : spared (fun k => gone k || p.removesName o k) u.query =
      c.url.query.filter fun q => !p.removes o q.1 := by
    rw [← spared_spared, ← h.query]
    rfl
  unfold stripParams
  split_ifs with hany
  · refine ⟨.without _ h.edited, h.fragment, hquery.symm, ?_⟩
    -- a doomed pair is left of the query, hence it is one of the first
    obtain ⟨k, hk, hd⟩ := List.any_eq_true.mp hany
    obtain ⟨q, hq, rfl⟩ := mem_keys.mp hk
    rw [h.query, mem_spared] at hq
    refine ⟨fun _ => ⟨q, hq.1, ?_⟩, fun _ => rfl⟩
    rw [← p.removes_eq o q.1, hd, Bool.or_true]
  · -- nothing that is left is doomed
    have hleft := hquery.trans (filter_of_not_hit hany)
    refine ⟨h.edited, h.fragment, hleft.symm, ?_⟩
    have hafter : spared (fun k => gone k || p.removesName o k) u.query ≠ u.query ↔ _ :=
      spared_ne_iff
    rw [hleft, h.query, spared_ne_iff] at hafter
    exact h.changed.trans hafter

lemma cleanBy_of_plain {p : Provider} (hp : p.IsPlain) (c : Cleaning) :
    cleanBy o c p = if p.appliesTo c.url.href then stripParams o p c else c := by
  rw [cleanBy, hp.rawRules]
  rfl

lemma cleanBy_thinned {p : Provider} (hp : p.IsPlain) (h : Thinned u gone c) :
    ∃ gone', Thinned u gone' (cleanBy o c p) := by
  rw [cleanBy_of_plain hp]
  split_ifs
  · exact ⟨_, stripParams_thinned h p⟩
  · exact ⟨gone, h⟩

lemma clean_thinned {rs : Ruleset} (hrs : ∀ p ∈ rs, p.IsPlain) (u : Url) :
    ∃ gone, Thinned u gone (rs.foldl (cleanBy o) { url := u }) := by
  refine List.foldlRecOn (motive := fun c : Cleaning => ∃ gone, Thinned u gone c) _ _
    ⟨_, thinned_start u⟩ ?_
  rintro c ⟨gone, hc⟩ p hp
  exact cleanBy_thinned (hrs p hp) hc

lemma redirect_of_plain {rs : Ruleset} (hrs : ∀ p ∈ rs, p.IsPlain) (u : Url) :
    redirect rs u = { url := u } := by
  refine List.foldlRecOn (motive := fun r : Redirected => r = { url := u }) _ _ rfl ?_
  rintro r rfl p hp
  rw [redirectThrough, (hrs p hp).redirections]
  exact ite_self _

/-- One URL is the other without the pairs of some names: where it points and the fragment are the
same. -/
structure SparedFrom (u v : Url) (gone : Text → Bool) : Prop where
  scheme : v.scheme = u.scheme
  authority : v.authority = u.authority
  path : v.path = u.path
  fragment : v.fragment.getD [] = u.fragment.getD []
  query : v.query = spared gone u.query

lemma SparedFrom.together (h : SparedFrom u v gone) {p q : Form.Pair} (hp : p ∈ u.query)
    (hq : q ∈ u.query) (he : lower p.1 = lower q.1) : p ∈ v.query ↔ q ∈ v.query := by
  rw [h.query, mem_spared, mem_spared, he]
  simp [hp, hq]

/-- **Rules about parameters do nothing else.** The outcome is read as the URL without the pairs of
some names: the others stand in their order with their values, those of one name go together, and
the flag is raised exactly if a pair is gone. -/
theorem apply_spares {raw : Text} {rs : Ruleset} (h : parse raw = .ok u)
    (hs : u.scheme ∈ specialSchemes) (hrs : ∀ p ∈ rs, p.IsPlain) (o : CleaningOptions) :
    (apply (some rs) raw o).error = none ∧ (apply (some rs) raw o).unwrappedFrom = none ∧
      ∃ v gone, parse (apply (some rs) raw o).url = .ok v ∧ SparedFrom u v gone ∧
        v.query.Sublist u.query ∧
        (∀ p ∈ u.query, ∀ q ∈ u.query, lower p.1 = lower q.1 → (p ∈ v.query ↔ q ∈ v.query)) ∧
        ((apply (some rs) raw o).changed = true ↔ v.query ≠ u.query) := by
  obtain ⟨gone, hthin⟩ := clean_thinned (o := o) hrs u
  simp only [apply, h, redirect_of_plain hrs u, Option.isSome_none, true_and]
  generalize rs.foldl (cleanBy o) { url := u } = c at hthin ⊢
  obtain ⟨h1, h2, h3⟩ := hthin.edited.place
  have hsound := hthin.edited.sound (parse_sound h)
  have hn : ¬ c.url.Ambiguous := hsound.not_ambiguous_of_special (by rwa [h1])
  have hquery : (c.url.reread (Form.encode c.url.query)).query = spared gone u.query := by
    rw [← hthin.query]
    exact Form.decode_encode c.url.query
  have hspared : SparedFrom u (c.url.reread (Form.encode c.url.query)) gone :=
    ⟨h1, h2, h3, by rw [getD_fragment_reread, hthin.fragment], hquery⟩
  refine ⟨_, gone, hsound.parse_serialize hn, hspared, ?_, ?_, ?_⟩
  · rw [hquery]
    exact spared_sublist gone u.query
  · exact fun p hp q hq he => hspared.together hp hq he
  · rw [hquery, spared_ne_iff]
    exact hthin.changed

/-- The second provider is about the query as it was written, which is no longer there when its
turn comes. -/
theorem apply_spares_letters :
    let rs : Ruleset :=
      [{ name := "shop".toList
         urlPattern := pattern? "shop".toList
         rules := [.literal "id".toList] },
       { name := "blank".toList
         urlPattern := pattern? "%20".toList
         rules := [.literal "q".toList] }]
    let raw := "https://shop.example/a?ID=1&q=x%20y&id=2#top".toList
    let u : Url := ⟨"https".toList, "shop.example".toList, "/a".toList,
      [("ID".toList, "1".toList), ("q".toList, "x y".toList), ("id".toList, "2".toList)],
      some "top".toList, some "ID=1&q=x%20y&id=2".toList⟩
    parse raw = .ok u ∧ u.scheme ∈ specialSchemes ∧ (∀ p ∈ rs, p.IsPlain) ∧
      (apply (some rs) raw {}).changed = true ∧
      (apply (some rs) raw {}).url = "https://shop.example/a?q=x+y#top".toList ∧
      ∃ v gone, parse (apply (some rs) raw {}).url = .ok v ∧ SparedFrom u v gone := by
  intro rs raw u
  have h : parse raw = .ok u := by decide +kernel
  have hs : u.scheme ∈ specialSchemes := by decide
  have hrs : ∀ p ∈ rs, p.IsPlain := by decide +kernel
  obtain ⟨-, -, v, gone, hv, hspared, -⟩ := apply_spares h hs hrs {}
  exact ⟨h, hs, hrs, by decide +kernel, by decide +kernel, v, gone, hv, hspared⟩

end Rules

end LinkCleaner
