import LinkCleaner.Proofs.Pattern.Opening
import LinkCleaner.Proofs.Rules.Parameters

/-!
Rules about parameters whose providers go by the place of a URL: its scheme, its authority and its
path. Such a provider covers the URL all along or not at all, whatever has been taken out before its
turn comes. So a run of the providers is one filter, which does not depend on their order.
-/

namespace LinkCleaner

open Text Url

namespace Url

/-- URLs that differ in nothing but their query and their fragment. -/
structure SamePlace (u v : Url) : Prop where
  scheme : u.scheme = v.scheme
  authority : u.authority = v.authority
  path : u.path = v.path

lemma Edited.samePlace {u v : Url} (h : Edited u v) : SamePlace v u :=
  ⟨h.place.1, h.place.2.1, h.place.2.2⟩

namespace SamePlace

variable {u v : Url}

lemma reread (u : Url) (q : Text) : SamePlace (u.reread q) u := ⟨rfl, rfl, rfl⟩

lemma ambiguous_iff (h : SamePlace u v) : u.Ambiguous ↔ v.Ambiguous := by
  rw [Ambiguous, Ambiguous, h.scheme, h.authority, h.path]

lemma assemble_eq (h : SamePlace u v) (hf : u.fragment.getD [] = v.fragment.getD []) (q : Text) :
    u.assemble q = v.assemble q := by
  rw [assemble, assemble, h.scheme, h.authority, h.path, hf]

end SamePlace

/-- The text of a URL up to its query. -/
def base (u : Url) : Text := u.scheme ++ ':' :: hierarchy u.scheme u.authority u.path

lemma SamePlace.base_eq {u v : Url} (h : SamePlace u v) : u.base = v.base := by
  rw [base, base, h.scheme, h.authority, h.path]

lemma href_eq_base (u : Url) : ∃ t, IsTail t ∧ u.href = u.base ++ t := by
  refine ⟨_, isTail_marked (u.written.getD (Form.encode u.query)) (u.fragment.getD []), ?_⟩
  simp [href, assemble, base]

lemma href_reread (u : Url) (q : Text) : (u.reread q).href = u.assemble q :=
  (SamePlace.reread u q).assemble_eq (getD_fragment_reread u q) q

lemma Sound.parse_href {u : Url} (h : Sound u) (hn : ¬ u.Ambiguous) :
    ∃ v, parse v.href = .ok v ∧ v.href = u.href ∧ SamePlace v u := by
  have hhref : (u.reread (u.written.getD (Form.encode u.query))).href = u.href :=
    href_reread u _
  refine ⟨_, ?_, hhref, SamePlace.reread u _⟩
  rw [hhref]
  exact h.parse_assemble_eq hn h.query_href.1

end Url

namespace Rules

variable {u v : Url} {c : Cleaning} {o : CleaningOptions} {gone : Text → Bool} {p : Provider}
  {rs : Ruleset} {raw : Text}

/-! ### Providers that go by the place -/

/-- Whether a provider covers a URL depends on the place alone: of two texts, each that of the URL
that it is read as, it covers both or neither if these URLs have the same place. -/
def Provider.IsPlaced (p : Provider) : Prop :=
  ∀ u v, parse u.href = .ok u → parse v.href = .ok v → SamePlace u v →
    p.appliesTo u.href = p.appliesTo v.href

lemma Provider.IsPlaced.appliesTo_eq (h : p.IsPlaced) (hu : Sound u) (hv : Sound v)
    (hn : ¬ v.Ambiguous) (hs : SamePlace u v) : p.appliesTo u.href = p.appliesTo v.href := by
  obtain ⟨a, ha, hau, hplace⟩ := hu.parse_href (mt hs.ambiguous_iff.mp hn)
  obtain ⟨b, hb, hbv, hplace'⟩ := hv.parse_href hn
  rw [← hau, ← hbv]
  exact h a b ha hb ⟨hplace.scheme.trans (hs.scheme.trans hplace'.scheme.symm),
    hplace.authority.trans (hs.authority.trans hplace'.authority.symm),
    hplace.path.trans (hs.path.trans hplace'.path.symm)⟩

/-- A provider without exceptions goes by the place if its pattern is a caret and characters behind
it, of which none can be the mark of a query or of a fragment. -/
lemma Provider.isPlaced_of_opening {q : Pattern} {m : Pattern.Mode} {s : Text}
    (hq : p.urlPattern = some q) (he : p.exceptions = []) (hnode : q.node = Pattern.openingNode m s)
    (hm : m.multiline = false)
    (hs : s.all fun c => !m.isCode c.toNat '?' && !m.isCode c.toNat '#') : p.IsPlaced := by
  simp only [List.all_eq_true, Bool.and_eq_true, Bool.not_eq_true'] at hs
  have hbase : ∀ u : Url, p.appliesTo u.href = m.opens s u.base := by
    intro u
    obtain ⟨t, ht, hu⟩ := href_eq_base u
    have htail : ∀ d ∈ t.head?, ∀ c ∈ s, m.isCode c.toNat d = false := by
      obtain rfl | ⟨d, r, rfl, rfl | rfl⟩ := ht
      · simp
      · simpa using fun c hc => (hs c hc).1
      · simpa using fun c hc => (hs c hc).2
    rw [Provider.appliesTo, hq, he, hu]
    simp only [Pattern.occurs_of_opening hnode hm, Pattern.opens_append htail, List.any_nil,
      Bool.not_false, Bool.and_true]
  intro u v _ _ hplace
  rw [hbase, hbase, hplace.base_eq]

/-- Rules about parameters, of which each goes by the place. -/
def ArePlaced (rs : Ruleset) : Prop := ∀ p ∈ rs, p.IsPlain ∧ p.IsPlaced

/-! ### The names that go -/

/-- The parameters that a provider takes out: their name is not to be kept, and among the entries
that apply is the name in small letters, or a pattern that is found in it, as it is or with an
equals sign. -/
def Provider.Removes (o : CleaningOptions) (p : Provider) (key : Text) : Prop :=
  lower key ∉ o.keep ∧ ∃ e ∈ p.entries o,
    match e with
    | .literal name => name = lower key
    | .pattern q => q.occurs (lower key) ∨ q.occurs (lower key ++ ['='])

/-- Some provider that covers the URL takes out the parameters of this name. -/
def Removed (rs : Ruleset) (o : CleaningOptions) (u : Url) (key : Text) : Prop :=
  ∃ p ∈ rs, p.appliesTo u.href ∧ p.Removes o key

/-- Whether some provider that covers the URL takes out the parameters of this name, given in small
letters. -/
def removedName (rs : Ruleset) (o : CleaningOptions) (u : Url) (name : Text) : Bool :=
  rs.any fun p => p.appliesTo u.href && p.removesName o name

lemma Provider.removes_iff {key : Text} : p.removes o key ↔ p.Removes o key := by
  have hhits : ∀ e : Entry, e.hits (lower key) ↔
      match e with
      | .literal name => name = lower key
      | .pattern q => q.occurs (lower key) ∨ q.occurs (lower key ++ ['=']) := by
    intro e
    cases e <;> simp [Entry.hits]
  simp only [Provider.removes, Provider.Removes, Bool.and_eq_true, Bool.not_eq_true',
    List.contains_eq_mem, decide_eq_false_iff_not, List.any_eq_true, hhits]

lemma removedName_iff {key : Text} : removedName rs o u (lower key) ↔ Removed rs o u key := by
  simp only [removedName, Removed, List.any_eq_true, Bool.and_eq_true, ← Provider.removes_eq,
    Provider.removes_iff]

instance (rs : Ruleset) (o : CleaningOptions) (u : Url) (key : Text) :
    Decidable (Removed rs o u key) := decidable_of_iff _ removedName_iff

lemma spared_removedName (ps : List Form.Pair) :
    spared (removedName rs o u) ps = ps.filter fun q => ¬ Removed rs o u q.1 := by
  refine List.filter_congr fun q _ => ?_
  rw [Bool.eq_iff_iff, Bool.not_eq_true', Bool.eq_false_iff, ne_eq, removedName_iff,
    decide_eq_true_iff]

lemma removedName_perm {rs' : Ruleset} (h : rs.Perm rs') :
    removedName rs o u = removedName rs' o u := by
  funext name
  exact h.any_eq

lemma removedName_congr (hrs : ArePlaced rs) (hu : Sound u) (hv : Sound v) (hn : ¬ u.Ambiguous)
    (hs : SamePlace v u) : removedName rs o v = removedName rs o u := by
  funext name
  rw [removedName, removedName, Bool.eq_iff_iff, List.any_eq_true, List.any_eq_true]
  refine exists_congr fun p => and_congr_right fun hp => ?_
  rw [(hrs p hp).2.appliesTo_eq hv hu hn hs]

lemma removedName_allowReferral {name : Text}
    (h : removedName rs { o with allowReferral := true } u name) :
    removedName rs { o with allowReferral := false } u name := by
  obtain ⟨p, hp, hr⟩ := List.any_eq_true.mp h
  refine List.any_eq_true.mpr ⟨p, hp, ?_⟩
  simp only [Provider.removesName, Provider.entries, Bool.and_eq_true, if_true,
    Bool.false_eq_true, if_false, List.any_append] at hr ⊢
  obtain ⟨hcovers, hkeep, hentry⟩ := hr
  exact ⟨hcovers, hkeep, by rw [hentry, Bool.true_or]⟩

/-! ### A run of the providers -/

lemma cleanBy_thinned_placed (hu : Sound u) (hn : ¬ u.Ambiguous) (hp : p.IsPlain ∧ p.IsPlaced)
    (h : Thinned u gone c) :
    Thinned u (fun k => gone k || (p.appliesTo u.href && p.removesName o k)) (cleanBy o c p) := by
  rw [cleanBy_of_plain hp.1,
    hp.2.appliesTo_eq (h.edited.sound hu) hu hn h.edited.samePlace]
  split_ifs with ha
  · simpa only [ha, Bool.true_and] using stripParams_thinned h p
  · simpa only [ha, Bool.false_and, Bool.or_false] using h

lemma clean_thinned_placed (hu : Sound u) (hn : ¬ u.Ambiguous) (hrs : ArePlaced rs)
    (h : Thinned u gone c) :
    Thinned u (fun k => gone k || removedName rs o u k) (rs.foldl (cleanBy o) c) := by
  induction rs generalizing gone c with
  | nil => simpa [removedName] using h
  | cons p rs ih =>
    have hstep := cleanBy_thinned_placed (o := o) hu hn (hrs p List.mem_cons_self) h
    have hrest := ih (fun q hq => hrs q (List.mem_cons_of_mem p hq)) hstep
    simpa only [removedName, List.any_cons, Bool.or_assoc, List.foldl_cons] using hrest

/-- **A run of rules that go by the place is one filter**: it takes out the pairs whose names some
provider removes, and its flag tells whether there are any. -/
lemma apply_of_placed (h : parse raw = .ok u) (hn : ¬ u.Ambiguous) (hrs : ArePlaced rs)
    (o : CleaningOptions) :
    apply (some rs) raw o =
      { url := u.assemble (Form.encode (spared (removedName rs o u) u.query))
        changed := u.query.any fun q => removedName rs o u (lower q.1) } := by
  have hthin := clean_thinned_placed (o := o) (parse_sound h) hn hrs (thinned_start u)
  simp only [Bool.false_or] at hthin
  have htext : (rs.foldl (cleanBy o) { url := u }).url.serialize =
      u.assemble (Form.encode (spared (removedName rs o u) u.query)) := by
    rw [serialize, hthin.query]
    exact hthin.edited.samePlace.assemble_eq (by rw [hthin.fragment]) _
  have hflag : (rs.foldl (cleanBy o) { url := u }).changed =
      u.query.any fun q => removedName rs o u (lower q.1) := by
    rw [Bool.eq_iff_iff, hthin.changed, List.any_eq_true]
  simp only [apply, h, redirect_of_plain (fun p hp => (hrs p hp).1) u, Option.isSome_none]
  rw [htext, hflag]

lemma parse_apply_of_placed (h : parse raw = .ok u) (hn : ¬ u.Ambiguous) (hrs : ArePlaced rs)
    (o : CleaningOptions) :
    ∃ v, parse (apply (some rs) raw o).url = .ok v ∧ SamePlace v u ∧
      v.fragment.getD [] = u.fragment.getD [] ∧
      v.query = spared (removedName rs o u) u.query := by
  rw [apply_of_placed h hn hrs o]
  have hq := isQuery_encode (spared (removedName rs o u) u.query)
  exact ⟨_, (parse_sound h).parse_assemble_eq hn hq, SamePlace.reread u _,
    getD_fragment_reread u _, Form.decode_encode _⟩

/-- **The order of the providers does not matter** if they have rules about parameters alone and go
by the place of a URL. The outcome is read as the URL without the pairs that some provider removes;
a second run does nothing, and to allow referral parameters removes no more. -/
theorem apply_in_any_order (h : parse raw = .ok u) (hs : u.scheme ∈ specialSchemes)
    (hrs : ArePlaced rs) (o : CleaningOptions) :
    let once := apply (some rs) raw o
    (once.error = none ∧ ∃ v, parse once.url = .ok v ∧
        v.query = u.query.filter fun q => ¬ Removed rs o u q.1) ∧
      (∀ rs', rs.Perm rs' → apply (some rs') raw o = once) ∧
      apply (some rs) once.url o = { url := once.url, changed := false } ∧
      ∃ v w, parse (apply (some rs) raw { o with allowReferral := false }).url = .ok v ∧
        parse (apply (some rs) raw { o with allowReferral := true }).url = .ok w ∧
        v.query.Sublist w.query := by
  have hu := parse_sound h
  have hn := hu.not_ambiguous_of_special hs
  intro once
  obtain ⟨v, hv, hplace, hfragment, hquery⟩ := parse_apply_of_placed h hn hrs o
  refine ⟨⟨?_, v, hv, ?_⟩, fun rs' hperm => ?_, ?_, ?_⟩
  · exact (apply_of_ok h rs o).1
  · rw [hquery, spared_removedName]
  · have hrs' : ArePlaced rs' := fun p hp => hrs p (hperm.mem_iff.mpr hp)
    rw [apply_of_placed h hn hrs', ← removedName_perm hperm, ← apply_of_placed h hn hrs]
  · -- the names that go are the same for what is left, and none of them is left
    have hgone := removedName_congr (o := o) hrs hu (parse_sound hv) hn hplace
    have hnone : spared (removedName rs o u) v.query = v.query := by
      rw [hquery, spared_spared]
      simp only [Bool.or_self]
    have hflag : (v.query.any fun q => removedName rs o u (lower q.1)) = false := by
      rw [Bool.eq_false_iff, ne_eq, List.any_eq_true, ← spared_ne_iff, not_not]
      exact hnone
    have htext : v.assemble (Form.encode v.query) = once.url := by
      rw [hquery, hplace.assemble_eq hfragment]
      exact (congrArg CleanResult.url (apply_of_placed h hn hrs o)).symm
    rw [apply_of_placed hv (mt hplace.ambiguous_iff.mp hn) hrs, hgone, hnone, hflag, htext]
  · obtain ⟨a, ha, -, -, hqa⟩ := parse_apply_of_placed h hn hrs { o with allowReferral := false }
    obtain ⟨b, hb, -, -, hqb⟩ := parse_apply_of_placed h hn hrs { o with allowReferral := true }
    refine ⟨a, b, ha, hb, ?_⟩
    rw [hqa, hqb]
    refine List.monotone_filter_right _ fun q hq => ?_
    rw [Bool.not_eq_true'] at hq ⊢
    rw [Bool.eq_false_iff] at hq ⊢
    exact mt removedName_allowReferral hq

/-- Names that the one provider removes as they are and the other by a pattern, and a name that is
removed unless referral parameters are allowed. -/
theorem apply_in_any_order_shop :
    let shop : Provider :=
      { name := "shop".toList
        urlPattern := pattern? "^https://shop".toList
        rules := [.literal "id".toList]
        referralMarketing := [.literal "ref".toList] }
    let every : Provider :=
      { name := "every".toList
        urlPattern := pattern? "^https".toList
        rules := ((pattern? "^utm_".toList).map .pattern).toList }
    let raw := "https://shop.test/a?ID=1&utm_x=2&q=x%20y&ref=3&id=4#top".toList
    let u : Url := ⟨"https".toList, "shop.test".toList, "/a".toList,
      [("ID".toList, "1".toList), ("utm_x".toList, "2".toList), ("q".toList, "x y".toList),
        ("ref".toList, "3".toList), ("id".toList, "4".toList)],
      some "top".toList, some "ID=1&utm_x=2&q=x%20y&ref=3&id=4".toList⟩
    let once : CleanResult :=
      { url := "https://shop.test/a?q=x+y#top".toList, changed := true }
    parse raw = .ok u ∧ u.scheme ∈ specialSchemes ∧ ArePlaced [shop, every] ∧
      apply (some [shop, every]) raw {} = once ∧ apply (some [every, shop]) raw {} = once ∧
      apply (some [shop, every]) once.url {} = { url := once.url, changed := false } ∧
      (apply (some [shop, every]) raw { allowReferral := true }).url =
        "https://shop.test/a?q=x+y&ref=3#top".toList := by
  intro shop every raw u once
  have h : parse raw = .ok u := by decide +kernel
  have hs : u.scheme ∈ specialSchemes := by decide
  have hopens : ∀ s : Text, s = "https".toList ∨ s = "https://shop".toList →
      pattern? ('^' :: s) = some ⟨'^' :: s, 0, Pattern.openingNode { ignoreCase := true } s⟩ := by
    rintro s (rfl | rfl) <;> decide +kernel
  have hshop : shop.IsPlaced :=
    Provider.isPlaced_of_opening (hopens _ (Or.inr rfl)) rfl rfl rfl (by decide +kernel)
  have hevery : every.IsPlaced :=
    Provider.isPlaced_of_opening (hopens _ (Or.inl rfl)) rfl rfl rfl (by decide +kernel)
  have hrs : ArePlaced [shop, every] := by
    intro p hp
    obtain rfl | rfl : p = shop ∨ p = every := by simpa using hp
    · exact ⟨⟨rfl, rfl⟩, hshop⟩
    · exact ⟨⟨rfl, rfl⟩, hevery⟩
  have honce : apply (some [shop, every]) raw {} = once := by decide +kernel
  obtain ⟨-, hperm, hagain, -⟩ := apply_in_any_order h hs hrs {}
  rw [honce] at hperm hagain
  exact ⟨h, hs, hrs, honce, hperm _ (List.Perm.swap every shop []), hagain, by decide +kernel⟩

end Rules

end LinkCleaner
