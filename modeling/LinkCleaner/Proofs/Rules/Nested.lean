import Mathlib.Data.List.Nodup
import Mathlib.Order.Bounds.Basic
import LinkCleaner.Proofs.Pattern.Target
import LinkCleaner.Proofs.Rules.Untouched

/-!
Targets inside targets. Each hop is a page of a host of its own that hands on the text of the next,
and for each host there is a provider that follows its redirection. The providers are gone through
once, so that they follow as many hops as stand in their order.
-/

namespace LinkCleaner

open Text Url

namespace Percent

/-- The text with all but letters, digits and four marks escaped. -/
def quoted (s : Text) : Text :=
  s.flatMap fun c => if Form.isPlain c then [c] else escapeChar c

lemma isEncoded_quoted {s : Text} {d : Char} (h : d ∈ quoted s) : Form.isEncoded d := by
  obtain ⟨c, -, hd⟩ := List.mem_flatMap.mp h
  split_ifs at hd with hp
  · rw [List.mem_singleton] at hd
    simp [hd, Form.isEncoded, hp]
  · exact Form.isEncoded_escapeChar hd

lemma bytes_quoted (s : Text) : bytes (quoted s) = utf8 s := by
  induction s with
  | nil => rfl
  | cons c s ih =>
    have hchar : bytes (quoted (c :: s)) = utf8Char c ++ bytes (quoted s) := by
      rw [quoted, List.flatMap_cons]
      split_ifs with hp
      · have hne : c ≠ '%' := by
          rintro rfl
          exact absurd hp (by decide)
        exact bytes_of_ne hne _
      · exact bytes_escapeBytes _ _
    rw [hchar, ih]
    rfl

/-- **Decoding undoes quoting.** -/
theorem decodeIfWellFormed_quoted (s : Text) : decodeIfWellFormed (quoted s) = s := by
  rw [decodeIfWellFormed, bytes_quoted, ofUtf8?_utf8]
  rfl

lemma quoted_ne_nil {s : Text} (h : s ≠ []) : quoted s ≠ [] := by
  intro he
  have hs := decodeIfWellFormed_quoted s
  rw [he] at hs
  exact h hs.symm

end Percent

namespace Rules

open Pattern (lead leadSource targetSource leadPattern targetPattern)

/-- A host whose pages hand on a target, and the name of its provider. -/
structure Hop where
  name : Text
  host : Text
  deriving DecidableEq

variable {p q : Hop} {every hops order : List Hop} {t last : Text} {u v : Url} {r : Redirected}

namespace Hop

/-- The provider of a hop as a document gives it: which pages it covers, and where the target of
such a page stands. -/
def spec (p : Hop) : Spec :=
  { urlPattern := some (leadSource p.host), redirections := [targetSource p.host] }

def provider (p : Hop) : Provider := p.spec.provider p.name

/-- The page of a hop that hands on a text. -/
def wrap (p : Hop) (t : Text) : Text := lead p.host ++ Percent.quoted t

lemma provider_eq (p : Hop) : p.provider =
    { name := p.name, urlPattern := some (leadPattern p.host)
      redirections := [targetPattern p.host] } := by
  simp [provider, spec, Spec.provider, pattern?, Pattern.parse_leadSource,
    Pattern.parse_targetSource,
    Except.toOption]

lemma href_wrap (h : IsPlainHost p.host) (t : Text) :
    ∃ u, parse (p.wrap t) = .ok u ∧ u.href = p.wrap t := by
  have htext : p.wrap t = pageText p.host "/go".toList ("to=".toList ++ Percent.quoted t) := by
    have hpath : "/go?to=".toList = "/go".toList ++ '?' :: "to=".toList := by decide
    unfold wrap lead pageText
    rw [hpath]
    simp only [List.append_assoc, List.cons_append]
  have hto : IsQuery "to=".toList := by decide
  have hq : IsQuery ("to=".toList ++ Percent.quoted t) := by
    intro c hc
    rcases List.mem_append.mp hc with hc | hc
    · exact hto c hc
    · have hspec := Form.isEncoded_spec (Percent.isEncoded_quoted hc)
      exact ⟨hspec.2.1, hspec.1⟩
  have hne : "to=".toList ++ Percent.quoted t ≠ [] := by simp
  have hpath : IsPath "/go".toList := by decide
  rw [htext]
  exact ⟨_, parse_pageText h hpath (by decide) hq hne⟩

lemma appliesTo_wrap (hp : IsPlainHost p.host) (hq : IsPlainHost q.host) (t : Text) :
    p.provider.appliesTo (q.wrap t) = (p.host == q.host) := by
  rw [provider_eq]
  simp only [Provider.appliesTo, List.any_nil, Bool.not_false, Bool.and_true]
  exact Pattern.occurs_lead hp hq _

lemma target_wrap (h : IsPlainHost p.host) (hu : u.href = p.wrap t) (hv : parse t = .ok v) :
    target? (targetPattern p.host) u = some v := by
  have ht : t ≠ [] := by
    rintro rfl
    cases hv
  obtain ⟨f, hf, hgroup⟩ := Pattern.search_target h (Percent.quoted_ne_nil ht)
    fun _ hd => Percent.isEncoded_quoted hd
  have hfound : (((targetPattern p.host).search u.href).bind fun f => f.group? u.href 1) =
      some (Percent.quoted t) := by
    rw [hu, wrap, hf, Option.bind_some, hgroup]
  rw [target?, if_neg (by simp [targetPattern]), hfound]
  cases hq : Percent.quoted t with
  | nil => exact absurd hq (Percent.quoted_ne_nil ht)
  | cons c s =>
    simp only [← hq, Percent.decodeIfWellFormed_quoted, parse?, hv, Except.toOption]

lemma redirectThrough_wrap (h : IsPlainHost p.host) (hr : r.url.href = p.wrap t)
    (hv : parse t = .ok v) :
    redirectThrough r p.provider = { url := v, source := some p.name } := by
  have hcovers : p.provider.appliesTo r.url.href := by
    rw [hr, appliesTo_wrap h h, beq_self_eq_true]
  rw [redirectThrough, if_pos hcovers, provider_eq]
  simp only [List.foldl_cons, List.foldl_nil, redirectBy, target_wrap h hr hv]

lemma cleanBy_provider (o : CleaningOptions) (c : Cleaning) (p : Hop) :
    cleanBy o c p.provider = c := by
  have hnone : ∀ key, p.provider.removes o key = false := fun key => by
    simp [provider_eq, Provider.removes, Provider.entries]
  have hstrip : stripParams o p.provider c = c := by
    rw [stripParams, if_neg]
    simp [hnone]
  rw [cleanBy, hstrip, provider_eq]
  split_ifs <;> rfl

end Hop

/-! ### Hops in a row -/

/-- The page of the first hop that hands on that of the second, and so on to a last text. -/
def nested (hops : List Hop) (last : Text) : Text := hops.foldr Hop.wrap last

lemma parse_nested (h : ∀ p ∈ hops, IsPlainHost p.host) (hlast : parse last = .ok u) :
    ∃ v, parse (nested hops last) = .ok v := by
  cases hops with
  | nil => exact ⟨u, hlast⟩
  | cons p hops =>
    obtain ⟨v, hv, -⟩ := Hop.href_wrap (h p List.mem_cons_self) (nested hops last)
    exact ⟨v, hv⟩

/-- How many of the hops, from the first on, are met in turn on one way through the order. -/
def met : List Hop → List Hop → Nat
  | [], _ => 0
  | _ :: _, [] => 0
  | p :: hops, q :: order => if q = p then met hops order + 1 else met (p :: hops) order

@[simp] lemma met_nil_left (order : List Hop) : met [] order = 0 := by cases order <;> rfl

@[simp] lemma met_nil_right (hops : List Hop) : met hops [] = 0 := by cases hops <;> rfl

/-- That many hops stand in the order as they follow one another, and no more. -/
lemma met_spec (hops order : List Hop) :
    IsGreatest {n | n ≤ hops.length ∧ (hops.take n).Sublist order} (met hops order) := by
  induction order generalizing hops with
  | nil =>
    rw [met_nil_right]
    refine ⟨⟨Nat.zero_le _, List.nil_sublist _⟩, fun n ⟨hn, hsub⟩ => ?_⟩
    have hlen := congrArg List.length (List.sublist_nil.mp hsub)
    rw [List.length_take, List.length_nil] at hlen
    omega
  | cons q order ih =>
    cases hops with
    | nil =>
      rw [met_nil_left]
      exact ⟨⟨Nat.zero_le _, List.nil_sublist _⟩, fun n hn => hn.1⟩
    | cons p hops =>
      by_cases hq : q = p
      · subst hq
        obtain ⟨⟨hle, hsub⟩, hmax⟩ := ih hops
        rw [met, if_pos rfl]
        refine ⟨⟨Nat.succ_le_succ hle, ?_⟩, fun n ⟨hn, hn'⟩ => ?_⟩
        · exact hsub.cons_cons q
        · cases n with
          | zero => exact Nat.zero_le _
          | succ n =>
            rw [List.take_succ_cons, List.cons_sublist_cons] at hn'
            exact Nat.succ_le_succ (hmax ⟨Nat.le_of_succ_le_succ hn, hn'⟩)
      · -- no hops that stand in order begin here, as the first of them would be another one
        obtain ⟨⟨hle, hsub⟩, hmax⟩ := ih (p :: hops)
        rw [met, if_neg hq]
        refine ⟨⟨hle, hsub.cons q⟩, fun n ⟨hn, hn'⟩ => ?_⟩
        cases n with
        | zero => exact Nat.zero_le _
        | succ n =>
          rw [List.take_succ_cons] at hn'
          refine hmax ⟨hn, ?_⟩
          rw [List.take_succ_cons]
          exact (List.sublist_cons_iff.mp hn').resolve_right fun ⟨_, he, _⟩ =>
            hq (List.cons_eq_cons.mp he).1.symm

/-- Hops of plain hosts, each of a host of its own, of whose providers none covers a URL. -/
structure Apart (hops : List Hop) (u : Url) : Prop where
  plain : ∀ p ∈ hops, IsPlainHost p.host
  distinct : (hops.map Hop.host).Nodup
  outside : ∀ p ∈ hops, p.provider.appliesTo u.href = false

section Sweep

variable (hs : Apart every u) (hlast : parse last = .ok u)

include hs hlast

lemma redirectThrough_other (hq : q ∈ every) (hhops : ∀ p ∈ hops, p ∈ every)
    (hnext : hops.head? ≠ some q) (h : parse (nested hops last) = .ok r.url) :
    redirectThrough r q.provider = r := by
  have hcovers : q.provider.appliesTo r.url.href = false := by
    cases hops with
    | nil =>
      have hu : u = r.url := Except.ok.inj (hlast.symm.trans h)
      rw [← hu]
      exact hs.outside q hq
    | cons p hops =>
      have hp := hhops p List.mem_cons_self
      obtain ⟨v, hv, htext⟩ := Hop.href_wrap (hs.plain p hp) (nested hops last)
      have hvr : v = r.url := Except.ok.inj (hv.symm.trans h)
      rw [← hvr, htext, Hop.appliesTo_wrap (hs.plain q hq) (hs.plain p hp), beq_eq_false_iff_ne]
      intro he
      exact hnext (congrArg some (List.inj_on_of_nodup_map hs.distinct hp hq he.symm))
  rw [redirectThrough, hcovers]
  rfl

lemma redirectThrough_next (hhops : ∀ p ∈ q :: hops, p ∈ every)
    (h : parse (nested (q :: hops) last) = .ok r.url) :
    ∃ v, parse (nested hops last) = .ok v ∧
      redirectThrough r q.provider = { url := v, source := some q.name } := by
  have hq := hs.plain q (hhops q List.mem_cons_self)
  have hrest : ∀ p ∈ hops, IsPlainHost p.host := fun p hp =>
    hs.plain p (hhops p (List.mem_cons_of_mem q hp))
  obtain ⟨v, hv⟩ := parse_nested hrest hlast
  obtain ⟨w, hw, htext⟩ := Hop.href_wrap hq (nested hops last)
  have hwr : w = r.url := Except.ok.inj (hw.symm.trans h)
  rw [hwr] at htext
  exact ⟨v, hv, Hop.redirectThrough_wrap hq htext hv⟩

/-- **A sweep follows the hops that it meets in turn**: it ends at the page of the first of the
others, and names the last that it has followed. -/
theorem sweep_met (hhops : ∀ p ∈ hops, p ∈ every) (horder : ∀ q ∈ order, q ∈ every)
    (h : parse (nested hops last) = .ok r.url) :
    let swept := (order.map Hop.provider).foldl redirectThrough r
    parse (nested (hops.drop (met hops order)) last) = .ok swept.url ∧
      swept.source = ((hops.take (met hops order)).getLast?.map Hop.name).or r.source := by
  induction order generalizing hops r with
  | nil =>
    rw [met_nil_right]
    exact ⟨h, rfl⟩
  | cons q order ih =>
    have hq := horder q List.mem_cons_self
    have hrest : ∀ p ∈ order, p ∈ every := fun p hp => horder p (List.mem_cons_of_mem q hp)
    rw [List.map_cons, List.foldl_cons]
    cases hops with
    | nil =>
      have hsweep := ih hhops hrest h
      rw [met_nil_left] at hsweep
      rw [redirectThrough_other hs hlast hq hhops (by simp) h, met_nil_left]
      exact hsweep
    | cons p hops =>
      by_cases he : q = p
      · subst he
        obtain ⟨v, hv, hnext⟩ := redirectThrough_next hs hlast hhops h
        obtain ⟨hurl, hsource⟩ := ih (r := { url := v, source := some q.name })
          (fun p hp => hhops p (List.mem_cons_of_mem q hp)) hrest hv
        rw [hnext, met, if_pos rfl]
        refine ⟨hurl, hsource.trans ?_⟩
        rw [List.take_succ_cons, List.getLast?_cons]
        cases (hops.take (met hops order)).getLast? <;> rfl
      · -- its hop comes later, if at all: the page that the sweep has reached is not covered
        have hother : (p :: hops).head? ≠ some q := fun hh => he (Option.some.inj hh).symm
        rw [redirectThrough_other hs hlast hq hhops hother h, met, if_neg he]
        exact ih hhops hrest h

end Sweep

/-! ### The whole -/

lemma compile_hops {doc : Json.Value}
    (h : specs? doc = some (order.map fun p => (p.name, some p.spec))) :
    compile doc = .ok (some (order.map Hop.provider)) := by
  have hfatal : (tasks doc).findSome? Task.fatal? = none := by
    rw [List.findSome?_eq_none_iff]
    intro task ht
    rw [tasks, h, Option.getD_some, List.flatMap_map, List.mem_flatMap] at ht
    obtain ⟨p, -, hp⟩ := ht
    obtain rfl | rfl : task = .read p.name (leadSource p.host) ∨
        task = .read p.name (targetSource p.host) := by
      simpa [tasksOf, Hop.spec, Spec.sources] using hp
    · rw [Task.fatal?, Pattern.parse_leadSource]
    · rw [Task.fatal?, Pattern.parse_targetSource]
  rw [compile, h]
  simp only [hfatal, List.filterMap_map]
  rw [← List.filterMap_eq_map]
  rfl

/-- **One sweep follows the hops that stand in order, and no more.** Of hops one inside the other,
whose providers are gone through in any order, as many are followed as come one after the other in
that order. What is left is written as it is read, and the provider of the last hop that was
followed is named. -/
theorem apply_nested (hne : hops ≠ []) (hs : Apart hops u) (hlast : parse last = .ok u)
    (hperm : order.Perm hops) (o : CleaningOptions) :
    (∀ doc, specs? doc = some (order.map fun p => (p.name, some p.spec)) →
      compile doc = .ok (some (order.map Hop.provider))) ∧
    ∃ k p v, IsGreatest {n | n ≤ hops.length ∧ (hops.take n).Sublist order} k ∧
      0 < k ∧ hops[k - 1]? = some p ∧ parse (nested (hops.drop k) last) = .ok v ∧
      apply (some (order.map Hop.provider)) (nested hops last) o =
        { url := v.serialize, changed := true, unwrappedFrom := some p.name } := by
  refine ⟨fun doc => compile_hops, ?_⟩
  have hgreatest := met_spec hops order
  have hpos : 0 < met hops order := by
    obtain ⟨p, rest, rfl⟩ := List.exists_cons_of_ne_nil hne
    have hp : p ∈ order := hperm.mem_iff.mpr List.mem_cons_self
    exact hgreatest.2 ⟨Nat.succ_le_succ (Nat.zero_le _), List.singleton_sublist.mpr hp⟩
  obtain ⟨w, hw⟩ := parse_nested hs.plain hlast
  obtain ⟨hurl, hsource⟩ := sweep_met hs hlast (fun _ hp => hp)
    (fun _ hq => hperm.mem_iff.mp hq) (r := { url := w }) hw
  have hlt : met hops order - 1 < hops.length := by
    have := hgreatest.1.1
    omega
  have hname : (redirect (order.map Hop.provider) w).source =
      some hops[met hops order - 1].name := by
    rw [redirect, hsource, List.getLast?_take, if_neg (by omega), List.getElem?_eq_getElem hlt]
    rfl
  have hclean : ∀ c, (order.map Hop.provider).foldl (cleanBy o) c = c := fun c =>
    foldl_of_still fun a ha => by
      obtain ⟨q, -, rfl⟩ := List.mem_map.mp ha
      exact q.cleanBy_provider o c
  refine ⟨_, _, _, hgreatest, hpos, List.getElem?_eq_getElem hlt, hurl, ?_⟩
  simp only [apply, hw, hclean, hname, Option.isSome_some]
  rfl

/-- Three hops to a text with blanks around it, of which the first two stand in order: the page of
the third is left, and what it hands on is still quoted. -/
theorem apply_nested_two_of_three :
    let hops : List Hop := [⟨"one".toList, "a-1.test".toList⟩, ⟨"two".toList, "b.test".toList⟩,
      ⟨"three".toList, "c.test".toList⟩]
    let order : List Hop := [⟨"three".toList, "c.test".toList⟩, ⟨"one".toList, "a-1.test".toList⟩,
      ⟨"two".toList, "b.test".toList⟩]
    let last := " https://final.test/p?x=1&y=ü ".toList
    let u : Url := ⟨"https".toList, "final.test".toList, "/p".toList,
      [("x".toList, "1".toList), ("y".toList, "ü".toList)], none, some "x=1&y=ü".toList⟩
    nested (hops.drop 2) last =
        "https://c.test/go?to=%20https%3A%2F%2Ffinal.test%2Fp%3Fx%3D1%26y%3D%C3%BC%20".toList ∧
      hops ≠ [] ∧ Apart hops u ∧ parse last = .ok u ∧ order.Perm hops ∧
      apply (some (order.map Hop.provider)) (nested hops last) {} =
        { url := "https://c.test/go?to=+https%3A%2F%2Ffinal.test%2Fp%3Fx%3D1%26y%3D%C3%BC+".toList
          changed := true
          unwrappedFrom := some "two".toList } := by
  intro hops order last u
  have hs : Apart hops u := ⟨by decide, by decide, by decide +kernel⟩
  have hlast : parse last = .ok u := by decide +kernel
  have hperm : order.Perm hops := by decide
  refine ⟨by decide +kernel, by decide, hs, hlast, hperm, ?_⟩
  have htwo : IsGreatest {n | n ≤ hops.length ∧ (hops.take n).Sublist order} 2 := by
    refine ⟨⟨by decide, by decide⟩, fun n ⟨hn, hsub⟩ => ?_⟩
    by_contra hlt
    obtain rfl : n = 3 := by
      have : n ≤ 3 := hn
      omega
    exact absurd hsub (by decide)
  obtain ⟨k, p, v, hk, -, hp, hv, happly⟩ := (apply_nested (by decide) hs hlast hperm {}).2
  obtain rfl : k = 2 := hk.unique htwo
  obtain rfl : p = ⟨"two".toList, "b.test".toList⟩ := Option.some.inj (hp.symm.trans rfl)
  have hread : parse (nested (hops.drop 2) last) = .ok ⟨"https".toList, "c.test".toList,
      "/go".toList, [("to".toList, last)], none,
      some "to=%20https%3A%2F%2Ffinal.test%2Fp%3Fx%3D1%26y%3D%C3%BC%20".toList⟩ := by
    decide +kernel
  obtain rfl := Except.ok.inj (hv.symm.trans hread)
  rw [happly]
  decide +kernel

end Rules

end LinkCleaner
