import LinkCleaner.Proofs.Pattern.Exact
import LinkCleaner.Proofs.Rules.Apply
import LinkCleaner.Rules.Compile

/-!
What rules see of a URL: its text. URLs with the same text are cleaned alike by all rules, and two
URLs whose texts differ are told apart by the rules of some document.
-/

namespace LinkCleaner

open Text Url

namespace Url

/-! ### URLs with the same text -/

/-- URLs that read the same, whatever stands for their query. -/
structure Alike (u v : Url) : Prop where
  query : u.query = v.query
  assemble : ∀ q, u.assemble q = v.assemble q
  href : u.href = v.href

namespace Alike

variable {u v : Url}

lemma refl (u : Url) : Alike u u := ⟨rfl, fun _ => rfl, rfl⟩

lemma keys (h : Alike u v) : u.keys = v.keys := by
  rw [Url.keys, Url.keys, h.query]

lemma serialize (h : Alike u v) : u.serialize = v.serialize := by
  rw [Url.serialize, Url.serialize, h.query]
  exact h.assemble _

lemma without (h : Alike u v) (doomed : Text → Bool) :
    Alike (u.without doomed) (v.without doomed) := by
  have hq : (u.without doomed).query = (v.without doomed).query := by
    rw [query_without, query_without, h.query]
  refine ⟨hq, h.assemble, ?_⟩
  change u.assemble (Form.encode (u.without doomed).query) = _
  rw [hq]
  exact h.assemble _

end Alike

lemma Sound.assemble_inj {u v : Url} (hu : Sound u) (hv : Sound v) {p q : Text} (hp : IsQuery p)
    (hq : IsQuery q) (h : u.assemble p = v.assemble q) :
    p = q ∧ ∀ r, u.assemble r = v.assemble r := by
  have hparts := congrArg splitParts h
  rw [hu.splitParts_assemble hp, hv.splitParts_assemble hq, Parts.mk.injEq] at hparts
  obtain ⟨hscheme, -, -, rfl, hfragment⟩ := hparts
  refine ⟨rfl, fun r => ?_⟩
  unfold assemble at h ⊢
  rw [hscheme, hfragment] at h ⊢
  simpa using h

lemma Sound.alike_of_href {u v : Url} (hu : Sound u) (hv : Sound v) (h : u.href = v.href) :
    Alike u v := by
  obtain ⟨hp, hdp⟩ := hu.query_href
  obtain ⟨hq, hdq⟩ := hv.query_href
  obtain ⟨he, hall⟩ := hu.assemble_inj hv hp hq h
  exact ⟨by rw [← hdp, ← hdq, he], hall, h⟩

/-! ### Parts of a text -/

lemma IsScheme.parse_alone {s : Text} (h : IsScheme s) (hs : s ∉ specialSchemes) :
    ∃ v, parse (s ++ [':']) = .ok v := by
  have hblank : ∀ c ∈ s ++ [':'], isBlank c = false := by
    intro c hc
    rcases List.mem_append.mp hc with hc | hc
    · exact (schemeChar_spec (h.chars c hc)).2
    · rw [List.mem_singleton.mp hc]
      decide
  have hscrub : scrub (s ++ [':']) = s ++ [':'] := by
    obtain ⟨c, name, rfl, hc⟩ := h.starts
    have hbounds := letter_bounds hc
    exact scrub_eq_self (by omega) hblank
  have hparts : splitParts (s ++ [':']) = ⟨s, [], [], [], []⟩ := by
    rw [splitParts_eq, hscrub, h.split []]
    rfl
  have hchecked : Parts.Checked ⟨s, [], [], [], []⟩ := by
    refine ⟨rfl, h.ne_nil, by simp, fun hc => absurd ?_ hs⟩
    simpa using hc
  rw [parse_of_ne_nil (by simp), trim_eq_self hblank, hparts]
  exact ⟨_, ofChecked_of_checked hchecked _⟩

lemma IsScheme.ends {s : Text} (h : IsScheme s) :
    ∃ a t, s = a ++ t ∧ IsScheme t ∧ t ∉ specialSchemes := by
  have hletter : ∀ c, isAsciiLetter c → isSchemeChar c → lowerAscii c = c → IsScheme [c] :=
    fun c h1 h2 h3 => ⟨⟨c, [], rfl, h1⟩, by simpa using h2, by simp [asciiLower_eq, h3]⟩
  by_cases hs : s ∈ specialSchemes
  · have hends : ∀ s ∈ specialSchemes, ∃ a c, s = a ++ [c] ∧ isAsciiLetter c ∧ isSchemeChar c ∧
        lowerAscii c = c ∧ [c] ∉ specialSchemes := by
      intro s hs
      refine ⟨s.dropLast, s.getLast?.getD 'a', ?_⟩
      revert s
      decide
    obtain ⟨a, c, he, h1, h2, h3, hc⟩ := hends s hs
    exact ⟨a, [c], he, hletter c h1 h2 h3, hc⟩
  · exact ⟨[], s, rfl, h, hs⟩

/-- In every text of a URL there is a part that is a URL itself. -/
lemma Sound.exists_target {u : Url} (h : Sound u) : ∃ a t b v, u.href = a ++ (t ++ b) ∧ t ≠ [] ∧
    parse? (Percent.decodeIfWellFormed t) = some v := by
  obtain ⟨a, s, hs, hscheme, hspecial⟩ := h.scheme.ends
  obtain ⟨v, hv⟩ := hscheme.parse_alone hspecial
  have hno : '%' ∉ s ++ [':'] := by
    intro hm
    rcases List.mem_append.mp hm with hm | hm
    · exact absurd (hscheme.chars _ hm) (by decide)
    · exact absurd hm (by decide)
  have hhref : ∃ r, u.href = u.scheme ++ ':' :: r := ⟨_, rfl⟩
  obtain ⟨r, hr⟩ := hhref
  refine ⟨a, s ++ [':'], r, v, ?_, by simp, ?_⟩
  · rw [hr, hs]
    simp
  · rw [Percent.decodeIfWellFormed_of_not_mem hno, parse?, hv]
    rfl

end Url

namespace Rules

variable {u v : Url} {o : CleaningOptions}

/-! ### Runs of the rules -/

/-- Sweeps that have come to URLs that read the same, by the same provider. -/
structure Redirected.Alike (r s : Redirected) : Prop where
  url : r.url.Alike s.url
  source : r.source = s.source

/-- Cleanings that have come to URLs that read the same, and agree whether that is a change. -/
structure Cleaning.Alike (c d : Cleaning) : Prop where
  url : c.url.Alike d.url
  changed : c.changed = d.changed

lemma redirectBy_alike {r s : Redirected} (h : r.Alike s) (name : Text) (p : Pattern) :
    (redirectBy name r p).Alike (redirectBy name s p) := by
  have ht : target? p r.url = target? p s.url := by rw [target?, target?, h.url.href]
  rw [redirectBy, redirectBy, ht]
  cases target? p s.url with
  | none => exact h
  | some v => exact ⟨.refl v, rfl⟩

lemma redirectThrough_alike {r s : Redirected} (h : r.Alike s) (p : Provider) :
    (redirectThrough r p).Alike (redirectThrough s p) := by
  rw [redirectThrough, redirectThrough, h.url.href]
  split_ifs
  · exact List.foldl_rel h fun q _ _ _ hab => redirectBy_alike hab p.name q
  · exact h

lemma redirect_alike (h : u.Alike v) (rs : Ruleset) : (redirect rs u).Alike (redirect rs v) :=
  List.foldl_rel ⟨h, rfl⟩ fun p _ _ _ hab => redirectThrough_alike hab p

lemma stripParams_alike {c d : Cleaning} (h : c.Alike d) (p : Provider) :
    (stripParams o p c).Alike (stripParams o p d) := by
  rw [stripParams, stripParams, h.url.keys]
  split_ifs
  · exact ⟨h.url.without _, rfl⟩
  · exact h

lemma deleteBy_alike {c d : Cleaning} (h : c.Alike d) (p : Pattern) :
    (deleteBy o c p).Alike (deleteBy o d p) := by
  rw [deleteBy, deleteBy, h.url.href]
  split_ifs
  · exact h
  · cases parse? (p.delete d.url.href) with
    | none => exact h
    | some v =>
      have hk : keepsAll o c.url v = keepsAll o d.url v := by rw [keepsAll, keepsAll, h.url.keys]
      simp only [hk]
      split_ifs
      · exact ⟨.refl v, rfl⟩
      · exact h

lemma cleanBy_alike {c d : Cleaning} (h : c.Alike d) (p : Provider) :
    (cleanBy o c p).Alike (cleanBy o d p) := by
  rw [cleanBy, cleanBy, h.url.href]
  split_ifs
  · exact List.foldl_rel (stripParams_alike h p) fun q _ _ _ hab => deleteBy_alike hab q
  · exact h

/-- **URLs that read the same are cleaned alike**, whatever the rules are. -/
theorem apply_alike {raw text : Text} (hu : parse raw = .ok u) (hv : parse text = .ok v)
    (h : u.Alike v) (rs : Ruleset) (o : CleaningOptions) :
    apply (some rs) raw o = apply (some rs) text o := by
  have hr := redirect_alike h rs
  have hc : (rs.foldl (cleanBy o) ⟨(redirect rs u).url, (redirect rs u).source.isSome⟩).Alike
      (rs.foldl (cleanBy o) ⟨(redirect rs v).url, (redirect rs v).source.isSome⟩) := by
    refine List.foldl_rel ⟨hr.url, by rw [hr.source]⟩ fun p _ _ _ hab => cleanBy_alike hab p
  simp only [apply, hu, hv]
  rw [hc.url.serialize, hc.changed, hr.source]

/-! ### Rules for one text -/

/-- The rules of some document. -/
def Compiled (rs : Ruleset) : Prop := ∃ doc, compile doc = .ok (some rs)

/-- A provider for one text, which leads to a part of it. -/
def probe (a t b : Text) : Provider :=
  { name := "probe".toList
    urlPattern := some (.exact a t b)
    redirections := [.exact a t b] }

lemma compiled_nil : Compiled [] := ⟨.ofFields [("providers".toList, .ofFields [])], rfl⟩

lemma compiled_probe (a t b : Text) : Compiled [probe a t b] := by
  let source := Pattern.exactSource a t b
  let doc : Json.Value := .ofFields [("providers".toList, .ofFields [("probe".toList,
    .ofFields [("urlPattern".toList, .text source),
      ("redirections".toList, .arr [.text source])])])]
  have hparse : Pattern.parse source = .ok (.exact a t b) := Pattern.parse_exactSource a t b
  have hspec : specs? doc = some [("probe".toList,
      some { urlPattern := some source, redirections := [source] })] := by
    let shown := Json.Str.toText (Json.Str.ofText source)
    have htext : shown = source := Json.Str.toText_ofText source
    change some [("probe".toList, some (Spec.mk (some shown) [] [shown] [] [] []))] = _
    rw [htext]
  refine ⟨doc, ?_⟩
  simp [compile, tasks, hspec, tasksOf, Spec.sources, Task.fatal?, hparse, Spec.provider, pattern?,
    Except.toOption, probe]

variable {a t b : Text}

lemma source_of_probe (h : u.href = a ++ (t ++ b)) (ht : t ≠ [])
    (hv : parse? (Percent.decodeIfWellFormed t) = some v) :
    (redirect [probe a t b] u).source = some "probe".toList := by
  obtain ⟨f, hsearch, hgroup⟩ := Pattern.search_exact_self (a := a) (t := t) (b := b)
  have hcovers : (probe a t b).appliesTo u.href := by
    simp [Provider.appliesTo, probe, Pattern.occurs, h, hsearch]
  have htarget : target? (.exact a t b) u = some v := by
    have hgroups : (Pattern.exact a t b).groups ≠ 0 := Nat.one_ne_zero
    rw [target?, if_neg hgroups, h, hsearch, Option.bind_some, hgroup]
    cases t with
    | nil => exact absurd rfl ht
    | cons c r => exact hv
  rw [redirect, List.foldl_cons, List.foldl_nil, redirectThrough, if_pos hcovers]
  simp only [probe, List.foldl_cons, List.foldl_nil, redirectBy, htarget]

lemma appliesTo_of_not_probe (h : u.href ≠ a ++ (t ++ b)) :
    (probe a t b).appliesTo u.href = false := by
  simp [Provider.appliesTo, probe, Pattern.occurs, Pattern.search_exact_other h]

lemma source_of_not_probe (h : u.href ≠ a ++ (t ++ b)) :
    (redirect [probe a t b] u).source = none := by
  rw [redirect, List.foldl_cons, List.foldl_nil, redirectThrough, appliesTo_of_not_probe h]
  rfl

/-- **Rules see nothing but the text**, and tell any two texts apart: two URLs are cleaned alike by
the rules of every document exactly if they read the same. -/
theorem apply_eq_iff {raw text : Text} (hu : parse raw = .ok u) (hv : parse text = .ok v) :
    (∀ rs, Compiled rs → apply (some rs) raw o = apply (some rs) text o) ↔ v.href = u.href := by
  constructor
  · intro hall
    by_contra hne
    obtain ⟨a, t, b, w, hhref, ht, hw⟩ := (parse_sound hu).exists_target
    rw [hhref] at hne
    have he := congrArg CleanResult.unwrappedFrom (hall _ (compiled_probe a t b))
    rw [(apply_of_ok hu _ o).2.1, (apply_of_ok hv _ o).2.1, source_of_probe hhref ht hw,
      source_of_not_probe hne] at he
    cases he
  · intro he rs _
    exact apply_alike hu hv ((parse_sound hu).alike_of_href (parse_sound hv) he.symm) rs o

end Rules

end LinkCleaner
