import Mathlib.Logic.Function.Iterate
import LinkCleaner.Proofs.Contract
import LinkCleaner.Proofs.NoFragment
import LinkCleaner.Proofs.Rules.Untouched

/-!
What it means that cleaning reports no change. Each stage speaks of the text that it reads, and that
is not always the one that was given: a fragment may have been dropped from it, and a URL that is
written down and read again may be another one. So what is called already clean is the canonical
text of what was given only where neither has happened.
-/

namespace LinkCleaner

open Text Url

variable {engine : Engine} {rules : Option Rules.Ruleset} {raw : Text} {u : Url}
  {o : CleaningOptions}

/-- What is not reported as changed is the canonical text of what was given. -/
def Truthful (engine : Engine) (rules : Option Rules.Ruleset) (raw : Text) (o : CleaningOptions) :
    Prop :=
  ∀ u, Url.parse raw = .ok u → (cleanUrl engine rules raw o).error = none →
    (cleanUrl engine rules raw o).changed = false →
    (cleanUrl engine rules raw o).url = u.serialize

/-! ### Texts that are read and written again -/

/-- The canonical text of what a text is read as. -/
def rewrite (text : Text) : Text :=
  match Url.parse text with
  | .error _ => text
  | .ok u => u.serialize

/-- How often a URL is written down and read again on the way: once if its fragment is dropped, and
once between two stages. -/
def rereadings (engine : Engine) (rules : Option Rules.Ruleset) (o : CleaningOptions) : Nat :=
  (if engine = .both ∧ rules.isSome then 1 else 0) + if o.cleanHash then 0 else 1

lemma rewrite_of_ok (h : Url.parse raw = .ok u) : rewrite raw = u.serialize := by
  rw [rewrite, h]

lemma rewrite_no_fragment {text : Text} (h : '#' ∉ text) : '#' ∉ rewrite text := by
  unfold rewrite
  cases hp : Url.parse text with
  | error e => exact h
  | ok v =>
    intro hm
    have hno : v.serialize.contains '#' = !(v.fragment.getD []).isEmpty :=
      (parse_sound hp).contains_assemble (isQuery_encode v.query)
    rw [fragment_of_parse hp h, List.contains_iff_mem.mpr hm] at hno
    cases hno

lemma rewrite_serialize (hu : Sound u) (hn : ¬ u.Ambiguous) (k : Nat) :
    rewrite^[k] u.serialize = u.serialize := by
  have hfix : rewrite u.serialize = u.serialize := by
    rw [rewrite_of_ok (hu.parse_serialize hn), serialize_reread]
  exact Function.iterate_fixed hfix k

/-! ### Stages that do nothing -/

lemma stripTracking_unchanged (h : Url.parse raw = .ok u)
    (hn : (stripTracking raw o).changed = false) : (stripTracking raw o).url = u.serialize := by
  rw [stripTracking_of_ok h] at hn ⊢
  simp only [Bool.or_eq_false_iff] at hn ⊢
  rw [strip_of_not_flag hn.2]
  rcases unwrap_cases u with ⟨-, hl⟩ | ⟨v, provider, hu, -⟩
  · rw [hl]
  · rw [hu] at hn
    cases hn.1

/-- What is left of a URL before it is cleaned: its fragment is dropped, unless that is to be
cleaned too. -/
def CleaningOptions.start (o : CleaningOptions) (u : Url) : Url :=
  if o.cleanHash then u else u.withFragment none

lemma parse_source (h : Url.parse raw = .ok u) {w : Url}
    (hw : Url.parse (o.source raw) = .ok w) :
    w.serialize = rewrite^[if o.cleanHash then 0 else 1] (o.start u).serialize := by
  unfold CleaningOptions.source at hw
  unfold CleaningOptions.start
  split_ifs at hw ⊢
  · rw [h] at hw
    cases hw
    rfl
  · rw [dropFragment_of_ok h] at hw
    exact (rewrite_of_ok hw).symm

lemma cleanUrl_both_none (raw : Text) (o : CleaningOptions) :
    cleanUrl .both none raw o = cleanUrl .heuristic none raw o := by
  simp only [cleanUrl]
  split_ifs with hok
  · rw [CleanResult.ok, Option.isNone_iff_eq_none] at hok
    rw [CleanResult.orInput_of_ok hok]
    rfl
  · rfl

lemma cleanUrl_unchanged (h : Url.parse raw = .ok u)
    (hok : (cleanUrl engine rules raw o).error = none)
    (hn : (cleanUrl engine rules raw o).changed = false) :
    (cleanUrl engine rules raw o).url =
      rewrite^[rereadings engine rules o] (o.start u).serialize := by
  -- without rules both engines are the lists, which are therefore dealt with once
  have hfirst : ∀ {rules}, (cleanUrl .heuristic rules raw o).error = none →
      (cleanUrl .heuristic rules raw o).changed = false → (cleanUrl .heuristic rules raw o).url =
        rewrite^[if o.cleanHash then 0 else 1] (o.start u).serialize := by
    intro rules hok hn
    simp only [cleanUrl, CleanResult.orInput_error] at hok
    simp only [cleanUrl, CleanResult.orInput_of_ok hok] at hn ⊢
    obtain ⟨w, hw⟩ := parse_of_strip_ok hok
    rw [stripTracking_unchanged hw hn, parse_source h hw]
  cases engine with
  | heuristic => simpa [rereadings] using hfirst hok hn
  | rules =>
    simp only [cleanUrl, CleanResult.orInput_error] at hok
    simp only [cleanUrl, CleanResult.orInput_of_ok hok] at hn ⊢
    obtain ⟨rs, w, rfl, hw⟩ := parse_of_apply_ok hok
    rw [(Rules.apply_unchanged hw hn).1, parse_source h hw]
    simp [rereadings]
  | both =>
    cases rules with
    | none =>
      rw [cleanUrl_both_none] at hok hn ⊢
      simpa [rereadings] using hfirst hok hn
    | some rs =>
      rw [error_both, Option.or_eq_none_iff] at hok
      obtain ⟨w, hw⟩ := readError_eq_none.mp hok.1
      obtain ⟨v, hv⟩ := readError_eq_none.mp hok.2
      rw [cleanUrl_both_some hw, Bool.or_eq_false_iff] at hn
      rw [cleanUrl_both_some hw, (Rules.apply_unchanged hv hn.2).1]
      rw [secondText, stripTracking_unchanged hw hn.1] at hv
      rw [← rewrite_of_ok hv, parse_source h hw, ← Function.iterate_succ_apply' rewrite]
      simp [rereadings, Nat.add_comm]

/-! ### What is not reported -/

lemma fragment_of_unchanged (hu : Sound u) {k : Nat}
    (he : rewrite^[k] (o.start u).serialize = u.serialize) (ho : o.cleanHash = false) :
    u.fragment.getD [] = [] := by
  have hq := isQuery_encode u.query
  have hd : Sound (u.withFragment none) := hu.withFragment fun _ ht => by cases ht
  have hstart : (o.start u).serialize = (u.withFragment none).serialize := by
    rw [CleaningOptions.start, ho]
    rfl
  have hno : '#' ∉ (o.start u).serialize := by
    have hc : (u.withFragment none).serialize.contains '#' = false := hd.contains_assemble hq
    rw [hstart]
    simpa using hc
  have hk : '#' ∉ u.serialize := by
    rw [← he]
    exact Function.Iterate.rec _ hno (fun _ => rewrite_no_fragment) k
  have hc : u.serialize.contains '#' = !(u.fragment.getD []).isEmpty := hu.contains_assemble hq
  simpa [List.contains_iff_mem, hk] using hc

lemma serialize_start (hf : o.cleanHash = false → u.fragment.getD [] = []) :
    (o.start u).serialize = u.serialize := by
  unfold CleaningOptions.start
  split_ifs with ho
  · rfl
  · simp only [serialize, assemble, withFragment, hf (by simpa using ho)]
    rfl

/-- **Cleaning tells the truth about what it did not change exactly if no fragment was dropped and
the URL that was given is written as before after it has been read again.** A URL that is not
ambiguous always is. -/
theorem truthful_iff (h : Url.parse raw = .ok u) (engine : Engine) (rules : Option Rules.Ruleset)
    (o : CleaningOptions) :
    (Truthful engine rules raw o ↔
      ((cleanUrl engine rules raw o).error = none → (cleanUrl engine rules raw o).changed = false →
        (o.cleanHash = false → u.fragment.getD [] = []) ∧
          rewrite^[rereadings engine rules o] u.serialize = u.serialize)) ∧
      (¬ u.Ambiguous → ∀ k, rewrite^[k] u.serialize = u.serialize) := by
  have hu := parse_sound h
  refine ⟨⟨fun ht hok hn => ?_, fun ht v hv hok hn => ?_⟩, fun hn => rewrite_serialize hu hn⟩
  · have he := ht u h hok hn
    rw [cleanUrl_unchanged h hok hn] at he
    have hf := fragment_of_unchanged hu he
    rw [serialize_start hf] at he
    exact ⟨hf, he⟩
  · obtain ⟨hf, he⟩ := ht hok hn
    rw [h] at hv
    cases hv
    rw [cleanUrl_unchanged h hok hn, serialize_start hf, he]

theorem truthful_without_fragment :
    let raw := "https://example.com/doc?a=1".toList
    let u : Url := ⟨"https".toList, "example.com".toList, "/doc".toList,
      [("a".toList, "1".toList)], none, some "a=1".toList⟩
    Url.parse raw = .ok u ∧ ¬ u.Ambiguous ∧
      Truthful .both (some []) raw { cleanHash := false } := by
  intro raw u
  have h : Url.parse raw = .ok u := by decide +kernel
  have hn : ¬ u.Ambiguous := by decide
  obtain ⟨htruth, hclear⟩ := truthful_iff h .both (some []) { cleanHash := false }
  exact ⟨h, hn, htruth.mpr fun _ _ => ⟨fun _ => rfl, hclear hn _⟩⟩

/-- A parameter that leaves the fragment is reported, and is not if the whole fragment goes. A path
that is taken for an authority changes the URL between two stages, of which neither reports it. -/
theorem dropped_fragment_unreported :
    let raw := "https://example.com/a?b=1#utm_source=x".toList
    let url := "https://example.com/a?b=1".toList
    cleanUrl .heuristic none raw { cleanHash := true } = { url := url, changed := true } ∧
      cleanUrl .heuristic none raw { cleanHash := false } = { url := url } ∧
      (cleanUrl .heuristic none raw { cleanHash := false }).status =
        "Already clean ✨".toList ∧
      ¬ Truthful .heuristic none raw { cleanHash := false } ∧
      ¬ Truthful .both (some []) "file://////x".toList {} := by
  intro raw url
  have hcleaned : cleanUrl .heuristic none raw { cleanHash := true } =
      { url := url, changed := true } := by decide +kernel
  have hdropped : cleanUrl .heuristic none raw { cleanHash := false } = { url := url } := by
    decide +kernel
  refine ⟨hcleaned, hdropped, by rw [hdropped]; rfl, fun ht => ?_, fun ht => ?_⟩
  · have hp : Url.parse raw = .ok ⟨"https".toList, "example.com".toList, "/a".toList,
        [("b".toList, "1".toList)], some "utm_source=x".toList, some "b=1".toList⟩ := by
      decide +kernel
    have he := ht _ hp (by rw [hdropped]) (by rw [hdropped])
    rw [hdropped] at he
    exact absurd he (by decide +kernel)
  · have hp : Url.parse "file://////x".toList = .ok ⟨"file".toList, [], "////x".toList, [], none,
        some []⟩ := by decide +kernel
    have hread : cleanUrl .both (some []) "file://////x".toList {} =
        { url := "file://x".toList } := by decide +kernel
    have he := ht _ hp (by rw [hread]) (by rw [hread])
    rw [hread] at he
    exact absurd he (by decide +kernel)

end LinkCleaner
