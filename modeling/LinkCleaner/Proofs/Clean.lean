import LinkCleaner.Clean
import LinkCleaner.Proofs.Rules.Apply

/-!
Cleaning with any engine. Each stage reads the text that was written before it, so what holds of a
stage is carried on by the text: no parameter that is to be kept is lost on the way, unless a
redirect leads elsewhere.
-/

namespace LinkCleaner

open Text Url

variable {raw : Text} {u : Url} {o : CleaningOptions}

/-! ### Texts that are handed on -/

/-- The text is that of a URL that has every parameter to keep. -/
def Carries (o : CleaningOptions) (u : Url) (text : Text) : Prop :=
  ∃ v, text = v.serialize ∧ Faithful o u v

lemma Carries.read {text : Text} {w : Url} (h : Carries o u text) (hw : parse text = .ok w) :
    Faithful o u w := by
  obtain ⟨v, rfl, hv⟩ := h
  exact hv.trans (.of_parse_serialize hv.sound hw)

lemma Carries.parse {text : Text} (h : Carries o u text)
    (hs : (splitParts (trim text)).scheme ∈ specialSchemes) :
    ∃ w, parse text = .ok w ∧ Faithful o u w := by
  obtain ⟨v, rfl, hv⟩ := h
  have hw := hv.sound.parse_serialize_special hs
  exact ⟨_, hw, hv.trans (.of_parse_serialize hv.sound hw)⟩

/-! ### Stages -/

lemma dropFragment_of_ok (h : Url.parse raw = .ok u) :
    dropFragment raw = (u.withFragment none).serialize := by
  rw [dropFragment, h]

lemma source_faithful (h : Url.parse raw = .ok u) {w : Url}
    (hw : Url.parse (o.source raw) = .ok w) : Faithful o u w := by
  have hu := parse_sound h
  unfold CleaningOptions.source at hw
  split_ifs at hw
  · rw [h] at hw
    cases hw
    exact .refl hu
  · rw [dropFragment_of_ok h] at hw
    have hd : Sound (u.withFragment none) := hu.withFragment fun _ ht => by cases ht
    exact (Faithful.of_query_eq (u := u) hd rfl).trans (.of_parse_serialize hd hw)

lemma stripTracking_of_error {e : ParseError} (h : Url.parse raw = .error e)
    (o : CleaningOptions) : stripTracking raw o = .refused raw .invalidUrl := by
  rw [stripTracking, h]

lemma apply_of_error {e : ParseError} (h : Url.parse raw = .error e) (rs : Rules.Ruleset)
    (o : CleaningOptions) : Rules.apply (some rs) raw o = .refused raw .invalidUrl := by
  simp only [Rules.apply, h]

lemma stripTracking_carries (h : Url.parse raw = .ok u)
    (hn : (stripTracking raw o).unwrappedFrom = none) :
    Carries o u (stripTracking raw o).url := by
  rw [stripTracking_of_ok h o] at hn ⊢
  rcases unwrap_cases u with ⟨-, he⟩ | ⟨v, provider, hu, -⟩
  · rw [he]
    exact ⟨_, rfl, .of_strip (parse_sound h)⟩
  · rw [hu] at hn
    cases hn

lemma apply_carries {rs : Rules.Ruleset} (h : Url.parse raw = .ok u)
    (hn : (Rules.apply (some rs) raw o).unwrappedFrom = none) :
    Carries o u (Rules.apply (some rs) raw o).url := by
  obtain ⟨-, hsource, v, hv, hf⟩ := Rules.apply_of_ok h rs o
  rw [hsource] at hn
  rw [(Rules.redirect_swept (parse_sound h) rs).still hn] at hf
  exact ⟨v, hv, hf⟩

lemma CleanResult.orInput_error (r : CleanResult) (raw : Text) :
    (r.orInput raw).error = r.error := by
  unfold orInput
  split_ifs <;> rfl

lemma CleanResult.orInput_of_ok {r : CleanResult} (h : r.error = none) (raw : Text) :
    r.orInput raw = r := by
  rw [orInput, if_pos]
  rw [ok, h]
  rfl

lemma parse_of_strip_ok (h : (stripTracking raw o).error = none) : ∃ u, Url.parse raw = .ok u := by
  cases hp : Url.parse raw with
  | error e =>
    rw [stripTracking_of_error hp] at h
    cases h
  | ok u => exact ⟨u, rfl⟩

lemma parse_of_apply_ok {rules : Option Rules.Ruleset}
    (h : (Rules.apply rules raw o).error = none) :
    ∃ rs u, rules = some rs ∧ Url.parse raw = .ok u := by
  cases rules with
  | none => cases h
  | some rs =>
    cases hp : Url.parse raw with
    | error e =>
      rw [apply_of_error hp] at h
      cases h
    | ok u => exact ⟨rs, u, rfl, rfl⟩

/-! ### Engines -/

/-- The outcomes of the stages that a cleaning runs. -/
def stages (engine : Engine) (rules : Option Rules.Ruleset) (raw : Text) (o : CleaningOptions) :
    List CleanResult :=
  let first := stripTracking (o.source raw) o
  match engine with
  | .heuristic => [first]
  | .rules => [Rules.apply rules (o.source raw) o]
  | .both => first :: if first.ok then [Rules.apply rules first.url o] else []

variable {engine : Engine} {rules : Option Rules.Ruleset}

lemma strip_source_carries (h : Url.parse raw = .ok u)
    (hok : (stripTracking (o.source raw) o).error = none)
    (hn : (stripTracking (o.source raw) o).unwrappedFrom = none) :
    Carries o u (stripTracking (o.source raw) o).url := by
  obtain ⟨w, hw⟩ := parse_of_strip_ok hok
  obtain ⟨v, hv, hf⟩ := stripTracking_carries hw hn
  exact ⟨v, hv, (source_faithful h hw).trans hf⟩

lemma cleanUrl_carries (h : Url.parse raw = .ok u)
    (hdirect : ∀ r ∈ stages engine rules raw o, r.unwrappedFrom = none)
    (hok : (cleanUrl engine rules raw o).error = none) :
    Carries o u (cleanUrl engine rules raw o).url := by
  cases engine with
  | heuristic =>
    simp only [cleanUrl, CleanResult.orInput_error] at hok
    simp only [cleanUrl, CleanResult.orInput_of_ok hok]
    exact strip_source_carries h hok (hdirect _ List.mem_cons_self)
  | rules =>
    simp only [cleanUrl, CleanResult.orInput_error] at hok
    simp only [cleanUrl, CleanResult.orInput_of_ok hok]
    obtain ⟨rs, w, rfl, hw⟩ := parse_of_apply_ok hok
    obtain ⟨v, hv, hf⟩ := apply_carries hw (hdirect _ List.mem_cons_self)
    exact ⟨v, hv, (source_faithful h hw).trans hf⟩
  | both =>
    simp only [cleanUrl] at hok ⊢
    by_cases h1 : (stripTracking (o.source raw) o).ok
    · rw [if_pos h1] at hok ⊢
      have hfirst := strip_source_carries h (by simpa [CleanResult.ok] using h1)
        (hdirect _ List.mem_cons_self)
      have hn := hdirect (Rules.apply rules (stripTracking (o.source raw) o).url o)
        (by simp [stages, h1])
      unfold CleanResult.andThen at hok ⊢
      split_ifs at hok ⊢ with h2
      · -- there are no rules, and the first outcome stands
        exact hfirst
      · obtain ⟨rs, w, rfl, hw⟩ := parse_of_apply_ok hok
        obtain ⟨v, hv, hf⟩ := apply_carries hw hn
        exact ⟨v, hv, (hfirst.read hw).trans hf⟩
    · rw [if_neg h1, CleanResult.orInput_error] at hok
      simp [CleanResult.ok, hok] at h1

/-- **Parameters to keep are kept**, whatever the engine, the lists and the rules say: if no stage
unwraps a redirect, every name to keep that the URL has is in the outcome. -/
theorem cleanUrl_keeps (h : Url.parse raw = .ok u)
    (hdirect : ∀ r ∈ stages engine rules raw o, r.unwrappedFrom = none)
    (hok : (cleanUrl engine rules raw o).error = none)
    (hs : (splitParts (trim (cleanUrl engine rules raw o).url)).scheme ∈ specialSchemes) :
    ∃ v, Url.parse (cleanUrl engine rules raw o).url = .ok v ∧
      ∀ name ∈ o.keep, (∃ k ∈ u.keys, lower k = name) → ∃ k ∈ v.keys, lower k = name := by
  obtain ⟨v, hv, hf⟩ := (cleanUrl_carries h hdirect hok).parse hs
  refine ⟨v, hv, ?_⟩
  rintro name hname ⟨k, hk, rfl⟩
  exact hf.keeps k hk hname

theorem cleanUrl_keeps_id :
    let rules : Rules.Ruleset :=
      [{ name := "shop".toList
         urlPattern := Rules.pattern? "shop".toList
         rules := [.literal "id".toList]
         rawRules := (Rules.pattern? "id=[0-9]".toList).toList }]
    let raw := "https://shop.example/?ID=1&utm_id=2".toList
    let o : CleaningOptions := { keep := ["id".toList] }
    let r := cleanUrl .both (some rules) raw o
    r.changed ∧ (∀ s ∈ stages .both (some rules) raw o, s.unwrappedFrom = none) ∧
      r.error = none ∧ (splitParts (trim r.url)).scheme ∈ specialSchemes ∧
      ∃ v, Url.parse r.url = .ok v ∧ ∃ k ∈ v.keys, lower k = "id".toList := by
  intro rules raw o r
  have h : Url.parse raw = .ok ⟨"https".toList, "shop.example".toList, "/".toList,
      [("ID".toList, "1".toList), ("utm_id".toList, "2".toList)], none,
      some "ID=1&utm_id=2".toList⟩ := by decide +kernel
  have hdirect : ∀ s ∈ stages .both (some rules) raw o, s.unwrappedFrom = none := by
    decide +kernel
  have hok : r.error = none := by decide +kernel
  have hs : (splitParts (trim r.url)).scheme ∈ specialSchemes := by decide +kernel
  obtain ⟨v, hv, hkeep⟩ := cleanUrl_keeps h hdirect hok hs
  refine ⟨by decide +kernel, hdirect, hok, hs, v, hv, hkeep _ List.mem_cons_self ?_⟩
  exact ⟨"ID".toList, by decide, by decide⟩

end LinkCleaner
