import LinkCleaner.Proofs.Rules.Placed
import LinkCleaner.Proofs.Unchanged

/-!
Cleaning by the lists and then by the rules, where the lists find nothing to do. The rules are
handed the canonical text of the URL, in which the query is encoded anew, and do with it what they
do with that text alone. The text that was given they may treat differently, for they match it as it
was written.
-/

namespace LinkCleaner

open Text Url

variable {raw : Text} {u : Url} {o : CleaningOptions} {rs : Rules.Ruleset}

/-- Outcomes that are the same but for who is said to have been unwrapped. -/
structure CleanResult.Agrees (r s : CleanResult) : Prop where
  url : r.url = s.url
  changed : r.changed = s.changed
  error : r.error = s.error

/-- Both engines make of a URL what the rules alone make of it. -/
def Extends (rs : Rules.Ruleset) (raw : Text) (o : CleaningOptions) : Prop :=
  (cleanUrl .both (some rs) raw o).Agrees (cleanUrl .rules (some rs) raw o)

lemma source_of_cleanHash (ho : o.cleanHash = true) (raw : Text) : o.source raw = raw := by
  rw [CleaningOptions.source, if_pos ho]

lemma cleanUrl_rules (ho : o.cleanHash = true) (rules : Option Rules.Ruleset) (raw : Text) :
    cleanUrl .rules rules raw o = Rules.apply rules raw o := by
  rw [cleanUrl, source_of_cleanHash ho]
  cases he : (Rules.apply rules raw o).error with
  | none => exact CleanResult.orInput_of_ok he raw
  | some e => rw [apply_refused he, orInput_refused]

lemma both_agrees (h : Url.parse raw = .ok u) (ho : o.cleanHash = true)
    (hn : (stripTracking raw o).changed = false) (rs : Rules.Ruleset) :
    (cleanUrl .both (some rs) raw o).Agrees (Rules.apply (some rs) u.serialize o) := by
  have hsource := source_of_cleanHash ho raw
  have hboth := cleanUrl_both_some (o := o) (by rwa [hsource]) rs
  simp only [hsource, stripTracking_unchanged h hn, hn] at hboth
  rw [hboth]
  exact ⟨rfl, Bool.false_or _, rfl⟩

lemma extends_of_apply_eq (h : Url.parse raw = .ok u) (ho : o.cleanHash = true)
    (hn : (stripTracking raw o).changed = false)
    (he : Rules.apply (some rs) raw o = Rules.apply (some rs) u.serialize o) :
    Extends rs raw o := by
  rw [Extends, cleanUrl_rules ho, he]
  exact both_agrees h ho hn rs

namespace Rules

lemma apply_serialize_of_placed (h : Url.parse raw = .ok u) (hn : ¬ u.Ambiguous)
    (hrs : ArePlaced rs) (o : CleaningOptions) :
    apply (some rs) raw o = apply (some rs) u.serialize o := by
  have hu := parse_sound h
  have hv := hu.parse_serialize hn
  have hplace := SamePlace.reread u (Form.encode u.query)
  have hquery : (u.reread (Form.encode u.query)).query = u.query := Form.decode_encode u.query
  rw [apply_of_placed h hn hrs, apply_of_placed hv (mt hplace.ambiguous_iff.mp hn) hrs, hquery,
    removedName_congr hrs hu (parse_sound hv) hn hplace,
    hplace.assemble_eq (getD_fragment_reread u _)]

/-- Where every document makes the same change of a URL and of its canonical text, or none of
either, the two read the same. -/
lemma canonical_of_changed_eq (h : Url.parse raw = .ok u) (hn : ¬ u.Ambiguous)
    (hall : ∀ rs, Compiled rs →
      (apply (some rs) u.serialize o).changed = (apply (some rs) raw o).changed) :
    Canonical u := by
  have hu := parse_sound h
  have hw := hu.parse_serialize hn
  refine ⟨_, hw, ?_⟩
  by_contra hne
  -- a provider that covers the one text alone, and leads to a part of it
  obtain ⟨a, t, b, v, hhref, ht, hv⟩ := hu.exists_target
  rw [hhref] at hne
  have hstill : (apply (some [probe a t b]) u.serialize o).changed = false := by
    rw [apply_of_uncovered hw (by simpa using appliesTo_of_not_probe hne)]
  rw [hall _ (compiled_probe a t b)] at hstill
  have hmoved := (apply_unchanged h hstill).2
  rw [Redirected.moved, source_of_probe hhref ht hv] at hmoved
  cases hmoved

end Rules

/-- **Where the lists find nothing to do, both engines do with a URL what the rules alone do with
its canonical text.** That is what the rules of every document do with the URL itself exactly if its
query was written as it is encoded; and whatever was written, rules about parameters that go by the
place do the same with either text. -/
theorem both_extends_iff (h : Url.parse raw = .ok u) (ho : o.cleanHash = true)
    (hn : (stripTracking raw o).changed = false) :
    (∀ rs, (cleanUrl .both (some rs) raw o).Agrees (cleanUrl .rules (some rs) u.serialize o)) ∧
      (¬ u.Ambiguous →
        ((∀ rs, Rules.Compiled rs → Extends rs raw o) ↔
          u.written = some (Form.encode u.query)) ∧
        ∀ rs, Rules.ArePlaced rs → Extends rs raw o) := by
  refine ⟨fun rs => ?_, fun hu => ⟨⟨fun hall => ?_, fun he rs hrs => ?_⟩, fun rs hrs => ?_⟩⟩
  · rw [cleanUrl_rules ho]
    exact both_agrees h ho hn rs
  · have hcanonical : Canonical u := by
      refine Rules.canonical_of_changed_eq (o := o) h hu fun rs hrs => ?_
      rw [← cleanUrl_rules ho _ raw, ← (hall rs hrs).changed, (both_agrees h ho hn rs).changed]
    obtain ⟨q, hq⟩ := written_of_parse h
    rw [(parse_sound h).canonical_iff hu, hq, Option.getD_some] at hcanonical
    rw [hq, hcanonical]
  · have hcanonical : Canonical u := by
      rw [(parse_sound h).canonical_iff hu, he, Option.getD_some]
    exact extends_of_apply_eq h ho hn ((Rules.apply_serialize h o).mpr hcanonical rs hrs)
  · exact extends_of_apply_eq h ho hn (Rules.apply_serialize_of_placed h hu hrs o)

/-- A target that was written as it is encoded is still found. -/
theorem both_extends_encoded :
    let redirection := "^https?://r\\.test/go\\?to=([^&]+)".toList
    let rs : Rules.Ruleset :=
      [{ name := "hop".toList
         urlPattern := Rules.pattern? ".*".toList
         redirections := (Rules.pattern? redirection).toList }]
    let query := "to=https%3A%2F%2Ffinal.test%2Fpage".toList
    let raw := "https://r.test/go?".toList ++ query
    let u : Url := ⟨"https".toList, "r.test".toList, "/go".toList,
      [("to".toList, "https://final.test/page".toList)], none, some query⟩
    Url.parse raw = .ok u ∧ (stripTracking raw {}).changed = false ∧ ¬ u.Ambiguous ∧
      (∀ rs, Rules.Compiled rs → Extends rs raw {}) ∧
      (cleanUrl .both (some rs) raw {}).url = "https://final.test/page".toList := by
  intro redirection rs query raw u
  have h : Url.parse raw = .ok u := by decide +kernel
  have hn : (stripTracking raw {}).changed = false := by decide +kernel
  have hu : ¬ u.Ambiguous := by decide
  obtain ⟨-, hclear⟩ := both_extends_iff h (o := {}) rfl hn
  exact ⟨h, hn, hu, (hclear hu).1.mpr (by decide +kernel), by decide +kernel⟩

/-- A raw rule does not find what it matches as it was written, and a redirection leads to a path
with a plus sign in place of a blank. -/
theorem both_loses_text_as_written :
    let shop : Json.Value := .ofFields [("providers".toList, .ofFields [("shop".toList,
      .ofFields [("urlPattern".toList, .text ".*".toList),
        ("rawRules".toList, .arr [.text "&?next=/promo/[^&]*".toList])])])]
    let promo : Rules.Ruleset :=
      [{ name := "shop".toList
         urlPattern := Rules.pattern? ".*".toList
         rawRules := (Rules.pattern? "&?next=/promo/[^&]*".toList).toList }]
    let hop : Rules.Ruleset :=
      [{ name := "hop".toList
         urlPattern := Rules.pattern? ".*".toList
         redirections := (Rules.pattern? "^https?://r\\.test/go\\?to=([^&]+)".toList).toList }]
    let raw := "https://shop.test/?a=1&next=/promo/x".toList
    let far := "https://r.test/go?to=https%3A%2F%2Ffinal.test%2Fa%20b".toList
    Rules.compile shop = .ok (some promo) ∧ (stripTracking raw {}).changed = false ∧
      cleanUrl .rules (some promo) raw {} =
        { url := "https://shop.test/?a=1".toList, changed := true } ∧
      cleanUrl .both (some promo) raw {} =
        { url := "https://shop.test/?a=1&next=%2Fpromo%2Fx".toList } ∧
      ¬ Extends promo raw {} ∧
      (stripTracking far {}).changed = false ∧
      (cleanUrl .rules (some hop) far {}).url = "https://final.test/a%20b".toList ∧
      (cleanUrl .both (some hop) far {}).url = "https://final.test/a+b".toList := by
  intro shop promo hop raw far
  have hrules : cleanUrl .rules (some promo) raw {} =
      { url := "https://shop.test/?a=1".toList, changed := true } := by decide +kernel
  have hboth : cleanUrl .both (some promo) raw {} =
      { url := "https://shop.test/?a=1&next=%2Fpromo%2Fx".toList } := by decide +kernel
  refine ⟨rfl, by decide +kernel, hrules, hboth, fun he => ?_, by decide +kernel, by decide +kernel,
    by decide +kernel⟩
  have hflag := he.changed
  rw [hrules, hboth] at hflag
  cases hflag

end LinkCleaner
