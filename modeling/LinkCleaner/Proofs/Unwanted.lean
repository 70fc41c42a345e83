import LinkCleaner.Proofs.Contract
import LinkCleaner.Proofs.Rules.TakenOver

/-!
Parameters that are not wanted, when the lists clean first and the rules after them. The lists leave
none; but what the rules take over from a redirection or from a rewritten text is not shown to the
lists again.
-/

namespace LinkCleaner

open Text Url

variable {raw : Text} {o : CleaningOptions} {rs : Rules.Ruleset} {w : Url}

lemma wanted_of_second (hok : (stripTracking raw o).error = none)
    (hw : Url.parse (stripTracking raw o).url = .ok w) : ∀ k ∈ w.keys, ¬ o.Unwanted k := by
  obtain ⟨u, hu⟩ := parse_of_strip_ok hok
  have hsound := (landing_sound (parse_sound hu)).strip o.removes
  rw [stripTracking_of_ok hu] at hw
  have hquery : w.query = wanted o u.landing.query := by
    rw [(hsound.query_of_parse_assemble (isQuery_encode _) hw).2, Form.decode_encode, strip_query,
      filter_removes]
  intro k hk
  obtain ⟨p, hp, rfl⟩ := mem_keys.mp hk
  rw [hquery, wanted, List.mem_filter] at hp
  simpa using hp.2

/-- **What both engines leave that is not wanted comes from the URL that the rules have taken over
last.** So there is nothing of the kind where they follow no redirection and rewrite no text. -/
theorem unwanted_taken_over (hok : (cleanUrl .both (some rs) raw o).error = none)
    (hs : (splitParts (trim (cleanUrl .both (some rs) raw o).url)).scheme ∈ specialSchemes) :
    ∃ w v, Url.parse (stripTracking (o.source raw) o).url = .ok w ∧
      Url.parse (cleanUrl .both (some rs) raw o).url = .ok v ∧
      (∀ k ∈ w.keys, ¬ o.Unwanted k) ∧ Rules.Within w (Rules.takenOver o rs w) v ∧
      (∀ k ∈ v.keys, o.Unwanted k →
        ∃ t, (Rules.takenOver o rs w).getLast? = some t ∧ k ∈ t.keys) ∧
      ((∀ p ∈ rs, p.IsPlain) → ∀ k ∈ v.keys, ¬ o.Unwanted k) := by
  rw [error_both, Option.or_eq_none_iff] at hok
  obtain ⟨u, hu⟩ := readError_eq_none.mp hok.1
  obtain ⟨w, hw⟩ := readError_eq_none.mp hok.2
  obtain ⟨v, hsound, htext, hwithin⟩ := Rules.apply_within hw rs o
  have hclean := wanted_of_second (by rw [stripTracking_of_ok hu]) hw
  rw [cleanUrl_both_some hu] at hs ⊢
  simp only [htext] at hs ⊢
  -- what is read again has the same pairs
  have hv := hsound.parse_serialize_special hs
  have hagain : Rules.Within w (Rules.takenOver o rs w) (v.reread (Form.encode v.query)) := by
    rw [Rules.Within, reread, Form.decode_encode]
    exact hwithin
  have hlast : ∀ k ∈ (v.reread (Form.encode v.query)).keys, o.Unwanted k →
      ∃ t, (Rules.takenOver o rs w).getLast? = some t ∧ k ∈ t.keys := by
    intro k hk hbad
    exact (hagain.mem_keys hk).resolve_left fun h => hclean k h.2 hbad
  refine ⟨w, _, hw, hv, hclean, hagain, hlast, fun hrs k hk hbad => ?_⟩
  obtain ⟨t, ht, -⟩ := hlast k hk hbad
  rw [Rules.takenOver_of_plain hrs] at ht
  cases ht

theorem unwanted_taken_over_target :
    let rs : Rules.Ruleset :=
      [{ name := "hop".toList
         urlPattern := Rules.pattern? "test".toList
         redirections := (Rules.pattern? "to=([^&]+)".toList).toList
         rules := [.literal "a".toList] }]
    let raw := "https://r.test/go?utm_id=1&to=https://final.test/page?a%26utm_source".toList
    let r := cleanUrl .both (some rs) raw {}
    r = { url := "https://final.test/page?utm_source=".toList, changed := true } ∧
      (splitParts (trim r.url)).scheme ∈ specialSchemes ∧
      ∃ w v t, Url.parse (stripTracking raw {}).url = .ok w ∧ Url.parse r.url = .ok v ∧
        (∀ k ∈ w.keys, ¬ CleaningOptions.Unwanted {} k) ∧ "utm_source".toList ∈ v.keys ∧
        (Rules.takenOver {} rs w).getLast? = some t ∧ "utm_source".toList ∈ t.keys := by
  intro rs raw r
  have hr : r = { url := "https://final.test/page?utm_source=".toList, changed := true } := by
    decide +kernel
  have hs : (splitParts (trim r.url)).scheme ∈ specialSchemes := by
    rw [hr]
    decide +kernel
  obtain ⟨w, v, hw, hv, hclean, -, hlast, -⟩ :=
    unwanted_taken_over (congrArg CleanResult.error hr) hs
  replace hv : Url.parse r.url = .ok v := hv
  have hparse : Url.parse "https://final.test/page?utm_source=".toList =
      .ok ⟨"https".toList, "final.test".toList, "/page".toList, [("utm_source".toList, [])], none,
        some "utm_source=".toList⟩ := by decide +kernel
  have hkey : "utm_source".toList ∈ v.keys := by
    rw [hr, hparse] at hv
    cases hv
    decide
  obtain ⟨t, ht, hk⟩ := hlast _ hkey (by decide)
  exact ⟨hr, hs, w, v, t, hw, hv, hclean, hkey, ht, hk⟩

/-- A target comes with a tracking parameter of its own, and a raw rule makes one by taking a letter
out of a name. -/
theorem unwanted_survives :
    let doc : Json.Value := .ofFields [("providers".toList, .ofFields [("hop".toList,
      .ofFields [("urlPattern".toList, .text "test".toList),
        ("redirections".toList, .arr [.text "to=([^&]+)".toList])])])]
    let hop : Rules.Ruleset :=
      [{ name := "hop".toList
         urlPattern := Rules.pattern? "test".toList
         redirections := (Rules.pattern? "to=([^&]+)".toList).toList }]
    let letter : Rules.Ruleset :=
      [{ name := "letter".toList
         urlPattern := Rules.pattern? "test".toList
         rawRules := (Rules.pattern? "Q".toList).toList }]
    let raw := "https://r.test/go?to=https%3A%2F%2Ffinal.test%2Fpage%3Futm_source%3Dx".toList
    let r := cleanUrl .both (some hop) raw {}
    Rules.compile doc = .ok (some hop) ∧
      r = { url := "https://final.test/page?utm_source=x".toList, changed := true } ∧
      Url.parse r.url = .ok ⟨"https".toList, "final.test".toList, "/page".toList,
        [("utm_source".toList, "x".toList)], none, some "utm_source=x".toList⟩ ∧
      CleaningOptions.Unwanted {} "utm_source".toList ∧
      cleanUrl .both (some letter) "https://shop.test/?utmQ_source=1&a=2".toList {} =
        { url := "https://shop.test/?utm_source=1&a=2".toList, changed := true } := by
  intro doc hop letter raw r
  have hr : r = { url := "https://final.test/page?utm_source=x".toList, changed := true } := by
    decide +kernel
  refine ⟨rfl, hr, ?_, by decide, by decide +kernel⟩
  rw [hr]
  decide +kernel

end LinkCleaner
