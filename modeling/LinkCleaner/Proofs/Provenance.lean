import LinkCleaner.Proofs.Contract
import LinkCleaner.Proofs.Rules.Untouched

/-!
Who is said to have been unwrapped when the lists clean first and the rules after them. It is always
the redirector that the lists went through; a redirection that the rules followed raises the flag,
but its provider is named only if there was a redirector before it.
-/

namespace LinkCleaner

open Text Url

variable {raw : Text} {u : Url} {o : CleaningOptions}

/-- The outcome of both engines names no provider exactly if neither stage names one. -/
def Reported (rs : Rules.Ruleset) (raw : Text) (o : CleaningOptions) : Prop :=
  (cleanUrl .both (some rs) raw o).unwrappedFrom = none ↔
    (stripTracking raw o).unwrappedFrom = none ∧
      (Rules.apply (some rs) (stripTracking raw o).url o).unwrappedFrom = none

/-- What the lists write is a URL from which a redirection leads on. -/
def LeadsOn (rs : Rules.Ruleset) (raw : Text) (o : CleaningOptions) : Prop :=
  ∃ w, Url.parse (stripTracking raw o).url = .ok w ∧ Rules.Leads rs w

lemma stripTracking_source (h : Url.parse raw = .ok u) (o : CleaningOptions) :
    (stripTracking raw o).unwrappedFrom = u.unwrap?.map Prod.snd := by
  rw [stripTracking_of_ok h]

lemma apply_source_iff (rs : Rules.Ruleset) (text : Text) (o : CleaningOptions) :
    (Rules.apply (some rs) text o).unwrappedFrom.isSome ↔
      ∃ w, Url.parse text = .ok w ∧ Rules.Leads rs w := by
  cases hp : Url.parse text with
  | error e => simp [apply_of_error hp, CleanResult.refused]
  | ok w =>
    rw [(Rules.apply_of_ok hp rs o).2.1, ← Rules.Redirected.moved, Rules.redirect_moved_iff]
    simp

lemma changed_of_leadsOn {rs : Rules.Ruleset} {text : Text} {w : Url} (hw : Url.parse text = .ok w)
    (hl : Rules.Leads rs w) : (Rules.apply (some rs) text o).changed := by
  by_contra hn
  have hmoved := (Rules.apply_unchanged hw (by simpa using hn)).2
  rw [(Rules.redirect_moved_iff rs w).mpr hl] at hmoved
  cases hmoved

/-- **Both engines report who was unwrapped exactly if a redirector came first or no redirection
leads on from what the lists write.** The name is always that of the redirector, though the flag
tells of a redirection too. -/
theorem reported_iff (h : Url.parse raw = .ok u) (hc : o.cleanHash = true) (rs : Rules.Ruleset) :
    (Reported rs raw o ↔ u.unwrap?.isSome ∨ ¬ LeadsOn rs raw o) ∧
      (cleanUrl .both (some rs) raw o).unwrappedFrom = u.unwrap?.map Prod.snd ∧
      (LeadsOn rs raw o → (cleanUrl .both (some rs) raw o).changed) := by
  have hsource : o.source raw = raw := by rw [CleaningOptions.source, if_pos hc]
  have hread : Url.parse (o.source raw) = .ok u := by rwa [hsource]
  have hboth := cleanUrl_both_some hread rs
  rw [hsource] at hboth
  have hname : (cleanUrl .both (some rs) raw o).unwrappedFrom = u.unwrap?.map Prod.snd := by
    rw [hboth, stripTracking_source h]
  refine ⟨?_, hname, ?_⟩
  · rw [Reported, hname, stripTracking_source h, LeadsOn, ← apply_source_iff rs _ o]
    cases u.unwrap? <;> simp
  · rintro ⟨w, hw, hl⟩
    rw [hboth, Bool.or_eq_true]
    exact Or.inr (changed_of_leadsOn hw hl)

theorem reported_after_redirector :
    let query := "q=https%3A%2F%2Fr.test%2Fgo%3Fto%3Dhttps%3A%2F%2Fb.test%2F".toList
    let raw := "https://www.google.com/url?".toList ++ query
    let u : Url := ⟨"https".toList, "www.google.com".toList, "/url".toList,
      [("q".toList, "https://r.test/go?to=https://b.test/".toList)], none, some query⟩
    let rs : Rules.Ruleset :=
      [{ name := "hop".toList
         urlPattern := Rules.pattern? ".*".toList
         redirections := (Rules.pattern? "^https?://r\\.test/go\\?to=([^&]+)".toList).toList }]
    Url.parse raw = .ok u ∧ Reported rs raw {} ∧
      (cleanUrl .both (some rs) raw {}).unwrappedFrom = some "google".toList ∧
      (cleanUrl .both (some rs) raw {}).url = "https://b.test/".toList := by
  intro query raw u rs
  have h : Url.parse raw = .ok u := by decide +kernel
  have hu : u.unwrap?.map Prod.snd = some "google".toList := by decide +kernel
  obtain ⟨hreported, hname, -⟩ := reported_iff h (o := {}) rfl rs
  have hsome : u.unwrap?.isSome := by
    rw [← Option.isSome_map, hu]
    rfl
  exact ⟨h, hreported.mpr (Or.inl hsome), hname.trans hu, by decide +kernel⟩

/-- A redirection that the rules alone would report is not reported when the lists clean first,
though these do nothing. -/
theorem redirection_unreported :
    let redirection := "^https?://r\\.test/go\\?to=([^&]+)".toList
    let doc : Json.Value := .ofFields [("providers".toList, .ofFields [("hop".toList,
      .ofFields [("urlPattern".toList, .text ".*".toList),
        ("redirections".toList, .arr [.text redirection])])])]
    let rs : Rules.Ruleset :=
      [{ name := "hop".toList
         urlPattern := Rules.pattern? ".*".toList
         redirections := (Rules.pattern? redirection).toList }]
    let raw := "https://r.test/go?to=https%3A%2F%2Ffinal.test%2Fpage".toList
    Rules.compile doc = .ok (some rs) ∧
      stripTracking raw {} = { url := raw } ∧
      Rules.apply (some rs) raw {} =
        { url := "https://final.test/page".toList, changed := true
          unwrappedFrom := some "hop".toList } ∧
      cleanUrl .both (some rs) raw {} =
        { url := "https://final.test/page".toList, changed := true } ∧
      ¬ Reported rs raw {} := by
  intro redirection doc rs raw
  have hfirst : stripTracking raw {} = { url := raw } := by decide +kernel
  have hsecond : Rules.apply (some rs) raw {} =
      { url := "https://final.test/page".toList, changed := true
        unwrappedFrom := some "hop".toList } := by decide +kernel
  have hboth : cleanUrl .both (some rs) raw {} =
      { url := "https://final.test/page".toList, changed := true } := by decide +kernel
  refine ⟨rfl, hfirst, hsecond, hboth, fun hr => ?_⟩
  have hnone := (hr.mp (by rw [hboth])).2
  rw [hfirst, hsecond] at hnone
  cases hnone

end LinkCleaner
