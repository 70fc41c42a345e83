import LinkCleaner.Proofs.Clean

/-!
What cleaning writes when it does not fail. Whatever a URL was taken from, a parameter, a capture or
what a raw rule has left, it was read before it is written; and what is written of a URL that was
read holds no blanks.
-/

namespace LinkCleaner

open Text Url

variable {engine : Engine} {rules : Option Rules.Ruleset} {raw : Text} {o : CleaningOptions}

/-- A text that is not empty and holds no blanks. -/
structure Solid (s : Text) : Prop where
  ne_nil : s ≠ []
  unblank : ∀ c ∈ s, isBlank c = false

/-- A text that a URL is written as. -/
def Written (text : Text) : Prop := ∃ u, Sound u ∧ text = u.serialize

lemma Written.solid {text : Text} (h : Written text) : Solid text := by
  obtain ⟨u, hu, rfl⟩ := h
  exact ⟨Sound.assemble_ne_nil u _, hu.unblank_assemble (isQuery_encode u.query)⟩

lemma stripTracking_written (hok : (stripTracking raw o).error = none) :
    Written (stripTracking raw o).url := by
  obtain ⟨u, hu⟩ := parse_of_strip_ok hok
  rw [stripTracking_of_ok hu]
  exact ⟨_, (landing_sound (parse_sound hu)).strip o.removes, rfl⟩

lemma apply_written (hok : (Rules.apply rules raw o).error = none) :
    Written (Rules.apply rules raw o).url := by
  obtain ⟨rs, u, rfl, hu⟩ := parse_of_apply_ok hok
  obtain ⟨-, -, v, hv, hf⟩ := Rules.apply_of_ok hu rs o
  exact ⟨v, hf.sound, hv⟩

/-- **A cleaning that does not fail yields a URL as it is written.** -/
theorem cleanUrl_written (hok : (cleanUrl engine rules raw o).error = none) :
    Written (cleanUrl engine rules raw o).url := by
  cases engine with
  | heuristic =>
    simp only [cleanUrl, CleanResult.orInput_error] at hok
    simp only [cleanUrl, CleanResult.orInput_of_ok hok]
    exact stripTracking_written hok
  | rules =>
    simp only [cleanUrl, CleanResult.orInput_error] at hok
    simp only [cleanUrl, CleanResult.orInput_of_ok hok]
    exact apply_written hok
  | both =>
    simp only [cleanUrl] at hok ⊢
    split_ifs at hok ⊢ with hfirst
    · unfold CleanResult.andThen at hok ⊢
      split_ifs at hok ⊢
      · exact stripTracking_written hok
      · exact apply_written hok
    · rw [CleanResult.orInput_error] at hok
      simp [CleanResult.ok, hok] at hfirst

end LinkCleaner
