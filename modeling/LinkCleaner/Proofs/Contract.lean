import LinkCleaner.Proofs.Checked

/-!
What cleaning promises about failure: it always yields an outcome, it reports an error exactly if
there is one to report, and then it hands back the text it was given. The promise is kept unless a
stage writes a URL that cannot be read again.
-/

namespace LinkCleaner

open Text Url

variable {engine : Engine} {rules : Option Rules.Ruleset} {raw : Text} {u : Url}
  {o : CleaningOptions}

/-- What is wrong with a text that is to be read as a URL. -/
def readError (text : Text) : Option CleanError :=
  match Url.parse text with
  | .error _ => some .invalidUrl
  | .ok _ => none

/-- The error that there is to report: missing rules where only rules clean, and a text that is no
URL. -/
def dueError (engine : Engine) (rules : Option Rules.Ruleset) (raw : Text) : Option CleanError :=
  if engine = .rules ∧ rules.isNone then some .rulesUnavailable else readError raw

/-- Cleaning keeps its promise. -/
structure Contract (engine : Engine) (rules : Option Rules.Ruleset) (raw : Text)
    (o : CleaningOptions) : Prop where
  total : cleanChecked engine rules raw o = .ok (cleanUrl engine rules raw o)
  error : (cleanUrl engine rules raw o).error = dueError engine rules raw
  untouched : ∀ e, (cleanUrl engine rules raw o).error = some e →
    cleanUrl engine rules raw o =
      { url := raw, changed := false, unwrappedFrom := none, error := some e }

/-- A stage would have to read a text that cannot be read: that of the URL without its fragment, or
that of the URL which the first of two stages cleans. -/
def Misled (engine : Engine) (rules : Option Rules.Ruleset) (raw : Text) (o : CleaningOptions) :
    Prop :=
  ∃ u, Url.parse raw = .ok u ∧
    ((o.cleanHash = false ∧ u.Unreadable ∧ ¬ (engine = .rules ∧ rules.isNone)) ∨
      (engine = .both ∧ rules.isSome ∧
        ∃ w, Url.parse (o.source raw) = .ok w ∧ w.landing.Unreadable))

/-! ### Errors of the stages -/

lemma readError_eq_none {text : Text} : readError text = none ↔ ∃ u, Url.parse text = .ok u := by
  unfold readError
  cases Url.parse text with
  | error e => simp
  | ok u => simp

lemma readError_cases (text : Text) :
    readError text = none ∨ readError text = some .invalidUrl := by
  unfold readError
  split <;> simp

lemma stripTracking_error (text : Text) (o : CleaningOptions) :
    (stripTracking text o).error = readError text := by
  unfold readError
  cases hp : Url.parse text with
  | error e => rw [stripTracking_of_error hp]; rfl
  | ok u => rw [stripTracking_of_ok hp]

lemma apply_error (rs : Rules.Ruleset) (text : Text) (o : CleaningOptions) :
    (Rules.apply (some rs) text o).error = readError text := by
  unfold readError
  cases hp : Url.parse text with
  | error e => rw [apply_of_error hp]; rfl
  | ok u => exact (Rules.apply_of_ok hp rs o).1

lemma stripTracking_refused {text : Text} {e : CleanError}
    (h : (stripTracking text o).error = some e) : stripTracking text o = .refused text e := by
  cases hp : Url.parse text with
  | error x =>
    rw [stripTracking_of_error hp] at h ⊢
    cases h
    rfl
  | ok u =>
    rw [stripTracking_of_ok hp] at h
    cases h

lemma apply_refused {text : Text} {e : CleanError}
    (h : (Rules.apply rules text o).error = some e) :
    Rules.apply rules text o = .refused text e := by
  cases rules with
  | none =>
    cases h
    rfl
  | some rs =>
    cases hp : Url.parse text with
    | error x =>
      rw [apply_of_error hp] at h ⊢
      cases h
      rfl
    | ok u =>
      rw [(Rules.apply_of_ok hp rs o).1] at h
      cases h

lemma orInput_refused (text raw : Text) (e : CleanError) :
    (CleanResult.refused text e).orInput raw = .refused raw e := rfl

/-! ### The text that is read first -/

lemma source_of_error {e : ParseError} (h : Url.parse raw = .error e) (o : CleaningOptions) :
    o.source raw = raw := by
  unfold CleaningOptions.source dropFragment
  rw [h]
  split_ifs <;> rfl

lemma readError_source (h : Url.parse raw = .ok u) :
    readError (o.source raw) = none ↔ ¬ (o.cleanHash = false ∧ u.Unreadable) := by
  rw [readError_eq_none, CleaningOptions.source]
  split_ifs with hc
  · simp [h, hc]
  · have hd : Sound (u.withFragment none) := (parse_sound h).withFragment fun _ ht => by cases ht
    rw [Bool.not_eq_true] at hc
    rw [dropFragment_of_ok h, hd.parse_serialize_ok, hc]
    simp only [true_and]
    exact Iff.rfl

/-- What the first of two stages writes is read, unless the URL it cleans cannot be read. -/
lemma readError_first {text : Text} {w : Url} (h : Url.parse text = .ok w) :
    readError (stripTracking text o).url = none ↔ ¬ w.landing.Unreadable := by
  have hedit := strip_edited o.removes w.landing
  obtain ⟨-, ha, hp⟩ := hedit.place
  have hsound := hedit.sound (landing_sound (parse_sound h))
  rw [stripTracking_of_ok h, readError_eq_none]
  simp only
  rw [hsound.parse_serialize_ok, Unreadable, Unreadable, ha, hp]

/-! ### The error of each engine -/

/-- The text that is read second, when there are two stages. -/
abbrev secondText (raw : Text) (o : CleaningOptions) : Text := (stripTracking (o.source raw) o).url

lemma error_heuristic :
    (cleanUrl .heuristic rules raw o).error = readError (o.source raw) := by
  rw [cleanUrl, CleanResult.orInput_error, stripTracking_error]

lemma error_rules (rs : Rules.Ruleset) :
    (cleanUrl .rules (some rs) raw o).error = readError (o.source raw) := by
  rw [cleanUrl, CleanResult.orInput_error, apply_error]

lemma error_both_none : (cleanUrl .both none raw o).error = readError (o.source raw) := by
  rw [← stripTracking_error, cleanUrl]
  split_ifs
  · rfl
  · exact CleanResult.orInput_error _ _

lemma error_both (rs : Rules.Ruleset) :
    (cleanUrl .both (some rs) raw o).error =
      (readError (o.source raw)).or (readError (secondText raw o)) := by
  have h2 := apply_error rs (secondText raw o) o
  have hne : readError (secondText raw o) ≠ some .rulesUnavailable := by
    rcases readError_cases (secondText raw o) with h | h <;> simp [h]
  rw [← stripTracking_error, cleanUrl]
  split_ifs with h1
  · rw [CleanResult.ok, Option.isNone_iff_eq_none] at h1
    rw [CleanResult.andThen, if_neg (by rwa [h2]), h1, h2, Option.none_or]
  · rw [CleanResult.orInput_error]
    cases he : (stripTracking (o.source raw) o).error with
    | none => simp [CleanResult.ok, he] at h1
    | some e => rfl

lemma cleanUrl_both_some {w : Url} (hw : Url.parse (o.source raw) = .ok w) (rs : Rules.Ruleset) :
    let first := stripTracking (o.source raw) o
    let second := Rules.apply (some rs) first.url o
    cleanUrl .both (some rs) raw o =
      { url := second.url, changed := first.changed || second.changed
        unwrappedFrom := first.unwrappedFrom, error := second.error } := by
  intro first second
  have hfirst : first.ok := by
    rw [CleanResult.ok, stripTracking_error, readError, hw]
    rfl
  have hsecond : second.error ≠ some .rulesUnavailable := by
    rw [apply_error]
    rcases readError_cases first.url with h | h <;> simp [h]
  rw [cleanUrl, if_pos hfirst, CleanResult.andThen, if_neg hsecond]

/-! ### The promise -/

lemma misled_iff (h : Url.parse raw = .ok u) : Misled engine rules raw o ↔
    (readError (o.source raw) ≠ none ∧ ¬ (engine = .rules ∧ rules.isNone)) ∨
      (engine = .both ∧ rules.isSome ∧ readError (o.source raw) = none ∧
        readError (secondText raw o) ≠ none) := by
  have hsource : readError (o.source raw) ≠ none ↔ o.cleanHash = false ∧ u.Unreadable := by
    rw [ne_eq, readError_source h, not_not]
  -- what the second stage reads is the text of where the first has landed
  have hsecond : (∃ w, Url.parse (o.source raw) = .ok w ∧ w.landing.Unreadable) ↔
      readError (o.source raw) = none ∧ readError (secondText raw o) ≠ none := by
    constructor
    · rintro ⟨w, hw, hbad⟩
      refine ⟨readError_eq_none.mpr ⟨w, hw⟩, fun hr => ?_⟩
      exact (readError_first hw).mp hr hbad
    · rintro ⟨hs, hr⟩
      obtain ⟨w, hw⟩ := readError_eq_none.mp hs
      exact ⟨w, hw, not_not.mp fun hn => hr ((readError_first hw).mpr hn)⟩
  unfold Misled
  rw [hsource, ← hsecond]
  constructor
  · rintro ⟨v, hv, hm⟩
    rw [h] at hv
    cases hv
    exact hm.imp_left fun ⟨h1, h2, h3⟩ => ⟨⟨h1, h2⟩, h3⟩
  · intro hm
    exact ⟨u, h, hm.imp_left fun ⟨⟨h1, h2⟩, h3⟩ => ⟨h1, h2, h3⟩⟩

lemma error_eq_due_of_ok (h : Url.parse raw = .ok u) :
    (cleanUrl engine rules raw o).error = dueError engine rules raw ↔
      ¬ Misled engine rules raw o := by
  have hraw : readError raw = none := readError_eq_none.mpr ⟨u, h⟩
  rw [misled_iff h, dueError, hraw]
  cases engine with
  | heuristic => simp [error_heuristic]
  | rules =>
    cases rules with
    | none => simp [cleanUrl, CleanResult.orInput_error, Rules.apply, CleanResult.refused]
    | some rs => simp [error_rules]
  | both =>
    cases rules with
    | none => simp [error_both_none]
    | some rs =>
      rw [error_both]
      cases readError (o.source raw) <;> simp

lemma error_eq_due_of_error {e : ParseError} (h : Url.parse raw = .error e) :
    (cleanUrl engine rules raw o).error = dueError engine rules raw := by
  have hraw : readError raw = some .invalidUrl := by rw [readError, h]
  have hs := source_of_error h o
  rw [dueError]
  cases engine with
  | heuristic =>
    rw [error_heuristic, hs]
    rfl
  | rules =>
    cases rules with
    | none => rw [cleanUrl, CleanResult.orInput_error]; rfl
    | some rs =>
      rw [error_rules, hs]
      rfl
  | both =>
    cases rules with
    | none =>
      rw [error_both_none, hs]
      rfl
    | some rs =>
      rw [error_both, hs, hraw]
      rfl

lemma untouched_of_due (h : (cleanUrl engine rules raw o).error = dueError engine rules raw)
    {e : CleanError} (he : (cleanUrl engine rules raw o).error = some e) :
    cleanUrl engine rules raw o = .refused raw e := by
  cases engine with
  | heuristic =>
    rw [cleanUrl, CleanResult.orInput_error] at he
    rw [cleanUrl, stripTracking_refused he, orInput_refused]
  | rules =>
    rw [cleanUrl, CleanResult.orInput_error] at he
    rw [cleanUrl, apply_refused he, orInput_refused]
  | both =>
    -- the error is due to the input, so it was the first stage that failed
    have hraw : readError raw = some e := by
      rw [← he, h, dueError, if_neg (by simp)]
    have hfirst : (stripTracking (o.source raw) o).error = some e := by
      cases hp : Url.parse raw with
      | error x => rw [source_of_error hp, stripTracking_error, hraw]
      | ok u => simp [readError, hp] at hraw
    have hno : ¬ (stripTracking (o.source raw) o).ok := by simp [CleanResult.ok, hfirst]
    rw [cleanUrl, if_neg hno, stripTracking_refused hfirst, orInput_refused]

/-- **The promise about failure is kept exactly if no stage is misled** by a URL that was written
down and cannot be read again. -/
theorem contract_iff (engine : Engine) (rules : Option Rules.Ruleset) (raw : Text)
    (o : CleaningOptions) : Contract engine rules raw o ↔ ¬ Misled engine rules raw o := by
  cases hp : Url.parse raw with
  | error e =>
    have hdue : (cleanUrl engine rules raw o).error = dueError engine rules raw :=
      error_eq_due_of_error hp
    refine ⟨fun _ ⟨u, hu, _⟩ => ?_, fun _ => ?_⟩
    · rw [hp] at hu
      cases hu
    · exact ⟨cleanChecked_eq engine rules raw o, hdue, fun _ he => untouched_of_due hdue he⟩
  | ok u =>
    rw [← error_eq_due_of_ok hp]
    refine ⟨fun h => h.error, fun hdue => ?_⟩
    exact ⟨cleanChecked_eq engine rules raw o, hdue, fun _ he => untouched_of_due hdue he⟩

/-- A host without a port is lost with the authority that a path is taken for; after two stages the
error comes with a URL that is not the one that was given. -/
theorem network_path_misleads :
    ¬ Contract .heuristic none "file:////srv:x/docs".toList { cleanHash := false } ∧
      ¬ Contract .both (some []) "file:////srv:x/docs?utm_id=1".toList {} ∧
      cleanUrl .both (some []) "file:////srv:x/docs?utm_id=1".toList {} =
        { url := "file://srv:x/docs".toList, changed := true, unwrappedFrom := none
          error := some .invalidUrl } := by
  refine ⟨fun h => absurd h.error ?_, fun h => absurd h.error ?_, ?_⟩ <;> decide +kernel

end LinkCleaner
