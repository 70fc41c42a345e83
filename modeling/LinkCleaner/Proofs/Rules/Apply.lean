import LinkCleaner.Proofs.Keep
import LinkCleaner.Rules.Apply

/-!
Cleaning by rules. A sweep that no provider redirects ends at the URL where it began, and no
provider loses a parameter that is to be kept.
-/

namespace LinkCleaner

open Text Url

namespace Rules

/-! ### Redirections -/

/-- What a sweep that began at this URL has come to. -/
structure Swept (u : Url) (r : Redirected) : Prop where
  sound : Sound r.url
  still : r.source = none → r.url = u

lemma parse_of_target {p : Pattern} {u v : Url} (h : target? p u = some v) :
    ∃ t, parse t = .ok v := by
  unfold target? at h
  split_ifs at h
  split at h
  · cases h
  · cases h
  · next t _ _ =>
    cases hp : parse (Percent.decodeIfWellFormed t) with
    | error e => simp [parse?, hp, Except.toOption] at h
    | ok w =>
      simp only [parse?, hp, Except.toOption, Option.some.injEq] at h
      exact ⟨_, h ▸ hp⟩

variable {u : Url} {r : Redirected} {o : CleaningOptions} {c : Cleaning}

lemma redirectBy_swept (h : Swept u r) (name : Text) (p : Pattern) :
    Swept u (redirectBy name r p) := by
  unfold redirectBy
  cases ht : target? p r.url with
  | none => exact h
  | some v =>
    obtain ⟨t, hv⟩ := parse_of_target ht
    exact ⟨parse_sound hv, fun hn => by cases hn⟩

lemma redirectThrough_swept (h : Swept u r) (p : Provider) : Swept u (redirectThrough r p) := by
  unfold redirectThrough
  split_ifs
  · exact List.foldlRecOn _ _ h fun _ hb q _ => redirectBy_swept hb p.name q
  · exact h

lemma redirect_swept (h : Sound u) (rs : Ruleset) : Swept u (redirect rs u) :=
  List.foldlRecOn _ _ ⟨h, fun _ => rfl⟩ fun _ hb p _ => redirectThrough_swept hb p

/-! ### Providers -/

lemma stripParams_faithful (h : Sound c.url) (p : Provider) :
    Faithful o c.url (stripParams o p c).url := by
  unfold stripParams
  split_ifs
  · exact .of_filter (h.without _) rfl fun _ hk => p.removes_of_keep hk
  · exact .refl h

lemma deleteBy_faithful (h : Sound c.url) (p : Pattern) :
    Faithful o c.url (deleteBy o c p).url := by
  unfold deleteBy
  simp only
  split_ifs
  · exact .refl h
  · cases hp : parse (p.delete c.url.href) with
    | error e =>
      simp only [parse?, hp, Except.toOption]
      exact .refl h
    | ok v =>
      simp only [parse?, hp, Except.toOption]
      split_ifs with hk
      · refine ⟨parse_sound hp, fun k hmem hkeep => ?_⟩
        have hall := List.all_eq_true.mp hk k hmem
        have hl : lower k ∈ v.keys.map lower := by simpa [hkeep] using hall
        exact List.mem_map.mp hl
      · exact .refl h

lemma cleanBy_faithful (h : Sound c.url) (p : Provider) : Faithful o c.url (cleanBy o c p).url := by
  unfold cleanBy
  split_ifs
  · have h1 := stripParams_faithful (o := o) h p
    refine List.foldlRecOn (motive := fun b : Cleaning => Faithful o c.url b.url) _ _ h1 ?_
    exact fun _ hb q _ => hb.trans (deleteBy_faithful hb.sound q)
  · exact .refl h

/-- **No run of the providers loses a parameter that is to be kept.** -/
theorem clean_faithful (h : Sound u) (rs : Ruleset) (changed : Bool) :
    Faithful o u (rs.foldl (cleanBy o) { url := u, changed := changed }).url := by
  refine List.foldlRecOn (motive := fun b : Cleaning => Faithful o u b.url) _ _ (.refl h) ?_
  exact fun _ hb p _ => hb.trans (cleanBy_faithful hb.sound p)

/-! ### The whole -/

lemma apply_of_ok {raw : Text} (h : parse raw = .ok u) (rs : Ruleset) (o : CleaningOptions) :
    (apply (some rs) raw o).error = none ∧
      (apply (some rs) raw o).unwrappedFrom = (redirect rs u).source ∧
      ∃ v, (apply (some rs) raw o).url = v.serialize ∧ Faithful o (redirect rs u).url v := by
  have hsound := (redirect_swept (parse_sound h) rs).sound
  simp only [apply, h, true_and]
  exact ⟨_, rfl, clean_faithful hsound rs _⟩

end Rules

end LinkCleaner
