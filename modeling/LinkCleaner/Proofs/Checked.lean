import LinkCleaner.Checked
import LinkCleaner.Proofs.Clean

/-!
The checks that are made on the way never fail: the authority of a URL that was read is sound, and
it is all of what stands after `//`.
-/

namespace LinkCleaner

open Text Url

variable {u : Url}

namespace Url

lemma splitScheme_slash (r : Text) : splitScheme ('/' :: r) = ([], '/' :: r) := by
  rcases splitScheme_cases ('/' :: r) with h | ⟨t, q, hs, -, ht⟩
  · exact h
  · cases t with
    | nil => exact absurd rfl ht.ne_nil
    | cons c t =>
      rw [List.cons_append, List.cons.injEq] at hs
      have hc := ht.chars (lowerAscii c) (by rw [asciiLower_eq]; exact List.mem_cons_self)
      rw [← hs.1] at hc
      exact absurd hc (by decide)

lemma Sound.authority_anew (h : Sound u) :
    (splitParts ('/' :: '/' :: u.authority)).authority = u.authority := by
  have hunblank : ∀ c ∈ '/' :: '/' :: u.authority, isBlank c = false := by
    intro c hc
    simp only [List.mem_cons] at hc
    rcases hc with rfl | rfl | hc
    · decide
    · decide
    · exact (h.authority c hc).2
  have hends : ∀ c ∈ u.authority, endsAuthority c = false := fun c hc => (h.authority c hc).1
  have hsplit := splitAuthority_rooted (p := []) hends (Or.inl rfl)
  rw [List.append_nil] at hsplit
  rw [splitParts_eq, scrub_eq_self (by decide) hunblank, splitScheme_slash]
  simp only [hsplit]

lemma Sound.hostAnew (h : Sound u) : u.hostAnew = .ok u.host := by
  obtain ⟨h1, h2, -⟩ := checkAuthority_eq_ok.mp h.checked
  unfold Url.hostAnew
  simp only [h.authority_anew, h1, h2]
  rfl

end Url

lemma Redirector.findAnew_eq (h : Sound u) (rs : List Redirector) :
    findAnew u rs = .ok (find? rs u) := by
  induction rs with
  | nil => rfl
  | cons r rs ih =>
    have hfind : find? (r :: rs) u =
        ((r.target? u).map fun t => (t, r.provider)).or (find? rs u) := by
      rw [find?, List.findSome?_cons]
      cases (r.target? u).map fun t => (t, r.provider) <;> rfl
    rw [findAnew, h.hostAnew, hfind, target?]
    simp only [bind, Except.bind]
    cases r.targetAt? u.host u with
    | none => exact ih
    | some t => rfl

lemma stripChecked_eq (raw : Text) (o : CleaningOptions) :
    stripChecked raw o = .ok (stripTracking raw o) := by
  unfold stripChecked stripTracking
  cases hp : Url.parse raw with
  | error e => rfl
  | ok u =>
    simp only [Redirector.findAnew_eq (parse_sound hp)]
    rfl

/-- **No check fails on the way.** -/
theorem cleanChecked_eq (engine : Engine) (rules : Option Rules.Ruleset) (raw : Text)
    (o : CleaningOptions) :
    cleanChecked engine rules raw o = .ok (cleanUrl engine rules raw o) := by
  cases engine with
  | rules => rfl
  | heuristic =>
    rw [cleanChecked, stripChecked_eq]
    rfl
  | both =>
    rw [cleanChecked, stripChecked_eq]
    rfl

end LinkCleaner
