import LinkCleaner.Proofs.Rules.Parameters
import LinkCleaner.Proofs.Rules.Untouched

/-!
Where the parameters come from that a run of rules leaves. A redirection and a raw rule put another
URL in place of the one that is cleaned, one that was read from a text; everything else only takes
pairs out. So the pairs that are left are those of the last URL that was taken over.
-/

namespace LinkCleaner.Rules

open Text Url

/-- The pairs of a URL are among those of the last one of a list, or of another if the list is
empty. -/
def Within (u : Url) (ts : List Url) (v : Url) : Prop :=
  v.query.Sublist (ts.getLast?.getD u).query

namespace Within

variable {u v w : Url} {ts ts' : List Url}

lemma refl (u : Url) : Within u [] u := List.Sublist.refl _

lemma self (u v : Url) : Within u [v] v := List.Sublist.refl _

lemma trans (h : Within u ts v) (h' : Within v ts' w) : Within u (ts ++ ts') w := by
  unfold Within at h h' ⊢
  rw [List.getLast?_append]
  cases hl : ts'.getLast? with
  | none =>
    rw [hl] at h'
    exact h'.trans h
  | some t =>
    rw [hl] at h'
    exact h'

lemma mem_keys (h : Within u ts v) {k : Text} (hk : k ∈ v.keys) :
    (ts = [] ∧ k ∈ u.keys) ∨ ∃ t, ts.getLast? = some t ∧ k ∈ t.keys := by
  rw [Url.mem_keys] at hk ⊢
  obtain ⟨p, hp, rfl⟩ := hk
  have hlast := h.subset hp
  cases hl : ts.getLast? with
  | none =>
    rw [hl] at hlast
    exact Or.inl ⟨List.getLast?_eq_none_iff.mp hl, p, hlast, rfl⟩
  | some t =>
    rw [hl] at hlast
    exact Or.inr ⟨t, rfl, Url.mem_keys.mpr ⟨p, hlast, rfl⟩⟩

end Within

/-! ### What is taken over -/

/-- The URL that a raw rule puts in place of another. -/
def rewritten? (o : CleaningOptions) (u : Url) (q : Pattern) : Option Url :=
  let after := q.delete u.href
  if after = u.href then none else (parse? after).filter (keepsAll o u)

/-- The URLs that raw rules put in place, one after another. -/
def rewritesBy (o : CleaningOptions) : List Pattern → Cleaning → List Url
  | [], _ => []
  | q :: qs, c => (rewritten? o c.url q).toList ++ rewritesBy o qs (deleteBy o c q)

/-- Those that a provider puts in place. -/
def Provider.rewrites (o : CleaningOptions) (p : Provider) (c : Cleaning) : List Url :=
  if p.appliesTo c.url.href then rewritesBy o p.rawRules (stripParams o p c) else []

/-- Those that a run of the providers puts in place. -/
def rewrites (o : CleaningOptions) : Ruleset → Cleaning → List Url
  | [], _ => []
  | p :: rs, c => p.rewrites o c ++ rewrites o rs (cleanBy o c p)

/-- The URLs that rules put in place: the one that the redirections led to, if any was followed, and
then those that raw rules left. -/
def takenOver (o : CleaningOptions) (rs : Ruleset) (u : Url) : List Url :=
  let r := redirect rs u
  (if r.moved then [r.url] else []) ++ rewrites o rs { url := r.url, changed := r.moved }

variable {u : Url} {o : CleaningOptions} {rs : Ruleset}

lemma rewrites_of_plain (hrs : ∀ p ∈ rs, p.IsPlain) (c : Cleaning) : rewrites o rs c = [] := by
  induction rs generalizing c with
  | nil => rfl
  | cons p rs ih =>
    have hp : p.rewrites o c = [] := by
      rw [Provider.rewrites, (hrs p List.mem_cons_self).rawRules]
      exact ite_self _
    rw [rewrites, hp, ih fun q hq => hrs q (List.mem_cons_of_mem p hq), List.append_nil]

lemma takenOver_of_plain (hrs : ∀ p ∈ rs, p.IsPlain) (o : CleaningOptions) (u : Url) :
    takenOver o rs u = [] := by
  rw [takenOver, redirect_of_plain hrs, rewrites_of_plain hrs]
  rfl

/-! ### The pairs that are left -/

lemma stripParams_within (p : Provider) (c : Cleaning) :
    Within c.url [] (stripParams o p c).url := by
  unfold stripParams
  split_ifs
  · exact List.filter_sublist
  · exact .refl c.url

lemma deleteBy_eq (o : CleaningOptions) (c : Cleaning) (q : Pattern) :
    deleteBy o c q = match rewritten? o c.url q with
      | none => c
      | some v => { url := v, changed := true } := by
  unfold deleteBy rewritten?
  simp only
  split_ifs
  · rfl
  · cases parse? (q.delete c.url.href) with
    | none => rfl
    | some v =>
      simp only [Option.filter_some]
      split_ifs <;> rfl

lemma deleteBy_within (c : Cleaning) (q : Pattern) :
    Within c.url (rewritten? o c.url q).toList (deleteBy o c q).url := by
  rw [deleteBy_eq]
  cases rewritten? o c.url q with
  | none => exact .refl c.url
  | some v => exact .self c.url v

lemma rewritesBy_within (qs : List Pattern) (c : Cleaning) :
    Within c.url (rewritesBy o qs c) (qs.foldl (deleteBy o) c).url := by
  induction qs generalizing c with
  | nil => exact .refl c.url
  | cons q qs ih => exact (deleteBy_within c q).trans (ih _)

lemma cleanBy_within (p : Provider) (c : Cleaning) :
    Within c.url (p.rewrites o c) (cleanBy o c p).url := by
  unfold cleanBy Provider.rewrites
  split_ifs
  · exact (stripParams_within p c).trans (rewritesBy_within p.rawRules _)
  · exact .refl c.url

lemma clean_within (rs : Ruleset) (c : Cleaning) :
    Within c.url (rewrites o rs c) (rs.foldl (cleanBy o) c).url := by
  induction rs generalizing c with
  | nil => exact .refl c.url
  | cons p rs ih => exact (cleanBy_within p c).trans (ih _)

lemma redirect_within (h : Sound u) (rs : Ruleset) :
    Within u (if (redirect rs u).moved then [(redirect rs u).url] else [])
      (redirect rs u).url := by
  split_ifs with hm
  · exact .self u _
  · have hsource : (redirect rs u).source = none := by simpa [Redirected.moved] using hm
    rw [(redirect_swept h rs).still hsource]
    exact .refl u

/-- **A run of rules leaves pairs of the last URL that it has taken over**, or of the one that it
began with. -/
theorem apply_within {raw : Text} (h : parse raw = .ok u) (rs : Ruleset) (o : CleaningOptions) :
    ∃ v, Sound v ∧ (apply (some rs) raw o).url = v.serialize ∧ Within u (takenOver o rs u) v := by
  have hswept := redirect_swept (parse_sound h) rs
  have hsound := (clean_faithful (o := o) hswept.sound rs (redirect rs u).moved).sound
  refine ⟨_, hsound, ?_, (redirect_within (parse_sound h) rs).trans (clean_within rs _)⟩
  simp only [apply, h]
  rfl

end LinkCleaner.Rules
