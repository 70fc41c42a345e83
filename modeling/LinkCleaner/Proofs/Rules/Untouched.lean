import LinkCleaner.Proofs.Rules.Apply

/-!
Sweeps over providers that leave no mark. A redirection that is followed leaves the name of its
provider, and a provider that changes the URL raises the flag; so where neither is seen in the end,
no step on the way has done anything.
-/

namespace LinkCleaner.Rules

open Text Url

section Sweeps

variable {α β : Type} {f : β → α → β}

lemma foldl_of_still {l : List α} {b : β} (h : ∀ a ∈ l, f b a = b) : l.foldl f b = b :=
  List.foldlRecOn (motive := fun c => c = b) l f rfl fun c hc a ha => by rw [hc, h a ha]

/-- If every step leaves a mark or does nothing, a sweep that has left none did nothing. -/
lemma still_of_unmarked (marked : β → Bool) (hf : ∀ b a, marked (f b a) = false → f b a = b)
    {l : List α} {b : β} (h : marked (l.foldl f b) = false) : ∀ a ∈ l, f b a = b := by
  induction l generalizing b with
  | nil => simp
  | cons a l ih =>
    have hl := ih h
    rw [List.foldl_cons, foldl_of_still hl] at h
    have ha := hf b a h
    rw [ha] at hl
    exact List.forall_mem_cons.mpr ⟨ha, hl⟩

end Sweeps

variable {u : Url} {r : Redirected} {o : CleaningOptions} {c : Cleaning}

/-! ### Redirections -/

/-- Whether a redirection was followed. -/
def Redirected.moved (r : Redirected) : Bool := r.source.isSome

/-- Some provider that covers the URL has a redirection that leads on from it. -/
def Leads (rs : Ruleset) (u : Url) : Prop :=
  ∃ p ∈ rs, p.appliesTo u.href ∧ ∃ q ∈ p.redirections, (target? q u).isSome

lemma redirectBy_still (name : Text) (r : Redirected) (q : Pattern)
    (h : (redirectBy name r q).moved = false) : redirectBy name r q = r := by
  unfold redirectBy at h ⊢
  cases ht : target? q r.url with
  | none => rfl
  | some v =>
    simp only [ht] at h
    cases h

lemma redirectThrough_still (r : Redirected) (p : Provider)
    (h : (redirectThrough r p).moved = false) : redirectThrough r p = r := by
  unfold redirectThrough at h ⊢
  split_ifs at h ⊢
  · exact foldl_of_still (still_of_unmarked Redirected.moved (redirectBy_still p.name) h)
  · rfl

lemma redirectBy_eq_self_iff {q : Pattern} (h : r.source = none) (name : Text) :
    redirectBy name r q = r ↔ ¬ (target? q r.url).isSome := by
  unfold redirectBy
  cases target? q r.url with
  | none => simp
  | some v =>
    refine iff_of_false (fun he => ?_) (by simp)
    rw [← he] at h
    cases h

lemma redirectThrough_eq_self_iff {p : Provider} (h : r.source = none) :
    redirectThrough r p = r ↔
      ¬ (p.appliesTo r.url.href ∧ ∃ q ∈ p.redirections, (target? q r.url).isSome) := by
  unfold redirectThrough
  split_ifs with hp
  · have hstill (q : Pattern) := redirectBy_eq_self_iff (q := q) (r := r) h p.name
    simp only [hp, true_and, not_exists, not_and, ← hstill]
    refine ⟨fun he => ?_, foldl_of_still⟩
    refine still_of_unmarked Redirected.moved (redirectBy_still p.name) ?_
    rw [he, Redirected.moved, h]
    rfl
  · simp [hp]

/-- **A sweep follows a redirection exactly if one leads on from where it begins.** -/
theorem redirect_moved_iff (rs : Ruleset) (u : Url) :
    (redirect rs u).moved ↔ Leads rs u := by
  have hstart : (redirect rs u).moved = false ↔
      ∀ p ∈ rs, redirectThrough { url := u } p = { url := u } := by
    refine ⟨still_of_unmarked Redirected.moved redirectThrough_still, fun h => ?_⟩
    rw [redirect, foldl_of_still h]
    rfl
  rw [← not_iff_not, Bool.not_eq_true, hstart, Leads, not_exists]
  refine forall_congr' fun p => ?_
  rw [redirectThrough_eq_self_iff rfl, not_and (a := p ∈ rs)]

/-! ### Providers -/

lemma stripParams_still (o : CleaningOptions) (p : Provider) (c : Cleaning)
    (h : (stripParams o p c).changed = false) : stripParams o p c = c := by
  unfold stripParams at h ⊢
  split_ifs at h ⊢
  rfl

lemma deleteBy_still (o : CleaningOptions) (c : Cleaning) (q : Pattern)
    (h : (deleteBy o c q).changed = false) : deleteBy o c q = c := by
  unfold deleteBy at h ⊢
  simp only at h ⊢
  split_ifs at h ⊢
  · rfl
  · cases hp : parse? (q.delete c.url.href) with
    | none => rfl
    | some v =>
      simp only [hp] at h ⊢
      split_ifs at h ⊢
      rfl

lemma cleanBy_still (o : CleaningOptions) (c : Cleaning) (p : Provider)
    (h : (cleanBy o c p).changed = false) : cleanBy o c p = c := by
  unfold cleanBy at h ⊢
  split_ifs at h ⊢
  · have hraw := foldl_of_still (still_of_unmarked Cleaning.changed (deleteBy_still o) h)
    rw [hraw] at h ⊢
    exact stripParams_still o p c h
  · rfl

/-- **What rules do not report as changed they have not touched**, and they have followed no
redirection. -/
theorem apply_unchanged {raw : Text} (h : parse raw = .ok u) {rs : Ruleset}
    (hn : (apply (some rs) raw o).changed = false) :
    (apply (some rs) raw o).url = u.serialize ∧ (redirect rs u).moved = false := by
  simp only [apply, h] at hn ⊢
  have hstill := foldl_of_still (still_of_unmarked Cleaning.changed (cleanBy_still o) hn)
  rw [hstill] at hn ⊢
  have hsource : (redirect rs u).source = none := by simpa using hn
  exact ⟨by rw [(redirect_swept (parse_sound h) rs).still hsource], hn⟩

lemma apply_of_uncovered {raw : Text} (h : parse raw = .ok u) {rs : Ruleset}
    (hrs : ∀ p ∈ rs, p.appliesTo u.href = false) :
    apply (some rs) raw o = { url := u.serialize } := by
  have hr : redirect rs u = { url := u } :=
    foldl_of_still fun p hp => by rw [redirectThrough, hrs p hp]; rfl
  have hc : rs.foldl (cleanBy o) { url := u } = { url := u } :=
    foldl_of_still fun p hp => by rw [cleanBy, hrs p hp]; rfl
  simp only [apply, h, hr, Option.isSome_none]
  rw [hc]

end LinkCleaner.Rules
