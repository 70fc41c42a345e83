import LinkCleaner.Proofs.Refresh.Promise

/-!
When refreshes are due over whole runs. The failures in a row are told by a file that every refresh
reads and writes; so what the file says, and how long the next wait is, depends on nothing but the
outcomes since the last refresh that succeeded, and on what the file said before the first.
-/

namespace LinkCleaner

open Text Disk

/-! ### Waits -/

namespace Backoff

lemma place_place (n : Nat) : place (place n) = place n := by
  unfold place
  omega

lemma place_le_last (n : Nat) : place n ≤ last := Nat.min_le_right _ _

lemma place_succ {n k : Nat} (h : place n = place k) : place (n + 1) = place (k + 1) := by
  unfold place at h ⊢
  omega

lemma next_eq (n : Nat) : next n = place (n + 1) := place_succ (place_place n)

lemma delays_place (n : Nat) : delays[place n]? = some (delay n) := by
  have h : place n < delays.length := Nat.lt_of_le_of_lt (place_le_last n) (by decide)
  rw [delay, List.getD_eq_getElem?_getD, List.getElem?_eq_getElem h, Option.getD_some]

lemma delay_mono {n k : Nat} (h : n ≤ k) : delay n ≤ delay k := by
  have hsorted : ∀ j ≤ last, ∀ i ≤ j, delays.getD i 0 ≤ delays.getD j 0 := by decide
  refine hsorted _ (place_le_last k) _ ?_
  unfold place
  omega

end Backoff

namespace Refresh

variable {settings : Settings} {client : Option Client} {s t : Surroundings} {d : Disk}
  {o : Outcome}

/-! ### One refresh -/

/-- The file tells of so many failures in a row. -/
def Tells (settings : Settings) (d : Disk) (n : Nat) : Prop :=
  d.find settings.statePath.place = .ok (.file (utf8 (Json.write .spaced (Backoff.toValue n)))) ∧
    Backoff.load d settings.statePath = n

lemma tells_saved {n : Nat} (hn : n ≤ Backoff.last)
    (hok : (Backoff.save settings.statePath n d).1 = .ok ()) :
    Tells settings (Backoff.save settings.statePath n d).2 n :=
  ⟨find_saved hok, load_of_find hn (find_saved hok)⟩

lemma refresh_returns (h : (refresh settings client).run s = (.ok o, t)) :
    (o.ok = true → o.minutes = Backoff.daily ∧ Tells settings t.disk 0) ∧
      (o.ok = false →
        o.minutes = Backoff.delay (Backoff.load s.disk settings.statePath) ∧
          Tells settings t.disk (Backoff.next (Backoff.load s.disk settings.statePath))) := by
  rcases refresh_cases settings client s with
    ⟨-, r, hrun, hdisk⟩ | ⟨e, -, ⟨f, r, -, hrun, -⟩ | ⟨-, r, hrun, hdisk⟩⟩
  · -- a failure was counted
    rw [h, Prod.mk.injEq] at hrun
    obtain ⟨ho, rfl⟩ := hrun
    obtain ⟨⟨_, hs⟩, rfl⟩ := ok_of_map_const ho.symm
    rw [hdisk]
    exact ⟨fun hno => (by cases hno), fun _ => ⟨rfl, tells_saved (Backoff.next_le_last _) hs⟩⟩
  · -- the rules were not written, so there is no outcome
    rw [h] at hrun
    cases hrun
  · -- the failures were forgotten
    rw [h, Prod.mk.injEq] at hrun
    obtain ⟨ho, rfl⟩ := hrun
    obtain ⟨⟨_, hs⟩, rfl⟩ := ok_of_map_const ho.symm
    rw [hdisk]
    exact ⟨fun _ => ⟨rfl, tells_saved (Nat.zero_le _) hs⟩, fun hno => (by cases hno)⟩

/-! ### Runs -/

/-- The outcomes of some refreshes one after another, each with the disk that it has left. -/
abbrev Past := List (Outcome × Disk)

/-- The disk that the last refresh has left, or the first one finds. -/
def left (d : Disk) (past : Past) : Disk := (past.getLast?.map Prod.snd).getD d

/-- What can have happened on a disk: each refresh finds there what the one before it has left, and
around it whatever there is, and is not stopped by a fault. -/
inductive Refreshed (settings : Settings) (d : Disk) : Past → Prop
  | start : Refreshed settings d []
  | next {past : Past} {client : Option Client} {s t : Surroundings} {o : Outcome}
    (h : Refreshed settings d past) (hs : s.disk = left d past)
    (hrun : (refresh settings client).run s = (.ok o, t)) :
    Refreshed settings d (past ++ [(o, t.disk)])

/-- The failures in a row that refreshes end with. -/
def trailing (past : Past) : Nat := (past.reverse.takeWhile fun r => !r.1.ok).length

/-- The failures that those go on from: the ones that the file told of at first, until a refresh
succeeds. -/
def carried (first : Nat) (past : Past) : Nat := if past.any fun r => r.1.ok then 0 else first

/-- The failures in a row when some refreshes have been made. -/
def failures (first : Nat) (past : Past) : Nat := carried first past + trailing past

variable {first : Nat} {past : Past} {m : Disk}

lemma left_append (d : Disk) (past : Past) (r : Outcome × Disk) : left d (past ++ [r]) = r.2 := by
  rw [left, List.getLast?_concat]
  rfl

lemma failures_succeeded (h : o.ok = true) : failures first (past ++ [(o, m)]) = 0 := by
  simp [failures, carried, trailing, h]

lemma failures_failed (h : o.ok = false) :
    failures first (past ++ [(o, m)]) = failures first past + 1 := by
  have hcarried : carried first (past ++ [(o, m)]) = carried first past := by
    simp only [carried, List.any_append, List.any_cons, List.any_nil, h, Bool.or_false]
  have htrailing : trailing (past ++ [(o, m)]) = trailing past + 1 := by
    simp [trailing, h]
  rw [failures, failures, hcarried, htrailing, Nat.add_assoc]

lemma failures_append {fails : Past} (h : ∀ r ∈ fails, r.1.ok = false) :
    failures first (past ++ fails) = failures first past + fails.length := by
  induction fails using List.reverseRecOn with
  | nil => rw [List.append_nil, List.length_nil, Nat.add_zero]
  | append_singleton fails r ih =>
    have hr := h r (List.mem_append_right _ List.mem_cons_self)
    rw [← List.append_assoc, failures_failed hr, ih fun x hx => h x (List.mem_append_left _ hx),
      List.length_append, List.length_singleton, Nat.add_assoc]

lemma Refreshed.load_left (h : Refreshed settings d past) :
    Backoff.place (Backoff.load (left d past) settings.statePath) =
      Backoff.place (failures (Backoff.load d settings.statePath) past) := by
  induction h with
  | start => rfl
  | @next past client s t o h hs hrun ih =>
    obtain ⟨hsucceeded, hfailed⟩ := refresh_returns hrun
    rw [left_append]
    cases ho : o.ok with
    | true => rw [(hsucceeded ho).2.2, failures_succeeded ho]
    | false =>
      rw [(hfailed ho).2.2, failures_failed ho, hs, Backoff.next_eq, Backoff.place_place]
      exact Backoff.place_succ ih

/-- A refresh is due as the failures before it say, and one more counts after it. -/
def Due (settings : Settings) (n : Nat) (r : Outcome × Disk) : Prop :=
  (r.1.ok = true → r.1.minutes = Backoff.daily ∧ Tells settings r.2 0) ∧
    (r.1.ok = false → Backoff.delays[Backoff.place n]? = some r.1.minutes ∧
      Tells settings r.2 (Backoff.place (n + 1)))

lemma Refreshed.due_next (h : Refreshed settings d past) (hs : s.disk = left d past)
    (hrun : (refresh settings client).run s = (.ok o, t)) :
    Due settings (failures (Backoff.load d settings.statePath) past) (o, t.disk) := by
  obtain ⟨hsucceeded, hfailed⟩ := refresh_returns hrun
  have hload := h.load_left
  refine ⟨hsucceeded, fun ho => ?_⟩
  obtain ⟨hminutes, htells⟩ := hfailed ho
  rw [hs] at hminutes htells
  rw [Backoff.next_eq, Backoff.place_succ hload] at htells
  exact ⟨by rw [hminutes, ← hload, Backoff.delays_place], htells⟩

lemma Refreshed.due (h : Refreshed settings d past) {before after : Past} {r : Outcome × Disk}
    (hpast : past = before ++ r :: after) :
    Due settings (failures (Backoff.load d settings.statePath) before) r := by
  induction h generalizing after with
  | start => simp at hpast
  | @next past client s t o h hs hrun ih =>
    rcases List.eq_nil_or_concat after with rfl | ⟨after, x, rfl⟩
    · obtain ⟨rfl, hr⟩ := List.append_inj' hpast rfl
      cases hr
      exact h.due_next hs hrun
    · rw [List.concat_eq_append, ← List.cons_append, ← List.append_assoc] at hpast
      exact ih (List.append_inj' hpast rfl).1

lemma Due.minutes {n : Nat} {r : Outcome × Disk} (h : Due settings n r) (hr : r.1.ok = false) :
    r.1.minutes = Backoff.delay n := by
  have hd := (h.2 hr).1
  rw [Backoff.delays_place, Option.some.injEq] at hd
  exact hd.symm

lemma Refreshed.waits (h : Refreshed settings d past) {before fails after : Past}
    (hpast : past = before ++ (fails ++ after)) (hfails : ∀ r ∈ fails, r.1.ok = false) :
    fails.Pairwise fun r q => r.1.minutes ≤ q.1.minutes := by
  induction fails generalizing before with
  | nil => exact .nil
  | cons r fails ih =>
    have hr := (h.due hpast).minutes (hfails r List.mem_cons_self)
    have hrest : past = (before ++ [r]) ++ (fails ++ after) := by
      rw [hpast, List.append_assoc]
      rfl
    refine .cons (fun q hq => ?_) (ih hrest fun x hx => hfails x (List.mem_cons_of_mem _ hx))
    -- the refresh in front, and those between the two, have failed
    obtain ⟨mid, rest, rfl⟩ := List.append_of_mem hq
    have hsplit : past = (before ++ r :: mid) ++ q :: (rest ++ after) := by
      rw [hpast]
      simp only [List.cons_append, List.append_assoc]
    have hmid : ∀ x ∈ r :: mid, x.1.ok = false := fun x hx =>
      hfails x (by simpa using (List.mem_cons.mp hx).imp_right Or.inl)
    rw [hr, (h.due hsplit).minutes (hfails q (List.mem_cons_of_mem _ hq)), failures_append hmid]
    exact Backoff.delay_mono (Nat.le_add_right _ _)

/-- **The schedule of a run**: every refresh that succeeds comes back in a day and forgets the
failures; every one that fails is put off by the wait that is due after the failures in a row before
it, and counts as one more. So from the first refresh on the file tells of a number that a wait
belongs to, and while refreshes fail the waits never get shorter. -/
theorem refreshed_due (h : Refreshed settings d past) :
    (∀ before r after, past = before ++ r :: after →
      Due settings (failures (Backoff.load d settings.statePath) before) r ∧
        ∃ n < Backoff.delays.length, Tells settings r.2 n) ∧
      ∀ before fails after, past = before ++ (fails ++ after) → (∀ r ∈ fails, r.1.ok = false) →
        fails.Pairwise fun r q => r.1.minutes ≤ q.1.minutes := by
  refine ⟨fun before r after hpast => ?_, fun before fails after => h.waits⟩
  have hdue := h.due hpast
  refine ⟨hdue, ?_⟩
  cases hr : r.1.ok with
  | true => exact ⟨0, by decide, (hdue.1 hr).2⟩
  | false => exact ⟨_, Nat.lt_of_le_of_lt (Backoff.place_le_last _) (by decide), (hdue.2 hr).2⟩

theorem refreshed_due_from_text :
    let hash := "f9d86028c6e0d64e225186f96acb69338b2c59764df79162107f5c4bb34d1310".toList
    let text := "\x7b\"rules\": \x7b\"a\": 1\x7d, \"ts\": 0, \"hash\": \"".toList ++ hash
      ++ "\"\x7d".toList
    let rules : Place × FileNode := (["data".toList, "rules.json".toList], .file (utf8 text))
    let count (n : Text) : Place × FileNode := (["data".toList, "refresh_state.json".toList],
      .file (utf8 ("\x7b\"backoff_index\": ".toList ++ n ++ ['\x7d'])))
    let d : Disk := ⟨[count "\" +3.0\"".toList]⟩
    let failed : Disk := ⟨[(["data".toList], .dir), count ['4']]⟩
    let kept (n : Text) : Disk := ⟨[(["data".toList], .dir), rules, count n]⟩
    let fails : Past := [(⟨false, 30⟩, failed), (⟨false, 60⟩, failed)]
    let past : Past := fails ++ [(⟨true, 1440⟩, kept ['0']), (⟨false, 1⟩, kept ['1'])]
    Backoff.load d ({} : Settings).statePath = 3 ∧ Refreshed {} d past ∧ Tells {} failed 4 ∧
      Tells {} (kept ['0']) 0 ∧ Tells {} (kept ['1']) 1 ∧
      fails.Pairwise fun r q => r.1.minutes ≤ q.1.minutes := by
  intro hash text rules count d failed kept fails past
  have next : ∀ {past : Past} {s : Surroundings} {o : Outcome} {m : Disk}, Refreshed {} d past →
      s.disk = left d past →
      (((refresh {} none).run s).1, ((refresh {} none).run s).2.disk) = (.ok o, m) →
      Refreshed {} d (past ++ [(o, m)]) := by
    intro past s o m h hs hrun
    obtain ⟨hok, rfl⟩ := Prod.mk.inj hrun
    exact .next h hs (Prod.ext hok rfl)
  have h1 : Refreshed {} d [(⟨false, 30⟩, failed)] :=
    next .start (s := { disk := d }) rfl (by decide +kernel)
  have h2 : Refreshed {} d fails := next h1 (s := { disk := failed }) rfl (by decide +kernel)
  have h3 : Refreshed {} d (fails ++ [(⟨true, 1440⟩, kept ['0'])]) :=
    next h2 (s := { disk := failed, network := serving "\x7b\"a\": 1\x7d".toList hash }) rfl
      (by decide +kernel)
  have h : Refreshed {} d past := next h3 (s := { disk := kept ['0'] }) rfl (by decide +kernel)
  have hload : Backoff.load d ({} : Settings).statePath = 3 := by decide +kernel
  obtain ⟨hdue, hwaits⟩ := refreshed_due h
  rw [hload] at hdue
  have d2 := (hdue [(⟨false, 30⟩, failed)] (⟨false, 60⟩, failed) _ rfl).1
  have d3 := (hdue fails (⟨true, 1440⟩, kept ['0']) _ rfl).1
  have d4 := (hdue (fails ++ [(⟨true, 1440⟩, kept ['0'])]) (⟨false, 1⟩, kept ['1']) [] rfl).1
  rw [failures_succeeded rfl] at d4
  have hfails : ∀ r ∈ fails, r.1.ok = false := by
    intro r hr
    rcases List.mem_cons.mp hr with rfl | hr
    · rfl
    · rw [List.mem_singleton.mp hr]
  have hmin := hwaits [] fails [(⟨true, 1440⟩, kept ['0']), (⟨false, 1⟩, kept ['1'])] rfl hfails
  exact ⟨hload, h, (d2.2 rfl).2, (d3.1 rfl).2, (d4.2 rfl).2, hmin⟩

end Refresh

end LinkCleaner
