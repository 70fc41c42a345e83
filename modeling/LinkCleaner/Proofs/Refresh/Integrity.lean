import Mathlib.Data.List.Induction
import LinkCleaner.Proofs.Refresh.Step

/-!
The file of rules over whole runs. However many downloads and refreshes there are, whatever the
network serves them and wherever one of them is stopped, the file is missing or holds what one of
them has fetched and verified.
-/

namespace LinkCleaner.Refresh

open Text Disk

/-! ### The file of rules -/

/-- The bytes of the file that keeps an entry. -/
def payload (e : Cache.Entry) : List UInt8 := utf8 (Json.write .spaced e.toValue)

section Places

variable (settings : Settings)

/-- The directory of data. -/
def dataPath : Path := .ofText settings.dataDir

lemma rules_ne_dots : "rules.json".toList ≠ ['.', '.'] := by decide

lemma state_ne_dots : "refresh_state.json".toList ≠ ['.', '.'] := by decide

lemma place_rules :
    settings.rulesPath.place = (dataPath settings).place ++ ["rules.json".toList] :=
  Path.place_child rules_ne_dots _

lemma save_entry_eq (e : Cache.Entry) (d : Disk) : Cache.save settings.rulesPath e d =
    d.replace ((dataPath settings).child "rules.json".toList) (textOf? e.toValue) := rfl

lemma save_failures_eq (n : Nat) (d : Disk) : Backoff.save settings.statePath n d =
    d.replace ((dataPath settings).child "refresh_state.json".toList)
      (textOf? (Backoff.toValue n)) := rfl

lemma alike_counting {n : Nat} {d m : Disk}
    (h : Replacing (dataPath settings) "refresh_state.json".toList (textOf? (Backoff.toValue n)) d
      m) : Alike settings.rulesPath.place d m := by
  rw [place_rules]
  exact h.alike (by decide) (by decide)

lemma save_counted (n : Nat) (d : Disk) :
    Replacing (dataPath settings) "refresh_state.json".toList (textOf? (Backoff.toValue n)) d
      (Backoff.save settings.statePath n d).2 :=
  replace_replacing state_ne_dots _ _ d

lemma find_saving {e : Cache.Entry} {d m : Disk}
    (h : Replacing (dataPath settings) "rules.json".toList (textOf? e.toValue) d m) :
    m.find settings.rulesPath.place = d.find settings.rulesPath.place ∨
      m.find settings.rulesPath.place = .ok (.file (payload e)) := by
  rw [place_rules]
  rcases h.find_eq with h | ⟨text, ht, h⟩
  · exact Or.inl h
  · rw [textOf?_some ht] at h
    exact Or.inr h

lemma save_cases (e : Cache.Entry) (d : Disk) :
    (∃ f, (Cache.save settings.rulesPath e d).1 = .error f ∧
      (Cache.save settings.rulesPath e d).2.find settings.rulesPath.place =
        d.find settings.rulesPath.place) ∨
      ((Cache.save settings.rulesPath e d).1 = .ok () ∧
        (Cache.save settings.rulesPath e d).2.find settings.rulesPath.place =
          .ok (.file (payload e))) := by
  rw [place_rules, save_entry_eq]
  obtain ⟨m, -, ⟨f, he, -, halike⟩ | ⟨text, ht, he, hfind⟩⟩ :=
    replace_cases rules_ne_dots (dataPath settings) (textOf? e.toValue) d
  · rw [he]
    exact Or.inl ⟨f, rfl, halike.find_eq⟩
  · rw [he]
    rw [textOf?_some ht] at hfind
    exact Or.inr ⟨rfl, hfind⟩

lemma download_find (client : Option Client) (s : Surroundings) :
    (∃ f t, (download settings client).run s = (.error f, t) ∧
      t.disk.find settings.rulesPath.place = s.disk.find settings.rulesPath.place) ∨
      ∃ e t, Offered settings s.network s.now e ∧
        (download settings client).run s = (.ok e.rules, t) ∧
        t.disk.find settings.rulesPath.place = .ok (.file (payload e)) := by
  rcases download_cases settings client s with
    ⟨f, t, hrun, -, hdisk, -⟩ | ⟨e, t, he, hrun, hdisk⟩
  · exact Or.inl ⟨f, t, hrun, by rw [hdisk]⟩
  · rw [hrun]
    rcases save_cases settings e s.disk with ⟨f, hs, hfind⟩ | ⟨hs, hfind⟩
    · exact Or.inl ⟨f, t, by rw [hs]; rfl, by rw [hdisk]; exact hfind⟩
    · exact Or.inr ⟨e, t, he, by rw [hs]; rfl, by rw [hdisk]; exact hfind⟩

lemma refresh_find (client : Option Client) (s : Surroundings) :
    (∃ r t, (refresh settings client).run s = (r, t) ∧ (∀ o, r = .ok o → o.ok = false) ∧
      t.disk.find settings.rulesPath.place = s.disk.find settings.rulesPath.place) ∨
      ∃ e r t, Offered settings s.network s.now e ∧
        (refresh settings client).run s = (r, t) ∧ (∀ o, r = .ok o → o.ok = true) ∧
        t.disk.find settings.rulesPath.place = .ok (.file (payload e)) := by
  rcases refresh_cases settings client s with ⟨-, t, hrun, hdisk⟩ | ⟨e, he, hend⟩
  · refine Or.inl ⟨_, t, hrun, fun o ho => ?_, ?_⟩
    · rw [← (ok_of_map_const ho).2]
    · rw [hdisk]
      exact (alike_counting settings (save_counted settings _ _)).find_eq
  · rcases hend with ⟨f, t, hs, hrun, hdisk⟩ | ⟨hs, t, hrun, hdisk⟩
    · rcases save_cases settings e s.disk with ⟨g, -, hfind⟩ | ⟨hok, -⟩
      · exact Or.inl ⟨_, t, hrun, by simp, by rw [hdisk]; exact hfind⟩
      · rw [hok] at hs
        cases hs
    · rcases save_cases settings e s.disk with ⟨g, hbad, -⟩ | ⟨-, hfind⟩
      · rw [hbad] at hs
        cases hs
      · refine Or.inr ⟨e, _, t, he, hrun, fun o ho => ?_, ?_⟩
        · rw [← (ok_of_map_const ho).2]
        · rw [hdisk, (alike_counting settings (save_counted settings _ _)).find_eq]
          exact hfind

end Places

/-! ### Calls -/

inductive Task where
  | download
  | refresh
  deriving DecidableEq

/-- A call of one of the two, with all that it finds around it but the disk. -/
structure Call where
  task : Task
  client : Option Client := none
  around : Surroundings

namespace Call

variable {settings : Settings} {c : Call} {d m : Disk} {e : Cache.Entry}

/-- What a call finds around it. -/
def start (c : Call) (d : Disk) : Surroundings := { c.around with disk := d }

/-- Runs a call on a disk; a call that is not stopped by a fault says whether it has succeeded. -/
def run (settings : Settings) (c : Call) (d : Disk) : Except Fault Bool × Surroundings :=
  match c.task with
  | .download =>
    let (r, s) := (download settings c.client).run (c.start d)
    (r.map fun _ => true, s)
  | .refresh =>
    let (r, s) := (Refresh.refresh settings c.client).run (c.start d)
    (r.map Outcome.ok, s)

/-- What a call fetches and verifies. -/
def Offers (settings : Settings) (c : Call) (e : Cache.Entry) : Prop :=
  Offered settings c.around.network c.around.now e

/-- The disks that a call may leave if it is stopped, up to the one that it leaves in the end. -/
inductive Passes (settings : Settings) (c : Call) (d : Disk) : Disk → Prop
  | before : Passes settings c d d
  | saving {m : Disk} {e : Cache.Entry} (he : c.Offers settings e)
    (h : Replacing (dataPath settings) "rules.json".toList (textOf? e.toValue) d m) :
    Passes settings c d m
  | counting {m : Disk} {n : Nat} (h : Replacing (dataPath settings) "refresh_state.json".toList
      (textOf? (Backoff.toValue n)) ((download settings c.client).run (c.start d)).2.disk m) :
    Passes settings c d m
  | after : Passes settings c d (c.run settings d).2.disk

/-- The file of rules is as it was, or holds what the call has fetched and verified. -/
def Keeps (settings : Settings) (c : Call) (d m : Disk) : Prop :=
  m.find settings.rulesPath.place = d.find settings.rulesPath.place ∨
    ∃ e, c.Offers settings e ∧ m.find settings.rulesPath.place = .ok (.file (payload e))

/-- A download that is stopped by a fault and a refresh that does not succeed leave the file of
rules as it was, and a call that succeeds leaves there what it has fetched and verified itself. -/
structure Exact (settings : Settings) (c : Call) (d : Disk) : Prop where
  failed : (∃ f, c.task = .download ∧ (c.run settings d).1 = .error f) ∨
      (c.run settings d).1 = .ok false →
    (c.run settings d).2.disk.find settings.rulesPath.place = d.find settings.rulesPath.place
  succeeded : (c.run settings d).1 = .ok true → ∃ e, c.Offers settings e ∧
    (c.run settings d).2.disk.find settings.rulesPath.place = .ok (.file (payload e))

section Ends

variable {r : Except Fault Bool} {t : Surroundings}

lemma of_same (hr : c.run settings d = (r, t)) (hno : r ≠ .ok true)
    (hfind : t.disk.find settings.rulesPath.place = d.find settings.rulesPath.place) :
    c.Exact settings d ∧ c.Keeps settings d (c.run settings d).2.disk := by
  rw [Keeps, hr]
  refine ⟨⟨fun _ => by rw [hr]; exact hfind, fun h => ?_⟩, Or.inl hfind⟩
  rw [hr] at h
  exact absurd h hno

lemma of_put (hr : c.run settings d = (r, t)) (hno : r ≠ .ok false)
    (hdownload : c.task = .download → ∀ f, r ≠ .error f) (he : c.Offers settings e)
    (hfind : t.disk.find settings.rulesPath.place = .ok (.file (payload e))) :
    c.Exact settings d ∧ c.Keeps settings d (c.run settings d).2.disk := by
  rw [Keeps, hr]
  refine ⟨⟨?_, fun _ => ⟨e, he, by rw [hr]; exact hfind⟩⟩, Or.inr ⟨e, he, hfind⟩⟩
  rw [hr]
  rintro (⟨f, htask, h⟩ | h)
  · exact absurd h (hdownload htask f)
  · exact absurd h hno

end Ends

lemma run_find (settings : Settings) (c : Call) (d : Disk) :
    c.Exact settings d ∧ c.Keeps settings d (c.run settings d).2.disk := by
  -- an outcome that tells one thing does not tell the other
  have hmap : ∀ (r : Except Fault Outcome) (b : Bool), (∀ o, r = .ok o → o.ok = b) →
      r.map Outcome.ok ≠ .ok !b := by
    rintro (f | o) b h he
    · cases he
    · rw [Except.map, h o rfl, Except.ok.injEq] at he
      cases b <;> cases he
  cases htask : c.task with
  | download =>
    rcases download_find settings c.client (c.start d) with
      ⟨f, t, hrun, hfind⟩ | ⟨e, t, he, hrun, hfind⟩
    · have hr : c.run settings d = (.error f, t) := by rw [run, htask, hrun]; rfl
      exact of_same hr (by simp) hfind
    · have hr : c.run settings d = (.ok true, t) := by rw [run, htask, hrun]; rfl
      exact of_put hr (by simp) (by simp) he hfind
  | refresh =>
    rcases refresh_find settings c.client (c.start d) with
      ⟨r, t, hrun, hno, hfind⟩ | ⟨e, r, t, he, hrun, hyes, hfind⟩
    · have hr : c.run settings d = (r.map Outcome.ok, t) := by rw [run, htask, hrun]
      exact of_same hr (hmap r false hno) hfind
    · have hr : c.run settings d = (r.map Outcome.ok, t) := by rw [run, htask, hrun]
      exact of_put hr (hmap r true hyes) (by simp [htask]) he hfind

/-- **A call keeps the file of rules whole** wherever it is stopped. -/
theorem Passes.keeps (h : c.Passes settings d m) : c.Keeps settings d m := by
  cases h with
  | before => exact Or.inl rfl
  | saving he h =>
    rcases find_saving settings h with h | h
    · exact Or.inl h
    · exact Or.inr ⟨_, he, h⟩
  | counting h =>
    rw [Keeps, (alike_counting settings h).find_eq]
    rcases download_find settings c.client (c.start d) with
      ⟨f, t, hrun, hfind⟩ | ⟨e, t, he, hrun, hfind⟩
    · rw [hrun]
      exact Or.inl hfind
    · rw [hrun]
      exact Or.inr ⟨e, he, hfind⟩
  | after => exact (run_find settings c d).2

end Call

/-! ### Runs -/

/-- The disks that some calls one after another may leave, of which each may be stopped. -/
inductive Reached (settings : Settings) (d : Disk) : List Call → Disk → Prop
  | start : Reached settings d [] d
  | call {calls : List Call} {c : Call} {e m : Disk} (h : Reached settings d calls e)
    (hm : c.Passes settings e m) : Reached settings d (calls ++ [c]) m

/-- The disk that some calls leave if none of them is stopped. -/
def runs (settings : Settings) (d : Disk) (calls : List Call) : Disk :=
  calls.foldl (fun d c => (c.run settings d).2.disk) d

variable {settings : Settings} {d m : Disk} {calls : List Call}

lemma reached_runs (settings : Settings) (d : Disk) (calls : List Call) :
    Reached settings d calls (runs settings d calls) := by
  induction calls using List.reverseRecOn with
  | nil => exact .start
  | append_singleton calls c ih =>
    rw [runs, List.foldl_append]
    exact .call ih .after

/-- A network that serves these texts as the rules and their digest. -/
def serving (document hash : Text) : Http.Network :=
  { server := [(({} : Settings).rulesUrl, [.response 200 document none]),
      (({} : Settings).hashUrl, [.response 200 hash none])] }

/-- **Integrity**: on every disk that calls may leave the file of rules is missing, if it was so at
first, or holds what one of the calls has fetched and verified; and there every further call leaves
it as it was or puts there what it has itself fetched and verified, as it says. -/
theorem reached_trusted (hd : d.holds settings.rulesPath.place = false)
    (h : Reached settings d calls m) :
    (m.holds settings.rulesPath.place = false ∨
      ∃ c ∈ calls, ∃ e, c.Offers settings e ∧
        m.find settings.rulesPath.place = .ok (.file (payload e))) ∧
      ∀ c, Call.Exact settings c m := by
  refine ⟨?_, fun c => (Call.run_find settings c m).1⟩
  induction h with
  | start => exact Or.inl hd
  | call h hm ih =>
    rcases hm.keeps with hsame | ⟨e, he, hfind⟩
    · rw [Disk.holds, hsame]
      rcases ih with hno | ⟨c, hc, e, he, hfind⟩
      · exact Or.inl hno
      · exact Or.inr ⟨c, List.mem_append_left _ hc, e, he, hfind⟩
    · exact Or.inr ⟨_, List.mem_append_right _ List.mem_cons_self, e, he, hfind⟩

theorem reached_trusted_mismatch :
    let hash := "f9d86028c6e0d64e225186f96acb69338b2c59764df79162107f5c4bb34d1310".toList
    let kept := "\x7b\"rules\": \x7b\"a\": 1\x7d, \"ts\": 3000, \"hash\": \"".toList ++ hash
      ++ "\"\x7d".toList
    let first : Call :=
      { task := .download
        around := { network := serving "\x7b\"a\": 1\x7d".toList (hash.map Char.toUpper ++ ['\n'])
                    now := 3 } }
    let second : Call :=
      { task := .refresh, around := { network := serving "[]".toList hash, now := 9 } }
    let place := ({} : Settings).rulesPath.place
    let d := runs {} {} [first, second]
    ({} : Disk).holds place = false ∧ d.find place = .ok (.file (utf8 kept)) ∧
      ∃ c ∈ [first, second], ∃ e, c.Offers {} e ∧ d.find place = .ok (.file (payload e)) := by
  intro hash kept first second place d
  have hd : ({} : Disk).holds place = false := by decide
  have hfind : d.find place = .ok (.file (utf8 kept)) := by decide +kernel
  refine ⟨hd, hfind, ?_⟩
  rcases (reached_trusted hd (reached_runs {} {} [first, second])).1 with hno | hkept
  · rw [Disk.holds, hfind] at hno
    cases hno
  · exact hkept

end LinkCleaner.Refresh
