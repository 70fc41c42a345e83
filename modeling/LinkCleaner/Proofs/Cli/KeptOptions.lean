import Mathlib.Data.List.Infix
import LinkCleaner.Cli.Run
import LinkCleaner.Proofs.Disk
import LinkCleaner.Proofs.Text.Utf8

/-!
What a run of the command for options leaves in their file. It keeps what it is told to keep, and
without being told anything it leaves the file alone. What it is not told it writes too, as it finds
it; and there a variable that overrides the file for the time being becomes what the file says.
-/

namespace LinkCleaner

open Text Disk

/-! ### Reading what was kept -/

namespace UserOptions

variable {d e : Disk} {p : Path} {u : UserOptions}

lemma ofText_toText (u : UserOptions) : ofText u.toText = .ok u := by
  obtain ⟨referral, hash⟩ := u
  cases referral <;> cases hash <;> decide +kernel

lemma persisted_of_find (h : d.find p.place = .ok (.file (utf8 u.toText))) :
    persisted d p = .ok u := by
  have hholds : d.holds p.place = true := by
    rw [Disk.holds, h]
    rfl
  have hread : d.readText p = .ok u.toText := by
    rw [readText, Disk.read, h]
    simp only [ofUtf8?_utf8]
  rw [persisted, if_pos hholds, hread]
  exact ofText_toText u

lemma persisted_congr (h : e.find p.place = d.find p.place) : persisted e p = persisted d p := by
  rw [persisted, persisted, Disk.holds, Disk.holds, readText, readText, Disk.read, Disk.read, h]

lemma find_of_persisted {s : Surroundings} (h : persisted s.disk p = .ok u) :
    find p s = .ok (overridden s.vars u) := by
  rw [find, h]
  rfl

lemma run_load (p : Path) (s : Surroundings) : (load p).run s = (find p s, s) := rfl

/-- A variable does not say otherwise of an option. -/
def Agrees (vs : Variables) (name : Text) (b : Bool) : Prop :=
  ∀ w, vs.get? name = some w → isOn w = b

lemma agrees_iff (vs : Variables) (name : Text) (b : Bool) :
    Agrees vs name b ↔ ((vs.get? name).map isOn).getD b = b := by
  unfold Agrees
  cases vs.get? name <;> simp

lemma set_overridden_iff (vs : Variables) (u : UserOptions) (referral hash : Option Bool) :
    (overridden vs u).set referral hash = u.set referral hash ↔
      (referral = none → Agrees vs referralVariable u.removeReferral) ∧
        (hash = none → Agrees vs hashVariable u.cleanHash) := by
  rw [agrees_iff, agrees_iff, set, set, mk.injEq]
  cases referral <;> cases hash <;> simp [overridden]

end UserOptions

lemma Settings.run_load (s : Surroundings) : load.run s = (find s, s) := rfl

namespace Cli

open UserOptions (Agrees overridden referralVariable hashVariable set_overridden_iff)

/-! ### The log -/

section Log

variable {dir : Path} {d : Disk} {q : Place}

/-- Where the log is. -/
def logPlace (dir : Path) : Place := dir.place ++ [logName]

lemma prepareLog_ok (h : (prepareLog dir d).1 = .ok ()) :
    (prepareLog dir d).2 = d.makeFirst dir.place dir.place.length ∨
      (prepareLog dir d).2 =
        (d.makeFirst dir.place dir.place.length).put (logPlace dir) (.file []) := by
  have hplace : (dir.child logName).place = logPlace dir := Path.place_child (by decide) dir
  unfold prepareLog at h ⊢
  rw [hplace] at h ⊢
  cases hdirs : d.makeDirs dir.place with
  | error x =>
    rw [hdirs] at h
    cases h
  | ok e =>
    obtain rfl := (makeDirs_ok hdirs).2.2
    rw [hdirs] at h
    simp only at h ⊢
    split at h
    · exact Or.inl rfl
    · -- there is no log yet
      split at h
      · rename_i hwrite
        exact Or.inr (write_ok hwrite).2
      · cases h
    · cases h

lemma alike_prepareLog (h : (prepareLog dir d).1 = .ok ()) (hq : ¬ q <+: logPlace dir)
    (hlog : ¬ logPlace dir <+: q) : Alike q d (prepareLog dir d).2 := by
  have hdir : ¬ q <+: dir.place := fun hp => hq (hp.trans (List.prefix_append _ _))
  have hmade := alike_makeFirst_of_apart hdir d dir.place.length
  rcases prepareLog_ok h with he | he <;> rw [he]
  · exact hmade
  · exact hmade.trans (.of_frame_apart hlog fun r hr => at?_put_of_ne hr _ _)

lemma hasFile_prepareLog (h : (prepareLog dir d).1 = .ok ()) (hq : q ≠ logPlace dir) :
    (prepareLog dir d).2.hasFile q = d.hasFile q := by
  rcases prepareLog_ok h with he | he <;> rw [he]
  · exact hasFile_makeFirst d _ q _
  · rw [hasFile_congr (at?_put_of_ne hq _ _), hasFile_makeFirst]

end Log

/-! ### The command -/

variable {settings : Settings} {referral hash : Option Bool} {args : List Text}
  {s : Surroundings} {u : UserOptions}

/-- The name of the file of options. -/
abbrev optionsName : Text := "options.yaml".toList

/-- The directory that the file of options is in. -/
abbrev optionsDir (settings : Settings) : Path := .ofText settings.dataDir

lemma place_options (settings : Settings) :
    settings.optionsPath.place = (optionsDir settings).place ++ [optionsName] :=
  Path.place_child (by decide) _

/-- The file of options can be replaced and the log opened, and neither stands in the other's
way. -/
structure Ready (settings : Settings) (d : Disk) : Prop where
  writable : Writable (optionsDir settings) [optionsName] d
  logged : (prepareLog (.ofText settings.logDir) d).1 = .ok ()
  apart : ∀ name ∈ [optionsName, temporaryName optionsName],
    ¬ (optionsDir settings).place ++ [name] <+: logPlace (.ofText settings.logDir)
  beside : ¬ logPlace (.ofText settings.logDir) <+: (optionsDir settings).place

namespace Ready

variable {d : Disk}

lemma beside_member (h : Ready settings d) {name : Text}
    (hname : name ∈ [optionsName, temporaryName optionsName]) :
    ¬ logPlace (.ofText settings.logDir) <+: (optionsDir settings).place ++ [name] := by
  intro hp
  rcases List.prefix_concat_iff.mp hp with he | hp
  · exact h.apart name hname (he ▸ List.prefix_rfl)
  · exact h.beside hp

lemma alike_member (h : Ready settings d) {name : Text}
    (hname : name ∈ [optionsName, temporaryName optionsName]) :
    Alike ((optionsDir settings).place ++ [name]) d
      (prepareLog (.ofText settings.logDir) d).2 :=
  alike_prepareLog h.logged (h.apart name hname) (h.beside_member hname)

lemma find_options (h : Ready settings d) :
    (prepareLog (.ofText settings.logDir) d).2.find settings.optionsPath.place =
      d.find settings.optionsPath.place := by
  rw [place_options]
  exact (h.alike_member (by simp)).find_eq

lemma writable_logged (h : Ready settings d) :
    Writable (optionsDir settings) [optionsName] (prepareLog (.ofText settings.logDir) d).2 := by
  have hfile : ∀ q, q <+: (optionsDir settings).place →
      (prepareLog (.ofText settings.logDir) d).2.hasFile q = d.hasFile q := by
    intro q hq
    refine hasFile_prepareLog h.logged ?_
    rintro rfl
    exact h.beside hq
  refine ⟨?_, ?_, fun name hname => ?_⟩
  · rw [isBlocked_congr fun i _ => hfile _ (List.take_prefix i _)]
    exact h.writable.clear
  · rw [hfile _ List.prefix_rfl]
    exact h.writable.noFile
  · obtain ⟨hdots, hhere, htemp⟩ := h.writable.free name hname
    rw [List.mem_singleton] at hname
    subst hname
    exact ⟨hdots, by rwa [(h.alike_member (by simp)).at_eq],
      by rwa [(h.alike_member (by simp)).at_eq]⟩

end Ready

/-- The arguments ask for options to be set so far as they are given, and then to be shown. -/
def Sets (args : List Text) (referral hash : Option Bool) : Prop :=
  ∃ verbose rest, Call.read args = some (.named verbose .options rest) ∧
    CommandName.options.read rest = some (.options referral hash)

/-- What the command does to the disk: nothing without an option that is given, and else it keeps
the options as they hold, with those set that are given. -/
lemma run_options (settings : Settings) (referral hash : Option Bool)
    (hfind : UserOptions.find settings.optionsPath s = .ok u)
    (hsave : (s.disk.replace settings.optionsPath (some (u.set referral hash).toText)).1 = .ok ()) :
    ∃ t, (options settings referral hash).run s = (.ok 0, t) ∧
      t.disk = if referral.isSome || hash.isSome
        then (s.disk.replace settings.optionsPath (some (u.set referral hash).toText)).2
        else s.disk := by
  unfold options
  rw [Act.run_bind, UserOptions.run_load, hfind]
  simp only
  by_cases hgiven : (referral.isSome || hash.isSome) = true
  · rw [if_pos hgiven, if_pos hgiven, Act.run_bind, UserOptions.save, Act.run_onDisk, hsave]
    exact ⟨_, rfl, rfl⟩
  · rw [if_neg hgiven, if_neg hgiven]
    exact ⟨_, rfl, rfl⟩

lemma run_sets (input : Text) (hset : Sets args referral hash)
    (hsettings : Settings.find s = .ok settings)
    (hlog : (prepareLog (.ofText settings.logDir) s.disk).1 = .ok ()) {t : Surroundings}
    (h : (options settings referral hash).run
      { s with disk := (prepareLog (.ofText settings.logDir) s.disk).2 } = (.ok 0, t)) :
    ∃ v, run args input s = (.exit 0, v) ∧ v.disk = t.disk := by
  obtain ⟨verbose, rest, hcall, hread⟩ := hset
  have hperform : (perform? input (.named verbose .options rest)).run s = (.ok (some 0), t) := by
    unfold perform?
    rw [Act.run_bind, Settings.run_load, hsettings]
    simp only
    rw [Act.run_bind, Act.run_onDisk, hlog, hread]
    simp only [map_eq_pure_bind, perform]
    rw [Act.run_bind, h]
    rfl
  simp only [run, hcall, hperform]
  exact ⟨_, rfl, rfl⟩

lemma persisted_replace {d : Disk} (h : Writable (optionsDir settings) [optionsName] d)
    (w : UserOptions) :
    (d.replace settings.optionsPath (some w.toText)).1 = .ok () ∧
      UserOptions.persisted (d.replace settings.optionsPath (some w.toText)).2
        settings.optionsPath = .ok w := by
  have hdone : (d.replace settings.optionsPath (some w.toText)).1 = .ok () :=
    h.replace_fst (List.mem_singleton.mpr rfl) _
  refine ⟨hdone, UserOptions.persisted_of_find ?_⟩
  have hname : optionsName ≠ ['.', '.'] := by decide
  obtain ⟨m, -, ⟨f, he, -⟩ | ⟨text, htext, he, hfound⟩⟩ :=
    replace_cases hname (optionsDir settings) (some w.toText) d <;>
    change d.replace settings.optionsPath _ = _ at he
  · rw [he] at hdone
    cases hdone
  · cases htext
    rw [he, place_options]
    exact hfound

/-- **The options that are given are kept as they are given, and without any the file is left as it
is.** An option that is not given stays as the file has it exactly if the variable that overrides
it is not set, or says the same: where another is given, and so the file is written, the command
writes what the variable says. -/
theorem options_kept_iff (input : Text) (hset : Sets args referral hash)
    (hsettings : Settings.find s = .ok settings) (hready : Ready settings s.disk)
    (hkept : UserOptions.persisted s.disk settings.optionsPath = .ok u) :
    ∃ t v, run args input s = (.exit 0, t) ∧
      UserOptions.persisted t.disk settings.optionsPath = .ok v ∧
      (∀ b, referral = some b → v.removeReferral = b) ∧ (∀ b, hash = some b → v.cleanHash = b) ∧
      (referral = none → hash = none →
        t.disk.find settings.optionsPath.place = s.disk.find settings.optionsPath.place) ∧
      (v = u.set referral hash ↔
        (referral = none → hash.isSome → Agrees s.vars referralVariable u.removeReferral) ∧
          (hash = none → referral.isSome → Agrees s.vars hashVariable u.cleanHash)) := by
  set logged : Surroundings :=
    { s with disk := (prepareLog (.ofText settings.logDir) s.disk).2 }
  have hsame : UserOptions.persisted logged.disk settings.optionsPath = .ok u :=
    (UserOptions.persisted_congr hready.find_options).trans hkept
  obtain ⟨hsave, hsaved⟩ :=
    persisted_replace hready.writable_logged ((overridden s.vars u).set referral hash)
  obtain ⟨t, hran, hdisk⟩ := run_options settings referral hash
    (UserOptions.find_of_persisted (s := logged) hsame) hsave
  obtain ⟨v, hrun, hv⟩ := run_sets input hset hsettings hready.logged hran
  rw [hdisk] at hv
  by_cases hgiven : (referral.isSome || hash.isSome) = true
  · rw [if_pos hgiven] at hv
    -- the file is written, with what the variables say of an option that is not given
    refine ⟨v, _, hrun, hv ▸ hsaved, ?_, ?_, ?_, ?_⟩
    · rintro b rfl
      rfl
    · rintro b rfl
      rfl
    · rintro rfl rfl
      cases hgiven
    · rw [set_overridden_iff]
      cases referral <;> cases hash <;> simp_all
  · rw [if_neg hgiven] at hv
    obtain ⟨rfl, rfl⟩ : referral = none ∧ hash = none := by
      cases referral <;> cases hash <;> simp_all
    refine ⟨v, u, hrun, hv ▸ hsame, nofun, nofun, fun _ _ => hv ▸ hready.find_options, ?_⟩
    exact ⟨fun _ => ⟨nofun, nofun⟩, fun _ => rfl⟩

/-- A variable that says what the file says does no harm. -/
theorem options_kept_beside_variable :
    let args := ["options".toList, "--no-hash".toList]
    let text := "clean_hash: true\nremove_referral: false\n".toList
    let s : Surroundings :=
      { disk := { nodes := [(["data".toList], .dir),
          (["data".toList, optionsName], .file (utf8 text))] }
        vars := [(referralVariable, some "no".toList)] }
    let settings : Settings := {}
    Sets args none (some false) ∧ Settings.find s = .ok settings ∧ Ready settings s.disk ∧
      UserOptions.persisted s.disk settings.optionsPath = .ok ⟨false, true⟩ ∧
      ∃ t, run args [] s = (.exit 0, t) ∧
        UserOptions.persisted t.disk settings.optionsPath = .ok ⟨false, false⟩ := by
  intro args text s settings
  have hset : Sets args none (some false) := ⟨false, ["--no-hash".toList], by rfl, by rfl⟩
  have hsettings : Settings.find s = .ok settings := by decide +kernel
  have hready : Ready settings s.disk :=
    ⟨⟨by decide +kernel, by decide +kernel, by decide +kernel⟩, by decide +kernel,
      by decide +kernel, by decide +kernel⟩
  have hkept : UserOptions.persisted s.disk settings.optionsPath = .ok ⟨false, true⟩ := by
    decide +kernel
  obtain ⟨t, v, hrun, hv, -, -, -, hsame⟩ :=
    options_kept_iff [] hset hsettings hready hkept
  have hagrees : Agrees s.vars referralVariable false := (UserOptions.agrees_iff _ _ _).mpr
    (by decide +kernel)
  rw [hsame.mpr ⟨fun _ _ => hagrees, nofun⟩] at hv
  exact ⟨hset, hsettings, hready, hkept, t, hrun, hv⟩

/-- A variable that says otherwise is written: nothing is said of referral parameters here, and yet
they are kept as the variable has them. -/
theorem variable_written :
    let args := ["options".toList, "--no-hash".toList]
    let s : Surroundings := { vars := [(referralVariable, some "false".toList)] }
    let settings : Settings := {}
    Sets args none (some false) ∧
      UserOptions.persisted s.disk settings.optionsPath = .ok ⟨true, true⟩ ∧
      (run args [] s).1 = .exit 0 ∧
      UserOptions.persisted (run args [] s).2.disk settings.optionsPath = .ok ⟨false, false⟩ :=
  ⟨⟨false, ["--no-hash".toList], by rfl, by rfl⟩, by decide +kernel, by decide +kernel,
    by decide +kernel⟩

end Cli

end LinkCleaner
