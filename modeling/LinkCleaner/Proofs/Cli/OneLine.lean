import LinkCleaner.Cli.Run
import LinkCleaner.Proofs.Written

/-!
What a run of the command that cleans a URL prints. Everything that goes before, reading settings,
options and rules and opening the log, prints nothing, and a URL that was cleaned is one line.
-/

namespace LinkCleaner

open Text

namespace Act

variable {α β : Type} {a : Act α} {f : α → Act β} {s t : Surroundings} {y : β}

/-- An action that prints nothing, whether it is stopped or not. -/
def Silent (a : Act α) : Prop := ∀ s, (a.run s).2.printed = s.printed

lemma silent_pure (x : α) : (pure x : Act α).Silent := fun _ => rfl

lemma silent_get : (get : Act Surroundings).Silent := fun _ => rfl

lemma silent_ofExcept (r : Except Fault α) : (ofExcept r).Silent := fun _ => rfl

lemma silent_onDisk (g : Disk → Except Fault α × Disk) : (onDisk g).Silent := fun _ => rfl

lemma silent_log (e : Event) : (log e).Silent := fun _ => rfl

lemma silent_logAll (es : List Event) : (logAll es).Silent := fun _ => rfl

lemma Silent.bind (ha : a.Silent) (hf : ∀ x, (f x).Silent) : (a >>= f).Silent := by
  intro s
  rw [run_bind]
  rcases hr : a.run s with ⟨e | x, t⟩
  · simpa [hr] using ha s
  · have ht := ha s
    rw [hr] at ht
    exact (hf x t).trans ht

lemma run_bind_ok (h : (a >>= f).run s = (.ok y, t)) :
    ∃ x u, a.run s = (.ok x, u) ∧ (f x).run u = (.ok y, t) := by
  rw [run_bind] at h
  rcases hr : a.run s with ⟨e | x, u⟩
  · simp [hr] at h
  · rw [hr] at h
    exact ⟨x, u, rfl, h⟩

lemma Silent.run_bind_ok (ha : a.Silent) (h : (a >>= f).run s = (.ok y, t)) :
    ∃ x u, u.printed = s.printed ∧ (f x).run u = (.ok y, t) := by
  obtain ⟨x, u, hx, hf⟩ := Act.run_bind_ok h
  refine ⟨x, u, ?_, hf⟩
  have hs := ha s
  rwa [hx] at hs

end Act

open Act

/-! ### What goes before -/

lemma Settings.silent_load : Settings.load.Silent :=
  silent_get.bind fun s => silent_ofExcept (find s)

lemma UserOptions.silent_load (p : Path) : (UserOptions.load p).Silent :=
  silent_get.bind fun s => silent_ofExcept (find p s)

namespace Cli

lemma silent_loadRules (settings : Settings) (e : Engine) : (loadRules settings e).Silent := by
  unfold loadRules
  split_ifs
  · exact silent_pure none
  · refine silent_get.bind fun s => (silent_logAll _).bind fun _ => (silent_ofExcept _).bind ?_
    intro rules
    split_ifs
    · exact (silent_log _).bind fun _ => silent_pure rules
    · exact silent_pure rules

/-! ### The command -/

variable {settings : Settings} {r : CleanRequest} {input : Text} {s t : Surroundings} {code : Nat}

lemma run_clean (hr : r.asJson = false) (h : (clean settings r input).run s = (.ok code, t)) :
    ∃ rules o, code = exitCode (cleanUrl r.engine rules (r.source input) o) ∧
      t.printed = s.printed ++ (cleanUrl r.engine rules (r.source input) o).url ++ ['\n'] := by
  unfold clean at h
  obtain ⟨user, s₁, h₁, h⟩ := (UserOptions.silent_load _).run_bind_ok h
  obtain ⟨rules, s₂, h₂, h⟩ := (silent_loadRules settings r.engine).run_bind_ok h
  obtain ⟨-, s₃, h₃, h⟩ := (silent_log _).run_bind_ok h
  rw [hr, if_neg Bool.false_ne_true] at h
  cases h
  exact ⟨rules, _, rfl, by rw [← h₁, ← h₂, ← h₃]⟩

/-- The arguments ask for a URL to be cleaned. -/
def Asks (args : List Text) (r : CleanRequest) : Prop :=
  ∃ verbose rest, Call.read args = some (.named verbose .clean rest) ∧
    CommandName.clean.read rest = some (.clean r)

lemma run_asked {args : List Text} (ha : Asks args r) (h : run args input s = (.exit code, t)) :
    ∃ settings u v, u.printed = s.printed ∧ (clean settings r input).run u = (.ok code, v) ∧
      t.printed = v.printed := by
  obtain ⟨verbose, rest, hcall, hread⟩ := ha
  simp only [run, hcall] at h
  rcases hp : (perform? input (.named verbose .clean rest)).run s with ⟨e | _ | c, v⟩ <;>
    simp only [hp] at h <;> cases h
  unfold perform? at hp
  obtain ⟨settings, s₁, h₁, hp⟩ := Settings.silent_load.run_bind_ok hp
  obtain ⟨-, s₂, h₂, hp⟩ := (silent_onDisk _).run_bind_ok hp
  rw [hread] at hp
  simp only [map_eq_pure_bind] at hp
  obtain ⟨c, s₃, h₃, hp⟩ := run_bind_ok hp
  cases hp
  exact ⟨settings, s₂, v, by rw [h₂, h₁], h₃, rfl⟩

/-- **A URL that was cleaned holds no blanks**, whichever engine has cleaned it and wherever it was
taken from. So a run that cleans a URL, if it ends well and is not to print a record, prints one
line, and that is the URL. -/
theorem cleaned_in_one_line :
    (∀ engine rules raw o, (cleanUrl engine rules raw o).error = none →
      Solid (cleanUrl engine rules raw o).url) ∧
    ∀ args input r s t, Asks args r → r.asJson = false → run args input s = (.exit 0, t) →
      ∃ line, Solid line ∧ t.printed = s.printed ++ line ++ ['\n'] ∧
        ∃ rules o, line = (cleanUrl r.engine rules (r.source input) o).url := by
  have hsolid : ∀ engine rules raw o, (cleanUrl engine rules raw o).error = none →
      Solid (cleanUrl engine rules raw o).url := fun _ _ _ _ hok => (cleanUrl_written hok).solid
  refine ⟨hsolid, fun args input r s t ha hr h => ?_⟩
  obtain ⟨settings, u, v, hu, hclean, ht⟩ := run_asked ha h
  obtain ⟨rules, o, hcode, hprinted⟩ := run_clean hr hclean
  have hok : (cleanUrl r.engine rules (r.source input) o).error = none := by
    unfold exitCode at hcode
    split_ifs at hcode with hok
    simpa [CleanResult.ok] using hok
  exact ⟨_, hsolid _ _ _ _ hok, by rw [ht, hprinted, hu], rules, o, rfl⟩

/-- A line break is dropped from what a parameter of a redirector hides, and a separator that is no
ASCII is written with percent signs. -/
theorem cleaned_in_one_line_hidden :
    let url := "https://www.google.com/url?q=https%3A%2F%2Fa.test%2Fx%C2%85y%0Az%3Fgclid".toList
    let args := ["clean".toList, url]
    let r : CleanRequest := { url := url }
    let t := (run args [] {}).2
    Asks args r ∧ r.asJson = false ∧ run args [] {} = (.exit 0, t) ∧
      t.printed = "https://a.test/x%C2%85yz\n".toList ∧
      ∃ line, Solid line ∧ t.printed = line ++ ['\n'] := by
  intro url args r t
  have ha : Asks args r := ⟨false, [url], rfl, rfl⟩
  have hending : (run args [] {}).1 = .exit 0 := by decide +kernel
  have h : run args [] {} = (.exit 0, t) := Prod.ext hending rfl
  obtain ⟨line, hline, hprinted, -⟩ := cleaned_in_one_line.2 args [] r {} t ha rfl h
  exact ⟨ha, rfl, h, by decide +kernel, line, hline, hprinted⟩

end Cli

end LinkCleaner
