import Mathlib.Tactic.SplitIfs
import Mathlib.Tactic.Lemma
import LinkCleaner.Rules.Reading

/-!
What reading a document comes to. The action that reads text by text yields the compiled rules and
logs what is listed for the document; it is stopped only by a text whose refusal is no flaw of form.
-/

namespace LinkCleaner.Rules

open Text
open Json (Value Str)
open Pattern (Refusal)

/-! ### Tasks -/

/-- An action that goes through tasks in their order and, if none of them is fatal, yields a
value. -/
def Performs {α : Type} (a : Act α) (ts : List Task) (x : α) : Prop :=
  ∀ s, a.run s =
    (match ts.findSome? Task.fatal? with
      | some r => .error (.pattern r)
      | none => .ok x,
    { s with journal := s.journal ++ (reached ts).filterMap Task.event? })

lemma reached_append (ts us : List Task) :
    reached (ts ++ us) =
      match ts.findSome? Task.fatal? with
      | some _ => reached ts
      | none => ts ++ reached us := by
  induction ts with
  | nil => rfl
  | cons t ts ih =>
    simp only [reached] at ih ⊢
    rw [List.cons_append, List.takeWhile_cons, List.takeWhile_cons, List.findSome?_cons, ih]
    cases t.fatal? with
    | some r => rfl
    | none => cases List.findSome? Task.fatal? ts <;> rfl

lemma reached_of_sound {ts : List Task} (h : ts.findSome? Task.fatal? = none) :
    reached ts = ts := by
  have := reached_append ts []
  rw [h, List.append_nil] at this
  simpa [reached] using this

section Performs

variable {α β : Type} {a : Act α} {f : α → Act β} {ts us : List Task} {x : α} {y : β}

lemma performs_pure (x : α) : Performs (pure x) [] x := by
  intro s
  simp [Act.run_pure, reached]

lemma Performs.bind (ha : Performs a ts x) (hf : Performs (f x) us y) :
    Performs (a >>= f) (ts ++ us) y := by
  intro s
  rw [Act.run_bind, ha s, List.findSome?_append, reached_append]
  cases hts : ts.findSome? Task.fatal? with
  | some r => rfl
  | none =>
    simp only [hf _, Option.none_or, reached_of_sound hts, List.filterMap_append,
      List.append_assoc]

lemma Performs.map (ha : Performs a ts x) (g : α → β) :
    Performs (do let z ← a; return g z) ts (g x) := by
  have h := ha.bind (f := fun z => pure (g z)) (performs_pure (g x))
  rwa [List.append_nil] at h

end Performs

/-! ### Reading performs the tasks of a document -/

lemma performs_log {e : Event} {t : Task} (hf : t.fatal? = none) (he : t.event? = some e) :
    Performs (Act.log e) [t] () := by
  intro s
  rw [Act.run_log]
  simp [reached, hf, he]

lemma performs_pattern (name source : Text) :
    Performs (Reading.pattern name source) [.read name source] (pattern? source) := by
  unfold Reading.pattern pattern?
  cases h : Pattern.parse source with
  | ok p =>
    intro s
    simp [Act.run_pure, reached, Task.fatal?, Task.event?, h, Except.toOption]
  | error r =>
    cases r with
    | malformed =>
      have hf : (Task.read name source).fatal? = none := by simp [Task.fatal?, h]
      have he : (Task.read name source).event? = some (.invalidPattern name source) := by
        simp [Task.event?, h]
      exact (performs_log hf he).map fun _ => none
    | countTooLarge | tooManyDigits | mixedAlphabets =>
      intro s
      simp [reached, Task.fatal?, h]
      rfl

lemma performs_entry (name source : Text) :
    Performs (Reading.entry name source)
      (if isLiteral source then [] else [.read name source]) (readEntry source) := by
  unfold Reading.entry readEntry
  split_ifs
  · exact performs_pure _
  · exact (performs_pattern name source).map _

lemma performs_each {α : Type} {read : Text → Act (Option α)} {ts : Text → List Task}
    {f : Text → Option α} (h : ∀ s, Performs (read s) (ts s) (f s)) (sources : List Text) :
    Performs (Reading.each read sources) (sources.flatMap ts) (sources.filterMap f) := by
  induction sources with
  | nil => exact performs_pure []
  | cons s r ih =>
    have hstep := (h s).bind (f := fun x => do
      let xs ← Reading.each read r
      return x.toList ++ xs) (ih.map fun xs => (f s).toList ++ xs)
    have he : (f s).toList ++ r.filterMap f = (s :: r).filterMap f := by
      cases hs : f s <;> simp [hs]
    rw [List.flatMap_cons, ← he]
    exact hstep

lemma performs_optional (name : Text) (source : Option Text) :
    Performs (Reading.optional (Reading.pattern name) source)
      (source.toList.map (Task.read name)) (source.bind pattern?) := by
  cases source with
  | none => exact performs_pure none
  | some s => exact performs_pattern name s

lemma performs_patterns (name : Text) (sources : List Text) :
    Performs (Reading.each (Reading.pattern name) sources) (sources.map (Task.read name))
      (sources.filterMap pattern?) := by
  have h := performs_each (performs_pattern name) sources
  rwa [← List.map_eq_flatMap] at h

lemma performs_entries (name : Text) (sources : List Text) :
    Performs (Reading.each (Reading.entry name) sources)
      ((sources.filter fun e => !isLiteral e).map (Task.read name))
      (sources.filterMap readEntry) := by
  have hts : (sources.flatMap fun x => if isLiteral x then [] else [Task.read name x]) =
      (sources.filter fun e => !isLiteral e).map (Task.read name) := by
    induction sources with
    | nil => rfl
    | cons x l ih => by_cases hx : isLiteral x <;> simp [hx, ih]
  rw [← hts]
  exact performs_each (performs_entry name) sources

lemma performs_provider (name : Text) (s : Spec) :
    Performs (Reading.provider name s) (s.sources.map (Task.read name)) (s.provider name) := by
  simp only [Spec.sources, List.map_append, List.append_assoc]
  unfold Reading.provider
  refine (performs_optional name s.urlPattern).bind ?_
  refine (performs_patterns name s.exceptions).bind ?_
  refine (performs_patterns name s.redirections).bind ?_
  refine (performs_entries name s.rules).bind ?_
  refine (performs_entries name s.referralMarketing).bind ?_
  exact (performs_patterns name s.rawRules).map _

/-- The providers of specifications, without those that are no record. -/
def providersOf (specs : List (Text × Option Spec)) : Ruleset :=
  specs.filterMap fun (name, spec) => spec.map fun s => s.provider name

lemma performs_providers (specs : List (Text × Option Spec)) :
    Performs (Reading.providers specs) (specs.flatMap tasksOf) (providersOf specs) := by
  induction specs with
  | nil => exact performs_pure []
  | cons f r ih =>
    obtain ⟨name, spec⟩ := f
    cases spec with
    | none => exact (performs_log (t := .skip name) rfl rfl).bind ih
    | some s => exact (performs_provider name s).bind (ih.map fun ps => s.provider name :: ps)

lemma performs_rules (doc : Value) :
    Performs (Reading.rules doc) (tasks doc) ((specs? doc).map providersOf) := by
  unfold Reading.rules tasks
  cases specs? doc with
  | none => exact performs_pure none
  | some specs => exact (performs_providers specs).map some

/-- **Reading text by text compiles the document**, and logs what is listed for it. -/
theorem run_rules (doc : Value) (s : Surroundings) :
    (Reading.rules doc).run s =
      ((compile doc).mapError .pattern, { s with journal := s.journal ++ events doc }) := by
  rw [performs_rules doc s, compile, events]
  cases hs : specs? doc with
  | none => simp [tasks, hs, Except.mapError]
  | some specs =>
    simp only
    cases (tasks doc).findSome? Task.fatal? <;> rfl

/-! ### What stops a document -/

/-- A text that is refused, and not for its form. -/
def Fatal (source : Text) : Prop := ∃ r, Pattern.parse source = .error r ∧ r ≠ .malformed

instance (source : Text) : Decidable (Fatal source) :=
  match h : Pattern.parse source with
  | .ok _ => isFalse fun ⟨_, hr, _⟩ => by rw [h] at hr; cases hr
  | .error r =>
    if hr : r = .malformed then
      isFalse fun ⟨_, he, hn⟩ => by rw [h] at he; cases he; exact hn hr
    else isTrue ⟨r, h, hr⟩

lemma fatal?_read {name source : Text} :
    (Task.read name source).fatal? = none ↔ ¬ Fatal source := by
  cases h : Pattern.parse source with
  | ok p => simp [Task.fatal?, Fatal, h]
  | error r => cases r <;> simp [Task.fatal?, Fatal, h]

/-- The texts of a document that are read as patterns, in the order in which they are read. -/
def sources (doc : Value) : List Text :=
  ((specs? doc).getD []).flatMap fun f => (f.2.map Spec.sources).getD []

lemma fatal?_tasks (doc : Value) :
    (tasks doc).findSome? Task.fatal? = none ↔ ∀ source ∈ sources doc, ¬ Fatal source := by
  have htasks : ∀ f, (∀ t ∈ tasksOf f, t.fatal? = none) ↔
      ∀ source ∈ (f.2.map Spec.sources).getD [], ¬ Fatal source := by
    rintro ⟨name, spec⟩
    cases spec with
    | none => simp [tasksOf, Task.fatal?]
    | some s => simp [tasksOf, fatal?_read]
  rw [List.findSome?_eq_none_iff, tasks, sources, List.forall_mem_flatMap,
    List.forall_mem_flatMap]
  exact forall₂_congr fun f _ => htasks f

/-- The entries under the providers of a document, if it has a record there. -/
def entries? (doc : Value) : Option (List (Str × Value)) :=
  match doc.get? "providers".toList with
  | some (.obj entries) => some entries
  | _ => none

/-- The provider of an entry that is a record; a text in it that cannot be read is left out. -/
def Provider.ofField? : Str × Value → Option Provider
  | (name, .obj fields) => some ((Spec.ofFields fields).provider (Str.toText name))
  | _ => none

lemma map_providersOf (doc : Value) :
    (specs? doc).map providersOf = (entries? doc).map (List.filterMap Provider.ofField?) := by
  unfold specs? entries?
  cases doc.get? "providers".toList with
  | none => rfl
  | some v =>
    cases v with
    | obj entries =>
      simp only [Option.map_some, providersOf, List.filterMap_map]
      congr 2
      funext ⟨name, v⟩
      cases v <;> rfl
    | _ => rfl

lemma run_rules_fst (doc : Value) (s : Surroundings) :
    (∃ r, ((Reading.rules doc).run s).1 = .error r ∧ ¬ ∀ source ∈ sources doc, ¬ Fatal source) ∨
      (((Reading.rules doc).run s).1 = .ok ((entries? doc).map (List.filterMap Provider.ofField?)) ∧
        ∀ source ∈ sources doc, ¬ Fatal source) := by
  rw [performs_rules doc s, map_providersOf, ← fatal?_tasks]
  cases (tasks doc).findSome? Task.fatal? with
  | some r => exact Or.inl ⟨_, rfl, by simp⟩
  | none => exact Or.inr ⟨rfl, rfl⟩

lemma run_rules_ok {doc : Value} (h : ∀ source ∈ sources doc, ¬ Fatal source)
    (s : Surroundings) : ((Reading.rules doc).run s).1 =
      .ok ((entries? doc).map (List.filterMap Provider.ofField?)) := by
  rcases run_rules_fst doc s with ⟨r, -, hfatal⟩ | ⟨hr, -⟩
  · exact absurd h hfatal
  · exact hr

lemma run_clean (doc : Value) (raw : Text) (o : CleaningOptions) (s : Surroundings) :
    ((Reading.clean doc raw o).run s).1 =
      ((Reading.rules doc).run s).1.map fun rs => apply rs raw o := by
  rw [Reading.clean, Act.run_bind]
  obtain ⟨r, t⟩ := (Reading.rules doc).run s
  cases r <;> rfl

lemma run_clean_ok {doc : Value} (h : ∀ source ∈ sources doc, ¬ Fatal source) (raw : Text)
    (o : CleaningOptions) (s : Surroundings) : ((Reading.clean doc raw o).run s).1 =
      .ok (apply ((entries? doc).map (List.filterMap Provider.ofField?)) raw o) := by
  rw [run_clean, run_rules_ok h]
  rfl

end LinkCleaner.Rules
