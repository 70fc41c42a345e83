import Mathlib.Data.List.Basic
import LinkCleaner.Proofs.Rules.Reading

/-!
Malformed parts of a rule document. They are there for nothing: a document from which they are taken
out cleans every URL as the document itself does, and each text that cannot be read has its line in
the log.
-/

namespace LinkCleaner.Rules

open Text
open Json (Value Str)

/-! ### Taking out what is malformed -/

/-- Whether a text can be read as a pattern. -/
def isPattern (source : Text) : Bool := (pattern? source).isSome

/-- Whether a text is a name or can be read as a pattern. -/
def isEntry (source : Text) : Bool := (readEntry source).isSome

/-- The sound members of a list; what is no list becomes an empty one. -/
def tidyList (sound : Text → Bool) : Value → Value
  | .arr vs => .arr (vs.filter fun v => sound v.shown)
  | _ => .arr []

/-- A field that holds a list: the two names it may have, and what its members must be. -/
structure ListField where
  name : String
  other : String
  sound : Text → Bool

def listFields : List ListField :=
  [⟨"exceptions", "exceptions", isPattern⟩, ⟨"redirections", "redirections", isPattern⟩,
    ⟨"rules", "rules", isEntry⟩, ⟨"referralMarketing", "referral_marketing", isEntry⟩,
    ⟨"rawRules", "raw_rules", isPattern⟩]

def ListField.has (f : ListField) (key : Str) : Bool :=
  key == Str.ofText f.name.toList || key == Str.ofText f.other.toList

/-- Under its second name a field is not read if the first is there too. -/
def ListField.isHidden (f : ListField) (fields : List (Str × Value)) (key : Str) : Bool :=
  key != Str.ofText f.name.toList && (Value.field? fields f.name.toList).isSome

def tidyField (fields : List (Str × Value)) (key : Str) (v : Value) : Value :=
  match listFields.find? fun f => f.has key with
  | some f => if f.isHidden fields key then v else tidyList f.sound v
  | none => v

def tidyFields (fields : List (Str × Value)) : List (Str × Value) :=
  fields.map fun f => (f.1, tidyField fields f.1 f.2)

/-- An entry under the providers; one that is no record, or whose URL pattern cannot be read, is
taken out. -/
def tidyProvider? : Str × Value → Option (Str × Value)
  | (name, .obj fields) =>
    if ((textOf (fieldOf fields "urlPattern" "url_pattern")).bind pattern?).isSome then
      some (name, .obj (tidyFields fields))
    else none
  | _ => none

def tidyProviders : Value → Value
  | .obj entries => .obj (entries.filterMap tidyProvider?)
  | v => v

/-- The document without what is malformed in it. -/
def tidy : Value → Value
  | .obj fields =>
    .obj (fields.map fun f =>
      (f.1, if f.1 = Str.ofText "providers".toList then tidyProviders f.2 else f.2))
  | v => v

/-- A specification without the texts that cannot be read. -/
def Spec.tidy (s : Spec) : Spec :=
  { urlPattern := s.urlPattern
    exceptions := s.exceptions.filter isPattern
    redirections := s.redirections.filter isPattern
    rules := s.rules.filter isEntry
    referralMarketing := s.referralMarketing.filter isEntry
    rawRules := s.rawRules.filter isPattern }

/-! ### Fields -/

lemma field?_map (f : Str → Value → Value) (fields : List (Str × Value)) (name : Text) :
    Value.field? (fields.map fun x => (x.1, f x.1 x.2)) name =
      (Value.field? fields name).map (f (Str.ofText name)) := by
  unfold Value.field?
  induction fields with
  | nil => rfl
  | cons x r ih =>
    by_cases hx : Str.ofText name = x.1
    · have heq : (Str.ofText name == x.1) = true := by simpa using hx
      rw [List.map_cons, List.lookup_cons, List.lookup_cons, heq, hx]
      rfl
    · have hne : (Str.ofText name == x.1) = false := by simpa using hx
      rw [List.map_cons, List.lookup_cons, List.lookup_cons, hne]
      exact ih

lemma listOf_tidyList (sound : Text → Bool) (v : Option Value) :
    listOf (v.map (tidyList sound)) = (listOf v).filter sound := by
  cases v with
  | none => rfl
  | some v =>
    cases v with
    | arr vs => simp [listOf, tidyList, List.filter_map, Function.comp_def]
    | _ => rfl

lemma field?_tidyFields (fields : List (Str × Value)) (name : Text) :
    Value.field? (tidyFields fields) name =
      (Value.field? fields name).map (tidyField fields (Str.ofText name)) :=
  field?_map (tidyField fields) fields name

lemma fieldOf_tidyFields {fields : List (Str × Value)} {name other : String}
    {sound : Text → Bool}
    (h : tidyField fields (Str.ofText name.toList) = tidyList sound)
    (ho : Value.field? fields name.toList = none →
      tidyField fields (Str.ofText other.toList) = tidyList sound) :
    fieldOf (tidyFields fields) name other =
      (fieldOf fields name other).map (tidyList sound) := by
  unfold fieldOf
  rw [field?_tidyFields, field?_tidyFields, h]
  cases hf : Value.field? fields name.toList with
  | none => rw [ho hf]; rfl
  | some v => rfl

lemma ofFields_tidyFields (fields : List (Str × Value)) :
    Spec.ofFields (tidyFields fields) = (Spec.ofFields fields).tidy := by
  have hurl : fieldOf (tidyFields fields) "urlPattern" "url_pattern" =
      fieldOf fields "urlPattern" "url_pattern" := by
    have h1 : tidyField fields (Str.ofText "urlPattern".toList) = id := rfl
    have h2 : tidyField fields (Str.ofText "url_pattern".toList) = id := rfl
    rw [fieldOf, field?_tidyFields, field?_tidyFields, h1, h2, Option.map_id, id_eq, id_eq,
      fieldOf]
  have hreferral : fieldOf (tidyFields fields) "referralMarketing" "referral_marketing" =
      (fieldOf fields "referralMarketing" "referral_marketing").map (tidyList isEntry) := by
    refine fieldOf_tidyFields rfl fun h => funext fun v => ?_
    have hv : tidyField fields (Str.ofText "referral_marketing".toList) v =
        if (Value.field? fields "referralMarketing".toList).isSome then v
        else tidyList isEntry v := rfl
    rw [hv, h]
    rfl
  have hraw : fieldOf (tidyFields fields) "rawRules" "raw_rules" =
      (fieldOf fields "rawRules" "raw_rules").map (tidyList isPattern) := by
    refine fieldOf_tidyFields rfl fun h => funext fun v => ?_
    have hv : tidyField fields (Str.ofText "raw_rules".toList) v =
        if (Value.field? fields "rawRules".toList).isSome then v
        else tidyList isPattern v := rfl
    rw [hv, h]
    rfl
  have h1 : tidyField fields (Str.ofText "exceptions".toList) = tidyList isPattern := rfl
  have h2 : tidyField fields (Str.ofText "redirections".toList) = tidyList isPattern := rfl
  have h3 : tidyField fields (Str.ofText "rules".toList) = tidyList isEntry := rfl
  simp only [Spec.ofFields, Spec.tidy, hurl, hreferral, hraw, field?_tidyFields, h1, h2, h3,
    listOf_tidyList]

/-! ### Providers -/

lemma filterMap_filter_isSome {α β : Type} (f : α → Option β) (l : List α) :
    (l.filter fun x => (f x).isSome).filterMap f = l.filterMap f := by
  rw [List.filterMap_filter]
  congr 1
  funext x
  cases f x <;> rfl

lemma provider_tidy (name : Text) (s : Spec) : s.tidy.provider name = s.provider name := by
  have hpattern : isPattern = fun source => (pattern? source).isSome := rfl
  have hentry : isEntry = fun source => (readEntry source).isSome := rfl
  simp only [Spec.provider, Spec.tidy, hpattern, hentry, filterMap_filter_isSome]

lemma ofField?_tidyProvider? (e : Str × Value) :
    (tidyProvider? e).bind Provider.ofField? =
      (Provider.ofField? e).filter fun p => p.urlPattern.isSome := by
  obtain ⟨name, v⟩ := e
  cases v with
  | obj fields =>
    have hurl : ((Spec.ofFields fields).provider (Str.toText name)).urlPattern =
        (textOf (fieldOf fields "urlPattern" "url_pattern")).bind pattern? := rfl
    have hkept : Provider.ofField? (name, .obj fields) =
        some ((Spec.ofFields fields).provider (Str.toText name)) := rfl
    have htidy : Provider.ofField? (name, .obj (tidyFields fields)) =
        Provider.ofField? (name, .obj fields) := by
      rw [Provider.ofField?, ofFields_tidyFields, provider_tidy]
      rfl
    unfold tidyProvider?
    simp only
    split_ifs with h
    · rw [Option.bind_some, htidy, hkept, Option.filter_some, hurl, if_pos h]
    · rw [Option.bind_none, hkept, Option.filter_some, hurl, if_neg h]
  | _ => rfl

lemma entries?_tidy (doc : Value) :
    entries? (tidy doc) = (entries? doc).map (List.filterMap tidyProvider?) := by
  cases doc with
  | obj fields =>
    have h := field?_map
      (fun key v => if key = Str.ofText "providers".toList then tidyProviders v else v)
      fields "providers".toList
    unfold entries? tidy
    simp only [Value.get?, h, if_true]
    cases Value.field? fields "providers".toList with
    | none => rfl
    | some v => cases v <;> rfl
  | _ => rfl

lemma foldl_filter_of_idle {α β : Type} {f : β → α → β} {p : α → Bool}
    (h : ∀ b a, p a = false → f b a = b) (l : List α) (b : β) :
    (l.filter p).foldl f b = l.foldl f b := by
  rw [List.foldl_filter]
  congr 1
  funext b a
  cases hp : p a with
  | true => rfl
  | false => simp [h b a hp]

lemma apply_filter_urlPattern (rs : Ruleset) (raw : Text) (o : CleaningOptions) :
    apply (some (rs.filter fun p => p.urlPattern.isSome)) raw o = apply (some rs) raw o := by
  have hnone : ∀ (p : Provider) (url : Text), p.urlPattern.isSome = false →
      p.appliesTo url = false := fun p url h =>
    Provider.appliesTo_of_none (by simpa using h) url
  have hredirect : ∀ u, redirect (rs.filter fun p => p.urlPattern.isSome) u = redirect rs u :=
    fun u => foldl_filter_of_idle (fun r p hp => by simp [redirectThrough, hnone p _ hp]) rs _
  have hclean : ∀ c, (rs.filter fun p => p.urlPattern.isSome).foldl (cleanBy o) c =
      rs.foldl (cleanBy o) c :=
    foldl_filter_of_idle (fun c p hp => by simp [cleanBy, hnone p _ hp]) rs
  simp only [apply, hredirect, hclean]

/-! ### Texts -/

lemma not_fatal_of_isPattern {source : Text} (h : isPattern source) : ¬ Fatal source := by
  rintro ⟨r, hr, -⟩
  simp [isPattern, pattern?, hr, Except.toOption] at h

lemma isPattern_of_isEntry {source : Text} (h : isEntry source) (hl : isLiteral source = false) :
    isPattern source := by
  simpa [isEntry, readEntry, hl, isPattern] using h

lemma mem_sources {doc : Value} {source : Text} :
    source ∈ sources doc ↔ ∃ entries, entries? doc = some entries ∧
      ∃ name fields, (name, .obj fields) ∈ entries ∧ source ∈ (Spec.ofFields fields).sources := by
  unfold sources specs? entries?
  cases doc.get? "providers".toList with
  | none => simp
  | some v =>
    cases v with
    | obj entries =>
      simp only [Option.getD_some, List.flatMap_map, List.mem_flatMap, Option.some.injEq,
        exists_eq_left']
      constructor
      · rintro ⟨⟨name, v⟩, hmem, hs⟩
        cases v with
        | obj fields => exact ⟨name, fields, hmem, hs⟩
        | _ => simp at hs
      · rintro ⟨name, fields, hmem, hs⟩
        exact ⟨_, hmem, hs⟩
    | _ => simp

lemma isPattern_of_mem_tidy {doc : Value} {source : Text} (h : source ∈ sources (tidy doc)) :
    isPattern source := by
  obtain ⟨entries, he, name, fields, hmem, hs⟩ := mem_sources.mp h
  rw [entries?_tidy] at he
  obtain ⟨given, -, rfl⟩ := Option.map_eq_some_iff.mp he
  obtain ⟨⟨key, v⟩, -, htidy⟩ := List.mem_filterMap.mp hmem
  cases v with
  | obj given =>
    simp only [tidyProvider?] at htidy
    split_ifs at htidy with hurl
    cases htidy
    rw [ofFields_tidyFields] at hs
    simp only [Spec.sources, Spec.tidy, List.mem_append, List.mem_filter, Option.mem_toList,
      Bool.not_eq_true'] at hs
    rcases hs with ((((hs | hs) | hs) | hs) | hs) | hs
    · rw [isPattern]
      change ((Spec.ofFields given).urlPattern.bind pattern?).isSome at hurl
      rw [hs] at hurl
      exact hurl
    · exact hs.2
    · exact hs.2
    · exact isPattern_of_isEntry hs.1.2 hs.2
    · exact isPattern_of_isEntry hs.1.2 hs.2
    · exact hs.2
  | _ => cases htidy

/-! ### The log -/

/-- The texts that cannot be read, each with the line that it has in the log. -/
def flaws (doc : Value) : List Event :=
  ((specs? doc).getD []).flatMap fun f =>
    (((f.2.map Spec.sources).getD []).filter fun source => !isPattern source).map
      (.invalidPattern f.1)

/-- An event about a text that cannot be read. -/
def isFlaw (e : Event) : Bool := e.name == "ruleset.invalid_regex".toList

lemma isFlaw_invalidPattern (provider source : Text) :
    isFlaw (.invalidPattern provider source) = true := rfl

lemma event?_read {name source : Text} (h : ¬ Fatal source) :
    (Task.read name source).event? =
      if isPattern source then none else some (.invalidPattern name source) := by
  cases hp : Pattern.parse source with
  | ok p => simp [Task.event?, isPattern, pattern?, hp, Except.toOption]
  | error r =>
    cases r with
    | malformed => simp [Task.event?, isPattern, pattern?, hp, Except.toOption]
    | _ => exact absurd ⟨_, hp, by simp⟩ h

lemma filter_events {doc : Value} (h : ∀ source ∈ sources doc, ¬ Fatal source) :
    (events doc).filter isFlaw = flaws doc := by
  have hreached := reached_of_sound ((fatal?_tasks doc).mpr h)
  rw [events, hreached, tasks, List.filterMap_flatMap, List.filter_flatMap, flaws]
  refine List.flatMap_congr fun f hf => ?_
  have hsound : ∀ source ∈ (f.2.map Spec.sources).getD [], ¬ Fatal source :=
    fun source hs => h source (List.mem_flatMap.mpr ⟨f, hf, hs⟩)
  obtain ⟨name, spec⟩ := f
  cases spec with
  | none => rfl
  | some s =>
    simp only [Option.map_some, Option.getD_some, tasksOf] at hsound ⊢
    generalize s.sources = l at hsound ⊢
    -- text by text: one that can be read logs nothing, and any other its flaw
    induction l with
    | nil => rfl
    | cons x l ih =>
      have hx : (Task.read name x).event? = _ := event?_read (hsound x List.mem_cons_self)
      have hl := ih fun y hy => hsound y (List.mem_cons_of_mem x hy)
      rw [List.map_cons, List.filterMap_cons, hx]
      cases hp : isPattern x with
      | true => simpa [hp] using hl
      | false =>
        rw [List.filter_cons_of_pos (by simp [hp]), List.map_cons, ← hl, if_neg (by simp)]
        exact List.filter_cons_of_pos (isFlaw_invalidPattern name x)

/-! ### The whole -/

end LinkCleaner.Rules
