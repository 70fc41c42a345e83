import LinkCleaner.Event
import LinkCleaner.Rules.Provider

/-!
Compiling a rule document. A pattern that cannot be read is dropped by itself and logged; one whose
counts are out of reach stops the whole document. The log is read off the document: it lists what
goes wrong in the order in which providers and their texts stand.
-/

namespace LinkCleaner.Rules

open Json (Value)
open Pattern (Refusal)

/-- The pattern in a text, if it can be read. -/
def pattern? (source : Text) : Option Pattern := (Pattern.parse source).toOption

/-- An entry: a name, or a pattern if it can be read. -/
def readEntry (source : Text) : Option Entry :=
  if isLiteral source then some (.literal (Text.lower source))
  else (pattern? source).map .pattern

def Spec.provider (name : Text) (s : Spec) : Provider :=
  { name := name
    urlPattern := s.urlPattern.bind pattern?
    exceptions := s.exceptions.filterMap pattern?
    redirections := s.redirections.filterMap pattern?
    rules := s.rules.filterMap readEntry
    referralMarketing := s.referralMarketing.filterMap readEntry
    rawRules := s.rawRules.filterMap pattern? }

/-- The texts of a specification that are read as patterns, in the order in which they are read. -/
def Spec.sources (s : Spec) : List Text :=
  s.urlPattern.toList ++ s.exceptions ++ s.redirections
    ++ (s.rules.filter fun e => !isLiteral e) ++ (s.referralMarketing.filter fun e => !isLiteral e)
    ++ s.rawRules

/-- One step of compiling a document. -/
inductive Task where
  | skip (provider : Text)
  | read (provider source : Text)
  deriving DecidableEq, Repr

def tasksOf : Text × Option Spec → List Task
  | (name, none) => [.skip name]
  | (name, some s) => s.sources.map (.read name)

/-- What stops the whole document: a refusal that is no flaw of form. -/
def Task.fatal? : Task → Option Refusal
  | .skip _ => none
  | .read _ source =>
    match Pattern.parse source with
    | .error .malformed => none
    | .error r => some r
    | .ok _ => none

def Task.event? : Task → Option Event
  | .skip name => some (.skippedProvider name)
  | .read name source =>
    match Pattern.parse source with
    | .error .malformed => some (.invalidPattern name source)
    | _ => none

/-- The tasks up to the first that is fatal. -/
def reached (ts : List Task) : List Task := ts.takeWhile fun t => t.fatal?.isNone

def tasks (doc : Value) : List Task := ((specs? doc).getD []).flatMap tasksOf

/-- What compiling a document logs. -/
def events (doc : Value) : List Event := (reached (tasks doc)).filterMap Task.event?

/-- The providers of a compiled document, in its order. -/
abbrev Ruleset := List Provider

/-- Compiles a document; one without providers gives no rules. -/
def compile (doc : Value) : Except Refusal (Option Ruleset) :=
  match specs? doc with
  | none => .ok none
  | some specs =>
    match (tasks doc).findSome? Task.fatal? with
    | some r => .error r
    | none =>
      .ok (some (specs.filterMap fun (name, spec) => spec.map fun s => s.provider name))

/-- An entry on its own, with what reading it logs. -/
def classify (provider entry : Text) : Except Refusal (Option Entry × List Event) :=
  if isLiteral entry then .ok (readEntry entry, [])
  else
    let task := Task.read provider entry
    match task.fatal? with
    | some r => .error r
    | none => .ok (readEntry entry, task.event?.toList)

end LinkCleaner.Rules
