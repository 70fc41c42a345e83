import LinkCleaner.Rules.Apply
import LinkCleaner.Surroundings

/-!
Reading a rule document as an action, one text after another. A text with a flaw of form is dropped
and logged in its turn; any other refusal stops the reading where it stands.
-/

namespace LinkCleaner.Rules.Reading

open Json (Value)

/-- Reads a text as a pattern. -/
def pattern (provider source : Text) : Act (Option Pattern) :=
  match Pattern.parse source with
  | .ok p => return some p
  | .error .malformed => do
    Act.log (.invalidPattern provider source)
    return none
  | .error r => throw (.pattern r)

/-- Reads a text as an entry: a name is not read as a pattern. -/
def entry (provider source : Text) : Act (Option Entry) :=
  if isLiteral source then return some (.literal (Text.lower source))
  else do
    let p ← pattern provider source
    return p.map .pattern

/-- Reads texts in their order, and keeps what could be read. -/
def each {α : Type} (read : Text → Act (Option α)) : List Text → Act (List α)
  | [] => return []
  | s :: r => do
    let x ← read s
    let xs ← each read r
    return x.toList ++ xs

/-- Reads a text that need not be there. -/
def optional {α : Type} (read : Text → Act (Option α)) : Option Text → Act (Option α)
  | none => return none
  | some s => read s

def provider (name : Text) (s : Spec) : Act Provider := do
  let urlPattern ← optional (pattern name) s.urlPattern
  let exceptions ← each (pattern name) s.exceptions
  let redirections ← each (pattern name) s.redirections
  let rules ← each (entry name) s.rules
  let referralMarketing ← each (entry name) s.referralMarketing
  let rawRules ← each (pattern name) s.rawRules
  return { name, urlPattern, exceptions, redirections, rules, referralMarketing, rawRules }

def providers : List (Text × Option Spec) → Act Ruleset
  | [] => return []
  | (name, none) :: r => do
    Act.log (.skippedProvider name)
    providers r
  | (name, some s) :: r => do
    let p ← provider name s
    let ps ← providers r
    return p :: ps

/-- Reads a document; one without providers gives no rules. -/
def rules (doc : Value) : Act (Option Ruleset) :=
  match specs? doc with
  | none => return none
  | some specs => do
    let ps ← providers specs
    return some ps

/-- Cleans a URL by a document that is read first. -/
def clean (doc : Value) (raw : Text) (o : CleaningOptions) : Act CleanResult := do
  let rs ← rules doc
  return apply rs raw o

end LinkCleaner.Rules.Reading
