import LinkCleaner.Result

/-!
What is worth a line in the log: each event has a level, a name and its fields.
-/

namespace LinkCleaner

open Json (Value)

inductive Level where
  | debug
  | info
  | warning
  deriving DecidableEq, Repr

def Level.name : Level → Text
  | .debug => "debug".toList
  | .info => "info".toList
  | .warning => "warning".toList

inductive Event where
  /-- A pattern of a provider was dropped. -/
  | invalidPattern (provider pattern : Text)
  /-- A provider that is not a record was left out. -/
  | skippedProvider (provider : Text)
  | rulesUpdated (path hash : Text)
  | refreshFailed (reason : Text)
  | retryScheduled (minutes : Nat)
  | rulesMissing (path : Text)
  | cleaned (engine : Text) (changed : Bool) (error : Option CleanError)
  deriving DecidableEq, Repr

namespace Event

def level : Event → Level
  | .invalidPattern .. | .skippedProvider _ | .cleaned .. => .debug
  | .rulesUpdated .. => .info
  | .refreshFailed _ | .retryScheduled _ | .rulesMissing _ => .warning

def name : Event → Text
  | .invalidPattern .. => "ruleset.invalid_regex".toList
  | .skippedProvider _ => "ruleset.skipped_provider".toList
  | .rulesUpdated .. => "rule_store.updated".toList
  | .refreshFailed _ => "rule_store.refresh_failed".toList
  | .retryScheduled _ => "rule_store.retry_scheduled".toList
  | .rulesMissing _ => "cli.rules_missing".toList
  | .cleaned .. => "cli.cleaned".toList

def fields : Event → List (Text × Value)
  | .invalidPattern provider pattern =>
    [("provider".toList, .text provider), ("pattern".toList, .text pattern)]
  | .skippedProvider provider =>
    [("provider".toList, .text provider), ("reason".toList, .text "not an object".toList)]
  | .rulesUpdated path hash => [("path".toList, .text path), ("hash".toList, .text hash)]
  | .refreshFailed reason => [("error".toList, .text reason)]
  | .retryScheduled minutes => [("delay_minutes".toList, .int minutes)]
  | .rulesMissing path => [("path".toList, .text path)]
  | .cleaned engine changed error =>
    [("engine".toList, .text engine), ("changed".toList, .bool changed),
      ("error".toList, (error.map fun e => Value.text e.code).getD .null)]

def toValue (e : Event) : Value :=
  Value.ofFields
    (("level".toList, .text e.level.name) :: ("event".toList, .text e.name) :: e.fields)

end Event

end LinkCleaner
