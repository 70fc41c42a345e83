import LinkCleaner.Rules.Apply
import LinkCleaner.Strip

/-!
Cleaning with a choice of engine: the built-in lists, the rules, or the one after the other.
-/

namespace LinkCleaner

inductive Engine where
  | heuristic
  | rules
  | both
  deriving DecidableEq, Repr

def Engine.all : List Engine := [.heuristic, .rules, .both]

def Engine.name : Engine → Text
  | .heuristic => "heuristic".toList
  | .rules => "rules".toList
  | .both => "both".toList

def Engine.ofName? (s : Text) : Option Engine := all.find? fun e => e.name == s

/-- Hands back the text that was given when cleaning fails. -/
def CleanResult.orInput (r : CleanResult) (raw : Text) : CleanResult :=
  if r.ok then r else { r with url := raw }

/-- The outcome of a second engine after a first. Where there are no rules the first one stands. -/
def CleanResult.andThen (first second : CleanResult) : CleanResult :=
  if second.error = some .rulesUnavailable then first
  else
    { url := second.url
      changed := first.changed || second.changed
      unwrappedFrom := first.unwrappedFrom
      error := second.error }

/-- The text that is cleaned: it loses its fragment first, unless that is to be cleaned too. -/
def CleaningOptions.source (o : CleaningOptions) (raw : Text) : Text :=
  if o.cleanHash then raw else Url.dropFragment raw

/-- Cleans a URL. -/
def cleanUrl (engine : Engine) (rules : Option Rules.Ruleset) (raw : Text) (o : CleaningOptions) :
    CleanResult :=
  match engine with
  | .rules => (Rules.apply rules (o.source raw) o).orInput raw
  | .heuristic => (stripTracking (o.source raw) o).orInput raw
  | .both =>
    let first := stripTracking (o.source raw) o
    if first.ok then first.andThen (Rules.apply rules first.url o) else first.orInput raw

end LinkCleaner
