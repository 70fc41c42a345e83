import LinkCleaner.Clean

/-!
Cleaning with the checks that it makes on the way. Whenever a redirector asks for the host of a URL,
the host is split off its authority anew, which checks the authority once more; nothing catches
what such a check finds.
-/

namespace LinkCleaner

open Url (ParseError)

/-- The host, split off anew. -/
def Url.hostAnew (u : Url) : Except ParseError Text := do
  let p := splitParts ('/' :: '/' :: u.authority)
  checkBrackets p.authority
  checkLookalikes p.authority
  return hostName p.authority

/-- The first target among redirectors, of which each asks for the host. -/
def Redirector.findAnew (u : Url) : List Redirector → Except ParseError (Option (Text × Text))
  | [] => return none
  | r :: rs => do
    let host ← u.hostAnew
    match r.targetAt? host u with
    | some t => return some (t, r.provider)
    | none => findAnew u rs

def stripChecked (raw : Text) (o : CleaningOptions) : Except ParseError CleanResult :=
  match Url.parse raw with
  | .error _ => return .refused raw .invalidUrl
  | .ok u => do
    let found ← Redirector.findAnew u Redirector.all
    return cleanHop u (Redirector.hop? found) o

/-- Cleans a URL, unless a check fails on the way. -/
def cleanChecked (engine : Engine) (rules : Option Rules.Ruleset) (raw : Text)
    (o : CleaningOptions) : Except ParseError CleanResult :=
  match engine with
  | .rules => return (Rules.apply rules (o.source raw) o).orInput raw
  | .heuristic => do
    let first ← stripChecked (o.source raw) o
    return first.orInput raw
  | .both => do
    let first ← stripChecked (o.source raw) o
    return if first.ok then first.andThen (Rules.apply rules first.url o) else first.orInput raw

end LinkCleaner
