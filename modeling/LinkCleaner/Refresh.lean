import LinkCleaner.Backoff
import LinkCleaner.Cache
import LinkCleaner.Settings
import LinkCleaner.Sha256

/-!
Downloading rules. Their text and its digest are fetched one after the other, and the rules are kept
only if the digest is that of the text; a refresh that fails is put off for longer each time.
-/

namespace LinkCleaner.Refresh

open Json (Value)

/-- Gets a text from the network. -/
def fetch (url : Text) : Act Text :=
  .onNetwork fun n => ((Http.fetch url n).1.mapError (.fetch url), (Http.fetch url n).2)

/-- The digest in a text that publishes one. -/
def published (s : Text) : Text := Text.lower (Text.trim s)

/-- The rules in a text that was served with the text of a digest. -/
def verify (document hash : Text) : Except Fault Value :=
  let expected := published hash
  let actual := Sha256.hex document
  if actual = expected then
    (Json.readDocument document).mapError (.malformedRules document)
  else .error (.integrity expected actual)

/-- What is kept of rules that were verified at a time in seconds. -/
def entry (rules : Value) (document : Text) (now : Nat) : Cache.Entry :=
  { rules := rules, time := now * 1000, digest := Sha256.hex document }

/-- Downloads the rules and keeps them. Without a client one is set up for the purpose. -/
def download (settings : Settings) (client : Option Client) : Act Value := do
  if client.isNone then Act.connect settings.client
  let document ← fetch settings.rulesUrl
  let hash ← fetch settings.hashUrl
  let rules ← Act.ofExcept (verify document hash)
  let s ← get
  let e := entry rules document s.now
  Act.onDisk (Cache.save settings.rulesPath e)
  Act.log (.rulesUpdated settings.rulesPath.toText e.digest)
  return rules

/-- How a refresh ended, and the minutes until the next. -/
structure Outcome where
  ok : Bool
  minutes : Nat
  deriving DecidableEq, Repr

/-- Forgets the failures; gives the minutes until the next refresh. -/
def succeed (p : Path) : Act Nat := do
  Act.onDisk (Backoff.save p 0)
  return Backoff.daily

/-- Counts a failure; gives the minutes until the next try. -/
def fail (p : Path) : Act Nat := do
  let s ← get
  let failures := Backoff.load s.disk p
  Act.log (.retryScheduled (Backoff.delay failures))
  Act.onDisk (Backoff.save p (Backoff.next failures))
  return Backoff.delay failures

/-- Downloads the rules, or says when to try again if they cannot be had. -/
def refresh (settings : Settings) (client : Option Client) : Act Outcome := fun s =>
  match (download settings client).run s with
  | (.ok _, s) => (do return ⟨true, ← succeed settings.statePath⟩ : Act Outcome).run s
  | (.error f, s) =>
    if f.concernsRules then
      (do
        Act.log (.refreshFailed f.message)
        return ⟨false, ← fail settings.statePath⟩ : Act Outcome).run s
    else (.error f, s)

/-- The state of the cache and of the failures in a row. -/
def status (settings : Settings) (d : Disk) : Value :=
  let field := Cache.field d settings.rulesPath
  .ofFields
    [("has_rules".toList, .bool (field "rules").truthy), ("last_updated".toList, field "ts"),
      ("hash".toList, field "hash"),
      (Backoff.fieldName, .int (Backoff.load d settings.statePath))]

end LinkCleaner.Refresh
