import LinkCleaner.Cli.Command
import LinkCleaner.Options.Stored
import LinkCleaner.Refresh

/-!
Running commands. A run ends with an exit code, unless the arguments make no command or a fault
stops it; what it printed until then stays printed.
-/

namespace LinkCleaner.Cli

open Json (Value)

/-- The name of the file that logged events go to. -/
def logName : Text := "nudelink.log".toList

/-- Makes the directory for the log, and an empty log if there is none. -/
def prepareLog (dir : Path) (d : Disk) : Except Fault Unit × Disk :=
  match d.makeDirs dir.place with
  | .error e => (.error (.disk e), d)
  | .ok d =>
    let p := (dir.child logName).place
    match d.read p with
    | .ok _ => (.ok (), d)
    | .error .missing =>
      match d.write p [] with
      | .ok d => (.ok (), d)
      | .error e => (.error (.disk e), d)
    | .error e => (.error (.disk e), d)

/-- The URL of a request; a lone dash stands for the input. -/
def CleanRequest.source (r : CleanRequest) (input : Text) : Text :=
  if r.url = ['-'] then Text.trim (Text.plainLines input) else r.url

/-- The rules that a request needs. -/
def loadRules (settings : Settings) (e : Engine) : Act (Option Rules.Ruleset) := do
  if e = .heuristic then return none
  else
    let d := (← get).disk
    Act.logAll (Cache.events d settings.rulesPath)
    let rules ← Act.ofExcept (Cache.ruleset d settings.rulesPath)
    if rules.isNone then Act.log (.rulesMissing settings.rulesPath.toText)
    return rules

def exitCode (r : CleanResult) : Nat := if r.ok then 0 else 1

/-- Cleans a URL and prints the outcome. -/
def clean (settings : Settings) (r : CleanRequest) (input : Text) : Act Nat := do
  let url := r.source input
  let user ← UserOptions.load settings.optionsPath
  let options := (user.set r.referral r.hash).cleaning r.keep r.remove
  let rules ← loadRules settings r.engine
  let result := cleanUrl r.engine rules url options
  Act.log (.cleaned r.engine.name result.changed result.error)
  if r.asJson then Act.print (Json.write .compact result.toValue)
  else
    Act.print result.url
    Act.remark result.status
  return exitCode result

/-- Shows the options, and keeps those that are given. -/
def options (settings : Settings) (referral hash : Option Bool) : Act Nat := do
  let user ← UserOptions.load settings.optionsPath
  let user := user.set referral hash
  if referral.isSome || hash.isSome then UserOptions.save settings.optionsPath user
  Act.print ("remove_referral: ".toList ++ (Value.bool user.removeReferral).shown)
  Act.print ("clean_hash: ".toList ++ (Value.bool user.cleanHash).shown)
  return 0

/-- Refreshes the rules now. -/
def refreshRules (settings : Settings) : Act Nat := do
  let outcome ← Refresh.refresh settings none
  let minutes := Text.ofNat outcome.minutes
  if outcome.ok then
    Act.print ("Rules updated. Next refresh in ".toList ++ minutes ++ " min.".toList)
    return 0
  else
    Act.print ("Refresh failed. Retry in ".toList ++ minutes ++ " min.".toList)
    return 1

/-- Shows the state of the rules. -/
def rulesStatus (settings : Settings) : Act Nat := do
  Act.print (Json.write .display (Refresh.status settings (← get).disk))
  return 0

def help (p : Page) : Act Nat := do
  for line in p.lines do Act.print line
  return 0

def perform (settings : Settings) (input : Text) : Command → Act Nat
  | .clean r => clean settings r input
  | .options referral hash => options settings referral hash
  | .refreshRules => refreshRules settings
  | .rulesStatus => rulesStatus settings
  | .help p => help p

/-- Runs a call: its exit code, or none if its arguments make no command. Settings are read and the
log is prepared before the arguments of the command are looked at. -/
def perform? (input : Text) : Call → Act (Option Nat)
  | .help => some <$> help .program
  | .named _ name rest => do
    let settings ← Settings.load
    Act.onDisk (prepareLog (.ofText settings.logDir))
    match name.read rest with
    | none => return none
    | some c => some <$> perform settings input c

/-- How a run ends. -/
inductive Ending where
  | usage
  | exit (code : Nat)
  | stopped (f : Fault)
  deriving DecidableEq, Repr

def Ending.of : Except Fault (Option Nat) → Ending
  | .ok none => .usage
  | .ok (some code) => .exit code
  | .error f => .stopped f

/-- The exit code of the whole program. -/
def Ending.code : Ending → Nat
  | .usage => 2
  | .exit code => code
  | .stopped _ => 1

def Call.isVerbose : Call → Bool
  | .named verbose _ _ => verbose
  | .help => false

/-- Reports the exchanges that were added to those there were. -/
def reports (before after : Http.Network) : List Text :=
  (after.exchanges.drop before.exchanges.length).filterMap Http.Exchange.report?

/-- Runs the program on its arguments and its input. -/
def run (args : List Text) (input : Text) (s : Surroundings) : Ending × Surroundings :=
  match Call.read args with
  | none => (.usage, s)
  | some call =>
    let (r, t) := (perform? input call).run s
    let told := if call.isVerbose then reports s.network t.network else []
    (.of r, { t with remarks := told ++ t.remarks })

end LinkCleaner.Cli
