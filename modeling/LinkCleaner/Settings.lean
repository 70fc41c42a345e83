import LinkCleaner.Lenient.Number
import LinkCleaner.Surroundings
import LinkCleaner.Variables.File

/-!
Settings: where rules come from and where files are kept. A setting is taken from a variable, else
from the file of variables in the working directory, else it has a default.
-/

namespace LinkCleaner

structure Settings where
  rulesUrl : Text := "https://rules2.clearurls.xyz/data.minify.json".toList
  hashUrl : Text := "https://rules2.clearurls.xyz/rules.minify.hash".toList
  dataDir : Text := "./data".toList
  logDir : Text := "./data/logs".toList
  /-- The seconds to wait for an answer. -/
  timeout : Decimal.Binary64 := .ofDecimal false 30 0
  /-- No proxy if empty. -/
  proxyUrl : Text := []
  deriving DecidableEq, Repr

namespace Settings

def rulesPath (s : Settings) : Path := (Path.ofText s.dataDir).child "rules.json".toList

def statePath (s : Settings) : Path := (Path.ofText s.dataDir).child "refresh_state.json".toList

def optionsPath (s : Settings) : Path := (Path.ofText s.dataDir).child "options.yaml".toList

/-- The connection over which rules are downloaded. -/
def client (s : Settings) : Client :=
  { timeout := s.timeout
    proxy := if s.proxyUrl.isEmpty then none else some s.proxyUrl }

/-- What the name of a variable starts with, in small letters. -/
def marker : Text := "nudelink_".toList

/-- The file of variables. -/
def variablesFile : Path := .ofText ".env".toList

/-- What a setting is given as, in the variables or else in those of the file. -/
def given? (vars filed : Variables) (name : String) : Option Text :=
  let name := marker ++ name.toList
  (vars.ofAnyCase? name).or (filed.ofAnyCase? name)

/-- Reads the settings; a timeout that is no number is refused. -/
def ofVariables (vars filed : Variables) :
    Except (List Lenient.FieldIssue) Settings :=
  let given := given? vars filed
  let d : Settings := {}
  let s : Settings :=
    { rulesUrl := (given "rules_url").getD d.rulesUrl
      hashUrl := (given "hash_url").getD d.hashUrl
      dataDir := (given "data_dir").getD d.dataDir
      logDir := (given "log_dir").getD d.logDir
      proxyUrl := (given "proxy_url").getD d.proxyUrl }
  match given "http_timeout" with
  | none => .ok s
  | some t =>
    match Lenient.numberOfText t with
    | .ok x => .ok { s with timeout := x }
    | .error e => .error [("http_timeout".toList, e)]

/-- The variables that the file sets, if there is one. -/
def filed (vars : Variables) (d : Disk) : Except Fault Variables :=
  match d.read variablesFile.place with
  | .error _ => .ok []
  | .ok bytes =>
    match Text.ofUtf8? bytes with
    | none => .error .unreadable
    | some s => .ok (.ofFile vars s)

/-- The settings that hold in these surroundings. -/
def find (s : Surroundings) : Except Fault Settings := do
  let filed ← filed s.vars s.disk
  (ofVariables s.vars filed).mapError .invalid

/-- Reads the settings that hold at present. -/
def load : Act Settings := do Act.ofExcept (find (← get))

end Settings

end LinkCleaner
