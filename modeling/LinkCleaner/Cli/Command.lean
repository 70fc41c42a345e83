import LinkCleaner.Clean
import LinkCleaner.Cli.Arguments
import LinkCleaner.Cli.Help

/-!
The commands of the command line and how they are read from arguments.
-/

namespace LinkCleaner.Cli

/-- A request to clean one URL. -/
structure CleanRequest where
  /-- A lone dash stands for the input. -/
  url : Text
  engine : Engine := .heuristic
  keep : Names := []
  remove : Names := []
  referral : Option Bool := none
  hash : Option Bool := none
  asJson : Bool := false

inductive Command where
  | clean (r : CleanRequest)
  | options (referral hash : Option Bool)
  | refreshRules
  | rulesStatus
  | help (p : Page)

/-- The names of the commands. -/
inductive CommandName where
  | clean
  | options
  | refreshRules
  | rulesStatus
  deriving DecidableEq, Repr

def CommandName.all : List CommandName := [.clean, .options, .refreshRules, .rulesStatus]

def CommandName.text : CommandName → Text
  | .clean => "clean".toList
  | .options => "options".toList
  | .refreshRules => "refresh-rules".toList
  | .rulesStatus => "rules-status".toList

def CommandName.ofText? (s : Text) : Option CommandName := all.find? fun n => n.text == s

/-- Options as they are given, before they are checked. -/
structure Given where
  help : Bool := false
  verbose : Bool := false
  engine : Text := Engine.name .heuristic
  keep : List Text := []
  remove : List Text := []
  referral : Option Bool := none
  hash : Option Bool := none
  asJson : Bool := false

namespace Given

def flag (names : List String) (set : Given → Given) : Choice Given :=
  { names := names.map String.toList, effect := .flag set }

def valued (name : String) (set : Text → Given → Given) : Choice Given :=
  { names := [name.toList], effect := .valued set }

def helpChoice : Choice Given := flag ["--help"] fun g => { g with help := true }

def verboseChoice : Choice Given := flag ["-v", "--verbose"] fun g => { g with verbose := true }

/-- The options that decide what is cleaned. -/
def cleaningChoices : List (Choice Given) :=
  [flag ["--referral"] fun g => { g with referral := some true },
    flag ["--no-referral"] fun g => { g with referral := some false },
    flag ["--hash"] fun g => { g with hash := some true },
    flag ["--no-hash"] fun g => { g with hash := some false }]

def cleanChoices : List (Choice Given) :=
  cleaningChoices ++
    [valued "--engine" fun v g => { g with engine := v },
      valued "--keep" fun v g => { g with keep := g.keep ++ [v] },
      valued "--remove" fun v g => { g with remove := g.remove ++ [v] },
      flag ["--json"] fun g => { g with asJson := true }]

end Given

/-- A command that takes no words. -/
def wordless (c : Command) (words : List Text) : Option Command :=
  if words = [] then some c else none

def readClean (g : Given) (words : List Text) : Option Command :=
  match Engine.ofName? g.engine, words with
  | some e, [url] =>
    some (.clean
      { url := url
        engine := e
        keep := g.keep
        remove := g.remove
        referral := g.referral
        hash := g.hash
        asJson := g.asJson })
  | _, _ => none

/-- The options of a command, its page, and how it is read from them. -/
def CommandName.form : CommandName →
    List (Choice Given) × Page × (Given → List Text → Option Command)
  | .clean => (Given.cleanChoices, .clean, readClean)
  | .options => (Given.cleaningChoices, .options, fun g => wordless (.options g.referral g.hash))
  | .refreshRules => ([], .refreshRules, fun _ => wordless .refreshRules)
  | .rulesStatus => ([], .rulesStatus, fun _ => wordless .rulesStatus)

/-- Reads a command from the arguments after its name; a call for help comes before all else. -/
def CommandName.read (n : CommandName) (args : List Text) : Option Command := do
  let (choices, page, make) := n.form
  let (g, words) ← readArguments (Given.helpChoice :: choices) true {} args
  if g.help then return .help page else make g words

/-- A call as far as the name of its command. -/
inductive Call where
  | help
  | named (verbose : Bool) (name : CommandName) (rest : List Text)

/-- Reads the options in front of a command and its name. -/
def Call.read (args : List Text) : Option Call := do
  if args = [] then none
  else
    let (g, words) ← readArguments [Given.helpChoice, Given.verboseChoice] false {} args
    if g.help then return .help
    else
      match words with
      | [] => none
      | w :: rest => return .named g.verbose (← CommandName.ofText? w) rest

end LinkCleaner.Cli
