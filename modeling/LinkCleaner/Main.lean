import LinkCleaner.Cli.Run

/-!
The program: it takes the files and variables that a run may look at from the system, runs the
command, and puts back what has changed. It has no way into a network, so every download fails.
-/

namespace LinkCleaner.Program

/-- The variables that have a meaning, in capitals. -/
def variableNames : List String :=
  ["RULES_URL", "HASH_URL", "DATA_DIR", "LOG_DIR", "HTTP_TIMEOUT", "PROXY_URL",
    "REMOVE_REFERRAL", "CLEAN_HASH"].map fun n => "NUDELINK_" ++ n

def known : IO Variables :=
  variableNames.filterMapM fun n => do
    return (← IO.getEnv n).map fun v => (n.toList, some v.toList)

/-- The disk with a file of the system on it, if there is one. -/
def withFile (d : Disk) (p : Path) : IO Disk := do
  try
    let bytes ← IO.FS.readBinFile (String.ofList p.toText)
    match d.makeDirs p.parent.place with
    | .ok d => return d.put p.place (.file bytes.toList)
    | .error _ => return d
  catch _ => return d

/-- Every request is met with a connection that cannot be made. -/
def unreachable (settings : Settings) : Http.Network :=
  let failure : Http.Reply := .failure "ConnectError".toList "no network".toList
  { server := [(settings.rulesUrl, [failure]), (settings.hashUrl, [failure])] }

def surroundings : IO Surroundings := do
  let vs ← known
  let d ← withFile {} Settings.variablesFile
  let s : Surroundings := { vars := vs, disk := d }
  match Settings.find s with
  | .error _ => return s
  | .ok settings =>
    let log := (Path.ofText settings.logDir).child Cli.logName
    let d ← [settings.optionsPath, settings.rulesPath, settings.statePath, log].foldlM withFile d
    return { s with disk := d, network := unreachable settings }

/-- Writes the files that are not as they were. -/
def putBack (before after : Disk) : IO Unit := do
  for p in after.files do
    if before.at? p != after.at? p then
      if let some (.file bytes) := after.at? p then
        let path := Path.ofPlace p
        IO.FS.createDirAll (String.ofList path.parent.toText)
        IO.FS.writeBinFile (String.ofList path.toText) ⟨bytes.toArray⟩

/-- The log with what a run has logged after it. -/
def logged (s : Surroundings) : Disk :=
  match Settings.find s with
  | .error _ => s.disk
  | .ok settings =>
    let p := ((Path.ofText settings.logDir).child Cli.logName).place
    let lines := s.journal.flatMap fun e => Json.write .spaced e.toValue ++ ['\n']
    match s.disk.at? p with
    | some (.file bytes) => s.disk.put p (.file (bytes ++ Text.utf8 lines))
    | _ => s.disk

/-- Runs the program on its arguments. -/
def run (args : List String) : IO UInt32 := do
  let before ← surroundings
  let input ← if args.contains "-" then (← IO.getStdin).readToEnd else pure ""
  let (ending, after) := Cli.run (args.map String.toList) input.toList before
  putBack before.disk (logged after)
  IO.print (String.ofList after.printed)
  for line in after.remarks do IO.eprintln (String.ofList line)
  if let .stopped f := ending then IO.eprintln (reprStr f)
  if ending = .usage then IO.eprintln ("Usage: " ++ Cli.Page.program.usage)
  return ending.code.toUInt32

end LinkCleaner.Program

def main (args : List String) : IO UInt32 := LinkCleaner.Program.run args
