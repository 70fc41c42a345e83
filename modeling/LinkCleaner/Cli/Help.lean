import LinkCleaner.Text.Basic

/-!
The pages that explain the commands.
-/

namespace LinkCleaner.Cli

/-- A page: how to call a command, what it does, and rows of two columns under headings. -/
structure Page where
  usage : String
  summary : String
  sections : List (String × List (String × List String))

namespace Page

def helpRow : String × List String := ("--help", ["Show this message and exit."])

/-- The first column is not made wider than this. -/
def columnLimit : Nat := 30

def columnWidth (rows : List (String × List String)) : Nat :=
  min ((rows.map fun r => r.1.length).foldl max 0) columnLimit + 2

def spaces (n : Nat) : Text := List.replicate n ' '

/-- A row; a name that is too wide has a line of its own. -/
def row (width : Nat) (r : String × List String) : List Text :=
  let lead := "  ".toList ++ r.1.toList
  match r.2 with
  | [] => [lead]
  | first :: more =>
    let rest := more.map fun line => spaces (width + 2) ++ line.toList
    if r.1.length + 2 ≤ width then
      (lead ++ spaces (width - r.1.length) ++ first.toList) :: rest
    else lead :: (spaces (width + 2) ++ first.toList) :: rest

/-- The rows under a heading, with an empty line in front. -/
def part (s : String × List (String × List String)) : List Text :=
  [] :: (s.1.toList ++ [':']) :: s.2.flatMap (row (columnWidth s.2))

def lines (p : Page) : List Text :=
  ("Usage: ".toList ++ p.usage.toList) :: [] :: ("  ".toList ++ p.summary.toList)
    :: p.sections.flatMap part

def program : Page :=
  { usage := "cli [OPTIONS] COMMAND [ARGS]..."
    summary := "Nudelink — strip tracking parameters and unwrap redirectors."
    sections :=
      [("Options", [("-v, --verbose", ["Log debug output to stderr."]), helpRow]),
        ("Commands",
          [("clean", ["Clean URL ('-' reads it from stdin)."]),
            ("options", ["Show or update persisted cleaning options."]),
            ("refresh-rules", ["Download and verify the latest rules now."]),
            ("rules-status", ["Show cached rules metadata and retry state."])])] }

def clean : Page :=
  { usage := "cli clean [OPTIONS] URL"
    summary := "Clean URL ('-' reads it from stdin)."
    sections :=
      [("Options",
        [("--engine [heuristic|rules|both]",
            ["Which cleaner to run.  [default: heuristic]"]),
          ("--keep TEXT", ["Parameter to always keep (repeatable)."]),
          ("--remove TEXT", ["Extra parameter to remove (repeatable)."]),
          ("--referral / --no-referral", ["Remove referral/affiliate parameters."]),
          ("--hash / --no-hash", ["Keep and clean the #fragment (otherwise drop", "it)."]),
          ("--json", ["Print the full result as JSON."]), helpRow])] }

def options : Page :=
  { usage := "cli options [OPTIONS]"
    summary := "Show or update persisted cleaning options."
    sections :=
      [("Options",
        [("--referral / --no-referral", ["Remove referral/affiliate parameters."]),
          ("--hash / --no-hash", ["Keep and clean the #fragment."]), helpRow])] }

def refreshRules : Page :=
  { usage := "cli refresh-rules [OPTIONS]"
    summary := "Download and verify the latest rules now."
    sections := [("Options", [helpRow])] }

def rulesStatus : Page :=
  { usage := "cli rules-status [OPTIONS]"
    summary := "Show cached rules metadata and retry state."
    sections := [("Options", [helpRow])] }

end Page

end LinkCleaner.Cli
