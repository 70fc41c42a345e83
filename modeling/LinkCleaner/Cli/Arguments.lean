import LinkCleaner.Text.Basic

/-!
Arguments of a command. Those that start with a dash are options; an option may take a value, which
stands after an equals sign or is the next argument, whatever it is. Two dashes end the options.
-/

namespace LinkCleaner.Cli

/-- What an option does to the settings of a command. -/
inductive Effect (α : Type) where
  | flag (set : α → α)
  | valued (set : Text → α → α)

/-- An option under its names. -/
structure Choice (α : Type) where
  names : List Text
  effect : Effect α

/-- Arguments read so far. -/
structure Scan (α : Type) where
  settings : α
  /-- The option that waits for its value. -/
  waiting : Option (Text → α → α) := none
  /-- No more options are expected. -/
  ended : Bool := false
  words : List Text := []

namespace Scan

def find? {α : Type} (choices : List (Choice α)) (name : Text) : Option (Effect α) :=
  (choices.find? fun c => c.names.contains name).map (·.effect)

/-- Letters after a single dash are options of their own. -/
def letters {α : Type} (choices : List (Choice α)) (s : Scan α) : Text → Option (Scan α)
  | [] => some s
  | c :: r =>
    match find? choices ['-', c] with
    | some (.flag set) => letters choices { s with settings := set s.settings } r
    | _ => none

def isLong (arg : Text) : Bool := ['-', '-'].isPrefixOf arg

/-- Reads an argument that starts with a dash. -/
def option {α : Type} (choices : List (Choice α)) (s : Scan α) (arg : Text) : Option (Scan α) :=
  let (name, given) := Text.cut '=' arg
  match (if isLong name then find? choices name else none), given with
  | some (.flag set), none => some { s with settings := set s.settings }
  | some (.flag _), some _ => none
  | some (.valued set), some v => some { s with settings := set v s.settings }
  | some (.valued set), none => some { s with waiting := some set }
  | none, _ => if isLong arg then none else letters choices s arg.tail

/-- Reads an argument; `mixed` says whether options may follow other words. -/
def step {α : Type} (choices : List (Choice α)) (mixed : Bool) (s : Scan α) (arg : Text) :
    Option (Scan α) :=
  match s.waiting with
  | some set => some { s with settings := set arg s.settings, waiting := none }
  | none =>
    if s.ended then some { s with words := s.words ++ [arg] }
    else if arg = ['-', '-'] then some { s with ended := true }
    else if arg.head? = some '-' && 1 < arg.length then option choices s arg
    else some { s with words := s.words ++ [arg], ended := !mixed }

end Scan

/-- Reads the arguments of a command: its settings, and the words that are no options. -/
def readArguments {α : Type} (choices : List (Choice α)) (mixed : Bool) (start : α)
    (args : List Text) : Option (α × List Text) := do
  let s ← args.foldlM (Scan.step choices mixed) { settings := start }
  if s.waiting.isSome then none else return (s.settings, s.words)

end LinkCleaner.Cli
