import LinkCleaner.Variables

/-!
A file of variables, one to a line: a name, an equals sign and a value, which may be quoted and may
then run over several lines. A line of any other form sets nothing. A value may refer to variables
by name between braces after a dollar sign, with a default after a colon and a minus sign.
-/

namespace LinkCleaner.Variables

def isLineBlank (c : Char) : Bool := Text.isBlank c && c != '\n'

def skipBlank (s : Text) : Text := s.dropWhile isLineBlank

/-- What is left after the present line. -/
def skipLine (s : Text) : Text := (s.dropWhile fun c => c != '\n').drop 1

/-- Drops the word that may stand in front of a name, if blanks follow it. -/
def skipExport (s : Text) : Text :=
  let r := Text.dropPrefix "export".toList s
  if r.length < s.length && r.head?.any isLineBlank then skipBlank r else s

/-- What stands before the closing quote, and what follows it. A quote after a backslash does not
close, unless no other one follows. -/
def upToQuote (quote : Char) : Text → Option (Text × Text)
  | [] => none
  | [c] => if c = quote then some ([], []) else none
  | c :: d :: r =>
    if c = quote then some ([], d :: r)
    else if c = '\\' ∧ d = quote then
      match upToQuote quote r with
      | some (v, t) => some (c :: d :: v, t)
      | none => some ([c], r)
    else (upToQuote quote (d :: r)).map fun (v, t) => (c :: v, t)

/-- What a character after a backslash stands for between double quotes. -/
def doubleEscape? : Char → Option Char
  | '\\' => some '\\'
  | '\'' => some '\''
  | '\x22' => some '\x22'
  | 'a' => some '\x07'
  | 'b' => some '\x08'
  | 'f' => some '\x0C'
  | 'n' => some '\n'
  | 'r' => some '\r'
  | 't' => some '\t'
  | 'v' => some '\x0B'
  | _ => none

/-- What a character after a backslash stands for between single quotes. -/
def singleEscape? : Char → Option Char
  | '\\' => some '\\'
  | '\'' => some '\''
  | _ => none

/-- Resolves backslashes; one that starts no escape stands for itself. -/
def unescape (escape? : Char → Option Char) : Text → Text
  | [] => []
  | [c] => [c]
  | c :: d :: r =>
    match (if c = '\\' then escape? d else none) with
    | some e => e :: unescape escape? r
    | none => c :: unescape escape? (d :: r)

/-- Cuts a value at the first blanks that a number sign follows. -/
def cutRemark : Text → Text
  | [] => []
  | c :: r =>
    if Text.isBlank c && (r.dropWhile Text.isBlank).head? == some '#' then []
    else c :: cutRemark r

/-- A value that is not quoted ends with its line. -/
def bareValue (s : Text) : Text × Text :=
  let line := s.takeWhile fun c => c != '\n'
  (Text.trimRight (cutRemark line), s.drop line.length)

/-- The value at the start of a text, and what follows it. -/
def readValue (s : Text) : Option (Text × Text) :=
  match s with
  | '\'' :: r => (upToQuote '\'' r).map fun (v, t) => (unescape singleEscape? v, t)
  | '\x22' :: r => (upToQuote '\x22' r).map fun (v, t) => (unescape doubleEscape? v, t)
  | _ => some (bareValue s)

/-- The name at the start of a text, and what follows it; a remark has no name. -/
def readName (s : Text) : Option (Option Text × Text) :=
  match s with
  | '#' :: _ => some (none, s)
  | '\'' :: r =>
    match Text.cut '\'' r with
    | (c :: name, some t) => some (some (c :: name), t)
    | _ => none
  | _ =>
    let name := s.takeWhile fun c => c != '=' && c != '#' && !Text.isBlank c
    if name.isEmpty then none else some (some name, s.drop name.length)

/-- What follows the end of the line, if nothing but a remark stands before it. -/
def endLine? (s : Text) : Option Text :=
  let t := skipBlank s
  let t := if t.head? = some '#' then t.dropWhile fun c => c != '\n' else t
  match t with
  | [] => some []
  | '\n' :: r => some r
  | _ => none

/-- The variable that a line sets, if it does, and what follows. -/
def readBinding (s : Text) : Option (Text × Option Text) × Text :=
  let s := skipExport s
  match readName s with
  | none => (none, skipLine s)
  | some (name, r) =>
    match skipBlank r with
    | '=' :: t =>
      let t := skipBlank t
      match readValue t with
      | none => (none, skipLine t)
      | some (value, u) =>
        match endLine? u with
        | none => (none, skipLine u)
        | some rest => (name.map fun n => (n, some value), rest)
    | t =>
      match endLine? t with
      | none => (none, skipLine t)
      | some rest => (name.map fun n => (n, none), rest)

/-- The variables in the order of their lines. -/
def readBindings : Nat → Text → List (Text × Option Text)
  | 0, _ => []
  | fuel + 1, s =>
    match s.dropWhile Text.isBlank with
    | [] => []
    | t =>
      let (found, rest) := readBinding t
      found.toList ++ readBindings fuel rest

/-- The name and the default of a reference that starts after a dollar sign, and what follows. -/
def reference? : Text → Option (Text × Text × Text)
  | '\x7b' :: r =>
    let name := r.takeWhile fun c => c != '\x7d' && c != ':'
    match r.drop name.length with
    | '\x7d' :: t => some (name, [], t)
    | ':' :: '-' :: t =>
      match Text.cut '\x7d' t with
      | (default, some u) => some (name, default, u)
      | (_, none) => none
    | _ => none
  | _ => none

/-- Replaces references by what they refer to; a variable without a value is empty. -/
def resolve (known : Variables) : Nat → Text → Text
  | 0, _ => []
  | _ + 1, [] => []
  | fuel + 1, c :: r =>
    match (if c = '$' then reference? r else none) with
    | some (name, default, rest) =>
      ((known.lookup name).getD (some default)).getD [] ++ resolve known fuel rest
    | none => c :: resolve known fuel r

/-- Sets the variables of the lines in turn. A value may refer to those that were set before it,
which come before those from outside. -/
def setAll (outside : Variables) (lines : List (Text × Option Text)) : Variables :=
  lines.foldl
    (fun done line =>
      let known : Variables := done ++ outside
      done.set line.1 (line.2.map fun v => resolve known (v.length + 1) v))
    []

/-- The variables that a file sets, with references to those from outside. -/
def ofFile (outside : Variables) (contents : Text) : Variables :=
  let s := Text.plainLines contents
  setAll outside (readBindings (s.length + 1) s)

end LinkCleaner.Variables
