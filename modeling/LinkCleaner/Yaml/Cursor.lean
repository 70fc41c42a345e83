import LinkCleaner.Text.Basic

/-!
A place in a YAML document: what is left to read, with its line and column. Line ends count as read
when they are passed.
-/

namespace LinkCleaner.Yaml

/-- Why a document cannot be read. -/
inductive Fault where
  | malformed
  /-- A number, a date or a code that is out of range. -/
  | badValue
  /-- A tag asks for a switch, and the word is none. -/
  | unknownWord
  /-- A tag asks for a number, and there is no text. -/
  | emptyNumber
  deriving DecidableEq, Repr

/-- A line ends with a line feed or with one of the two Unicode separators. -/
def isBreak (c : Char) : Bool := c == '\n' || c == '\u2028' || c == '\u2029'

def isBlankOrBreak (c : Char) : Bool := c == ' ' || c == '\t' || isBreak c

/-- A word ends at a blank, at a line end and at the end of the document. -/
def endsWord : Option Char → Bool
  | none => true
  | some c => isBlankOrBreak c

/-- A line ends at a line end and at the end of the document. -/
def endsLine : Option Char → Bool
  | none => true
  | some c => isBreak c

/-- Three dashes or dots that stand alone part documents. -/
def marksDocument (mark : Char) (s : Text) : Bool :=
  [mark, mark, mark].isPrefixOf s && endsWord (s.drop 3).head?

def isMarker (s : Text) : Bool := marksDocument '-' s || marksDocument '.' s

structure Cursor where
  rest : Text
  index : Nat := 0
  line : Nat := 0
  column : Nat := 0

namespace Cursor

def peek (c : Cursor) : Option Char := c.rest.head?

/-- The character after the next. -/
def second (c : Cursor) : Option Char := (c.rest.drop 1).head?

def step (c : Cursor) : Cursor :=
  match c.rest with
  | [] => c
  | x :: r =>
    if isBreak x then ⟨r, c.index + 1, c.line + 1, 0⟩
    else ⟨r, c.index + 1, c.line, if x = '\uFEFF' then c.column else c.column + 1⟩

def skip (c : Cursor) : Nat → Cursor
  | 0 => c
  | n + 1 => c.step.skip n

/-- The characters of a class that come next. -/
def run (p : Char → Bool) (c : Cursor) : Text := c.rest.takeWhile p

def skipWhile (p : Char → Bool) (c : Cursor) : Cursor := c.skip (c.run p).length

def skipSpaces (c : Cursor) : Cursor := c.skipWhile (· == ' ')

def skipLine (c : Cursor) : Cursor := c.skipWhile fun x => !isBreak x

/-- Skips spaces up to a column. -/
def skipSpacesTo (column : Nat) (c : Cursor) : Cursor :=
  c.skip (min (c.run (· == ' ')).length (column - c.column))

/-- The line end that comes next, if one does. -/
def takeBreak (c : Cursor) : Text × Cursor :=
  match c.rest with
  | x :: _ => if isBreak x then ([x], c.step) else ([], c)
  | [] => ([], c)

end Cursor

end LinkCleaner.Yaml
