import LinkCleaner.Yaml.Scalar

/-!
The tokens of a YAML document. Indentation becomes tokens of its own: a block starts where a line is
indented further than those around it and ends where a line is indented less. A key before a colon
is found only at the colon, so its tokens are put in where the key began.
-/

namespace LinkCleaner.Yaml

inductive Token where
  /-- A directive about the version, with its first number. -/
  | version (major : Nat)
  /-- A directive that names the start of some tags. -/
  | handle (name start : Text)
  /-- Any other directive. -/
  | directive
  | documentStart
  | documentEnd
  | blockSequence
  | blockMapping
  | blockEnd
  | flowSequence
  | flowSequenceEnd
  | flowMapping
  | flowMappingEnd
  | entry
  | comma
  | key
  | value
  | alias (name : Text)
  | anchor (name : Text)
  | tag (handle : Option Text) (suffix : Text)
  | scalar (text : Text) (isPlain : Bool)
  /-- Reading stopped here. -/
  | fault (f : Fault)
  deriving DecidableEq, Repr

/-- What may turn out to be a key: where its tokens start, and where it stands. -/
structure Candidate where
  place : Nat
  isRequired : Bool
  index : Nat
  line : Nat
  column : Nat

/-- The reader of tokens. -/
structure Lexer where
  cursor : Cursor
  /-- How many brackets are open. -/
  flow : Nat := 0
  indent : Int := -1
  indents : List Int := []
  mayStartKey : Bool := true
  /-- The candidates, by the number of open brackets around them. -/
  candidates : List (Nat × Candidate) := []
  tokens : List Token := []

namespace Lexer

def push (l : Lexer) (t : Token) : Lexer := { l with tokens := l.tokens ++ [t] }

def moveTo (l : Lexer) (c : Cursor) : Lexer := { l with cursor := c }

def insertAt (l : Lexer) (place : Nat) (t : Token) : Lexer :=
  { l with tokens := l.tokens.take place ++ t :: l.tokens.drop place }

def candidate? (l : Lexer) : Option Candidate := l.candidates.lookup l.flow

def forget (l : Lexer) : Lexer :=
  { l with candidates := l.candidates.filter fun e => e.1 != l.flow }

/-- Gives up the present candidate; one that had to be a key may not be given up. -/
def dropCandidate (l : Lexer) : Except Fault Lexer :=
  match l.candidate? with
  | some k => if k.isRequired then .error .malformed else .ok l.forget
  | none => .ok l

/-- A key stands on one line and is not longer than this. -/
def keyLimit : Nat := 1024

def isStale (c : Cursor) (k : Candidate) : Bool := k.line != c.line || keyLimit < c.index - k.index

def dropStale (l : Lexer) : Except Fault Lexer :=
  if l.candidates.any fun e => isStale l.cursor e.2 && e.2.isRequired then .error .malformed
  else .ok { l with candidates := l.candidates.filter fun e => !isStale l.cursor e.2 }

/-- Notes that a key may start here. -/
def saveCandidate (l : Lexer) : Except Fault Lexer :=
  if l.mayStartKey then do
    let l ← l.dropCandidate
    let c := l.cursor
    let k : Candidate :=
      { place := l.tokens.length
        isRequired := l.flow == 0 && l.indent == c.column
        index := c.index
        line := c.line
        column := c.column }
    return { l with candidates := (l.flow, k) :: l.candidates }
  else .ok l

/-- Closes the blocks that are indented further than a column. -/
def unwindFrom (column : Int) : List Int → Lexer → Lexer
  | [], l => l
  | outer :: r, l =>
    if column < l.indent then
      unwindFrom column r ({ l with indent := outer, indents := r }.push .blockEnd)
    else l

def unwind (l : Lexer) (column : Int) : Lexer :=
  if l.flow = 0 then unwindFrom column l.indents l else l

/-- Whether a block would start at a column. -/
def opensAt (l : Lexer) (column : Nat) : Bool := l.indent < column

def indentTo (l : Lexer) (column : Nat) : Lexer :=
  { l with indent := column, indents := l.indent :: l.indents }

/-- Opens a block at a column if it is indented further than the present one. -/
def openAt (l : Lexer) (column : Nat) (t : Token) : Lexer :=
  if l.opensAt column then (l.indentTo column).push t else l

/-- Skips space, remarks and line ends. -/
def skipGap : Nat → Lexer → Lexer
  | 0, l => l
  | fuel + 1, l =>
    let c := l.cursor.skipSpaces
    let c := if c.peek = some '#' then c.skipLine else c
    let (b, d) := c.takeBreak
    if b.isEmpty then l.moveTo c
    else skipGap fuel { l with cursor := d, mayStartKey := l.mayStartKey || l.flow == 0 }

/-- A byte order mark may stand in front of all. -/
def skipMark (l : Lexer) : Lexer :=
  if l.cursor.index = 0 && l.cursor.peek = some '\uFEFF' then l.moveTo l.cursor.step else l

/-- What stands at the start of a line for itself ends all blocks. -/
def margin (l : Lexer) : Except Fault Lexer := do
  let l ← (l.unwind (-1)).dropCandidate
  return { l with mayStartKey := false }

def marker (l : Lexer) (t : Token) : Except Fault Lexer := do
  let l ← l.margin
  return (l.push t).moveTo (l.cursor.skip 3)

def openFlow (l : Lexer) (t : Token) : Except Fault Lexer := do
  let l ← l.saveCandidate
  let l := { l with flow := l.flow + 1, mayStartKey := true }
  return (l.push t).moveTo l.cursor.step

/-- A closing bracket; there may not be more of them than opening ones. -/
def closeFlow (l : Lexer) (t : Token) : Except Fault Lexer := do
  if l.flow = 0 then .error .malformed
  else
    let l ← l.dropCandidate
    let l := { l with flow := l.flow - 1, mayStartKey := false }
    return (l.push t).moveTo l.cursor.step

def comma (l : Lexer) : Except Fault Lexer := do
  let l ← { l with mayStartKey := true }.dropCandidate
  return (l.push .comma).moveTo l.cursor.step

/-- Whether a collection of entries or keys may be continued or opened here. -/
def mayOpen (l : Lexer) : Bool := l.flow != 0 || l.mayStartKey

def openBlock (l : Lexer) (t : Token) : Lexer :=
  if l.flow = 0 then l.openAt l.cursor.column t else l

def entry (l : Lexer) : Except Fault Lexer := do
  if !l.mayOpen then .error .malformed
  else
    let l ← { l.openBlock .blockSequence with mayStartKey := true }.dropCandidate
    return (l.push .entry).moveTo l.cursor.step

def explicitKey (l : Lexer) : Except Fault Lexer := do
  if !l.mayOpen then .error .malformed
  else
    let l ← { l.openBlock .blockMapping with mayStartKey := l.flow == 0 }.dropCandidate
    return (l.push .key).moveTo l.cursor.step

/-- A colon: the candidate before it is a key, or else the key is empty. -/
def value (l : Lexer) : Except Fault Lexer := do
  match l.candidate? with
  | some k =>
    let l := l.forget.insertAt k.place .key
    let l :=
      if l.flow = 0 && l.opensAt k.column then
        (l.indentTo k.column).insertAt k.place .blockMapping
      else l
    return ({ l with mayStartKey := false }.push .value).moveTo l.cursor.step
  | none =>
    if !l.mayOpen then .error .malformed
    else
      let l ← { l.openBlock .blockMapping with mayStartKey := l.flow == 0 }.dropCandidate
      return (l.push .value).moveTo l.cursor.step

/-- A token that may be part of a key. -/
def content (l : Lexer) (read : Cursor → Except Fault (Token × Cursor)) : Except Fault Lexer := do
  let l ← l.saveCandidate
  let (t, c) ← read l.cursor
  return ({ l with mayStartKey := false }.push t).moveTo c

def isNameChar (c : Char) : Bool :=
  Text.isAsciiLetter c || Text.isAsciiDigit c || c == '-' || c == '_'

/-- A name after its sign, which a few characters may follow. -/
def readName (make : Text → Token) (c : Cursor) : Except Fault (Token × Cursor) :=
  let c := c.step
  let name := c.run isNameChar
  let d := c.skip name.length
  if name.isEmpty then .error .malformed
  else if endsWord d.peek || d.peek.any "?:,]\x7d%@\x60".toList.contains then .ok (make name, d)
  else .error .malformed

def isTagChar (c : Char) : Bool :=
  Text.isAsciiLetter c || Text.isAsciiDigit c || "-;/?:@&=+$,_.!~*'()[]%".toList.contains c

/-- The characters of a tag. -/
def tagText (c : Cursor) : Text × Cursor :=
  let s := c.run isTagChar
  (s, c.skip s.length)

/-- The handle and the rest of a tag. -/
def tagParts (c : Cursor) : Except Fault (Option Text × Text × Cursor) :=
  match c.second with
  | some '<' =>
    let (s, d) := tagText (c.skip 2)
    if s.isEmpty || d.peek != some '>' then .error .malformed else .ok (none, s, d.step)
  | x =>
    if endsWord x then .ok (none, ['!'], c.step)
    else
      let name := c.step.run isNameChar
      let d := c.step.skip name.length
      let (handle, d) :=
        if d.peek = some '!' then ('!' :: name ++ ['!'], d.step) else (['!'], c.step)
      let (s, e) := tagText d
      if s.isEmpty then .error .malformed else .ok (some handle, s, e)

def readTag (c : Cursor) : Except Fault (Token × Cursor) := do
  let (handle, suffix, d) ← tagParts c
  if d.peek = some ' ' || endsLine d.peek then return (.tag handle suffix, d)
  else .error .malformed

def readQuoted (double : Bool) (c : Cursor) : Except Fault (Token × Cursor) :=
  (quoted double (c.rest.length + 1) c.step).map fun (s, d) => (.scalar s false, d)

def plainScalar (l : Lexer) : Except Fault Lexer := do
  let l ← l.saveCandidate
  let p := plain (l.flow != 0) (l.indent + 1) l.cursor
  return ({ l with mayStartKey := p.broken }.push (.scalar p.text true)).moveTo p.next

def blockScalar (l : Lexer) (fold : Bool) : Except Fault Lexer := do
  let l ← { l with mayStartKey := true }.dropCandidate
  let (s, c) ← block fold l.indent l.cursor.step
  return (l.push (.scalar s false)).moveTo c

/-- The words of a directive, without a remark. -/
def directiveWords (s : Text) : List Text :=
  ((Text.pieces ' ' s).filter fun w => !w.isEmpty).takeWhile fun w => w.head? != some '#'

/-- A version is two numbers with a point between them. -/
def majorOf? (s : Text) : Option Nat :=
  match Text.cut '.' s with
  | (a, some b) =>
    if a.isEmpty || b.isEmpty || !(a ++ b).all Text.isAsciiDigit then none
    else some (Text.digitsValue a)
  | _ => none

def isHandle (s : Text) : Bool :=
  s.head? == some '!' && s.getLast? == some '!' && (s.drop 1).dropLast.all isNameChar

def directiveOf (line : Text) : Except Fault Token :=
  match directiveWords line with
  | [] => .error .malformed
  | name :: args =>
    if line.head? = some ' ' || !name.all isNameChar then .error .malformed
    else if name = "YAML".toList then
      match args with
      | [v] =>
        match majorOf? v with
        | some n => .ok (.version n)
        | none => .error .malformed
      | _ => .error .malformed
    else if name = "TAG".toList then
      match args with
      | [h, start] =>
        if isHandle h && start.all isTagChar then .ok (.handle h start) else .error .malformed
      | _ => .error .malformed
    else .ok .directive

def directive (l : Lexer) : Except Fault Lexer := do
  let l ← l.margin
  let line := l.cursor.step.run fun x => !isBreak x
  let t ← directiveOf line
  return (l.push t).moveTo (l.cursor.skipLine).takeBreak.2

/-- Characters that cannot start a plain scalar, three of them unless a word goes on. -/
def indicators : Text := "-?:,[]\x7b\x7d#&*!|>'\x22%@\x60".toList

def startsPlain (flow : Bool) (x : Char) (next : Option Char) : Bool :=
  !indicators.contains x || (!endsWord next && (x == '-' || (!flow && (x == '?' || x == ':'))))

/-- Reads the token that starts with a character. -/
def token (l : Lexer) (x : Char) : Except Fault Lexer :=
  let c := l.cursor
  let inFlow := l.flow != 0
  let alone := inFlow || endsWord c.second
  if x = '%' && c.column = 0 then l.directive
  else if c.column = 0 && marksDocument '-' c.rest then l.marker .documentStart
  else if c.column = 0 && marksDocument '.' c.rest then l.marker .documentEnd
  else if x = '[' then l.openFlow .flowSequence
  else if x = '\x7b' then l.openFlow .flowMapping
  else if x = ']' then l.closeFlow .flowSequenceEnd
  else if x = '\x7d' then l.closeFlow .flowMappingEnd
  else if x = ',' then l.comma
  else if x = '-' && endsWord c.second then l.entry
  else if x = '?' && alone then l.explicitKey
  else if x = ':' && alone then l.value
  else if x = '*' then l.content (readName .alias)
  else if x = '&' then l.content (readName .anchor)
  else if x = '!' then l.content readTag
  else if x = '|' && !inFlow then l.blockScalar false
  else if x = '>' && !inFlow then l.blockScalar true
  else if x = '\'' then l.content (readQuoted false)
  else if x = '\x22' then l.content (readQuoted true)
  else if startsPlain inFlow x c.second && !isBlankOrBreak x then l.plainScalar
  else .error .malformed

/-- Reads the next token, if there is one. -/
def next (l : Lexer) : Except Fault (Option Lexer) := do
  let l := (skipGap (l.cursor.rest.length + 1) l.skipMark)
  let l ← l.dropStale
  let l := l.unwind l.cursor.column
  match l.cursor.peek with
  | some x => return some (← l.token x)
  | none => return none

/-- The tokens up to the end, or up to where reading stops. -/
def all : Nat → Lexer → List Token
  | 0, l => l.tokens
  | fuel + 1, l =>
    match l.next with
    | .error f => l.tokens ++ [.fault f]
    | .ok (some l) => all fuel l
    | .ok none =>
      match (l.unwind (-1)).dropCandidate with
      | .error f => l.tokens ++ [.fault f]
      | .ok l => l.tokens

end Lexer

/-- Characters that may stand in a document. -/
def isPrintable (c : Char) : Bool :=
  let n := c.toNat
  n == 0x09 || n == 0x0A || n == 0x0D || (0x20 ≤ n && n ≤ 0x7E) || n == 0x85
    || (0xA0 ≤ n && n != 0xFFFE && n != 0xFFFF)

/-- The tokens of a document. -/
def Token.scan (s : Text) : List Token :=
  let s := Text.swap '\u0085' '\n' (Text.plainLines s)
  Lexer.all (s.length + 2) { cursor := { rest := s } }

end LinkCleaner.Yaml
