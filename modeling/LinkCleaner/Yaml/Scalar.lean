import LinkCleaner.Yaml.Cursor

/-!
The spellings of scalars: plain, between quotes, and as a block of lines. Line ends inside are
folded: a single one becomes a space, and of several all but the first are kept.
-/

namespace LinkCleaner.Yaml

open Cursor

/-- A line end and those after it, folded. -/
def folded (first : Text) (more : Text) : Text :=
  if first != ['\n'] then first ++ more else if more.isEmpty then [' '] else more

/-- Characters that end a plain scalar inside brackets. -/
def isFlowMark (c : Char) : Bool := ",?[]\x7b\x7d".toList.contains c

/-- Characters that make a colon before them end a plain scalar inside brackets. -/
def isFlowMarkAfterColon (c : Char) : Bool := ",[]\x7b\x7d".toList.contains c

/-- The characters of a plain scalar up to the next blank or to its end. -/
def plainWord (flow : Bool) : Text → Text
  | [] => []
  | c :: r =>
    if isBlankOrBreak c || (flow && isFlowMark c) then []
    else if c == ':' && (endsWord r.head? || (flow && r.head?.any isFlowMarkAfterColon)) then []
    else c :: plainWord flow r

/-- The line ends and spaces after a line end in a plain scalar; none if a document ends here. -/
def plainBreaks : Nat → Cursor → Option (Text × Cursor)
  | 0, c => some ([], c)
  | fuel + 1, c =>
    match c.peek with
    | some ' ' => plainBreaks fuel c.step
    | _ =>
      let (b, d) := c.takeBreak
      if b.isEmpty then some ([], c)
      else if isMarker d.rest then none
      else (plainBreaks fuel d).map fun (bs, d) => (b ++ bs, d)

/-- The space between two words of a plain scalar, empty if the scalar ends here, and whether a
line ended. -/
def plainSpace (c : Cursor) : Text × Cursor × Bool :=
  let spaces := c.run (· == ' ')
  let c := c.skipSpaces
  let (b, d) := c.takeBreak
  if b.isEmpty then (spaces, c, false)
  else if isMarker d.rest then ([], d, true)
  else
    match plainBreaks (d.rest.length + 1) d with
    | none => ([], d, true)
    | some (bs, d) => (folded b bs, d, true)

/-- A scalar that was read, what follows it, and whether a line ended after its last word. -/
structure Plain where
  text : Text
  next : Cursor
  broken : Bool

/-- The words of a plain scalar that is indented so far, after the space `before`. -/
def plainWords (flow : Bool) (indent : Int) : Nat → Text → Bool → Cursor → Plain
  | 0, _, broken, c => ⟨[], c, broken⟩
  | fuel + 1, before, broken, c =>
    let word := if c.peek = some '#' then [] else plainWord flow c.rest
    if word.isEmpty then ⟨[], c, broken⟩
    else
      let (space, d, broken) := plainSpace (c.skip word.length)
      if space.isEmpty || d.peek = some '#' || (!flow && d.column < indent) then
        ⟨before ++ word, d, broken⟩
      else
        let p := plainWords flow indent fuel space broken d
        ⟨before ++ word ++ p.text, p.next, p.broken⟩

def plain (flow : Bool) (indent : Int) (c : Cursor) : Plain :=
  plainWords flow indent (c.rest.length + 1) [] false c

/-- What one character after a backslash stands for between double quotes. -/
def escape? : Char → Option Char
  | '0' => some '\x00'
  | 'a' => some '\x07'
  | 'b' => some '\x08'
  | 't' => some '\t'
  | '\t' => some '\t'
  | 'n' => some '\n'
  | 'v' => some '\x0B'
  | 'f' => some '\x0C'
  | 'r' => some '\r'
  | 'e' => some '\x1B'
  | ' ' => some ' '
  | '\x22' => some '\x22'
  | '\\' => some '\\'
  | '/' => some '/'
  | 'N' => some '\u0085'
  | '_' => some '\u00A0'
  | 'L' => some '\u2028'
  | 'P' => some '\u2029'
  | _ => none

/-- How many digits the code after a letter has. -/
def codeLength? : Char → Option Nat
  | 'x' => some 2
  | 'u' => some 4
  | 'U' => some 8
  | _ => none

/-- The character of a code in hexadecimal digits. Half a surrogate pair has none and is
replaced. -/
def codeChar (digits : Text) : Except Fault Char :=
  match digits.mapM Text.hexValue? with
  | none => .error .malformed
  | some ds =>
    let n := ds.foldl (fun n d => 16 * n + d) 0
    if 0x10FFFF < n then .error .badValue
    else if 0xD800 ≤ n ∧ n ≤ 0xDFFF then .ok '\uFFFD'
    else .ok (Char.ofNat n)

/-- The line ends in a quoted scalar, with the blanks after each; no document may end there. -/
def quotedBreaks : Nat → Cursor → Except Fault (Text × Cursor)
  | 0, c => .ok ([], c)
  | fuel + 1, c =>
    if isMarker c.rest then .error .malformed
    else
      let (b, d) := (c.skipWhile fun x => x == ' ' || x == '\t').takeBreak
      if b.isEmpty then .ok ([], d)
      else (quotedBreaks fuel d).map fun (bs, d) => (b ++ bs, d)

/-- What a backslash and what follows it stand for. -/
def escaped (c : Cursor) : Except Fault (Text × Cursor) :=
  match c.peek with
  | none => .error .malformed
  | some x =>
    match escape? x, codeLength? x with
    | some e, _ => .ok ([e], c.step)
    | none, some n => do
      let digits := c.step.rest.take n
      if digits.length < n then .error .malformed
      else
        let e ← codeChar digits
        return ([e], c.step.skip n)
    | none, none =>
      if isBreak x then quotedBreaks (c.rest.length + 1) c.step else .error .malformed

/-- Blanks and line ends between the words of a quoted scalar. -/
def quotedSpace (c : Cursor) : Except Fault (Text × Cursor) :=
  let isGap (x : Char) := x == ' ' || x == '\t'
  let gap := c.run isGap
  let c := c.skipWhile isGap
  if c.rest.isEmpty then .error .malformed
  else
    let (b, d) := c.takeBreak
    if b.isEmpty then .ok (gap, c)
    else (quotedBreaks (d.rest.length + 1) d).map fun (bs, d) => (folded b bs, d)

/-- A scalar between quotes, from after the opening one. -/
def quoted (double : Bool) : Nat → Cursor → Except Fault (Text × Cursor)
  | 0, _ => .error .malformed
  | fuel + 1, c =>
    let more (found : Except Fault (Text × Cursor)) : Except Fault (Text × Cursor) := do
      let (s, d) ← found
      let (t, e) ← quoted double fuel d
      return (s ++ t, e)
    match c.peek with
    | none => .error .malformed
    | some x =>
      if isBlankOrBreak x then more (quotedSpace c)
      else if double then
        if x = '\x22' then .ok ([], c.step)
        else if x = '\\' then more (escaped c.step)
        else more (.ok ([x], c.step))
      else if x = '\'' then
        if c.second = some '\'' then more (.ok (['\''], c.skip 2)) else .ok ([], c.step)
      else more (.ok ([x], c.step))

/-- What becomes of the line ends after a block: all but the first go, all go or all stay. -/
inductive Chomp where
  | clip
  | strip
  | keep
  deriving DecidableEq

def chomp? : Option Char → Option Chomp
  | some '-' => some .strip
  | some '+' => some .keep
  | _ => none

def indentDigit? : Option Char → Option Nat
  | some c => if Text.isAsciiDigit c then some (c.toNat - 48) else none
  | none => none

/-- What is said in front of a block: how it ends and how far it is indented. -/
def blockHeader (c : Cursor) : Except Fault (Chomp × Option Nat × Cursor) :=
  let (chomp, indent, c) :=
    match chomp? c.peek, indentDigit? c.peek with
    | some k, _ =>
      match indentDigit? c.second with
      | some n => (k, some n, c.skip 2)
      | none => (k, none, c.step)
    | none, some n =>
      match chomp? c.second with
      | some k => (k, some n, c.skip 2)
      | none => (.clip, some n, c.step)
    | none, none => (.clip, none, c)
  if indent = some 0 then .error .malformed
  else if !(c.peek = some ' ' || endsLine c.peek) then .error .malformed
  else
    let c := c.skipSpaces
    let c := if c.peek = some '#' then c.skipLine else c
    if endsLine c.peek then .ok (chomp, indent, c.takeBreak.2) else .error .malformed

/-- Empty lines in front of a block, and the widest indent among them and the first line. -/
def leadingBreaks : Nat → Nat → Cursor → Text × Nat × Cursor
  | 0, widest, c => ([], widest, c)
  | fuel + 1, widest, c =>
    let c := c.skipSpaces
    let widest := max widest c.column
    let (b, d) := c.takeBreak
    if b.isEmpty then ([], widest, c)
    else
      let (bs, widest, e) := leadingBreaks fuel widest d
      (b ++ bs, widest, e)

/-- Empty lines inside a block; spaces up to its indent count for nothing. -/
def blockBreaks (indent : Nat) : Nat → Cursor → Text × Cursor
  | 0, c => ([], c)
  | fuel + 1, c =>
    let c := c.skipSpacesTo indent
    let (b, d) := c.takeBreak
    if b.isEmpty then ([], c)
    else
      let (bs, e) := blockBreaks indent fuel d
      (b ++ bs, e)

/-- The lines of a block, with the line end of the last and the empty lines after it. -/
def blockLines (fold : Bool) (indent : Nat) : Nat → Text → Cursor → Text × Text × Text × Cursor
  | 0, before, c => ([], [], before, c)
  | fuel + 1, before, c =>
    if c.column = indent && !c.rest.isEmpty then
      let line := c.run fun x => !isBreak x
      let isGap (x : Option Char) := x = some ' ' || x = some '\t'
      let (b, d) := c.skipLine.takeBreak
      let (bs, d) := blockBreaks indent (d.rest.length + 1) d
      if d.column = indent && !d.rest.isEmpty then
        let between :=
          if fold && b = ['\n'] && !isGap line.head? && !isGap d.peek then
            if bs.isEmpty then [' '] else []
          else b
        let (text, last, after, e) := blockLines fold indent fuel bs d
        (before ++ line ++ between ++ text, last, after, e)
      else (before ++ line, b, bs, d)
    else ([], [], before, c)

/-- A block of lines under an indented collection, from after its indicator. -/
def block (fold : Bool) (outer : Int) (c : Cursor) : Except Fault (Text × Cursor) := do
  let (chomp, given, c) ← blockHeader c
  let least := max (outer + 1) 1
  let fuel := c.rest.length + 1
  let (before, indent, c) :=
    match given with
    | some n =>
      let indent := (least + n - 1).toNat
      let (bs, d) := blockBreaks indent fuel c
      (bs, indent, d)
    | none =>
      let (bs, widest, d) := leadingBreaks fuel 0 c
      (bs, max least.toNat widest, d)
  let (text, last, after, c) := blockLines fold indent fuel before c
  let ending :=
    match chomp with
    | .clip => last
    | .strip => []
    | .keep => last ++ after
  return (text ++ ending, c)

end LinkCleaner.Yaml
