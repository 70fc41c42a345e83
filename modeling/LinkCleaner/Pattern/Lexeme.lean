import LinkCleaner.Pattern.Basic
import LinkCleaner.Text.Class
import LinkCleaner.Json.Reader

/-!
The lexemes of a pattern. What makes a pattern unreadable in itself ends the list; what depends on
the groups around it is left to the parser.
-/

namespace LinkCleaner.Pattern

/-- Why a pattern is refused. All but the first are no flaw of form. -/
inductive Refusal where
  | malformed
  | countTooLarge
  | tooManyDigits
  | mixedAlphabets
  deriving DecidableEq, Repr

/-- How a group is named in a condition. -/
inductive GroupName where
  | name (s : Text)
  | number (n : Nat)
  deriving DecidableEq, Repr

inductive Lexeme where
  | literal (code : Nat)
  | any
  | set (items : List SetItem) (negated : Bool)
  | anchor (kind : Anchor)
  | reference (g : GroupName)
  | openGroup (name : Option Text)
  | openPlain (added removed : Text)
  | openAtomic
  | openLook (behind negated : Bool)
  | openCondition (g : GroupName)
  /-- Flags for the whole pattern. -/
  | flags (added : Text)
  | close
  | bar
  | count (min : Nat) (max : Option Nat) (greed : Greed)
  | fault (r : Refusal)
  deriving DecidableEq, Repr

/-- Repetitions from this number on are refused; it stands for no limit. -/
def countLimit : Nat := 4294967295

def isOctal (c : Char) : Bool := '0' ≤ c && c ≤ '7'

def octalValue (s : Text) : Nat := s.foldl (fun n c => 8 * n + (c.toNat - 48)) 0

def hexNumber (s : Text) : Nat := s.foldl (fun n c => 16 * n + (Text.hexValue? c).getD 0) 0

/-- At most `n` characters that pass a test, and the rest. -/
def takeUpTo (p : Char → Bool) : Nat → Text → Text × Text
  | n + 1, c :: r => if p c then ((c :: (takeUpTo p n r).1), (takeUpTo p n r).2) else ([], c :: r)
  | _, s => ([], s)

/-- Exactly `n` hexadecimal digits that write a code point. -/
def lexHex (n : Nat) (s : Text) : Except Refusal (Nat × Text) :=
  let (ds, rest) := takeUpTo Text.isHex n s
  if ds.length = n ∧ hexNumber ds ≤ 0x10FFFF then .ok (hexNumber ds, rest) else .error .malformed

def lexOctal (s : Text) : Except Refusal (Nat × Text) :=
  let (ds, rest) := takeUpTo isOctal 3 s
  if octalValue ds ≤ 0o377 then .ok (octalValue ds, rest) else .error .malformed

/-- Letters after a backslash that stand for a control character. -/
def control? : Char → Option Nat
  | 'a' => some 0x07
  | 'f' => some 0x0C
  | 'n' => some 0x0A
  | 'r' => some 0x0D
  | 't' => some 0x09
  | 'v' => some 0x0B
  | '\\' => some 0x5C
  | _ => none

def category? : Char → Option SetItem
  | 'd' => some (.category .digit false)
  | 'D' => some (.category .digit true)
  | 's' => some (.category .space false)
  | 'S' => some (.category .space true)
  | 'w' => some (.category .word false)
  | 'W' => some (.category .word true)
  | _ => none

/-- Code points that are written by their number after a backslash and a letter. -/
def lexCode? (c : Char) (r : Text) : Option (Except Refusal (Nat × Text)) :=
  if c = 'x' then some (lexHex 2 r)
  else if c = 'u' then some (lexHex 4 r)
  else if c = 'U' then some (lexHex 8 r)
  else none

/-- An escape inside a set: a member. -/
def lexSetEscape (c : Char) (r : Text) : Except Refusal (SetItem × Text) :=
  if c = 'b' then .ok (.single 0x08, r)
  else
    match control? c, category? c, lexCode? c r with
    | some n, _, _ => .ok (.single n, r)
    | _, some k, _ => .ok (k, r)
    | _, _, some found => found.map fun (n, t) => (.single n, t)
    | _, _, _ =>
      if isOctal c then (lexOctal (c :: r)).map fun (n, t) => (.single n, t)
      else if Text.isAsciiDigit c || Text.isAsciiLetter c then .error .malformed
      else .ok (.single c.toNat, r)

/-- A member of a set as it is written: an escape or a character. -/
def lexSetItem (c : Char) (r : Text) : Except Refusal (SetItem × Text) :=
  if c = '\\' then
    match r with
    | [] => .error .malformed
    | d :: t => lexSetEscape d t
  else .ok (.single c.toNat, r)

/-- A range between two single members in ascending order. -/
def rangeOf : SetItem → SetItem → Except Refusal SetItem
  | .single lo, .single hi => if hi < lo then .error .malformed else .ok (.range lo hi)
  | _, _ => .error .malformed

/-- The members of a set up to its closing bracket, which in the first place is a member. -/
def lexSet : Nat → Bool → Text → Except Refusal (List SetItem × Text)
  | 0, _, _ => .error .malformed
  | _, _, [] => .error .malformed
  | fuel + 1, first, c :: r =>
    if c = ']' && !first then .ok ([], r)
    else do
      let (a, t) ← lexSetItem c r
      match t with
      | '-' :: ']' :: u => return ([a, .single '-'.toNat], u)
      | '-' :: d :: u =>
        let (b, v) ← lexSetItem d u
        let item ← rangeOf a b
        let (items, w) ← lexSet fuel false v
        return (item :: items, w)
      | '-' :: [] => .error .malformed
      | u =>
        let (items, w) ← lexSet fuel false u
        return (a :: items, w)

/-- A set in brackets; a single character in it stands for itself. -/
def lexBrackets (r : Text) : Except Refusal (Lexeme × Text) := do
  let (negated, t) :=
    match r with
    | '^' :: t => (true, t)
    | t => (false, t)
  let (items, rest) ← lexSet (t.length + 1) true t
  match items.eraseDups, negated with
  | [.single code], false => return (.literal code, rest)
  | items, negated => return (.set items negated, rest)

/-- A digit after a backslash: three octal digits write a code point, else one or two digits name a
group. -/
def lexDigits (c : Char) (r : Text) : Except Refusal (Lexeme × Text) :=
  if c = '0' then
    let (ds, rest) := takeUpTo isOctal 2 r
    .ok (.literal (octalValue ds), rest)
  else
    match r with
    | d :: e :: t =>
      if isOctal c && isOctal d && isOctal e then
        (lexOctal (c :: d :: e :: t)).map fun (n, u) => (.literal n, u)
      else if Text.isAsciiDigit d then .ok (.reference (.number (Text.digitsValue [c, d])), e :: t)
      else .ok (.reference (.number (Text.digitsValue [c])), r)
    | [d] =>
      if Text.isAsciiDigit d then .ok (.reference (.number (Text.digitsValue [c, d])), [])
      else .ok (.reference (.number (Text.digitsValue [c])), r)
    | [] => .ok (.reference (.number (Text.digitsValue [c])), [])

def anchor? : Char → Option Anchor
  | 'A' => some .textStart
  | 'Z' => some .textStop
  | 'b' => some .boundary
  | 'B' => some .notBoundary
  | _ => none

/-- An escape outside sets. -/
def lexEscape (c : Char) (r : Text) : Except Refusal (Lexeme × Text) :=
  match anchor? c, category? c, control? c, lexCode? c r with
  | some a, _, _, _ => .ok (.anchor a, r)
  | _, some k, _, _ => .ok (.set [k] false, r)
  | _, _, some n, _ => .ok (.literal n, r)
  | _, _, _, some found => found.map fun (n, t) => (.literal n, t)
  | _, _, _, _ =>
    if Text.isAsciiDigit c then lexDigits c r
    else if Text.isAsciiLetter c then .error .malformed
    else .ok (.literal c.toNat, r)

/-- What comes before a stop that no backslash precedes, and what comes after it. -/
def upTo (stop : Char) : Text → Option (Text × Text)
  | [] => none
  | '\\' :: c :: r => (upTo stop r).map fun (a, b) => ('\\' :: c :: a, b)
  | c :: r =>
    if c = '\\' then none
    else if c = stop then some ([], r)
    else (upTo stop r).map fun (a, b) => (c :: a, b)

/-- A group's name up to a stop. -/
def lexName (stop : Char) (s : Text) : Except Refusal (Text × Text) :=
  match upTo stop s with
  | some (c :: name, rest) => .ok (c :: name, rest)
  | _ => .error .malformed

def lexIdentifier (stop : Char) (s : Text) : Except Refusal (Text × Text) := do
  let (name, rest) ← lexName stop s
  if Text.isIdentifier name then return (name, rest) else .error .malformed

/-- Group numbers from this one on are refused. -/
def groupLimit : Nat := 1073741823

/-- The name or the number of the group that a condition asks about. -/
def lexCondition (s : Text) : Except Refusal (Lexeme × Text) := do
  let (name, rest) ← lexName ')' s
  if Text.isIdentifier name then return (.openCondition (.name name), rest)
  else
    match Text.wholeNumber? Json.digitLimit name with
    | some n =>
      if 0 < n ∧ n < groupLimit then return (.openCondition (.number n.toNat), rest)
      else .error .malformed
    | none => .error .malformed

/-- The letters that flags have. -/
def flagLetters : Text := "iLmsatux".toList

/-- Letters of flags that choose an alphabet. -/
def isAlphabet (c : Char) : Bool := c == 'a' || c == 'u'

/-- Flags that are turned on, and the character that ends them. -/
def lexAdded (seen : Text) : Text → Except Refusal (Text × Char × Text)
  | [] => .error .malformed
  | c :: r =>
    if c = ')' ∨ c = ':' ∨ c = '-' then .ok (seen, c, r)
    else if !flagLetters.contains c || c == 'L' then .error .malformed
    else if isAlphabet c && seen.any fun d => isAlphabet d && d != c then .error .malformed
    else lexAdded (seen ++ [c]) r

/-- Flags that are turned off, up to the colon. -/
def lexRemoved (seen : Text) : Text → Except Refusal (Text × Text)
  | [] => .error .malformed
  | c :: r =>
    if c = ':' ∧ seen ≠ [] then .ok (seen, r)
    else if !flagLetters.contains c || c == 'L' || isAlphabet c then .error .malformed
    else lexRemoved (seen ++ [c]) r

/-- Flags in a group: for the whole pattern, or for the group alone. -/
def lexFlags (s : Text) : Except Refusal (Lexeme × Text) := do
  let (added, ending, t) ← lexAdded [] s
  if ending = ')' then
    if added.isEmpty then .error .malformed else return (.flags added, t)
  else
    let (removed, u) ← if ending = '-' then lexRemoved [] t else .ok ([], t)
    if added.contains 't' || removed.contains 't' || added.any removed.contains then
      .error .malformed
    else return (.openPlain added removed, u)

/-- What an opening parenthesis begins; a comment is nothing. -/
def lexGroup : Text → Except Refusal (Option Lexeme × Text)
  | '?' :: 'P' :: '<' :: r =>
    (lexIdentifier '>' r).map fun (name, t) => (some (.openGroup (some name)), t)
  | '?' :: 'P' :: '=' :: r =>
    (lexIdentifier ')' r).map fun (name, t) => (some (.reference (.name name)), t)
  | '?' :: ':' :: r => .ok (some (.openPlain [] []), r)
  | '?' :: '>' :: r => .ok (some .openAtomic, r)
  | '?' :: '=' :: r => .ok (some (.openLook false false), r)
  | '?' :: '!' :: r => .ok (some (.openLook false true), r)
  | '?' :: '<' :: '=' :: r => .ok (some (.openLook true false), r)
  | '?' :: '<' :: '!' :: r => .ok (some (.openLook true true), r)
  | '?' :: '#' :: r =>
    match upTo ')' r with
    | some (_, t) => .ok (none, t)
    | none => .error .malformed
  | '?' :: '(' :: r => (lexCondition r).map fun (l, t) => (some l, t)
  | '?' :: r => (lexFlags r).map fun (l, t) => (some l, t)
  | r => .ok (some (.openGroup none), r)

/-- How a count is tried, by the mark right after it. -/
def lexGreed : Text → Greed × Text
  | '?' :: r => (.lazy, r)
  | '+' :: r => (.possessive, r)
  | r => (.greedy, r)

def lexCount (min : Nat) (max : Option Nat) (r : Text) : Lexeme × Text :=
  let (greed, t) := lexGreed r
  (.count min max greed, t)

/-- The number that the digits of a bound write, if there are any. -/
def boundOf (ds : Text) : Except Refusal (Option Nat) :=
  if ds.isEmpty then .ok none
  else if Json.digitLimit < ds.length then .error .tooManyDigits
  else if countLimit ≤ Text.digitsValue ds then .error .countTooLarge
  else .ok (some (Text.digitsValue ds))

/-- The digits of the bounds in braces, and what follows the braces; `none` if the brace before
them is only a brace. -/
def bracesDigits? (r : Text) : Option (Text × Text × Text) :=
  let lo := r.takeWhile Text.isAsciiDigit
  match r with
  | '\x7d' :: _ => none
  | _ =>
    match r.drop lo.length with
    | '\x7d' :: t => some (lo, lo, t)
    | ',' :: t =>
      let hi := t.takeWhile Text.isAsciiDigit
      match t.drop hi.length with
      | '\x7d' :: u => some (lo, hi, u)
      | _ => none
    | _ => none

def lexBraces (r : Text) : Except Refusal (Lexeme × Text) :=
  match bracesDigits? r with
  | none => .ok (.literal '\x7b'.toNat, r)
  | some (lo, hi, t) =>
    if t = ['\\'] then .error .malformed
    else do
      let min ← boundOf lo
      let max ← boundOf hi
      match max with
      | some m => if m < min.getD 0 then .error .malformed else return lexCount (min.getD 0) max t
      | none => return lexCount (min.getD 0) none t

/-- The lexeme that a character begins, if it is not a comment, and the rest. -/
def lexOne (c : Char) (r : Text) : Except Refusal (Option Lexeme × Text) :=
  match c with
  | '\\' =>
    match r with
    | [] => .error .malformed
    | d :: t => (lexEscape d t).map fun (l, u) => (some l, u)
  | '[' => (lexBrackets r).map fun (l, u) => (some l, u)
  | '(' => lexGroup r
  | ')' => .ok (some .close, r)
  | '|' => .ok (some .bar, r)
  | '.' => .ok (some .any, r)
  | '^' => .ok (some (.anchor .start), r)
  | '$' => .ok (some (.anchor .stop), r)
  | '?' => let (l, t) := lexCount 0 (some 1) r; .ok (some l, t)
  | '*' => let (l, t) := lexCount 0 none r; .ok (some l, t)
  | '+' => let (l, t) := lexCount 1 none r; .ok (some l, t)
  | '\x7b' => (lexBraces r).map fun (l, u) => (some l, u)
  | c => .ok (some (.literal c.toNat), r)

/-- Blanks that a spaced-out pattern may hold anywhere. -/
def isLayout (c : Char) : Bool := c.toNat < 0x80 && isAsciiBlank c.toNat

/-- What follows a comment that runs to the end of its line; a backslash hides what follows it. -/
def skipLine : Text → Option Text
  | [] => some []
  | '\\' :: _ :: r => skipLine r
  | c :: r => if c = '\\' then none else if c = '\n' then some r else skipLine r

/-- Whether the pattern is spaced out inside a group that a lexeme opens. -/
def Lexeme.spacedInside (spaced : Bool) : Lexeme → Bool
  | .openPlain added removed => (spaced || added.contains 'x') && !removed.contains 'x'
  | _ => spaced

def Lexeme.isOpening : Lexeme → Bool
  | .openGroup _ | .openPlain .. | .openAtomic | .openLook .. | .openCondition _ => true
  | _ => false

/-- Whether the pattern is spaced out after a lexeme, and in the groups around. -/
def Lexeme.spacing (spaced : Bool) (outer : List Bool) (l : Lexeme) : Bool × List Bool :=
  match l with
  | .flags added => (spaced || added.contains 'x', outer)
  | .close => (outer.headD spaced, outer.tail)
  | l => if l.isOpening then (l.spacedInside spaced, spaced :: outer) else (spaced, outer)

def lexFrom : Nat → Bool → List Bool → Text → List Lexeme
  | 0, _, _, _ => []
  | _, _, _, [] => []
  | fuel + 1, spaced, outer, c :: r =>
    if spaced && isLayout c then lexFrom fuel spaced outer r
    else if spaced && c == '#' then
      match skipLine r with
      | some t => lexFrom fuel spaced outer t
      | none => [.fault .malformed]
    else
      match lexOne c r with
      | .error e => [.fault e]
      | .ok (none, t) => lexFrom fuel spaced outer t
      | .ok (some l, t) =>
        let (spaced, outer) := l.spacing spaced outer
        l :: lexFrom fuel spaced outer t

/-- The lexemes of a pattern. -/
def lex (source : Text) : List Lexeme := lexFrom source.length false [] source

end LinkCleaner.Pattern
