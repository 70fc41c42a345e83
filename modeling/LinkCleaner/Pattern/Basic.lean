import LinkCleaner.Text.Class
import LinkCleaner.Text.Case.Variants

/-!
Patterns: expressions over single-character tests, with groups that capture, counted repetition,
assertions and references back to groups.
-/

namespace LinkCleaner.Pattern

/-- How a part of a pattern is read. -/
structure Mode where
  ignoreCase : Bool := false
  /-- Classes and case are those of ASCII. -/
  ascii : Bool := false
  /-- The start and the end are those of any line. -/
  multiline : Bool := false
  /-- A dot covers line breaks too. -/
  dotAll : Bool := false
  deriving DecidableEq, Repr

inductive Category where
  | digit
  | space
  | word
  deriving DecidableEq, Repr

/-- A member of a set of characters; code points may be ones that no text holds. -/
inductive SetItem where
  | single (code : Nat)
  | range (lo hi : Nat)
  | category (kind : Category) (negated : Bool)
  deriving DecidableEq, Repr

/-- A test on one character. -/
inductive CharTest where
  | any
  | one (code : Nat) (negated : Bool)
  | oneOf (items : List SetItem) (negated : Bool)
  deriving DecidableEq, Repr

/-- A test on a position. -/
inductive Anchor where
  | start
  | stop
  | textStart
  | textStop
  | boundary
  | notBoundary
  deriving DecidableEq, Repr

/-- Which number of repetitions is tried first; a possessive one never takes fewer back. -/
inductive Greed where
  | greedy
  | lazy
  | possessive
  deriving DecidableEq, Repr

inductive Node where
  | empty
  | fail
  | char (mode : Mode) (test : CharTest)
  | anchor (mode : Mode) (kind : Anchor)
  | seq (a b : Node)
  | alt (a b : Node)
  /-- `body` at least `min` times, and at most `max` times if there is a limit. -/
  | many (min : Nat) (max : Option Nat) (greed : Greed) (body : Node)
  /-- A group; without a number it only has a mode of its own. -/
  | group (number : Option Nat) (body : Node)
  | back (mode : Mode) (number : Nat)
  /-- An assertion about what follows, or about the `behind` characters that come before. -/
  | look (behind : Option Nat) (negated : Bool) (body : Node)
  | atomic (body : Node)
  /-- One way if the group has matched, another if not. -/
  | cond (number : Nat) (yes no : Node)
  deriving DecidableEq, Repr

def isAsciiBlank (n : Nat) : Bool := n == 0x20 || (0x09 ≤ n && n ≤ 0x0D)

def isWordChar (ascii : Bool) (c : Char) : Bool :=
  if ascii then Text.isAsciiLetter c || Text.isAsciiDigit c || c == '_'
  else Text.isAlphanumeric c || c == '_'

def Category.holds (ascii : Bool) (c : Char) : Category → Bool
  | .digit => if ascii then Text.isAsciiDigit c else Text.isDecimal c
  | .space => if ascii then isAsciiBlank c.toNat else Text.isBlank c
  | .word => isWordChar ascii c

/-- The small form of an ASCII code point. -/
def asciiSmall (n : Nat) : Nat := if 0x41 ≤ n ∧ n ≤ 0x5A then n + 32 else n

/-- The form of a code point in which letters are compared. -/
def Mode.fold (m : Mode) (n : Nat) : Nat :=
  if m.ignoreCase then (if m.ascii then asciiSmall n else Text.smallCode n) else n

/-- Whether a character is the one that is written in the pattern. -/
def Mode.isCode (m : Mode) (code : Nat) (c : Char) : Bool :=
  m.fold code == m.fold c.toNat
    || (m.ignoreCase && !m.ascii && Text.sameLetter code c.toNat)

/-- Whether a range holds a code point, or a capital or small form of it. -/
def Mode.inRange (m : Mode) (lo hi : Nat) (c : Char) : Bool :=
  let n := m.fold c.toNat
  let holds (k : Nat) : Bool := lo ≤ k && k ≤ hi
  holds n || (m.ignoreCase && (c.toNat != n && holds c.toNat
    || if m.ascii && hi ≤ 0xFFFF then
        (0x61 ≤ n && n ≤ 0x7A && holds (n - 32))
      else
        (Text.capitalsOf n).any holds
          || (Text.othersOfCapital n).any fun k => holds k || (Text.capitalsOf k).any holds))

/-- The test of one member of a set. A single member beyond the basic plane is compared as it is
written. -/
def Mode.inItem (m : Mode) (c : Char) : SetItem → Bool
  | .single code => if 0xFFFF < code then code == m.fold c.toNat else m.isCode code c
  | .range lo hi => m.inRange lo hi c
  | .category kind negated => kind.holds m.ascii c != negated

def CharTest.holds (m : Mode) (c : Char) : CharTest → Bool
  | .any => m.dotAll || c != '\n'
  | .one code negated => m.isCode code c != negated
  | .oneOf items negated => (items.any (m.inItem c)) != negated

end LinkCleaner.Pattern

namespace LinkCleaner

/-- A pattern that was read: its text, the number of its groups, and its expression. -/
structure Pattern where
  source : Text
  groups : Nat
  node : Pattern.Node
  deriving DecidableEq, Repr

end LinkCleaner
