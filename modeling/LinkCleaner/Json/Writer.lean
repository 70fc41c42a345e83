import LinkCleaner.Json.Basic
import LinkCleaner.Decimal.Shortest

/-!
Writing JSON. The layout says what separates items, whether they stand on lines of their own, and
whether all but ASCII is escaped.
-/

namespace LinkCleaner.Json

structure Layout where
  comma : Text
  colon : Text
  indent : Option Nat := none
  ascii : Bool := false

/-- A space after each comma and colon: the form that is kept in files. -/
def Layout.spaced : Layout := { comma := [',', ' '], colon := [':', ' '] }

/-- No space at all. -/
def Layout.compact : Layout := { comma := [','], colon := [':'] }

/-- Two columns a level and ASCII alone, for display. -/
def Layout.display : Layout :=
  { comma := [','], colon := [':', ' '], indent := some 2, ascii := true }

def codeEscape (n : Nat) : Text := '\\' :: 'u' :: Text.hexPadded 4 n

/-- A character in a string. Quotes, backslashes and controls are always escaped. -/
def writeChar (ascii : Bool) (c : Char) : Text :=
  if c = '\x22' then ['\\', '\x22']
  else if c = '\\' then ['\\', '\\']
  else if c = '\n' then ['\\', 'n']
  else if c = '\r' then ['\\', 'r']
  else if c = '\t' then ['\\', 't']
  else if c = '\x08' then ['\\', 'b']
  else if c = '\x0C' then ['\\', 'f']
  else if c.toNat < 0x20 then codeEscape c.toNat
  else if ascii && 0x7F ≤ c.toNat then
    if c.toNat < 0x10000 then codeEscape c.toNat
    else
      let n := c.toNat - 0x10000
      codeEscape (0xD800 + n / 0x400) ++ codeEscape (0xDC00 + n % 0x400)
  else [c]

def writeUnit (ascii : Bool) : StrUnit → Text
  | .char c => writeChar ascii c
  | .half code => codeEscape code

def writeStr (ascii : Bool) (s : Str) : Text :=
  '\x22' :: s.flatMap (writeUnit ascii) ++ ['\x22']

def writeFloat (x : Decimal.Binary64) : Text :=
  match Decimal.finiteText? x, x with
  | some s, _ => s
  | none, .infinite true => "-Infinity".toList
  | none, .infinite false => "Infinity".toList
  | none, _ => "NaN".toList

/-- The line break and the indent in front of an item at a depth. -/
def Layout.break (l : Layout) (depth : Nat) : Text :=
  match l.indent with
  | none => []
  | some n => '\n' :: List.replicate (n * depth) ' '

mutual

def writeAt (l : Layout) (depth : Nat) : Value → Text
  | .null => "null".toList
  | .bool true => "true".toList
  | .bool false => "false".toList
  | .int n => Text.ofInt n
  | .float x => writeFloat x
  | .str s => writeStr l.ascii s
  | .arr [] => ['[', ']']
  | .arr (v :: vs) =>
    '[' :: l.break (depth + 1) ++ writeAt l (depth + 1) v ++ writeItems l (depth + 1) vs
      ++ l.break depth ++ [']']
  | .obj [] => ['\x7b', '\x7d']
  | .obj (f :: fs) =>
    '\x7b' :: l.break (depth + 1) ++ writeField l (depth + 1) f ++ writeFields l (depth + 1) fs
      ++ l.break depth ++ ['\x7d']

def writeItems (l : Layout) (depth : Nat) : List Value → Text
  | [] => []
  | v :: vs => l.comma ++ l.break depth ++ writeAt l depth v ++ writeItems l depth vs

def writeField (l : Layout) (depth : Nat) : Str × Value → Text
  | (k, v) => writeStr l.ascii k ++ l.colon ++ writeAt l depth v

def writeFields (l : Layout) (depth : Nat) : List (Str × Value) → Text
  | [] => []
  | f :: fs => l.comma ++ l.break depth ++ writeField l depth f ++ writeFields l depth fs

end

def write (l : Layout) (v : Value) : Text := writeAt l 0 v

end LinkCleaner.Json
