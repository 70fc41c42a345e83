import LinkCleaner.Text.Basic

/-!
UTF-8. Reading is a machine over bytes that holds the bits gathered so far; each ill-formed part,
as long as it could still have begun a character, stands for one replacement character.
-/

namespace LinkCleaner.Text

def utf8Char (c : Char) : List UInt8 :=
  let n := c.toNat
  if n < 0x80 then [n.toUInt8]
  else if n < 0x800 then [(0xC0 + n / 0x40).toUInt8, (0x80 + n % 0x40).toUInt8]
  else if n < 0x10000 then
    [(0xE0 + n / 0x1000).toUInt8, (0x80 + n / 0x40 % 0x40).toUInt8, (0x80 + n % 0x40).toUInt8]
  else
    [(0xF0 + n / 0x40000).toUInt8, (0x80 + n / 0x1000 % 0x40).toUInt8,
      (0x80 + n / 0x40 % 0x40).toUInt8, (0x80 + n % 0x40).toUInt8]

def utf8 (s : Text) : List UInt8 := s.flatMap utf8Char

/-- A character under way: its bits so far, how many bytes it still needs, and the range that the
next of them must lie in. -/
structure Utf8Partial where
  bits : Nat
  need : Nat
  lo : Nat
  hi : Nat

/-- What a byte at the start of a character means. -/
inductive Utf8Lead where
  | whole (c : Char)
  | partly (p : Utf8Partial)
  | bad

def utf8Lead (b : Nat) : Utf8Lead :=
  if b < 0x80 then .whole (Char.ofNat b)
  else if b < 0xC2 then .bad
  else if b < 0xE0 then .partly ⟨b - 0xC0, 1, 0x80, 0xBF⟩
  else if b = 0xE0 then .partly ⟨0, 2, 0xA0, 0xBF⟩
  else if b = 0xED then .partly ⟨0xD, 2, 0x80, 0x9F⟩
  else if b < 0xF0 then .partly ⟨b - 0xE0, 2, 0x80, 0xBF⟩
  else if b = 0xF0 then .partly ⟨0, 3, 0x90, 0xBF⟩
  else if b < 0xF4 then .partly ⟨b - 0xF0, 3, 0x80, 0xBF⟩
  else if b = 0xF4 then .partly ⟨4, 3, 0x80, 0x8F⟩
  else .bad

/-- A decoded piece: a character, or an ill-formed part. -/
abbrev Utf8Piece := Option Char

/-- What a byte yields at the start of a character. -/
def utf8Start (b : Nat) : List Utf8Piece × Option Utf8Partial :=
  match utf8Lead b with
  | .whole c => ([some c], none)
  | .partly p => ([], some p)
  | .bad => ([none], none)

def utf8Step (st : Option Utf8Partial) (b : Nat) : List Utf8Piece × Option Utf8Partial :=
  match st with
  | none => utf8Start b
  | some p =>
    if p.lo ≤ b ∧ b ≤ p.hi then
      let bits := p.bits * 0x40 + (b - 0x80)
      if p.need = 1 then ([some (Char.ofNat bits)], none)
      else ([], some ⟨bits, p.need - 1, 0x80, 0xBF⟩)
    else (none :: (utf8Start b).1, (utf8Start b).2)

/-- The pieces of a byte list, in order. -/
def utf8Pieces : Option Utf8Partial → List UInt8 → List Utf8Piece
  | none, [] => []
  | some _, [] => [none]
  | st, b :: r => (utf8Step st b.toNat).1 ++ utf8Pieces (utf8Step st b.toNat).2 r

/-- The text of a byte list, with a replacement character for each ill-formed part. -/
def ofUtf8Lossy (bs : List UInt8) : Text :=
  (utf8Pieces none bs).map fun p => p.getD '\uFFFD'

/-- The text of a byte list that is well-formed. -/
def ofUtf8? (bs : List UInt8) : Option Text := (utf8Pieces none bs).mapM id

end LinkCleaner.Text
