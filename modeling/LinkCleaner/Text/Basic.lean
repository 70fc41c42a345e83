/-!
Text as a list of code points, with the cuts and joins the rest of the library is written in, and
with its blanks and its line ends.
-/

namespace LinkCleaner

abbrev Text := List Char

namespace Text

/-- What stands before the first `sep`, and what stands after it if there is one. -/
def cut (sep : Char) : Text → Text × Option Text
  | [] => ([], none)
  | c :: r => if c = sep then ([], some r) else ((c :: (cut sep r).1), (cut sep r).2)

@[simp] theorem cut_cons_self (sep : Char) (r : Text) : cut sep (sep :: r) = ([], some r) := by
  simp [cut]

theorem cut_of_not_mem {sep : Char} {s : Text} (h : sep ∉ s) : cut sep s = (s, none) := by
  induction s with
  | nil => rfl
  | cons c r ih =>
    simp only [List.mem_cons, not_or] at h
    simp [cut, ih h.2, Ne.symm h.1]

theorem cut_append {sep : Char} {s : Text} (h : sep ∉ s) (r : Text) :
    cut sep (s ++ sep :: r) = (s, some r) := by
  induction s with
  | nil => simp
  | cons c t ih =>
    simp only [List.mem_cons, not_or] at h
    simp [cut, ih h.2, Ne.symm h.1]

/-- What stands before and after the last `sep`; without one, nothing and the whole text. -/
def cutLast (sep : Char) (s : Text) : Option Text × Text :=
  match cut sep s.reverse with
  | (after, some before) => (some before.reverse, after.reverse)
  | (_, none) => (none, s)

theorem cutLast_of_not_mem {sep : Char} {s : Text} (h : sep ∉ s) : cutLast sep s = (none, s) := by
  simp [cutLast, cut_of_not_mem (s := s.reverse) (by simpa using h)]

/-- The pieces between the occurrences of `sep`; there is always at least one. -/
def pieces (sep : Char) : Text → List Text
  | [] => [[]]
  | c :: r =>
    if c = sep then [] :: pieces sep r
    else
      match pieces sep r with
      | [] => [[c]]
      | p :: ps => (c :: p) :: ps

theorem pieces_ne_nil (sep : Char) (s : Text) : pieces sep s ≠ [] := by
  cases s with
  | nil => simp [pieces]
  | cons c r => rw [pieces]; split <;> (try split) <;> simp

/-- Every `a` replaced by `b`. -/
def swap (a b : Char) (s : Text) : Text := s.map fun c => if c = a then b else c

/-- The texts one after another with `sep` between them. -/
def join (sep : Text) : List Text → Text
  | [] => []
  | [s] => s
  | s :: ss => s ++ sep ++ join sep ss

/-- Drops a leading `p` if there is one. -/
def dropPrefix (p s : Text) : Text := if p.isPrefixOf s then s.drop p.length else s

def isAsciiLetter (c : Char) : Bool :=
  ('a' ≤ c && c ≤ 'z') || ('A' ≤ c && c ≤ 'Z')

def isAsciiDigit (c : Char) : Bool := '0' ≤ c && c ≤ '9'

/-- The value of a hexadecimal digit of either case. -/
def hexValue? (c : Char) : Option Nat :=
  if '0' ≤ c ∧ c ≤ '9' then some (c.toNat - 48)
  else if 'a' ≤ c ∧ c ≤ 'f' then some (c.toNat - 87)
  else if 'A' ≤ c ∧ c ≤ 'F' then some (c.toNat - 55)
  else none

def isHex (c : Char) : Bool := (hexValue? c).isSome

/-- `n` in hexadecimal, in at least `width` lower-case digits. -/
def hexPadded (width n : Nat) : Text :=
  let ds := Nat.toDigits 16 n
  List.replicate (width - ds.length) '0' ++ ds

def ofNat (n : Nat) : Text := Nat.toDigits 10 n

def ofInt : Int → Text
  | .ofNat n => ofNat n
  | .negSucc n => '-' :: ofNat (n + 1)

/-- The number that a run of ASCII digits writes. -/
def digitsValue (s : Text) : Nat := s.foldl (fun n c => 10 * n + (c.toNat - 48)) 0

/-- Capital ASCII letters made small, all else kept. -/
def asciiLower (s : Text) : Text :=
  s.map fun c => if 'A' ≤ c ∧ c ≤ 'Z' then Char.ofNat (c.toNat + 32) else c

end Text

/-- Whether a code point lies in one of the closed ranges, which ascend. -/
def inRanges : List (Nat × Nat) → Nat → Bool
  | [], _ => false
  | (lo, hi) :: r, n => if n < lo then false else if n ≤ hi then true else inRanges r n

namespace Text

/-! ### Blanks and line ends -/

/-- The separators and the controls that count as space in Unicode. -/
def blankRanges : List (Nat × Nat) :=
  [(0x09, 0x0D), (0x1C, 0x20), (0x85, 0x85), (0xA0, 0xA0), (0x1680, 0x1680), (0x2000, 0x200A),
    (0x2028, 0x2029), (0x202F, 0x202F), (0x205F, 0x205F), (0x3000, 0x3000)]

def isBlank (c : Char) : Bool := inRanges blankRanges c.toNat

def trimLeft (s : Text) : Text := s.dropWhile isBlank

def trimRight (s : Text) : Text := (s.reverse.dropWhile isBlank).reverse

/-- The text without the blanks at its ends. -/
def trim (s : Text) : Text := trimRight (trimLeft s)

/-- The text with a line feed for each line end. A carriage return ends a line as well, alone or in
front of a line feed. -/
def plainLines : Text → Text
  | [] => []
  | c :: r =>
    if c = '\r' then (if r.head? = some '\n' then plainLines r else '\n' :: plainLines r)
    else c :: plainLines r

end Text

end LinkCleaner
