import LinkCleaner.Text.Case.Table

/-!
Small letters. A capital sigma becomes final where a word ends with it, and the dotted capital I
keeps its dot; all else goes letter by letter.
-/

namespace LinkCleaner.Text

/-- The small form of a code point, by itself. -/
def smallCode (n : Nat) : Nat :=
  go smallForms
where
  go : List (Nat × Nat × Nat × Int) → Nat
    | [] => n
    | (first, last, stride, shift) :: r =>
      if n < first then n
      else if n ≤ last ∧ (n - first) % stride = 0 then (n + shift).toNat
      else go r

/-- The small form of a letter, by itself; a dotted capital I loses its dot. -/
def lowerChar (c : Char) : Char := Char.ofNat (smallCode c.toNat)

def isCased (c : Char) : Bool := inRanges casedRanges c.toNat

def isCaseIgnorable (c : Char) : Bool := inRanges caseIgnorableRanges c.toNat

/-- Whether the first character that counts has case. -/
def meetsCased (s : Text) : Bool :=
  match s.dropWhile isCaseIgnorable with
  | [] => false
  | c :: _ => isCased c

/-- A sigma between `before`, read backwards, and `after` ends a word. -/
def endsWord (before after : Text) : Bool := meetsCased before && !meetsCased after

def lowerIn (before : Text) (c : Char) (after : Text) : Text :=
  if c = 'Σ' then [if endsWord before after then 'ς' else 'σ']
  else if c = 'İ' then ['i', '\u0307']
  else [lowerChar c]

def lowerFrom : Text → Text → Text
  | _, [] => []
  | before, c :: after => lowerIn before c after ++ lowerFrom (c :: before) after

/-- The text in small letters. -/
def lower (s : Text) : Text := lowerFrom [] s

end LinkCleaner.Text
