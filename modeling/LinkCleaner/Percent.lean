import LinkCleaner.Text.Utf8

/-!
Percent encoding: a byte as `%` and two hexadecimal digits.
-/

namespace LinkCleaner.Percent

def upperDigit (n : Nat) : Char := if n < 10 then Char.ofNat (48 + n) else Char.ofNat (55 + n)

def escapeByte (b : UInt8) : Text := ['%', upperDigit (b.toNat / 16), upperDigit (b.toNat % 16)]

/-- Every byte of the character escaped. -/
def escapeChar (c : Char) : Text := (Text.utf8Char c).flatMap escapeByte

/-- Blanks escaped, all else kept. -/
def escapeBlanks (s : Text) : Text :=
  s.flatMap fun c => if Text.isBlank c then escapeChar c else [c]

theorem escapeBlanks_append (s t : Text) :
    escapeBlanks (s ++ t) = escapeBlanks s ++ escapeBlanks t := by
  simp [escapeBlanks]

theorem escapeBlanks_eq_self {s : Text} (h : ∀ c ∈ s, Text.isBlank c = false) :
    escapeBlanks s = s := by
  induction s with
  | nil => rfl
  | cons c r ih =>
    have hc := h c List.mem_cons_self
    have hr := ih fun d hd => h d (List.mem_cons_of_mem _ hd)
    simp only [escapeBlanks, List.flatMap_cons, hc] at hr ⊢
    simpa using hr

/-- The bytes that a text stands for; a `%` without two digits after it stands for itself. -/
def bytes : Text → List UInt8
  | [] => []
  | c :: r =>
    if c = '%' then
      match r with
      | a :: b :: t =>
        match Text.hexValue? a, Text.hexValue? b with
        | some x, some y => (16 * x + y).toUInt8 :: bytes t
        | _, _ => 0x25 :: bytes (a :: b :: t)
      | t => 0x25 :: bytes t
    else Text.utf8Char c ++ bytes r

/-- The text with its escapes undone; ill-formed bytes become replacement characters. -/
def decode (s : Text) : Text := Text.ofUtf8Lossy (bytes s)

/-- The text with its escapes undone, or as it is if that gives ill-formed bytes. -/
def decodeIfWellFormed (s : Text) : Text := (Text.ofUtf8? (bytes s)).getD s

end LinkCleaner.Percent
