import LinkCleaner.Percent

/-!
Form-encoded queries: names and values in order, blanks as `+`.
-/

namespace LinkCleaner.Form

/-- A name and a value. -/
abbrev Pair := Text × Text

/-- The characters that stand for themselves. -/
def isPlain (c : Char) : Bool :=
  Text.isAsciiLetter c || Text.isAsciiDigit c || c == '_' || c == '.' || c == '-' || c == '~'

def encodeChar (c : Char) : Text :=
  if isPlain c then [c] else if c = ' ' then ['+'] else Percent.escapeChar c

def encodeText (s : Text) : Text := s.flatMap encodeChar

def encodePair (p : Pair) : Text := encodeText p.1 ++ '=' :: encodeText p.2

/-- The pairs as a query. -/
def encode (ps : List Pair) : Text := Text.join ['&'] (ps.map encodePair)

def decodeText (s : Text) : Text := Percent.decode (Text.swap '+' ' ' s)

/-- A piece between `&`s; without `=` it is a name with an empty value. -/
def decodePair (s : Text) : Pair :=
  let (name, value) := Text.cut '=' s
  (decodeText name, decodeText (value.getD []))

/-- The pairs of a query; empty pieces count for nothing. -/
def decode (s : Text) : List Pair :=
  ((Text.pieces '&' s).filter fun p => !p.isEmpty).map decodePair

@[simp] theorem decode_nil : decode [] = [] := rfl

end LinkCleaner.Form
