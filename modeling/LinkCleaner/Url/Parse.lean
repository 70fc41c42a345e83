import LinkCleaner.Url.Basic
import LinkCleaner.Url.Address
import LinkCleaner.Url.Error
import LinkCleaner.Text.Class

/-!
Reading a URL. The text is split at its delimiters, the authority is checked, and blanks in the
path, the query and the fragment are escaped.
-/

namespace LinkCleaner.Url

def isSchemeChar (c : Char) : Bool :=
  Text.isAsciiLetter c || Text.isAsciiDigit c || c == '+' || c == '-' || c == '.'

/-- The scheme in front of the first colon, in small letters, and the rest; no scheme is empty. -/
def splitScheme (s : Text) : Text × Text :=
  match Text.cut ':' s with
  | (c :: name, some r) =>
    if Text.isAsciiLetter c && (c :: name).all isSchemeChar then (Text.asciiLower (c :: name), r)
    else ([], s)
  | _ => ([], s)

def endsAuthority (c : Char) : Bool := c == '/' || c == '?' || c == '#'

/-- The authority after `//`, and the rest. -/
def splitAuthority : Text → Text × Text
  | '/' :: '/' :: r =>
    (r.takeWhile fun c => !endsAuthority c, r.dropWhile fun c => !endsAuthority c)
  | s => ([], s)

/-- A host in brackets must be a colon address or one of the form kept for later. -/
def checkBracketed (host : Text) : Except ParseError Unit :=
  if ['v'].isPrefixOf host then
    if isFutureAddress host then .ok () else .error .futureAddress
  else if isDottedAddress host then .error .dottedInBrackets
  else if isColonAddress host then .ok ()
  else .error (.notAnAddress host)

/-- Nothing stands before a bracketed host, and only a port after it. -/
def checkBrackets (authority : Text) : Except ParseError Unit :=
  let opens := authority.contains '['
  let closes := authority.contains ']'
  if opens != closes then .error .brackets
  else if !opens then .ok ()
  else
    match Text.cut '[' (hostPart authority) with
    | (before, some bracketed) =>
      let (host, after) := Text.cut ']' bracketed
      let after := after.getD []
      if !before.isEmpty || !(after.isEmpty || [':'].isPrefixOf after) then .error .brackets
      else checkBracketed host
    | (plain, none) => checkBracketed (Text.cut ':' plain).1

def checkLookalikes (authority : Text) : Except ParseError Unit :=
  if authority.any Text.isLookalike then .error (.lookalike authority) else .ok ()

def greatestPort : Nat := 65535

/-- A port is a number that fits, or is not given. -/
def checkPort (port : Text) : Except ParseError Unit :=
  if port.isEmpty then .ok ()
  else if !port.all Text.isAsciiDigit then .error (.portNotNumber port)
  else if Json.digitLimit < port.length then .error (.portTooLong port.length)
  else if greatestPort < Text.digitsValue port then .error .portOutOfRange
  else .ok ()

/-- What reading drops: spaces and controls in front, and breaks and tabs anywhere. -/
def scrub (s : Text) : Text :=
  (s.dropWhile fun c => c.toNat ≤ 0x20).filter fun c => c != '\t' && c != '\r' && c != '\n'

/-- A URL split at its delimiters. -/
structure Parts where
  scheme : Text
  authority : Text
  path : Text
  query : Text
  fragment : Text
  deriving DecidableEq

/-- The parts of a text; nothing is checked. -/
def splitParts (text : Text) : Parts :=
  let (scheme, rest) := splitScheme (scrub text)
  let (authority, rest) := splitAuthority rest
  let (rest, fragment) := Text.cut '#' rest
  let (path, query) := Text.cut '?' rest
  ⟨scheme, authority, path, query.getD [], fragment.getD []⟩

/-- The checks on an authority, in the order in which they are made. -/
def checkAuthority (authority : Text) : Except ParseError Unit := do
  checkBrackets authority
  checkLookalikes authority
  checkPort (hostAndPort authority).2

/-- The authority with its host and port in small letters. -/
def lowerAuthority (authority : Text) : Text :=
  match Text.cutLast '@' authority with
  | (some credentials, host) => credentials ++ '@' :: Text.lower host
  | (none, host) => Text.lower host

/-- The URL of parts that are sound, where `hasFragment` tells an empty fragment from none. -/
def ofParts (p : Parts) (hasFragment : Bool) : Url :=
  let path := Percent.escapeBlanks p.path
  let query := Percent.escapeBlanks p.query
  { scheme := p.scheme
    authority := lowerAuthority p.authority
    path := if specialSchemes.contains p.scheme && path.isEmpty then ['/'] else path
    query := Form.decode query
    fragment := if hasFragment then some (Percent.escapeBlanks p.fragment) else none
    written := some query }

/-- The URL of the parts of a text, if they pass every check. -/
def ofChecked (text : Text) (p : Parts) : Except ParseError Url :=
  match checkAuthority p.authority with
  | .error e => .error e
  | .ok () =>
    if p.scheme.isEmpty then .error (.noScheme text)
    else if p.authority.any Text.isBlank then .error (.blankInHost text)
    else if specialSchemes.contains p.scheme && (hostName p.authority).isEmpty then
      .error (.noHost text)
    else .ok (ofParts p (text.contains '#'))

/-- Reads an absolute URL. -/
def parse (raw : Text) : Except ParseError Url :=
  if raw.isEmpty then .error .empty else ofChecked (Text.trim raw) (splitParts (Text.trim raw))

def parse? (raw : Text) : Option Url := (parse raw).toOption

/-- The text without its fragment, or as it is if it is no URL. -/
def dropFragment (raw : Text) : Text :=
  match parse raw with
  | .error _ => raw
  | .ok u => (u.withFragment none).serialize

end LinkCleaner.Url
