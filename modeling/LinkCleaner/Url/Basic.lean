import LinkCleaner.Form
import LinkCleaner.Text.Case

/-!
Absolute URLs, with their query as pairs, and the two texts of a URL.
-/

namespace LinkCleaner

/-- A URL. `written` is its query as it was written, as long as no pair has been taken out. -/
structure Url where
  scheme : Text
  authority : Text
  path : Text
  query : List Form.Pair
  fragment : Option Text
  written : Option Text
  deriving DecidableEq

namespace Url

/-- Schemes that need a host, and whose path is never empty. -/
def specialSchemes : List Text :=
  ["http".toList, "https".toList, "ftp".toList, "ws".toList, "wss".toList]

/-- Schemes whose URLs are written with `//` even if they have no authority. -/
def slashSchemes : List Text :=
  ["ftp".toList, "http".toList, "gopher".toList, "nntp".toList, "telnet".toList, "imap".toList,
    "wais".toList, "file".toList, "mms".toList, "https".toList, "shttp".toList, "snews".toList,
    "prospero".toList, "rtsp".toList, "rtspu".toList, "rsync".toList, "svn".toList,
    "svn+ssh".toList, "sftp".toList, "nfs".toList, "git".toList, "git+ssh".toList, "ws".toList,
    "wss".toList]

/-- What stands after the credentials in an authority. -/
def hostPart (authority : Text) : Text := (Text.cutLast '@' authority).2

/-- The host and the port of an authority as they are written; brackets enclose a host that holds
colons. -/
def hostAndPort (authority : Text) : Text × Text :=
  match Text.cut '[' (hostPart authority) with
  | (_, some bracketed) =>
    let (host, after) := Text.cut ']' bracketed
    (host, ((Text.cut ':' (after.getD [])).2).getD [])
  | (plain, none) =>
    let (host, port) := Text.cut ':' plain
    (host, port.getD [])

/-- The host of an authority, in small letters up to its zone. -/
def hostName (authority : Text) : Text :=
  let (name, zone) := Text.cut '%' (hostAndPort authority).1
  match zone with
  | none => Text.lower name
  | some z => Text.lower name ++ '%' :: z

def host (u : Url) : Text := hostName u.authority

/-- The value of the first pair with this name. -/
def get? (u : Url) (name : Text) : Option Text := u.query.lookup name

/-- The names of the pairs, each once, as they first come. -/
def keys (u : Url) : List Text :=
  u.query.foldl (fun ks p => if p.1 ∈ ks then ks else ks ++ [p.1]) []

/-- The URL without the pairs whose name is doomed. -/
def without (doomed : Text → Bool) (u : Url) : Url :=
  { u with query := u.query.filter fun p => !doomed p.1, written := none }

def withFragment (fragment : Option Text) (u : Url) : Url := { u with fragment := fragment }

@[simp] theorem query_without (doomed : Text → Bool) (u : Url) :
    (u.without doomed).query = u.query.filter fun p => !doomed p.1 := rfl

/-- Equal but for the way the query was written. -/
def same (u v : Url) : Bool :=
  u.scheme == v.scheme && u.authority == v.authority && u.path == v.path && u.query == v.query
    && u.fragment == v.fragment

/-- A mark and a part after it, or nothing if the part is empty. -/
def marked (mark : Char) (part : Text) : Text := if part.isEmpty then [] else mark :: part

/-- The authority and the path as they are written. -/
def hierarchy (scheme authority path : Text) : Text :=
  if !authority.isEmpty || (slashSchemes.contains scheme && !(['/', '/'].isPrefixOf path)) then
    let path := if path.isEmpty || ['/'].isPrefixOf path then path else '/' :: path
    '/' :: '/' :: (authority ++ path)
  else path

/-- The parts put together, with this text as the query. -/
def assemble (u : Url) (query : Text) : Text :=
  u.scheme ++ ':' :: (hierarchy u.scheme u.authority u.path ++ marked '?' query
    ++ marked '#' (u.fragment.getD []))

/-- The canonical text, whose query is form-encoded. -/
def serialize (u : Url) : Text := u.assemble (Form.encode u.query)

/-- The text that patterns are matched against: the query as written as long as it is known. -/
def href (u : Url) : Text := u.assemble (u.written.getD (Form.encode u.query))

end Url

end LinkCleaner
