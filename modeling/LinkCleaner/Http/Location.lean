import LinkCleaner.Url.Parse

/-!
Where a redirection leads: a reference is resolved against the URL that gave it.
-/

namespace LinkCleaner.Http

open Url (Parts)

/-- The path of a reference that does not start at the root, put after the base's directories. -/
def mergedSegments (base path : Text) : List Text :=
  let segments := Text.pieces '/' path
  if ['/'].isPrefixOf path then segments
  else
    let before := Text.pieces '/' base
    let before := if (before.getLast?.getD []).isEmpty then before else before.dropLast
    before ++ segments

/-- Empty segments go, but for the first and the last. -/
def squeeze (segments : List Text) : List Text :=
  match segments with
  | [] => []
  | [s] => [s]
  | s :: rest => s :: (rest.dropLast.filter fun t => !t.isEmpty) ++ [rest.getLastD []]

/-- Dots are followed: one stays, two lead up. -/
def followDots (segments : List Text) : List Text :=
  segments.foldl
    (fun done s =>
      if s = ['.', '.'] then done.dropLast else if s = ['.'] then done else done ++ [s])
    []

def resolvedPath (base path : Text) : Text :=
  let segments := squeeze (mergedSegments base path)
  let done := followDots segments
  let last := segments.getLastD []
  let done := if last = ['.'] ∨ last = ['.', '.'] then done ++ [[]] else done
  let joined := Text.join ['/'] done
  if joined.isEmpty then ['/'] else joined

def Parts.toText (p : Parts) : Text :=
  p.scheme ++ ':' :: (Url.hierarchy p.scheme p.authority p.path ++ Url.marked '?' p.query
    ++ Url.marked '#' p.fragment)

/-- The parts of the URL that a reference names, seen from a base. -/
def resolveParts (base reference : Parts) : Parts :=
  if !reference.scheme.isEmpty && reference.scheme != base.scheme then reference
  else if !reference.authority.isEmpty then { reference with scheme := base.scheme }
  else if reference.path.isEmpty then
    { base with
      query := if reference.query.isEmpty then base.query else reference.query
      fragment := reference.fragment }
  else
    { scheme := base.scheme
      authority := base.authority
      path := resolvedPath base.path reference.path
      query := reference.query
      fragment := reference.fragment }

/-- The URL that a redirection from `base` leads to; a fragment is carried along. -/
def resolve (base reference : Text) : Text :=
  let b := Url.splitParts base
  let p := resolveParts b (Url.splitParts reference)
  Parts.toText { p with fragment := if p.fragment.isEmpty then b.fragment else p.fragment }

end LinkCleaner.Http
