import LinkCleaner.Text.Basic

/-!
Files and directories. A path is written with slashes; its place is the list of names that lead
there from the working directory.
-/

namespace LinkCleaner

/-- A path as it is written: an optional root, and the names after it. -/
structure Path where
  root : Text := []
  parts : List Text
  deriving DecidableEq, Repr

/-- The names that lead to a file or a directory. -/
abbrev Place := List Text

namespace Path

/-- A path starts at the root if it is written with a slash in front; two slashes, but not more,
are a root of their own. -/
def rootOf : Text → Text
  | '/' :: '/' :: '/' :: _ => ['/']
  | '/' :: '/' :: _ => ['/', '/']
  | '/' :: _ => ['/']
  | _ => []

/-- Reads a path; empty names and those that are a single dot count for nothing. -/
def ofText (s : Text) : Path :=
  { root := rootOf s
    parts := (Text.pieces '/' s).filter fun p => !p.isEmpty && p != ['.'] }

def toText (p : Path) : Text :=
  let s := p.root ++ Text.join ['/'] p.parts
  if s.isEmpty then ['.'] else s

def child (p : Path) (name : Text) : Path := { p with parts := p.parts ++ [name] }

def parent (p : Path) : Path := { p with parts := p.parts.dropLast }

/-- The path beside this one whose name ends in `.tmp`; a path without a name has none. -/
def temporary? (p : Path) : Option Path :=
  p.parts.getLast?.map fun name => p.parent.child (name ++ ".tmp".toList)

/-- Two dots lead back to the directory above. -/
def place (p : Path) : Place :=
  let start := if p.root.isEmpty then [] else [p.root]
  p.parts.foldl
    (fun above name => if name = ['.', '.'] then above.dropLast else above ++ [name]) start

/-- The path that leads straight to a place. -/
def ofPlace : Place → Path
  | [] => { parts := [] }
  | name :: rest =>
    if ['/'].isPrefixOf name then { root := name, parts := rest } else { parts := name :: rest }

end Path

inductive FileNode where
  | dir
  | file (bytes : List UInt8)
  deriving DecidableEq, Repr

inductive DiskError where
  | missing
  | isDirectory
  | notDirectory
  | taken
  /-- The path has no name that a file could have. -/
  | noName
  deriving DecidableEq, Repr

/-- What is on the disk, in the order in which it came there. -/
structure Disk where
  nodes : List (Place × FileNode) := []
  deriving DecidableEq, Repr

namespace Disk

/-- What is at a place; the working directory itself is always there. -/
def at? (d : Disk) (p : Place) : Option FileNode :=
  if p = [] then some .dir else d.nodes.lookup p

def put (d : Disk) (p : Place) (n : FileNode) : Disk :=
  { nodes := d.nodes.filter (fun e => e.1 != p) ++ [(p, n)] }

def remove (d : Disk) (p : Place) : Disk := { nodes := d.nodes.filter fun e => e.1 != p }

theorem at?_put_self {d : Disk} {p : Place} (h : p ≠ []) (n : FileNode) :
    (d.put p n).at? p = some n := by
  have hn : (d.nodes.filter fun e => e.1 != p).lookup p = none := by
    rw [List.lookup_eq_none_iff]
    intro e he
    simpa using Ne.symm (by simpa using (List.mem_filter.1 he).2)
  simp [at?, put, h, List.lookup_append, hn]

/-- Whether a file stands where a directory would have to be on the way to a place. -/
def isBlocked (d : Disk) (p : Place) : Bool :=
  (List.range p.length).any fun i =>
    match d.at? (p.take i) with
    | some (.file _) => true
    | _ => false

/-- What is at a place, or why nothing can be found there. -/
def find (d : Disk) (p : Place) : Except DiskError FileNode :=
  if d.isBlocked p then .error .notDirectory
  else
    match d.at? p with
    | none => .error .missing
    | some n => .ok n

def holds (d : Disk) (p : Place) : Bool := (d.find p).toOption.isSome

/-- The contents of a file. -/
def read (d : Disk) (p : Place) : Except DiskError (List UInt8) :=
  match d.find p with
  | .error e => .error e
  | .ok .dir => .error .isDirectory
  | .ok (.file bytes) => .ok bytes

/-- Makes a directory and all those above it that are missing. -/
def makeDirs (d : Disk) (p : Place) : Except DiskError Disk :=
  if d.isBlocked p then .error .notDirectory
  else
    match d.at? p with
    | some (.file _) => .error .taken
    | _ =>
      .ok ((List.range p.length).foldl
        (fun d i =>
          let q := p.take (i + 1)
          if (d.at? q).isSome then d else d.put q .dir)
        d)

/-- Writes a file into a directory that is there. -/
def write (d : Disk) (p : Place) (bytes : List UInt8) : Except DiskError Disk :=
  if d.isBlocked p then .error .notDirectory
  else
    match d.at? p, d.at? p.dropLast with
    | some .dir, _ => .error .isDirectory
    | _, none => .error .missing
    | _, _ => .ok (d.put p (.file bytes))

/-- Moves a file to another place, where it replaces a file. -/
def move (d : Disk) (source target : Place) : Except DiskError Disk :=
  match d.at? source, d.at? target with
  | some (.file _), some .dir => .error .isDirectory
  | some (.file bytes), _ => .ok ((d.remove source).put target (.file bytes))
  | _, _ => .error .missing

/-- The places of all files. -/
def files (d : Disk) : List Place :=
  d.nodes.filterMap fun (p, n) =>
    match n with
    | .file _ => some p
    | .dir => none

end Disk

end LinkCleaner
