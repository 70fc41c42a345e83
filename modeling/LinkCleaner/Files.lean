import LinkCleaner.Fault
import LinkCleaner.Json.Writer
import LinkCleaner.Text.Utf8

/-!
Files that hold text and values. A file is replaced in one stroke: the new contents are written
beside it and then moved over it, so that no reader sees half of them.
-/

namespace LinkCleaner.Disk

open Json (Value)

/-- The text of a file. -/
def readText (d : Disk) (p : Path) : Except Fault Text :=
  match d.read p.place with
  | .error e => .error (.disk e)
  | .ok bytes =>
    match Text.ofUtf8? bytes with
    | none => .error .unreadable
    | some s => .ok s

/-- The value in a file, if it holds one. -/
def readValue? (d : Disk) (p : Path) : Option Value :=
  match d.readText p with
  | .error _ => none
  | .ok s => (Json.readDocument s).toOption

/-- Replaces a file. Contents that have no bytes leave an empty file beside it. -/
def replace (p : Path) (contents : Option Text) (d : Disk) : Except Fault Unit × Disk :=
  match d.makeDirs p.parent.place with
  | .error e => (.error (.disk e), d)
  | .ok d =>
    match p.temporary? with
    | none => (.error (.disk .noName), d)
    | some t =>
      match d.write t.place (Text.utf8 (contents.getD [])) with
      | .error e => (.error (.disk e), d)
      | .ok d =>
        match contents with
        | none => (.error .unwritable, d)
        | some _ =>
          match d.move t.place p.place with
          | .error e => (.error (.disk e), d)
          | .ok d => (.ok (), d)

/-- The text of a value, if it has bytes. -/
def textOf? (v : Value) : Option Text :=
  if v.isText then some (Json.write .spaced v) else none

/-- Replaces a file by one that holds a value. -/
def replaceValue (p : Path) (v : Value) (d : Disk) : Except Fault Unit × Disk :=
  d.replace p (textOf? v)

end LinkCleaner.Disk
