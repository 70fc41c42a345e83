import LinkCleaner.Files
import LinkCleaner.Rules.Compile

/-!
The rules that were downloaded last, as a file keeps them: the document as it was served, the time
in milliseconds and the digest of the text.
-/

namespace LinkCleaner.Cache

open Json (Value Str)

structure Entry where
  rules : Value
  time : Nat
  digest : Text

def Entry.toValue (e : Entry) : Value :=
  .ofFields
    [("rules".toList, e.rules), ("ts".toList, .int e.time), ("hash".toList, .text e.digest)]

def save (p : Path) (e : Entry) (d : Disk) : Except Fault Unit × Disk :=
  d.replaceValue p e.toValue

/-- The fields that the file holds; a file without a record holds none. -/
def fields (d : Disk) (p : Path) : List (Str × Value) :=
  match d.readValue? p with
  | some (.obj fs) => fs
  | _ => []

/-- A field of the file, null if it is missing. -/
def field (d : Disk) (p : Path) (name : String) : Value :=
  (Value.field? (fields d p) name.toList).getD .null

/-- The rules that the file holds; empty ones count for none. -/
def rules? (d : Disk) (p : Path) : Option Value :=
  let v := field d p "rules"
  if v.truthy then some v else none

/-- The document to compile. -/
def document (d : Disk) (p : Path) : Value := (rules? d p).getD .null

/-- The compiled rules of the file. -/
def ruleset (d : Disk) (p : Path) : Except Fault (Option Rules.Ruleset) :=
  (Rules.compile (document d p)).mapError .pattern

/-- What compiling the rules of the file logs. -/
def events (d : Disk) (p : Path) : List Event := Rules.events (document d p)

end LinkCleaner.Cache
