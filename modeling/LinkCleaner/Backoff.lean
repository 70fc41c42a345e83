import LinkCleaner.Files
import LinkCleaner.Lenient.Number

/-!
When to try again. Each failure in a row makes the wait before the next try longer, up to an hour;
how many there were is kept in a file.
-/

namespace LinkCleaner.Backoff

open Json (Value)

/-- The minutes to wait after the first failure in a row, the second, and so on. -/
def delays : List Nat := [1, 5, 15, 30, 60]

/-- The place of the longest wait. -/
def last : Nat := delays.length - 1

/-- The place of the wait after so many failures. -/
def place (failures : Nat) : Nat := min failures last

/-- The minutes to wait after so many failures. -/
def delay (failures : Nat) : Nat := delays.getD (place failures) 0

/-- The failures that are kept after one more; beyond the last place they are not counted. -/
def next (failures : Nat) : Nat := min (place failures + 1) last

theorem next_le_last (n : Nat) : next n ≤ last := Nat.min_le_right _ _

/-- The minutes between refreshes that succeed. -/
def daily : Nat := 60 * 24

def fieldName : Text := "backoff_index".toList

def toValue (failures : Nat) : Value := .ofFields [(fieldName, .int failures)]

/-- Reads the failures in a row from loose fields. -/
def read (fields : List (Json.Str × Value)) : Except Lenient.FieldIssue Nat :=
  Lenient.optional Lenient.count 0 fields fieldName

/-- The failures in a row that a file tells of; one that cannot be read tells of none. -/
def load (d : Disk) (p : Path) : Nat :=
  match d.readValue? p with
  | some (.obj fields) => (read fields).toOption.getD 0
  | _ => 0

def save (p : Path) (failures : Nat) (d : Disk) : Except Fault Unit × Disk :=
  d.replaceValue p (toValue failures)

end LinkCleaner.Backoff
