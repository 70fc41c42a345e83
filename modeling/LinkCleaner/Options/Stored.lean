import LinkCleaner.Options
import LinkCleaner.Surroundings
import LinkCleaner.Yaml.Datum

/-!
The options that a file keeps between runs. Two variables override what the file says.
-/

namespace LinkCleaner

open Json (Value Str)

/-- A datum as a loose value. Bytes stand for the text that they write; a moment and a collection
are no value that an option could have. -/
def Yaml.Datum.loose : Yaml.Datum → Value
  | .null => .null
  | .bool b => .bool b
  | .int n => .int n
  | .float x => .float x
  | .text s => .text s
  | .bytes bs => .text (Text.ofUtf8Lossy bs)
  | _ => .arr []

namespace UserOptions

/-- A pair as a field, if its key is a text. -/
def fieldOf? : Yaml.Datum × Yaml.Datum → Option (Str × Value)
  | (.text name, v) => some (Str.ofText name, v.loose)
  | _ => none

/-- The fields that a document gives; one that says nothing gives none. -/
def fieldsOf (d : Yaml.Datum) : Except Fault (List (Str × Value)) :=
  if !d.truthy then .ok []
  else
    match d with
    | .map pairs =>
      match pairs.mapM fieldOf? with
      | some fs => .ok (Value.collect fs)
      | none => .error .notFields
    | _ => .error .notFields

/-- The options in the text of a file. -/
def ofText (s : Text) : Except Fault UserOptions := do
  let d ← (Yaml.Datum.read s).mapError .yaml
  let fields ← fieldsOf d
  (read fields).mapError .invalid

/-- The text of a file that keeps options. -/
def toText (u : UserOptions) : Text :=
  let word (b : Bool) := if b then "true\n".toList else "false\n".toList
  "clean_hash: ".toList ++ word u.cleanHash ++ "remove_referral: ".toList ++ word u.removeReferral

/-- The options that a file keeps; where there is none, the defaults. -/
def persisted (d : Disk) (p : Path) : Except Fault UserOptions :=
  if d.holds p.place then do ofText (← d.readText p) else .ok {}

/-- Words that turn an option on; all others turn it off. -/
def onWords : List Text := ["1".toList, "true".toList, "yes".toList, "on".toList]

def isOn (s : Text) : Bool := onWords.contains (Text.lower (Text.trim s))

def referralVariable : Text := "NUDELINK_REMOVE_REFERRAL".toList

def hashVariable : Text := "NUDELINK_CLEAN_HASH".toList

/-- The options with what the variables say instead. -/
def overridden (vs : Variables) (u : UserOptions) : UserOptions :=
  { removeReferral := ((vs.get? referralVariable).map isOn).getD u.removeReferral
    cleanHash := ((vs.get? hashVariable).map isOn).getD u.cleanHash }

/-- The options that hold in these surroundings. -/
def find (p : Path) (s : Surroundings) : Except Fault UserOptions :=
  (persisted s.disk p).map (overridden s.vars)

def load (p : Path) : Act UserOptions := do Act.ofExcept (find p (← get))

/-- Keeps the options in a file. -/
def save (p : Path) (u : UserOptions) : Act Unit := Act.onDisk (Disk.replace p (some u.toText))

/-- Options with some of them set. -/
def set (u : UserOptions) (referral hash : Option Bool) : UserOptions :=
  { removeReferral := referral.getD u.removeReferral
    cleanHash := hash.getD u.cleanHash }

end UserOptions

end LinkCleaner
