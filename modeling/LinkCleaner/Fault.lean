import LinkCleaner.Disk
import LinkCleaner.Http.Network
import LinkCleaner.Json.Reader
import LinkCleaner.Lenient
import LinkCleaner.Pattern.Parse
import LinkCleaner.Yaml.Cursor

/-!
What can stop an action: the disk, a text that has no bytes or bytes that have no text, a download,
or a document that does not say what it should.
-/

namespace LinkCleaner

inductive Fault where
  | disk (e : DiskError)
  /-- A text with half a surrogate pair cannot be written. -/
  | unwritable
  /-- Bytes that are no text. -/
  | unreadable
  | fetch (url : Text) (fault : Http.FetchFault)
  | integrity (expected actual : Text)
  | malformedRules (document : Text) (fault : Json.Fault)
  | pattern (refusal : Pattern.Refusal)
  | invalid (issues : List Lenient.FieldIssue)
  | yaml (fault : Yaml.Fault)
  /-- The options are not a record with plain names. -/
  | notFields
  deriving DecidableEq, Repr

namespace Fault

/-- A refresh that fails for one of these is tried again later. -/
def concernsRules : Fault → Bool
  | .fetch .. | .integrity .. | .malformedRules .. => true
  | _ => false

/-- The wording of the faults that concern the rules. -/
def message : Fault → Text
  | .fetch url fault => fault.message url
  | .integrity expected actual =>
    "Rules hash mismatch: expected ".toList ++ expected ++ ", got ".toList ++ actual
  | .malformedRules document fault =>
    "Rules JSON parse error: ".toList ++ fault.message document
  | _ => []

end Fault

end LinkCleaner
