import LinkCleaner.Lenient
import LinkCleaner.Text.Case

/-!
What a caller may ask for: parameters to keep or to remove, referral parameters, the fragment.
Names of parameters are held in small letters.
-/

namespace LinkCleaner

open Json (Value Str)

/-- Names of parameters; order and repetition do not matter. -/
abbrev Names := List Text

structure CleaningOptions where
  keep : Names := []
  remove : Names := []
  /-- Whether the built-in referral parameters go. -/
  removeReferral : Bool := true
  /-- Whether the rules leave referral parameters alone. -/
  allowReferral : Bool := false
  /-- Whether the fragment is cleaned; else it is dropped. -/
  cleanHash : Bool := true
  deriving DecidableEq, Repr

inductive OptionsError where
  | notNames
  | repeated (field : Text)
  | invalid (issues : List Lenient.FieldIssue)
  deriving DecidableEq, Repr

/-- The names in a loose value: none, one, the members of a list or the fields of a record. -/
def Names.read : Value → Except OptionsError Names
  | .null => .ok []
  | .str s => .ok [Text.lower (Str.toText s)]
  | .arr vs => .ok (vs.map fun v => Text.lower v.shown)
  | .obj fs => .ok (fs.map fun f => Text.lower (Str.toText f.1))
  | _ => .error .notNames

def Names.readField (fields : List (Str × Value)) (name : Text) : Except OptionsError Names :=
  match Value.field? fields name with
  | none => .ok []
  | some v => Names.read v

def CleaningOptions.read (fields : List (Str × Value)) : Except OptionsError CleaningOptions := do
  let keep ← Names.readField fields "keep_params".toList
  let remove ← Names.readField fields "extra_bad_params".toList
  let referral := Lenient.optional Lenient.switch true fields "remove_referral".toList
  let allow := Lenient.optional Lenient.switch false fields "allow_referral".toList
  let hash := Lenient.optional Lenient.switch true fields "clean_hash".toList
  match referral, allow, hash with
  | .ok r, .ok a, .ok h => return ⟨keep, remove, r, a, h⟩
  | _, _, _ =>
    .error (.invalid (Lenient.issue referral ++ Lenient.issue allow ++ Lenient.issue hash))

/-- The options that are kept between runs. -/
structure UserOptions where
  removeReferral : Bool := true
  cleanHash : Bool := true
  deriving DecidableEq, Repr

namespace UserOptions

def read (fields : List (Str × Value)) : Except (List Lenient.FieldIssue) UserOptions :=
  let referral := Lenient.optional Lenient.switch true fields "remove_referral".toList
  let hash := Lenient.optional Lenient.switch true fields "clean_hash".toList
  match referral, hash with
  | .ok r, .ok h => .ok ⟨r, h⟩
  | _, _ => .error (Lenient.issue referral ++ Lenient.issue hash)

/-- The cleaning options of a user, with parameters to keep and to remove. -/
def cleaning (u : UserOptions) (keep remove : Names) : CleaningOptions :=
  { keep := keep.map Text.lower
    remove := remove.map Text.lower
    removeReferral := u.removeReferral
    allowReferral := !u.removeReferral
    cleanHash := u.cleanHash }

/-- The fields that a user's options already decide. -/
def decided : List Text :=
  ["remove_referral".toList, "allow_referral".toList, "clean_hash".toList]

/-- The cleaning options of a user, with further loose fields that may not repeat a decided one. -/
def cleaningWith (u : UserOptions) (fields : List (Str × Value)) :
    Except OptionsError CleaningOptions :=
  match decided.find? fun name => (Value.field? fields name).isSome with
  | some name => .error (.repeated name)
  | none => do
    let keep ← Names.readField fields "keep_params".toList
    let remove ← Names.readField fields "extra_bad_params".toList
    return u.cleaning keep remove

end UserOptions

end LinkCleaner
