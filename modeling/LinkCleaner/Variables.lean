import LinkCleaner.Text.Case

/-!
Named variables from outside, in the order in which they were first set. A variable may be named
without a value.
-/

namespace LinkCleaner

abbrev Variables := List (Text × Option Text)

namespace Variables

/-- The value of a variable, if it has one. -/
def get? (vs : Variables) (name : Text) : Option Text := (vs.lookup name).join

/-- Sets a variable: in its place if it is there, else at the end. -/
def set (vs : Variables) (name : Text) (value : Option Text) : Variables :=
  match vs with
  | [] => [(name, value)]
  | (n, v) :: r => if n = name then (n, value) :: r else (n, v) :: set r name value

def unset (vs : Variables) (name : Text) : Variables := vs.filter fun v => v.1 != name

/-- The value of a name in letters of any case; of several the last counts. -/
def ofAnyCase? (vs : Variables) (name : Text) : Option Text :=
  (vs.reverse.find? fun v => Text.lower v.1 == name).bind (·.2)

end Variables

end LinkCleaner
