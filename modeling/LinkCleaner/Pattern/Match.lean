import LinkCleaner.Pattern.Parse

/-!
Matching, by trying one way after another. A node is run on a state with what remains to be
matched after it; of several ways the first that leads to the end wins.
-/

namespace LinkCleaner.Pattern

/-- A position in a text, with what stands before it, backwards, and after it, and with the places
where groups last started and stopped. -/
structure State where
  before : Text
  after : Text
  index : Nat
  starts : List (Nat × Nat) := []
  stops : List (Nat × Nat) := []

namespace State

/-- The start of a text. -/
def ofText (s : Text) : State := { before := [], after := s, index := 0 }

def isAtEnd (s : State) : Bool := s.after.isEmpty

/-- The character before the position passes a test. -/
def beforeIs (p : Char → Bool) (s : State) : Bool :=
  match s.before with
  | [] => false
  | c :: _ => p c

def afterIs (p : Char → Bool) (s : State) : Bool :=
  match s.after with
  | [] => false
  | c :: _ => p c

def startGroup (n : Nat) (s : State) : State := { s with starts := (n, s.index) :: s.starts }

def stopGroup (n : Nat) (s : State) : State := { s with stops := (n, s.index) :: s.stops }

/-- Where a group started and stopped, if it has matched. -/
def group? (s : State) (n : Nat) : Option (Nat × Nat) :=
  match s.starts.lookup n, s.stops.lookup n with
  | some a, some b => if a ≤ b then some (a, b) else none
  | _, _ => none

/-- The position so many characters earlier. -/
def back? (n : Nat) (s : State) : Option State :=
  if s.index < n then none
  else some { s with
    before := s.before.drop n
    after := (s.before.take n).reverse ++ s.after
    index := s.index - n }

/-- The position one character later. -/
def next? (s : State) : Option (Char × State) :=
  match s.after with
  | [] => none
  | c :: r => some (c, { s with before := c :: s.before, after := r, index := s.index + 1 })

/-- The same position as another state, with the groups of this one. -/
def groupsAt (s place : State) : State := { place with starts := s.starts, stops := s.stops }

end State

/-- What remains to be matched. -/
abbrev Rest := State → Option State

/-- The part of a text between two positions. -/
def slice (whole : Text) (a b : Nat) : Text := (whole.drop a).take (b - a)

def Anchor.holds (m : Mode) (s : State) : Anchor → Bool
  | .start => s.before.isEmpty || (m.multiline && s.beforeIs (· == '\n'))
  | .textStart => s.before.isEmpty
  | .stop =>
    s.isAtEnd || s.after == ['\n'] || (m.multiline && s.afterIs (· == '\n'))
  | .textStop => s.isAtEnd
  | .boundary =>
    !(s.before.isEmpty && s.isAtEnd)
      && s.beforeIs (isWordChar m.ascii) != s.afterIs (isWordChar m.ascii)
  | .notBoundary =>
    !(s.before.isEmpty && s.isAtEnd)
      && s.beforeIs (isWordChar m.ascii) == s.afterIs (isWordChar m.ascii)

/-- Matches the characters of a text as they are, but for case. -/
def runText (m : Mode) : Text → State → Rest → Option State
  | [], s, k => k s
  | c :: r, s, k =>
    match s.next? with
    | none => none
    | some (d, t) => if m.fold c.toNat = m.fold d.toNat then runText m r t k else none

/-- Exactly `n` repetitions. -/
def runTimes (body : State → Rest → Option State) : Nat → State → Rest → Option State
  | 0, s, k => k s
  | n + 1, s, k => body s fun t => runTimes body n t k

/-- Up to `fuel` further repetitions, as many as can be. After one that matched nothing there is
no further one; `last` is where the last one started. -/
def runMore (body : State → Rest → Option State) : Nat → Option Nat → State → Rest → Option State
  | 0, _, s, k => k s
  | fuel + 1, last, s, k =>
    if last = some s.index then k s
    else
      match body s fun t => runMore body fuel (some s.index) t k with
      | some t => some t
      | none => k s

/-- Up to `fuel` further repetitions, as few as can be. -/
def runFewer (body : State → Rest → Option State) : Nat → Option Nat → State → Rest → Option State
  | 0, _, s, k => k s
  | fuel + 1, last, s, k =>
    match k s with
    | some t => some t
    | none =>
      if last = some s.index then none
      else body s fun t => runFewer body fuel (some s.index) t k

/-- Up to `fuel` further repetitions, each in the first way that it matches. -/
def takeMore (body : State → Rest → Option State) : Nat → State → State
  | 0, s => s
  | fuel + 1, s =>
    match body s some with
    | none => s
    | some t => if t.index = s.index then t else takeMore body fuel t

def takeTimes (body : State → Rest → Option State) : Nat → State → Option State
  | 0, s => some s
  | n + 1, s => (body s some).bind (takeTimes body n)

/-- How many optional repetitions can matter: each but the last consumes a character. -/
def optional (min : Nat) (max : Option Nat) (s : State) : Nat :=
  let room := s.after.length + 2
  match max with
  | none => room
  | some m => Nat.min (m - min) room

/-- Repetitions of a body, in the order of their greed. -/
def runMany (body : State → Rest → Option State) (min : Nat) (max : Option Nat) :
    Greed → State → Rest → Option State
  | .greedy, s, k => runTimes body min s fun t => runMore body (optional min max t) none t k
  | .lazy, s, k => runTimes body min s fun t => runFewer body (optional min max t) none t k
  | .possessive, s, k =>
    (takeTimes body min s).bind fun t => k (takeMore body (optional min max t) t)

/-- The first way in which a node, and then the rest, matches. -/
def run (whole : Text) : Node → State → Rest → Option State
  | .empty, s, k => k s
  | .fail, _, _ => none
  | .char m test, s, k =>
    match s.next? with
    | none => none
    | some (c, t) => if test.holds m c then k t else none
  | .anchor m kind, s, k => if kind.holds m s then k s else none
  | .seq a b, s, k => run whole a s fun t => run whole b t k
  | .alt a b, s, k =>
    match run whole a s k with
    | some t => some t
    | none => run whole b s k
  | .many min max greed body, s, k => runMany (run whole body) min max greed s k
  | .group none body, s, k => run whole body s k
  | .group (some n) body, s, k =>
    run whole body (s.startGroup n) fun t => k (t.stopGroup n)
  | .back m n, s, k =>
    match s.group? n with
    | none => none
    | some (a, b) => runText m (slice whole a b) s k
  | .look behind negated body, s, k =>
    match (s.back? (behind.getD 0)).bind fun t => run whole body t some with
    | some t => if negated then none else k (t.groupsAt s)
    | none => if negated then k s else none
  | .atomic body, s, k => (run whole body s some).bind k
  | .cond n yes no, s, k =>
    if (s.group? n).isSome then run whole yes s k else run whole no s k

end LinkCleaner.Pattern

namespace LinkCleaner

/-- Where a pattern matched: the start, and the state at the end. -/
structure Found where
  start : Nat
  state : Pattern.State

namespace Found

def stop (f : Found) : Nat := f.state.index

/-- The part of the text that a group matched. -/
def group? (f : Found) (whole : Text) (n : Nat) : Option Text :=
  (f.state.group? n).map fun (a, b) => Pattern.slice whole a b

end Found

namespace Pattern

/-- The match that starts at a position; `strict` refuses an empty one. -/
def matchAt (p : Pattern) (whole : Text) (strict : Bool) (s : State) : Option Found :=
  let s := { s with starts := [], stops := [] }
  (run whole p.node s fun t => if strict && t.index == s.index then none else some t).map
    fun t => ⟨s.index, t⟩

/-- The first match from a position on; `strict` refuses an empty one right there. -/
def searchFrom (p : Pattern) (whole : Text) (strict : Bool) (before : Text) (index : Nat) :
    Text → Option Found
  | [] => p.matchAt whole strict { before := before, after := [], index := index }
  | c :: r =>
    match p.matchAt whole strict { before := before, after := c :: r, index := index } with
    | some f => some f
    | none => p.searchFrom whole false (c :: before) (index + 1) r

/-- The leftmost match in a text. -/
def search (p : Pattern) (s : Text) : Option Found := p.searchFrom s false [] 0 s

/-- Whether the pattern matches anywhere in a text. -/
def occurs (p : Pattern) (s : Text) : Bool := (p.search s).isSome

/-- The text from a state on, without what matches there. -/
def deleteFrom (p : Pattern) (whole : Text) : Nat → Bool → State → Text
  | 0, _, s => s.after
  | fuel + 1, strict, s =>
    match p.searchFrom whole strict s.before s.index s.after with
    | none => s.after
    | some f =>
      slice whole s.index f.start
        ++ p.deleteFrom whole fuel (f.stop == f.start) f.state

/-- The text without the parts that match, of which none overlap. -/
def delete (p : Pattern) (s : Text) : Text :=
  p.deleteFrom s (2 * s.length + 2) false (State.ofText s)

end Pattern

end LinkCleaner
