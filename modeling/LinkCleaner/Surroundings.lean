import LinkCleaner.Event
import LinkCleaner.Files
import LinkCleaner.Variables

/-!
What an action finds around it and leaves behind, and actions themselves. An action that is stopped
keeps what it did until then.
-/

namespace LinkCleaner

/-- How a connection is set up: the seconds to wait for an answer, and a proxy. -/
structure Client where
  timeout : Decimal.Binary64
  proxy : Option Text := none
  deriving DecidableEq, Repr

structure Surroundings where
  disk : Disk := {}
  vars : Variables := []
  network : Http.Network := {}
  /-- The time in seconds. -/
  now : Nat := 0
  /-- The connections that were set up. -/
  clients : List Client := []
  /-- What was logged. -/
  journal : List Event := []
  /-- What was printed. -/
  printed : Text := []
  /-- The lines that were printed beside it. -/
  remarks : List Text := []

abbrev Act := ExceptT Fault (StateM Surroundings)

namespace Act

def run {α : Type} (a : Act α) (s : Surroundings) : Except Fault α × Surroundings :=
  StateT.run (ExceptT.run a) s

/-- An action on the disk alone. -/
def onDisk {α : Type} (f : Disk → Except Fault α × Disk) : Act α :=
  ExceptT.mk fun s =>
    let (r, d) := f s.disk
    (r, { s with disk := d })

/-- An action on the network alone. -/
def onNetwork {α : Type} (f : Http.Network → Except Fault α × Http.Network) : Act α :=
  ExceptT.mk fun s =>
    let (r, n) := f s.network
    (r, { s with network := n })

def log (e : Event) : Act Unit := modify fun s => { s with journal := s.journal ++ [e] }

def logAll (es : List Event) : Act Unit := modify fun s => { s with journal := s.journal ++ es }

def connect (c : Client) : Act Unit := modify fun s => { s with clients := s.clients ++ [c] }

/-- Prints a line. -/
def print (line : Text) : Act Unit :=
  modify fun s => { s with printed := s.printed ++ line ++ ['\n'] }

/-- Prints a line beside the output. -/
def remark (line : Text) : Act Unit := modify fun s => { s with remarks := s.remarks ++ [line] }

def ofExcept {α : Type} (r : Except Fault α) : Act α := ExceptT.mk (pure r)

theorem run_pure {α : Type} (x : α) (s : Surroundings) :
    (pure x : Act α).run s = (.ok x, s) := rfl

/-- One action after another: a fault stops them. -/
theorem run_bind {α β : Type} (a : Act α) (f : α → Act β) (s : Surroundings) :
    (a >>= f).run s =
      match a.run s with
      | (.ok x, t) => (f x).run t
      | (.error e, t) => (.error e, t) := by
  unfold run StateT.run ExceptT.run
  simp only [bind, ExceptT.bind, ExceptT.mk, StateT.bind, ExceptT.bindCont]
  obtain ⟨r, t⟩ := a s
  cases r <;> rfl

theorem run_get (s : Surroundings) : (get : Act Surroundings).run s = (.ok s, s) := rfl

theorem run_ofExcept {α : Type} (r : Except Fault α) (s : Surroundings) :
    (ofExcept r).run s = (r, s) := rfl

theorem run_onDisk {α : Type} (f : Disk → Except Fault α × Disk) (s : Surroundings) :
    (onDisk f).run s = ((f s.disk).1, { s with disk := (f s.disk).2 }) := rfl

theorem run_log (e : Event) (s : Surroundings) :
    (log e).run s = (.ok (), { s with journal := s.journal ++ [e] }) := rfl

end Act

end LinkCleaner
