import LinkCleaner.Pattern.Lexeme

/-!
Reading a pattern: lexemes are taken one by one, and a parenthesis keeps what was read around it
until it closes. Flaws that only show in the whole expression are noted and count at the end.
-/

namespace LinkCleaner.Pattern

/-- The least and the greatest number of characters that a part can match. -/
structure Width where
  least : Nat
  greatest : Nat
  deriving DecidableEq, Repr

namespace Width

/-- Widths stop growing at the limit of counts. -/
def capped (least greatest : Nat) : Width :=
  ⟨min least (countLimit - 1), min greatest countLimit⟩

def zero : Width := ⟨0, 0⟩

def isFixed (w : Width) : Bool := w.least == w.greatest

end Width

/-- The width of a node, given those of the groups. -/
def Node.width (groups : Nat → Width) : Node → Width
  | .empty | .fail | .anchor .. | .look .. => .zero
  | .char .. => ⟨1, 1⟩
  | .seq a b =>
    let v := a.width groups
    let w := b.width groups
    .capped (v.least + w.least) (v.greatest + w.greatest)
  | .alt a b | .cond _ a b =>
    let v := a.width groups
    let w := b.width groups
    .capped (min v.least w.least) (max v.greatest w.greatest)
  | .many least greatest _ a =>
    let v := a.width groups
    .capped (v.least * least) (v.greatest * greatest.getD countLimit)
  | .group _ a | .atomic a => a.width groups
  | .back _ n => groups n

/-- What was read at one place of a sequence. A plain group dissolves into what it holds, but not
before its place is known to be left alone. -/
inductive Item where
  | node (n : Node)
  | plain (ns : List Node)

def seqOf : List Node → Node
  | [] => .empty
  | [n] => n
  | n :: ns => .seq n (seqOf ns)

def altOf : List (List Node) → Node
  | [] => .empty
  | [ns] => seqOf ns
  | ns :: rest => .alt (seqOf ns) (altOf rest)

def Item.nodes : Item → List Node
  | .node n => [n]
  | .plain ns => ns

/-- The node that a count after the item repeats. -/
def Item.repeated? : Item → Option Node
  | .node (.anchor ..) => none
  | .node (.many ..) => none
  | .node n => some n
  | .plain ns => some (seqOf ns)

/-- Nodes without parts of their own. -/
def Node.isLeaf : Node → Bool
  | .char .. | .anchor .. | .back .. => true
  | _ => false

/-- The leaf that all alternatives begin with. -/
def commonHead? : List (List Node) → Option Node
  | [] => none
  | alts@((n :: _) :: _) =>
    if n.isLeaf && alts.all fun ns => ns.head? == some n then some n else none
  | _ => none

/-- The members that an alternative of one character adds to a set. -/
def setItems? : List Node → Option (List SetItem)
  | [.char _ (.one code false)] => some [.single code]
  | [.char _ (.oneOf items false)] => some items
  | _ => none

/-- Alternatives of one character each make a set. -/
def mergedSet? (mode : Mode) (alts : List (List Node)) : Option Node :=
  (alts.mapM setItems?).map fun items => .char mode (.oneOf items.flatten.eraseDups false)

/-- The nodes of alternatives; what all of them begin with is taken out in front. -/
def nodesOfAlts (mode : Mode) : Nat → List (List Node) → List Node
  | 0, alts => [altOf alts]
  | fuel + 1, alts =>
    match commonHead? alts with
    | some n => n :: nodesOfAlts mode fuel (alts.map List.tail)
    | none => [(mergedSet? mode alts).getD (altOf alts)]

/-- What has been read inside one pair of parentheses: whole alternatives and the one under way,
both backwards. -/
structure Level where
  mode : Mode
  alts : List (List Node) := []
  items : List Item := []

namespace Level

def current (l : Level) : List Node := l.items.reverse.flatMap Item.nodes

/-- The alternatives in order. -/
def all (l : Level) : List (List Node) := l.alts.reverse ++ [l.current]

def nodes (l : Level) : List Node :=
  match l.all with
  | [ns] => ns
  | alts => nodesOfAlts l.mode (alts.headD []).length alts

def push (l : Level) (i : Item) : Level := { l with items := i :: l.items }

def bar (l : Level) : Level := { l with alts := l.current :: l.alts, items := [] }

/-- Nothing has been read yet. -/
def untouched (l : Level) : Bool := l.alts.isEmpty && l.items.isEmpty

end Level

/-- What a closing parenthesis makes of what it holds. -/
inductive Opening where
  | capture (n : Nat)
  | plain (own : Bool)
  | atomic
  | look (behind negated outermost : Bool)
  | condition (n : Nat)

/-- The pattern as far as it is read. -/
structure Parsing where
  level : Level
  outer : List (Opening × Level) := []
  groups : Nat := 1
  closed : List (Nat × Width) := []
  names : List (Text × Nat) := []
  /-- Inside a look behind: the number of groups before it. -/
  behindFrom : Option Nat := none
  /-- Groups that conditions ask about by number. -/
  asked : List Nat := []
  flags : Text := []
  counted : Bool := false
  flawed : Bool := false

namespace Parsing

def widthOf (p : Parsing) (n : Nat) : Width := (p.closed.lookup n).getD .zero

def isClosed (p : Parsing) (n : Nat) : Bool := (p.closed.lookup n).isSome

def push (p : Parsing) (i : Item) : Parsing := { p with level := p.level.push i }

def enter (p : Parsing) (o : Opening) (mode : Mode) : Parsing :=
  { p with level := { mode := mode }, outer := (o, p.level) :: p.outer }

/-- Inside a look behind, only groups that were closed before it may be referred to. -/
def checkBehind (p : Parsing) (n : Nat) : Except Refusal Unit :=
  match p.behindFrom with
  | none => .ok ()
  | some g => if p.isClosed n && n < g then .ok () else .error .malformed

/-- Both alphabets were chosen for the whole pattern. -/
def isMixed (p : Parsing) : Bool := p.flags.contains 'a' && p.flags.contains 'u'

/-- A parenthesis that closes nothing ends the reading, after the flags are checked. -/
def strayClose (p : Parsing) : Refusal := if p.isMixed then .mixedAlphabets else .malformed

def withFlags (m : Mode) (added removed : Text) : Mode :=
  { ignoreCase := (m.ignoreCase || added.contains 'i') && !removed.contains 'i'
    ascii := if added.contains 'a' then true else if added.contains 'u' then false else m.ascii
    multiline := (m.multiline || added.contains 'm') && !removed.contains 'm'
    dotAll := (m.dotAll || added.contains 's') && !removed.contains 's' }

/-- The item that a group makes when it closes, in the level around it. -/
def closeGroup (p : Parsing) (o : Opening) (around : Level) (rest : List (Opening × Level)) :
    Parsing :=
  let nodes := p.level.nodes
  let body := seqOf nodes
  let width := body.width p.widthOf
  let p' := { p with level := around, outer := rest }
  match o with
  | .capture n =>
    { p' with closed := (n, width) :: p.closed }.push (.node (.group (some n) body))
  | .plain false => p'.push (.plain nodes)
  | .plain true => p'.push (.node (.group none body))
  | .atomic => p'.push (.node (.atomic body))
  | .look behind negated outermost =>
    let node :=
      if negated && nodes.isEmpty then .fail
      else .look (if behind then some width.least else none) negated body
    { p' with
      flawed := p.flawed || (behind && !(negated && nodes.isEmpty) && !width.isFixed)
      behindFrom := if outermost then none else p.behindFrom }.push (.node node)
  | .condition n =>
    match p.level.all with
    | yes :: no :: _ => p'.push (.node (.cond n (seqOf yes) (seqOf no)))
    | alts => p'.push (.node (.cond n (altOf alts) .empty))

def reference (p : Parsing) (g : GroupName) : Except Refusal Parsing :=
  let n? :=
    match g with
    | .name s => p.names.lookup s
    | .number n => some n
  match n? with
  | none => .error .malformed
  | some n =>
    if !p.isClosed n then .error .malformed
    else do
      p.checkBehind n
      return p.push (.node (.back p.level.mode n))

def openCondition (p : Parsing) (g : GroupName) : Except Refusal Parsing :=
  match g with
  | .name s =>
    match p.names.lookup s with
    | none => .error .malformed
    | some n => do
      p.checkBehind n
      return p.enter (.condition n) p.level.mode
  | .number n => do
    p.checkBehind n
    return { p with asked := n :: p.asked }.enter (.condition n) p.level.mode

def openCapture (p : Parsing) (name : Option Text) : Except Refusal Parsing :=
  let n := p.groups
  let p := { p with groups := n + 1 }
  match name with
  | none => .ok (p.enter (.capture n) p.level.mode)
  | some s =>
    if (p.names.lookup s).isSome then .error .malformed
    else .ok ({ p with names := (s, n) :: p.names }.enter (.capture n) p.level.mode)

def openLook (p : Parsing) (behind negated : Bool) : Parsing :=
  let outermost := behind && p.behindFrom.isNone
  { p with behindFrom := if outermost then some p.groups else p.behindFrom }.enter
    (.look behind negated outermost) p.level.mode

/-- Repeats the last item. -/
def count (p : Parsing) (min : Nat) (max : Option Nat) (greed : Greed) :
    Except Refusal Parsing :=
  match p.level.items with
  | [] => .error .malformed
  | i :: items =>
    match i.repeated? with
    | none => .error .malformed
    | some n =>
      .ok { p with
        level := { p.level with items := .node (.many min max greed n) :: items }
        counted := true }

/-- An alternative; a condition has at most two. -/
def bar (p : Parsing) : Except Refusal Parsing :=
  match p.outer with
  | (.condition _, _) :: _ =>
    if p.level.alts.isEmpty then .ok { p with level := p.level.bar } else .error .malformed
  | _ => .ok { p with level := p.level.bar }

/-- Flags for the whole pattern stand at its very start. -/
def globalFlags (p : Parsing) (added : Text) : Except Refusal Parsing :=
  if p.outer.isEmpty && p.level.untouched then
    .ok { p with
      level := { p.level with mode := withFlags p.level.mode added [] }
      flags := p.flags ++ added }
  else .error .malformed

def step (p : Parsing) : Lexeme → Except Refusal Parsing
  | .literal code => .ok (p.push (.node (.char p.level.mode (.one code false))))
  | .any => .ok (p.push (.node (.char p.level.mode .any)))
  | .set [.single code] true => .ok (p.push (.node (.char p.level.mode (.one code true))))
  | .set items negated => .ok (p.push (.node (.char p.level.mode (.oneOf items negated))))
  | .anchor kind => .ok (p.push (.node (.anchor p.level.mode kind)))
  | .reference g => p.reference g
  | .openGroup name => p.openCapture name
  | .openPlain added removed =>
    .ok (p.enter (.plain (!added.isEmpty || !removed.isEmpty))
      (withFlags p.level.mode added removed))
  | .openAtomic => .ok (p.enter .atomic p.level.mode)
  | .openLook behind negated => .ok (p.openLook behind negated)
  | .openCondition g => p.openCondition g
  | .flags added => p.globalFlags added
  | .close =>
    match p.outer with
    | [] => .error p.strayClose
    | (o, around) :: rest => .ok (p.closeGroup o around rest)
  | .bar => p.bar
  | .count min max greed => p.count min max greed
  | .fault r => .error r

/-- The expression, if nothing is left open and no flaw was noted. -/
def finish (p : Parsing) : Except Refusal Node :=
  if !p.outer.isEmpty then .error .malformed
  else if p.isMixed then .error .mixedAlphabets
  else if p.asked.any fun n => p.groups ≤ n then .error .malformed
  else if p.flawed || (p.counted && p.flags.contains 't') then .error .malformed
  else .ok (seqOf p.level.nodes)

end Parsing

/-- Patterns are read without regard to case. -/
def startMode : Mode := { ignoreCase := true }

/-- Reads a pattern. -/
def parse (source : Text) : Except Refusal Pattern := do
  let p ← (lex source).foldlM Parsing.step { level := { mode := startMode } }
  let node ← p.finish
  return { source := source, groups := p.groups - 1, node := node }

end LinkCleaner.Pattern
