import LinkCleaner.Yaml.Token

/-!
The nodes of a YAML document. A name that stands for an earlier node is replaced by that node; the
place of one that holds itself is marked.
-/

namespace LinkCleaner.Yaml

inductive Node where
  | scalar (tag : Option Text) (text : Text) (isPlain : Bool)
  | seq (tag : Option Text) (items : List Node)
  | map (tag : Option Text) (pairs : List (Node × Node))
  /-- A collection that is not yet complete where it is named. -/
  | cycle

/-- A scalar of which there is nothing to see. -/
def Node.empty : Node := .scalar none [] true

/-- The reader of nodes. -/
structure Grammar where
  tokens : List Token
  /-- The nodes with names; one under way has none yet. -/
  anchors : List (Text × Option Node) := []
  handles : List (Text × Text)

abbrev Reading := StateT Grammar (Except Fault)

namespace Reading

def refuse {α : Type} (f : Fault) : Reading α := fun _ => .error f

def peek : Reading (Option Token) := do return (← get).tokens.head?

/-- Drops a token. Where the reader of tokens stopped, nothing can be read. -/
def drop : Reading Unit := modify fun g => { g with tokens := g.tokens.drop 1 }

/-- Drops a token if it is this one. -/
def accept (t : Token) : Reading Bool := do
  if (← peek) = some t then
    drop
    return true
  else return false

/-- Drops a token that has to be this one. -/
def expect (t : Token) : Reading Unit := do
  if !(← accept t) then
    match (← peek) with
    | some (.fault f) => refuse f
    | _ => refuse .malformed

/-- Whether the next token is one of those; where the reader of tokens stopped, reading stops. -/
def nextIn (ts : List Token) : Reading Bool := do
  match (← peek) with
  | some (.fault f) => refuse f
  | some t => return ts.contains t
  | none => return false

def anchor? : Reading (Option Text) := do
  match (← peek) with
  | some (.anchor name) =>
    drop
    return some name
  | _ => return none

/-- The whole name of a tag. -/
def tag? : Reading (Option Text) := do
  match (← peek) with
  | some (.tag handle suffix) =>
    drop
    match handle with
    | none => return some suffix
    | some h =>
      match (← get).handles.lookup h with
      | some start => return some (start ++ suffix)
      | none => refuse .malformed
  | _ => return none

/-- A name and a tag, in either order. -/
def properties : Reading (Option Text × Option Text) := do
  match (← anchor?) with
  | some a => return (some a, ← tag?)
  | none =>
    match (← tag?) with
    | some t => return (← anchor?, some t)
    | none => return (none, none)

/-- Gives a name to a node; a name may be given once. -/
def declare (name : Option Text) : Reading Unit := do
  match name with
  | none => return ()
  | some a =>
    if ((← get).anchors.lookup a).isSome then refuse .malformed
    else modify fun g => { g with anchors := (a, none) :: g.anchors }

def complete (name : Option Text) (n : Node) : Reading Node := do
  match name with
  | none => return n
  | some a =>
    modify fun g => { g with
      anchors := g.anchors.map fun e => if e.1 = a then (a, some n) else e }
    return n

/-- The node that a name stands for. -/
def named (a : Text) : Reading Node := do
  match (← get).anchors.lookup a with
  | some (some n) => return n
  | some none => return .cycle
  | none => refuse .malformed

/-- A tag that is a lone mark leaves a scalar to its form, as if it were plain. -/
def scalarOf (tag : Option Text) (s : Text) (isPlain : Bool) : Node :=
  if tag = some ['!'] then .scalar none s true else .scalar tag s isPlain

/-- A lone mark says nothing of a collection. -/
def collectionTag (tag : Option Text) : Option Text := if tag = some ['!'] then none else tag

mutual

/-- A node; `inBlock` says whether it may be a block, `atKey` whether entries may stand at the
indentation of the key before them. -/
def node : Nat → Bool → Bool → Reading Node
  | 0, _, _ => refuse .malformed
  | fuel + 1, inBlock, atKey => do
    match (← peek) with
    | some (.alias a) =>
      drop
      named a
    | _ =>
      let (name, tag) ← properties
      match (← peek) with
      | some (.scalar s isPlain) =>
        drop
        declare name
        complete name (scalarOf tag s isPlain)
      | some .flowSequence =>
        drop
        declare name
        complete name (.seq (collectionTag tag) (← flowItems fuel true))
      | some .flowMapping =>
        drop
        declare name
        complete name (.map (collectionTag tag) (← flowPairs fuel true))
      | some .entry =>
        if atKey then
          declare name
          complete name (.seq (collectionTag tag) (← entriesAtKey fuel))
        else blank name tag
      | some .blockSequence =>
        if inBlock then
          drop
          declare name
          complete name (.seq (collectionTag tag) (← entries fuel))
        else blank name tag
      | some .blockMapping =>
        if inBlock then
          drop
          declare name
          complete name (.map (collectionTag tag) (← pairs fuel))
        else blank name tag
      | some (.fault f) => refuse f
      | _ => blank name tag
where
  /-- Nothing may stand after a name or a tag. -/
  blank (name tag : Option Text) : Reading Node := do
    if name.isNone && tag.isNone then refuse .malformed
    else
      declare name
      complete name (if tag = some ['!'] then .empty else .scalar tag [] tag.isNone)

/-- A node, or an empty one if one of the tokens comes next. -/
def nodeUnless : Nat → Bool → Bool → List Token → Reading Node
  | 0, _, _, _ => refuse .malformed
  | fuel + 1, inBlock, atKey, ts => do
    if (← nextIn ts) then return .empty else node fuel inBlock atKey

/-- The entries of a block, to its end. -/
def entries : Nat → Reading (List Node)
  | 0 => refuse .malformed
  | fuel + 1 => do
    if (← accept .entry) then
      let n ← nodeUnless fuel true false [.entry, .blockEnd]
      return n :: (← entries fuel)
    else
      expect .blockEnd
      return []

/-- The entries at the indentation of a key, which end where another token comes. -/
def entriesAtKey : Nat → Reading (List Node)
  | 0 => refuse .malformed
  | fuel + 1 => do
    if (← accept .entry) then
      let n ← nodeUnless fuel true false [.entry, .key, .value, .blockEnd]
      return n :: (← entriesAtKey fuel)
    else return []

/-- The pairs of a block, to its end. -/
def pairs : Nat → Reading (List (Node × Node))
  | 0 => refuse .malformed
  | fuel + 1 => do
    let follow : List Token := [.key, .value, .blockEnd]
    if (← accept .key) then
      let k ← nodeUnless fuel true true follow
      let v ← if (← accept .value) then nodeUnless fuel true true follow else pure .empty
      return (k, v) :: (← pairs fuel)
    else
      expect .blockEnd
      return []

/-- The items of a list in brackets, to its end. -/
def flowItems : Nat → Bool → Reading (List Node)
  | 0, _ => refuse .malformed
  | fuel + 1, first => do
    if (← accept .flowSequenceEnd) then return []
    else
      if !first then expect .comma
      if (← accept .key) then
        let k ← nodeUnless fuel false false [.value, .comma, .flowSequenceEnd]
        let v ←
          if (← accept .value) then nodeUnless fuel false false [.comma, .flowSequenceEnd]
          else pure .empty
        return .map none [(k, v)] :: (← flowItems fuel false)
      else if (← accept .flowSequenceEnd) then return []
      else
        let n ← node fuel false false
        return n :: (← flowItems fuel false)

/-- The pairs of a mapping in brackets, to its end. -/
def flowPairs : Nat → Bool → Reading (List (Node × Node))
  | 0, _ => refuse .malformed
  | fuel + 1, first => do
    if (← accept .flowMappingEnd) then return []
    else
      if !first then expect .comma
      if (← accept .key) then
        let k ← nodeUnless fuel false false [.value, .comma, .flowMappingEnd]
        let v ←
          if (← accept .value) then nodeUnless fuel false false [.comma, .flowMappingEnd]
          else pure .empty
        return (k, v) :: (← flowPairs fuel false)
      else if (← accept .flowMappingEnd) then return []
      else
        let k ← node fuel false false
        return (k, .empty) :: (← flowPairs fuel false)

end

def standardHandles : List (Text × Text) :=
  [(['!'], ['!']), (['!', '!'], "tag:yaml.org,2002:".toList)]

/-- The directives in front of a document: the version is 1, and each is given once. -/
def directives : Nat → Bool → List (Text × Text) → Reading (List (Text × Text))
  | 0, _, _ => refuse .malformed
  | fuel + 1, versioned, handles => do
    match (← peek) with
    | some (.version n) =>
      drop
      if versioned || n != 1 then refuse .malformed else directives fuel true handles
    | some (.handle name start) =>
      drop
      if (handles.lookup name).isSome then refuse .malformed
      else directives fuel versioned (handles ++ [(name, start)])
    | some .directive =>
      drop
      directives fuel versioned handles
    | _ => return handles

/-- Drops the marks at the ends of documents. -/
def skipEnds : Nat → Reading Unit
  | 0 => return ()
  | fuel + 1 => do if (← accept .documentEnd) then skipEnds fuel

def isDirective : Option Token → Bool
  | some (.version _) | some (.handle ..) | some .directive => true
  | _ => false

/-- The only document, if there is one: no other may follow it. -/
def document (fuel : Nat) : Reading (Option Node) := do
  let t ← peek
  if t.isNone then return none
  else
    let root ←
      if isDirective t || t = some .documentStart then
        let own ← directives fuel false []
        modify fun g => { g with handles := own ++ standardHandles }
        expect .documentStart
        let t ← peek
        if t.isNone || isDirective t then pure Node.empty
        else nodeUnless fuel true false [.documentStart, .documentEnd]
      else node fuel true false
    skipEnds fuel
    match (← peek) with
    | none => return some root
    | some (.fault f) => refuse f
    | some _ => refuse .malformed

end Reading

/-- The root of a document, if it has one. -/
def Node.read (s : Text) : Except Fault (Option Node) :=
  if !s.all isPrintable then .error .malformed
  else
    let tokens := Token.scan s
    let g : Grammar := { tokens := tokens, handles := Reading.standardHandles }
    (Reading.document (4 * tokens.length + 8) g).map (·.1)

end LinkCleaner.Yaml
