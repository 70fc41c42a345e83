import LinkCleaner.Text.Utf8
import LinkCleaner.Yaml.Node
import LinkCleaner.Yaml.Plain

/-!
What a YAML document says. A tag decides what a node is; without one a plain scalar is what its form
says, any other scalar a text. A merge key takes over the pairs of other mappings, which come before
the mapping's own.
-/

namespace LinkCleaner.Yaml

inductive Datum where
  | null
  | bool (b : Bool)
  | int (n : Int)
  | float (x : Decimal.Binary64)
  | text (s : Text)
  | bytes (bs : List UInt8)
  | moment
  | seq (items : List Datum)
  | set (items : List Datum)
  | map (pairs : List (Datum × Datum))

/-- What a tag asks for. -/
inductive Kind where
  | null
  | bool
  | int
  | float
  | text
  | bytes
  | moment
  | seq
  | map
  | set
  | pairs
  | merge
  | value
  | unknown
  deriving DecidableEq, Repr

def Kind.ofTag (tag : Text) : Kind :=
  let standard := "tag:yaml.org,2002:".toList
  if !standard.isPrefixOf tag then .unknown
  else
    match String.ofList (tag.drop standard.length) with
    | "null" => .null
    | "bool" => .bool
    | "int" => .int
    | "float" => .float
    | "str" => .text
    | "binary" => .bytes
    | "timestamp" => .moment
    | "seq" => .seq
    | "map" => .map
    | "set" => .set
    | "omap" => .pairs
    | "pairs" => .pairs
    | "merge" => .merge
    | "value" => .value
    | _ => .unknown

/-- What the form of a plain scalar asks for. -/
def Kind.ofPlain (s : Text) : Kind :=
  if (switchOf? s).isSome then .bool
  else if (numberOf? s).isSome then .float
  else if (wholeOf? s).isSome then .int
  else if s = ['<', '<'] then .merge
  else if nullWords.contains s then .null
  else if (momentForm? s).isSome then .moment
  else if s = ['='] then .value
  else .text

def Kind.ofScalar (tag : Option Text) (s : Text) (isPlain : Bool) : Kind :=
  match tag with
  | some t => .ofTag t
  | none => if isPlain then .ofPlain s else .text

def base64Value? (c : Char) : Option Nat :=
  if 'A' ≤ c ∧ c ≤ 'Z' then some (c.toNat - 65)
  else if 'a' ≤ c ∧ c ≤ 'z' then some (c.toNat - 71)
  else if '0' ≤ c ∧ c ≤ '9' then some (c.toNat + 4)
  else if c = '+' then some 62
  else if c = '/' then some 63
  else none

/-- Bytes from digits of six bits each. -/
def bytesOfDigits : List Nat → List UInt8
  | a :: b :: c :: d :: r =>
    (a * 4 + b / 16).toUInt8 :: (b % 16 * 16 + c / 4).toUInt8 :: (c % 4 * 64 + d).toUInt8
      :: bytesOfDigits r
  | [a, b, c] => [(a * 4 + b / 16).toUInt8, (b % 16 * 16 + c / 4).toUInt8]
  | [a, b] => [(a * 4 + b / 16).toUInt8]
  | _ => []

/-- Bytes in base 64; other characters are passed over, but there must be whole groups of four. -/
def bytesOf (s : Text) : Except Fault Datum :=
  let ds := s.filterMap base64Value?
  let pads := s.count '='
  if ds.length % 4 = 1 ∨ ((ds.length + pads) % 4 ≠ 0 ∧ ds.length % 4 ≠ 0) then .error .malformed
  else .ok (.bytes (bytesOfDigits ds))

/-- The datum of a scalar whose tag or form asks for a kind. -/
def scalarDatum (k : Kind) (s : Text) : Except Fault Datum :=
  match k with
  | .null => .ok .null
  | .bool =>
    match switchOf? (Text.asciiLower s) with
    | some b => .ok (.bool b)
    | none => .error .unknownWord
  | .int =>
    if (unspaced s).isEmpty then .error .emptyNumber
    else
      match wholeOf? s with
      | some n => n.map .int
      | none => .error .badValue
  | .float =>
    if (unspaced s).isEmpty then .error .emptyNumber
    else
      match numberOf? s, wholeOf? s with
      | some x, _ => .ok (.float x)
      | none, some (.ok n) => .ok (.float (.ofDecimal (n < 0) n.natAbs 0))
      | _, _ => .error .badValue
  | .moment => if momentForm? s = some true then .ok .moment else .error .badValue
  | .text => .ok (.text s)
  | .bytes => bytesOf s
  | _ => .error .malformed

/-- Lists and mappings cannot be keys. -/
def Datum.mayBeKey : Datum → Bool
  | .seq _ | .set _ | .map _ => false
  | _ => true

/-- The merge key. -/
def Node.isMerge : Node → Bool
  | .scalar tag s isPlain => Kind.ofScalar tag s isPlain == .merge
  | _ => false

mutual

/-- The pairs that a mapping takes over, and its own. -/
def splitPairs : List (Node × Node) → Except Fault (List (Node × Node) × List (Node × Node))
  | [] => .ok ([], [])
  | (k, v) :: r => do
    if k.isMerge then
      let taken ← offered v
      let (merged, own) ← splitPairs r
      return (taken ++ merged, own)
    else
      let (merged, own) ← splitPairs r
      return (merged, (k, v) :: own)

/-- The pairs that a node offers to be taken over: those of a mapping or of a list of mappings, the
last first. -/
def offered : Node → Except Fault (List (Node × Node))
  | .map _ ps => (splitPairs ps).map fun p => p.1 ++ p.2
  | .seq _ items => offeredByAll items
  | _ => .error .malformed

def offeredByAll : List Node → Except Fault (List (Node × Node))
  | [] => .ok []
  | n :: r => do
    match n with
    | .map _ ps =>
      let own ← (splitPairs ps).map fun p => p.1 ++ p.2
      let rest ← offeredByAll r
      return rest ++ own
    | _ => .error .malformed

end

/-- The pairs of a mapping, with those that it takes over in front. -/
def flatPairs (ps : List (Node × Node)) : Except Fault (List (Node × Node)) :=
  (splitPairs ps).map fun p => p.1 ++ p.2

/-- A key that is a lone equals sign is a text. -/
def Node.asKey : Node → Node
  | .scalar tag s isPlain =>
    if Kind.ofScalar tag s isPlain == .value then .scalar none s false else .scalar tag s isPlain
  | n => n

/-- A list of mappings of one pair each. -/
def singlePairs : List Node → Except Fault (List (Node × Node))
  | [] => .ok []
  | .map _ [p] :: r => (singlePairs r).map (p :: ·)
  | _ => .error .malformed

/-- The datum of a node, down to a depth. -/
def Node.datum : Nat → Node → Except Fault Datum
  | 0, _ => .error .malformed
  | _ + 1, .cycle => .ok (.seq [.null])
  | _ + 1, .scalar tag s isPlain => scalarDatum (Kind.ofScalar tag s isPlain) s
  | fuel + 1, .seq tag items =>
    match tag.map Kind.ofTag with
    | none | some .seq => (items.mapM (Node.datum fuel)).map .seq
    | some .pairs => do
      let ps ← singlePairs items
      let _ ← ps.mapM fun p => Node.datum fuel p.1
      (ps.mapM fun p => Node.datum fuel p.2).map .seq
    | _ => .error .malformed
  | fuel + 1, .map tag pairs =>
    let read : Except Fault (List (Datum × Datum)) := do
      (← flatPairs pairs).mapM fun p => do
        let k ← Node.datum fuel p.1.asKey
        if k.mayBeKey then return (k, ← Node.datum fuel p.2) else .error .malformed
    match tag.map Kind.ofTag with
    | none | some .map => read.map .map
    | some .set => read.map fun ps => .set (ps.map (·.1))
    | _ => .error .malformed

mutual

/-- How deep a node goes. -/
def Node.depth : Node → Nat
  | .seq _ items => Node.depthOfAll items + 1
  | .map _ pairs => Node.depthOfPairs pairs + 1
  | _ => 1

def Node.depthOfAll : List Node → Nat
  | [] => 0
  | n :: r => max n.depth (Node.depthOfAll r)

def Node.depthOfPairs : List (Node × Node) → Nat
  | [] => 0
  | (k, v) :: r => max (max k.depth v.depth) (Node.depthOfPairs r)

end

/-- What a document says; one without content says nothing. -/
def Datum.read (s : Text) : Except Fault Datum := do
  match (← Node.read s) with
  | none => return .null
  | some n => n.datum (n.depth + 1)

/-- Empty and zero data count as false. -/
def Datum.truthy : Datum → Bool
  | .null => false
  | .bool b => b
  | .int n => n != 0
  | .float x => !x.isZero
  | .text s => !s.isEmpty
  | .bytes bs => !bs.isEmpty
  | .moment => true
  | .seq items => !items.isEmpty
  | .set items => !items.isEmpty
  | .map pairs => !pairs.isEmpty

end LinkCleaner.Yaml
