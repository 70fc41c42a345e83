import LinkCleaner.Text.Basic

/-!
Numeric hosts: dotted addresses of four octets, colon addresses of eight groups, and the form that
is kept for addresses yet to come.
-/

namespace LinkCleaner.Url

/-- An octet has one to three digits and no needless zero in front. -/
def isOctet (s : Text) : Bool :=
  !s.isEmpty && s.all Text.isAsciiDigit && s.length ≤ 3
    && (s == ['0'] || !(['0'].isPrefixOf s)) && Text.digitsValue s ≤ 255

def isDottedAddress (s : Text) : Bool :=
  let octets := Text.pieces '.' s
  octets.length == 4 && octets.all isOctet

/-- A group of a colon address. -/
def isGroup (s : Text) : Bool := !s.isEmpty && s.length ≤ 4 && s.all Text.isHex

/-- A dotted address at the end stands for two groups. -/
def expandDotted (parts : List Text) : Option (List Text) :=
  match parts.reverse with
  | last :: before =>
    if last.contains '.' then
      if isDottedAddress last then some (before.reverse ++ [['0'], ['0']]) else none
    else some parts
  | [] => some []

/-- The places of the empty parts that are neither the first nor the last. -/
def innerGaps (parts : List Text) : List Nat :=
  (List.range parts.length).filter fun i =>
    0 < i && i + 1 < parts.length && (parts.getD i []).isEmpty

/-- Whether the parts around one gap, or all eight parts if there is none, make an address. -/
def areGroups (parts : List Text) : Bool :=
  match innerGaps parts with
  | [] => parts.length == 8 && parts.all isGroup
  | [gap] =>
    let before := parts.take gap
    let after := parts.drop (gap + 1)
    let before := if before == [[]] then [] else before
    let after := if after == [[]] then [] else after
    before.all isGroup && after.all isGroup && before.length + after.length < 8
  | _ => false

/-- A zone may follow the groups; it is not empty and holds no further `%`. -/
def zoneIsSound (zone : Option Text) : Bool :=
  match zone with
  | none => true
  | some z => !z.isEmpty && !z.contains '%'

def isColonAddress (s : Text) : Bool :=
  let (address, zone) := Text.cut '%' s
  let parts := Text.pieces ':' address
  !s.contains '/' && zoneIsSound zone && 3 ≤ parts.length
    && match expandDotted parts with
      | none => false
      | some parts => parts.length ≤ 9 && areGroups parts

/-- The form for addresses yet to come: `v`, a version, a point and anything on one line. -/
def isFutureAddress (s : Text) : Bool :=
  match s with
  | 'v' :: r =>
    let version := r.takeWhile Text.isHex
    match r.drop version.length with
    | '.' :: rest => !version.isEmpty && !rest.isEmpty && !rest.contains '\n'
    | _ => false
  | _ => false

end LinkCleaner.Url
