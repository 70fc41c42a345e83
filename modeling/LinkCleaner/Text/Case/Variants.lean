import LinkCleaner.Text.Case

/-!
Letters that differ in case alone. Besides the pairs of a capital and its small form, some small
letters share a capital.
-/

namespace LinkCleaner.Text

/-- Small letters, each with the other small letters of the same capital. -/
def sharedCapitals : List (Nat × List Nat) :=
  [(0x69, [0x131]), (0x73, [0x17F]), (0xB5, [0x3BC]), (0x131, [0x69]), (0x17F, [0x73]),
    (0x345, [0x3B9, 0x1FBE]), (0x390, [0x1FD3]), (0x3B0, [0x1FE3]), (0x3B2, [0x3D0]),
    (0x3B5, [0x3F5]), (0x3B8, [0x3D1]), (0x3B9, [0x345, 0x1FBE]), (0x3BA, [0x3F0]),
    (0x3BC, [0xB5]), (0x3C0, [0x3D6]), (0x3C1, [0x3F1]), (0x3C2, [0x3C3]), (0x3C3, [0x3C2]),
    (0x3C6, [0x3D5]), (0x3D0, [0x3B2]), (0x3D1, [0x3B8]), (0x3D5, [0x3C6]), (0x3D6, [0x3C0]),
    (0x3F0, [0x3BA]), (0x3F1, [0x3C1]), (0x3F5, [0x3B5]), (0x432, [0x1C80]), (0x434, [0x1C81]),
    (0x43E, [0x1C82]), (0x441, [0x1C83]), (0x442, [0x1C84, 0x1C85]), (0x44A, [0x1C86]),
    (0x463, [0x1C87]), (0x1C80, [0x432]), (0x1C81, [0x434]), (0x1C82, [0x43E]), (0x1C83, [0x441]),
    (0x1C84, [0x442, 0x1C85]), (0x1C85, [0x442, 0x1C84]), (0x1C86, [0x44A]), (0x1C87, [0x463]),
    (0x1C88, [0xA64B]), (0x1E61, [0x1E9B]), (0x1E9B, [0x1E61]), (0x1FBE, [0x345, 0x3B9]),
    (0x1FD3, [0x390]), (0x1FE3, [0x3B0]), (0xA64B, [0x1C88]), (0xFB05, [0xFB06]),
    (0xFB06, [0xFB05])]

def othersOfCapital (n : Nat) : List Nat := (sharedCapitals.lookup n).getD []

/-- The code points whose small form is `n`, besides `n` itself. -/
def capitalsOf (n : Nat) : List Nat :=
  smallForms.filterMap fun (first, last, stride, shift) =>
    let c := (n - shift).toNat
    if first ≤ c ∧ c ≤ last ∧ (c - first) % stride = 0 ∧ (c : Int) + shift = n then some c else none

/-- Whether two code points are equal but for case. -/
def sameLetter (a b : Nat) : Bool :=
  smallCode a == smallCode b || (othersOfCapital (smallCode a)).contains (smallCode b)

end LinkCleaner.Text
