import Mathlib.Algebra.GroupWithZero.Nat
import Mathlib.Algebra.Order.BigOperators.Group.List
import Mathlib.Algebra.Order.Group.Nat
import LinkCleaner.Proofs.Form.RoundTrip
import LinkCleaner.Proofs.Text.Ascii

/-!
Decoding does not lengthen a text: what a query decodes to is no longer than the query, however its
blanks are escaped. Texts can grow from one reading to the next, as blanks are escaped; what they
decode to cannot.
-/

namespace LinkCleaner

/-! ### Bytes and characters -/

namespace Text

/-- The piece that a character under way still owes. -/
def owed (st : Option Utf8Partial) : Nat := if st.isSome then 1 else 0

/-- A character under way waits for a byte that starts no other. -/
def Waits (st : Option Utf8Partial) : Prop := ∀ p, st = some p → 0x80 ≤ p.lo ∧ p.hi ≤ 0xBF

lemma waits_utf8Start (b : Nat) : Waits (utf8Start b).2 := by
  intro p hp
  unfold utf8Start at hp
  split at hp
  · simp at hp
  · next q hq =>
    rw [Option.some.injEq] at hp
    subst hp
    unfold utf8Lead at hq
    split_ifs at hq <;> rw [Utf8Lead.partly.injEq] at hq <;> subst hq <;> simp
  · simp at hp

lemma waits_utf8Step (st : Option Utf8Partial) (b : Nat) : Waits (utf8Step st b).2 := by
  unfold utf8Step
  split
  · exact waits_utf8Start b
  · split_ifs
    · simp [Waits]
    · intro p hp
      obtain rfl : _ = p := by simpa using hp
      exact ⟨Nat.le_refl _, Nat.le_refl _⟩
    · exact waits_utf8Start b

lemma length_utf8Start (b : Nat) : (utf8Start b).1.length + owed (utf8Start b).2 = 1 := by
  unfold utf8Start
  split <;> rfl

/-- A byte adds one piece at most to those there are and those that are owed. -/
lemma length_utf8Step (st : Option Utf8Partial) (b : Nat) :
    (utf8Step st b).1.length + owed (utf8Step st b).2 ≤ 1 + owed st := by
  have h := length_utf8Start b
  unfold utf8Step
  split
  · omega
  · next p =>
    have hp : owed (some p) = 1 := rfl
    split_ifs
    · simp [owed]
    · simp [owed]
    · simp only [List.length_cons]
      omega

/-- Bytes that yield no more than so many pieces, and one more if a character is under way. -/
def Yields (k : Nat) (bs : List UInt8) : Prop :=
  ∀ st, Waits st → (utf8Pieces st bs).length ≤ k + owed st

lemma yields_nil : Yields 0 [] := by
  intro st _
  cases st <;> simp [utf8Pieces, owed]

lemma Yields.byte {k : Nat} {r : List UInt8} (h : Yields k r) (b : UInt8) :
    Yields (k + 1) (b :: r) := by
  intro st _
  have h1 := h _ (waits_utf8Step st b.toNat)
  have h2 := length_utf8Step st b.toNat
  rw [utf8Pieces_cons, List.length_append]
  omega

lemma utf8Char_starts (c : Char) :
    ∃ b bs, utf8Char c = b :: bs ∧ (b.toNat < 0x80 ∨ 0xC0 ≤ b.toNat) := by
  have hv : c.toNat < 0x110000 := by
    have : c.toNat < 0xD800 ∨ 0xDFFF < c.toNat ∧ c.toNat < 0x110000 := c.valid
    omega
  unfold utf8Char
  simp only
  split_ifs
  · exact ⟨_, _, rfl, by rw [toNat_toUInt8 (by omega)]; omega⟩
  · exact ⟨_, _, rfl, by rw [toNat_toUInt8 (by omega)]; omega⟩
  · exact ⟨_, _, rfl, by rw [toNat_toUInt8 (by omega)]; omega⟩
  · exact ⟨_, _, rfl, by rw [toNat_toUInt8 (by omega)]; omega⟩

lemma Yields.char {k : Nat} {r : List UInt8} (h : Yields k r) (c : Char) :
    Yields (k + 1) (utf8Char c ++ r) := by
  have hr : (utf8Pieces none r).length ≤ k := h none (by simp [Waits])
  intro st hst
  cases st with
  | none =>
    rw [utf8Pieces_utf8Char, List.length_cons]
    omega
  | some p =>
    obtain ⟨b, bs, hb, hlead⟩ := utf8Char_starts c
    obtain ⟨hlo, hhi⟩ := hst p rfl
    have hstep : utf8Step (some p) b.toNat = (none :: (utf8Start b.toNat).1, (utf8Start b.toNat).2) := by
      rw [utf8Step, if_neg (by omega)]
    have hbroken : utf8Pieces (some p) (utf8Char c ++ r) =
        none :: utf8Pieces none (utf8Char c ++ r) := by
      rw [hb, List.cons_append, utf8Pieces_cons, utf8Pieces_cons, hstep]
      rfl
    have hp : owed (some p) = 1 := rfl
    rw [hbroken, utf8Pieces_utf8Char, List.length_cons, List.length_cons]
    omega

end Text

namespace Percent

open Text

lemma yields_bytes (s : Text) : Yields s.length (bytes s) := by
  fun_induction bytes s with
  | case1 => exact yields_nil
  | case2 a b t x y hy hx ih =>
    -- an escape is three characters for one byte
    intro st hst
    have h := ih.byte (16 * x + y).toUInt8 st hst
    simp only [List.length_cons]
    omega
  | case3 a b t hn ih => exact ih.byte 0x25
  | case4 t hn ih => exact ih.byte 0x25
  | case5 c t hc ih => exact ih.char c

lemma length_decode_le (s : Text) : (decode s).length ≤ s.length := by
  have h := yields_bytes s none (by simp [Waits])
  rwa [decode, ofUtf8Lossy, List.length_map]

/-! ### Escaped blanks -/

/-- A text in which some characters are escaped; none of them is part of an escape before. -/
inductive Escaped : Text → Text → Prop where
  | nil : Escaped [] []
  | keep {s t : Text} (c : Char) (h : Escaped s t) : Escaped (c :: s) (c :: t)
  | escape {s t : Text} {c : Char} (hc : c ≠ '%') (hn : hexValue? c = none) (h : Escaped s t) :
    Escaped (c :: s) (escapeChar c ++ t)

lemma bytes_hex {a b : Char} {x y : Nat} (ha : hexValue? a = some x) (hb : hexValue? b = some y)
    (t : Text) : bytes ('%' :: a :: b :: t) = (16 * x + y).toUInt8 :: bytes t := by
  simp only [bytes, if_true, ha, hb]

lemma bytes_bare {t : Text}
    (h : ∀ a b u x y, t = a :: b :: u → hexValue? a = some x → hexValue? b = some y → False) :
    bytes ('%' :: t) = 0x25 :: bytes t := by
  match t, h with
  | [], _ => simp [bytes]
  | [a], _ => simp [bytes]
  | a :: b :: u, h =>
    rw [bytes, if_pos rfl]
    split
    · next x y hx hy => exact absurd (h a b u x y rfl hx hy) id
    · rfl

lemma escapeChar_starts (c : Char) (t : Text) : ∃ u, escapeChar c ++ t = '%' :: u := by
  obtain ⟨b, bs, hb, -⟩ := utf8Char_starts c
  rw [escapeChar, hb]
  exact ⟨_, rfl⟩

namespace Escaped

variable {s t : Text} {c : Char}

lemma kept (h : Escaped (c :: s) t) (hc : c = '%' ∨ hexValue? c ≠ none) :
    ∃ u, t = c :: u ∧ Escaped s u := by
  cases h with
  | keep c h => exact ⟨_, rfl, h⟩
  | escape h1 h2 h => exact (hc.elim h1 fun h3 => h3 h2).elim

lemma digit {x : Nat} (h : Escaped s (c :: t)) (hc : hexValue? c = some x) :
    ∃ r, s = c :: r ∧ Escaped r t := by
  generalize hu : c :: t = u at h
  cases h with
  | nil => cases hu
  | keep d h =>
    cases hu
    exact ⟨_, rfl, h⟩
  | @escape r v d h1 h2 h =>
    obtain ⟨w, hw⟩ := escapeChar_starts d v
    rw [hw, List.cons.injEq] at hu
    rw [hu.1] at hc
    simp [hexValue?] at hc

lemma bytes_bare {u : Text} (h : Escaped s u)
    (hs : ∀ a b r x y, s = a :: b :: r → hexValue? a = some x → hexValue? b = some y → False) :
    bytes ('%' :: u) = 0x25 :: bytes u := by
  refine Percent.bytes_bare fun a b v x y hu ha hb => ?_
  rw [hu] at h
  obtain ⟨r, rfl, hr⟩ := h.digit ha
  obtain ⟨q, rfl, -⟩ := hr.digit hb
  exact hs a b q x y rfl ha hb

lemma bytes_eq (h : Escaped s t) : bytes t = bytes s := by
  fun_induction bytes s generalizing t with
  | case1 =>
    cases h
    rfl
  | case2 a b s x y hy hx ih =>
    obtain ⟨u, rfl, h1⟩ := h.kept (Or.inl rfl)
    obtain ⟨v, rfl, h2⟩ := h1.kept (Or.inr (by simp [hx]))
    obtain ⟨w, rfl, h3⟩ := h2.kept (Or.inr (by simp [hy]))
    rw [bytes_hex hx hy, ih h3]
  | case3 a b s hn ih =>
    obtain ⟨u, rfl, h1⟩ := h.kept (Or.inl rfl)
    rw [h1.bytes_bare, ih h1]
    rintro _ _ _ x y ⟨⟩ ha hb
    exact hn x y ha hb
  | case4 s hn ih =>
    obtain ⟨u, rfl, h1⟩ := h.kept (Or.inl rfl)
    rw [h1.bytes_bare, ih h1]
    intro a b r _ _ hs _ _
    exact hn a b r hs
  | case5 c s hc ih =>
    cases h with
    | keep c h => rw [bytes_of_ne hc, ih h]
    | escape h1 h2 h => rw [escapeChar, bytes_escapeBytes, ih h]

end Escaped

end Percent

namespace Form

open Text Percent

lemma blank_spec {c : Char} (h : isBlank c) :
    c ≠ '%' ∧ c ≠ '+' ∧ c ≠ '&' ∧ c ≠ '=' ∧ hexValue? c = none := by
  refine ⟨?_, ?_, ?_, ?_, ?_⟩
  · rintro rfl; exact absurd h (by decide)
  · rintro rfl; exact absurd h (by decide)
  · rintro rfl; exact absurd h (by decide)
  · rintro rfl; exact absurd h (by decide)
  · cases hc : hexValue? c with
    | none => rfl
    | some x =>
      have hx : isHex c := by rw [isHex, hc]; rfl
      have hd : isHex c → isBlank c = false := of_ascii c (toNat_lt_of_hex hx) (by decide)
      rw [hd hx] at h
      exact absurd h (by decide)

lemma escaped_swap (s : Text) : Escaped (swap '+' ' ' s) (swap '+' ' ' (escapeBlanks s)) := by
  induction s with
  | nil => exact .nil
  | cons c r ih =>
    have hr : escapeBlanks (c :: r) =
        (if isBlank c then escapeChar c else [c]) ++ escapeBlanks r := by
      simp [escapeBlanks]
    rw [hr, swap_append]
    split_ifs with hb
    · obtain ⟨h1, h2, -, -, h5⟩ := blank_spec hb
      have hc : swap '+' ' ' (c :: r) = c :: swap '+' ' ' r := by simp [swap, h2]
      rw [hc, escapeChar, swap_escapeBytes]
      exact .escape h1 h5 ih
    · exact .keep _ ih

lemma decodeText_escapeBlanks (s : Text) : decodeText (escapeBlanks s) = decodeText s := by
  rw [decodeText, decodeText, Percent.decode, Percent.decode, (escaped_swap s).bytes_eq]

lemma not_mem_escape {c d : Char} (h : isEncoded d = false) (hd : d ≠ c) :
    d ∉ if isBlank c then escapeChar c else [c] := by
  split_ifs
  · intro hm
    rw [isEncoded_escapeChar hm] at h
    cases h
  · simpa using hd

lemma pieces_escapeBlanks (s : Text) :
    pieces '&' (escapeBlanks s) = (pieces '&' s).map escapeBlanks := by
  induction s with
  | nil => rfl
  | cons c r ih =>
    have hr : escapeBlanks (c :: r) =
        (if isBlank c then escapeChar c else [c]) ++ escapeBlanks r := by
      simp [escapeBlanks]
    by_cases hc : c = '&'
    · subst hc
      rw [hr, if_neg (by decide), List.singleton_append, pieces, if_pos rfl, pieces, if_pos rfl,
        List.map_cons, ih]
      rfl
    · -- the character, escaped or not, joins the first piece of what follows
      have hs : '&' ∉ [c] := by simpa using Ne.symm hc
      obtain ⟨p, ps, h1, h2⟩ :=
        pieces_append_of_not_mem (not_mem_escape (c := c) (by decide) (Ne.symm hc))
          (escapeBlanks r)
      obtain ⟨q, qs, h3, h4⟩ := pieces_append_of_not_mem hs r
      rw [List.singleton_append] at h4
      rw [ih, h3, List.map_cons, List.cons.injEq] at h1
      rw [hr, h2, h4, List.map_cons, ← h1.1, ← h1.2, escapeBlanks_append]
      simp [escapeBlanks]

lemma cut_escapeBlanks (s : Text) :
    cut '=' (escapeBlanks s) = (escapeBlanks (cut '=' s).1, (cut '=' s).2.map escapeBlanks) := by
  have hne : ∀ t : Text, '=' ∉ t → '=' ∉ escapeBlanks t := by
    intro t ht hm
    obtain ⟨c, hc, hm⟩ := List.mem_flatMap.mp hm
    refine not_mem_escape (c := c) (by decide) ?_ hm
    rintro rfl
    exact ht hc
  rcases cut_cases '=' s with ⟨hn, he⟩ | ⟨a, b, ha, rfl, he⟩ <;> rw [he]
  · exact cut_of_not_mem (hne s hn)
  · have hs : escapeBlanks (a ++ '=' :: b) = escapeBlanks a ++ '=' :: escapeBlanks b := by
      rw [escapeBlanks_append]
      simp [escapeBlanks, show isBlank '=' = false by decide]
    rw [hs, cut_append (hne a ha)]
    rfl

lemma decodePair_escapeBlanks (s : Text) : decodePair (escapeBlanks s) = decodePair s := by
  have hv : ((cut '=' s).2.map escapeBlanks).getD [] = escapeBlanks ((cut '=' s).2.getD []) := by
    cases (cut '=' s).2 <;> rfl
  simp only [decodePair, cut_escapeBlanks, hv, decodeText_escapeBlanks]

/-- **A query decodes to the same pairs, whether its blanks are escaped or not.** -/
theorem decode_escapeBlanks (s : Text) : decode (escapeBlanks s) = decode s := by
  have hempty : ∀ p : Text, (escapeBlanks p).isEmpty = p.isEmpty := by
    intro p
    cases p with
    | nil => rfl
    | cons c r =>
      obtain ⟨u, hu⟩ := escapeChar_starts c (escapeBlanks r)
      simp only [escapeBlanks, List.flatMap_cons] at hu ⊢
      split_ifs
      · rw [hu]
        rfl
      · rfl
  rw [decode, decode, pieces_escapeBlanks, List.filter_map, List.map_map]
  have hf : ((fun p : Text => !p.isEmpty) ∘ escapeBlanks) = fun p : Text => !p.isEmpty :=
    funext fun p => by rw [Function.comp, hempty]
  rw [hf]
  exact List.map_congr_left fun p _ => decodePair_escapeBlanks p

/-! ### Size -/

/-- The number of characters in the names and values of pairs. -/
def size (ps : List Pair) : Nat := (ps.map fun p => p.1.length + p.2.length).sum

lemma size_sublist {ps qs : List Pair} (h : ps.Sublist qs) : size ps ≤ size qs :=
  (h.map _).sum_le_sum fun _ _ => Nat.zero_le _

lemma le_size {ps : List Pair} {p : Pair} (h : p ∈ ps) : p.1.length + p.2.length ≤ size ps :=
  List.single_le_sum (fun _ _ => Nat.zero_le _) _ (List.mem_map_of_mem h)

lemma sum_pieces_le (sep : Char) (s : Text) :
    ((pieces sep s).map List.length).sum ≤ s.length := by
  induction s with
  | nil => rfl
  | cons c r ih =>
    by_cases hc : c = sep
    · rw [pieces, if_pos hc, List.map_cons, List.sum_cons, List.length_nil, List.length_cons]
      omega
    · have hs : sep ∉ [c] := by simpa using Ne.symm hc
      obtain ⟨p, ps, h1, h2⟩ := pieces_append_of_not_mem hs r
      rw [List.singleton_append] at h2
      rw [h1] at ih
      rw [h2]
      simp only [List.map_cons, List.sum_cons, List.length_append, List.length_cons,
        List.length_nil] at ih ⊢
      omega

lemma length_decodeText_le (s : Text) : (decodeText s).length ≤ s.length := by
  have h := length_decode_le (swap '+' ' ' s)
  rwa [swap, List.length_map] at h

lemma length_decodePair_le (s : Text) :
    (decodePair s).1.length + (decodePair s).2.length ≤ s.length := by
  unfold decodePair
  rcases cut_cases '=' s with ⟨-, he⟩ | ⟨a, b, -, rfl, he⟩ <;> rw [he]
  · exact length_decodeText_le s
  · have h1 := length_decodeText_le a
    have h2 := length_decodeText_le b
    simp only [Option.getD_some, List.length_append, List.length_cons]
    omega

/-- **The pairs of a query are no longer than the query.** -/
theorem size_decode_le (s : Text) : size (decode s) ≤ s.length := by
  have hsub : ((pieces '&' s).filter fun p => !p.isEmpty).Sublist (pieces '&' s) :=
    List.filter_sublist
  calc size (decode s)
      = (((pieces '&' s).filter fun p => !p.isEmpty).map fun p =>
          (decodePair p).1.length + (decodePair p).2.length).sum := by
        rw [size, decode, List.map_map]
        rfl
    _ ≤ (((pieces '&' s).filter fun p => !p.isEmpty).map List.length).sum :=
        List.sum_le_sum fun p _ => length_decodePair_le p
    _ ≤ ((pieces '&' s).map List.length).sum :=
        (hsub.map _).sum_le_sum fun _ _ => Nat.zero_le _
    _ ≤ s.length := sum_pieces_le '&' s

end Form

end LinkCleaner
