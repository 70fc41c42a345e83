import Mathlib.Tactic.SplitIfs
import LinkCleaner.Form
import LinkCleaner.Proofs.Text.Cut
import LinkCleaner.Proofs.Text.Utf8

/-!
Form encoding and decoding: a query that was encoded decodes to its pairs, and it is written in
letters, digits and a few marks alone.
-/

namespace LinkCleaner

namespace Percent

lemma upperDigit_spec : ∀ n : Fin 16, Text.hexValue? (upperDigit n) = some n.val ∧
    (Text.isAsciiLetter (upperDigit n) || Text.isAsciiDigit (upperDigit n)) := by
  decide

lemma bytes_escapeByte (b : UInt8) (r : Text) : bytes (escapeByte b ++ r) = b :: bytes r := by
  have hb : b.toNat < 256 := b.toNat_lt
  have h1 := (upperDigit_spec ⟨b.toNat / 16, by omega⟩).1
  have h2 := (upperDigit_spec ⟨b.toNat % 16, by omega⟩).1
  simp only at h1 h2
  have he : (16 * (b.toNat / 16) + b.toNat % 16).toUInt8 = b := by
    rw [show 16 * (b.toNat / 16) + b.toNat % 16 = b.toNat by omega]
    exact UInt8.ofNat_toNat
  simp only [escapeByte, List.cons_append, List.nil_append, bytes, if_true, h1, h2, he]

lemma bytes_escapeBytes (bs : List UInt8) (r : Text) :
    bytes (bs.flatMap escapeByte ++ r) = bs ++ bytes r := by
  induction bs with
  | nil => rfl
  | cons b bs ih =>
    rw [List.flatMap_cons, List.append_assoc, bytes_escapeByte, ih]
    rfl

lemma bytes_of_ne {c : Char} (h : c ≠ '%') (r : Text) :
    bytes (c :: r) = Text.utf8Char c ++ bytes r := by
  match r with
  | [] | [_] | _ :: _ :: _ => simp [bytes, h]

lemma decodeIfWellFormed_of_not_mem {s : Text} (h : '%' ∉ s) : decodeIfWellFormed s = s := by
  have hbytes : bytes s = Text.utf8 s := by
    induction s with
    | nil => rfl
    | cons c r ih =>
      rw [List.mem_cons, not_or] at h
      rw [bytes_of_ne (Ne.symm h.1), ih h.2]
      rfl
  rw [decodeIfWellFormed, hbytes, Text.ofUtf8?_utf8]
  rfl

end Percent

namespace Form

/-- What an encoded text is made of. -/
def isEncoded (c : Char) : Bool := isPlain c || c == '+' || c == '%'

lemma isPlain_of_digit {c : Char} (h : Text.isAsciiLetter c || Text.isAsciiDigit c) :
    isPlain c := by
  rw [Bool.or_eq_true] at h
  rcases h with h | h <;> simp [isPlain, h]

lemma isEncoded_escapeChar {c d : Char} (h : d ∈ Percent.escapeChar c) : isEncoded d := by
  obtain ⟨b, -, hd⟩ := List.mem_flatMap.mp h
  have hb : b.toNat < 256 := b.toNat_lt
  have h1 := (Percent.upperDigit_spec ⟨b.toNat / 16, by omega⟩).2
  have h2 := (Percent.upperDigit_spec ⟨b.toNat % 16, by omega⟩).2
  simp only [Percent.escapeByte, List.mem_cons, List.not_mem_nil, or_false] at hd
  rcases hd with rfl | rfl | rfl
  · rfl
  · simp [isEncoded, isPlain_of_digit h1]
  · simp [isEncoded, isPlain_of_digit h2]

lemma isEncoded_encodeChar {c d : Char} (h : d ∈ encodeChar c) : isEncoded d := by
  unfold encodeChar at h
  split_ifs at h with hp hs
  · rw [List.mem_singleton] at h
    simp [h, isEncoded, hp]
  · rw [List.mem_singleton] at h
    simp [h, isEncoded]
  · exact isEncoded_escapeChar h

lemma isEncoded_encodeText {s : Text} {d : Char} (h : d ∈ encodeText s) : isEncoded d := by
  obtain ⟨c, -, hd⟩ := List.mem_flatMap.mp h
  exact isEncoded_encodeChar hd

lemma not_mem_encodeText {c : Char} (h : isEncoded c = false) (s : Text) : c ∉ encodeText s := by
  intro hm
  rw [isEncoded_encodeText hm] at h
  simp at h

/-! ### A text -/

lemma swap_escapeBytes (bs : List UInt8) :
    Text.swap '+' ' ' (bs.flatMap Percent.escapeByte) = bs.flatMap Percent.escapeByte := by
  refine (List.map_congr_left fun d hd => ?_).trans (List.map_id _)
  obtain ⟨b, -, hd⟩ := List.mem_flatMap.mp hd
  have hb : b.toNat < 256 := b.toNat_lt
  have h : ∀ n : Fin 16, Percent.upperDigit n ≠ '+' := by decide
  have h1 := h ⟨b.toNat / 16, by omega⟩
  have h2 := h ⟨b.toNat % 16, by omega⟩
  simp only [Percent.escapeByte, List.mem_cons, List.not_mem_nil, or_false] at hd
  rcases hd with rfl | rfl | rfl
  · rfl
  · exact if_neg h1
  · exact if_neg h2

lemma swap_append (s t : Text) :
    Text.swap '+' ' ' (s ++ t) = Text.swap '+' ' ' s ++ Text.swap '+' ' ' t := List.map_append

lemma bytes_encodeChar (c : Char) (r : Text) :
    Percent.bytes (Text.swap '+' ' ' (encodeChar c) ++ r) = Text.utf8Char c ++ Percent.bytes r := by
  unfold encodeChar
  split_ifs with hp hs
  · have h1 : c ≠ '+' := by rintro rfl; revert hp; decide
    have h2 : c ≠ '%' := by rintro rfl; revert hp; decide
    have he : Text.swap '+' ' ' [c] = [c] := by simp [Text.swap, h1]
    rw [he]
    exact Percent.bytes_of_ne h2 r
  · subst hs
    exact Percent.bytes_of_ne (by decide) r
  · rw [Percent.escapeChar, swap_escapeBytes, Percent.bytes_escapeBytes]

lemma bytes_encodeText (s : Text) :
    Percent.bytes (Text.swap '+' ' ' (encodeText s)) = Text.utf8 s := by
  induction s with
  | nil => rfl
  | cons c r ih =>
    rw [encodeText, List.flatMap_cons, swap_append, bytes_encodeChar]
    rw [encodeText] at ih
    rw [ih]
    rfl

lemma decodeText_encodeText (s : Text) : decodeText (encodeText s) = s := by
  rw [decodeText, Percent.decode, bytes_encodeText, Text.ofUtf8Lossy_utf8]

/-! ### Pairs -/

lemma decodePair_encodePair (p : Pair) : decodePair (encodePair p) = p := by
  have he : '=' ∉ encodeText p.1 := not_mem_encodeText (by decide) _
  rw [decodePair, encodePair, Text.cut_append he]
  simp [decodeText_encodeText]

lemma encodePair_ne_nil (p : Pair) : encodePair p ≠ [] := by simp [encodePair]

lemma not_mem_encodePair {c : Char} (h : isEncoded c = false) (hc : c ≠ '=') (p : Pair) :
    c ∉ encodePair p := by
  simp only [encodePair, List.mem_append, List.mem_cons, not_or]
  exact ⟨not_mem_encodeText h _, hc, not_mem_encodeText h _⟩

/-- **Decoding undoes encoding.** -/
theorem decode_encode (ps : List Pair) : decode (encode ps) = ps := by
  cases ps with
  | nil => rfl
  | cons p ps =>
    have hpieces : Text.pieces '&' (encode (p :: ps)) = (p :: ps).map encodePair := by
      refine Text.pieces_join (by simp) fun q hq => ?_
      obtain ⟨x, -, rfl⟩ := List.mem_map.mp hq
      exact not_mem_encodePair (by decide) (by decide) x
    have hkept : ((p :: ps).map encodePair).filter (fun q => !q.isEmpty) =
        (p :: ps).map encodePair := by
      refine List.filter_eq_self.mpr fun q hq => ?_
      obtain ⟨x, -, rfl⟩ := List.mem_map.mp hq
      simp [encodePair_ne_nil]
    rw [decode, hpieces, hkept, List.map_map]
    refine (List.map_congr_left fun x _ => ?_).trans (List.map_id _)
    exact decodePair_encodePair x

/-- **Encoding loses nothing, and settles how a query is written.** The pairs come back as they were
and in their order, whatever their names and values hold. Any query, encoded anew, still holds the
pairs that it held and is not changed by being encoded again; the queries that are not changed to
begin with are those that pairs are written as. -/
theorem encoding_lossless :
    (∀ ps, decode (encode ps) = ps) ∧
      ∀ q, decode (encode (decode q)) = decode q ∧
        encode (decode (encode (decode q))) = encode (decode q) ∧
        (encode (decode q) = q ↔ ∃ ps, encode ps = q) := by
  refine ⟨decode_encode, fun q => ?_⟩
  have hsame := decode_encode (decode q)
  refine ⟨hsame, congrArg encode hsame, fun h => ⟨_, h⟩, ?_⟩
  rintro ⟨ps, rfl⟩
  rw [decode_encode]

lemma mem_encode {ps : List Pair} {c : Char} (h : c ∈ encode ps) :
    isEncoded c ∨ c = '=' ∨ c = '&' := by
  rcases Text.mem_join h with h | ⟨q, hq, h⟩
  · exact Or.inr (Or.inr (List.mem_singleton.mp h))
  · obtain ⟨x, -, rfl⟩ := List.mem_map.mp hq
    rcases List.mem_append.mp h with h | h
    · exact Or.inl (isEncoded_encodeText h)
    · rcases List.mem_cons.mp h with h | h
      · exact Or.inr (Or.inl h)
      · exact Or.inl (isEncoded_encodeText h)

end Form

end LinkCleaner
