import LinkCleaner.Proofs.Url.Sound
import LinkCleaner.Refresh

/-!
The digest of a text as it may be published: in letters of either case, with blanks around it.
-/

namespace LinkCleaner

namespace Text

open Url (lowerAscii)

variable {c : Char} {s : Text}

/-! ### Hexadecimal digits -/

lemma mem_toDigits {b n : Nat} (hb : 1 < b) (h : c ∈ Nat.toDigits b n) :
    ∃ d < b, c = Nat.digitChar d := by
  induction n using Nat.strongRecOn with
  | ind n ih =>
    rw [Nat.toDigits_eq_if hb] at h
    split_ifs at h with hn
    · exact ⟨n, hn, List.mem_singleton.mp h⟩
    · rcases List.mem_append.mp h with h | h
      · exact ih (n / b) (Nat.div_lt_self (by omega) hb) h
      · exact ⟨n % b, Nat.mod_lt n (by omega), List.mem_singleton.mp h⟩

lemma isHex_of_mem_hexPadded {width n : Nat} (h : c ∈ hexPadded width n) : isHex c := by
  have hdigit : ∀ d < 16, isHex (Nat.digitChar d) := by decide
  rcases List.mem_append.mp h with h | h
  · rw [List.eq_of_mem_replicate h]
    rfl
  · obtain ⟨d, hd, rfl⟩ := mem_toDigits (by decide) h
    exact hdigit d hd

lemma isHex_of_mem_digest {text : Text} (h : c ∈ Sha256.hex text) : isHex c := by
  obtain ⟨w, -, hw⟩ := List.mem_flatMap.mp h
  exact isHex_of_mem_hexPadded hw

/-! ### Small letters -/

lemma lower_of_ascii (h : ∀ c ∈ s, c.toNat < 128) : lower s = asciiLower s := by
  have hfrom : ∀ before, lowerFrom before s = asciiLower s := by
    induction s with
    | nil => intro _; rfl
    | cons c r ih =>
      obtain ⟨hc, hr⟩ := List.forall_mem_cons.mp h
      have hchar : c ≠ 'Σ' ∧ c ≠ 'İ' ∧ lowerChar c = lowerAscii c :=
        of_ascii c hc (by decide)
      intro before
      rw [lowerFrom, lowerIn, if_neg hchar.1, if_neg hchar.2.1, hchar.2.2, ih hr]
      rfl
  exact hfrom []

lemma of_isHex_lowerAscii (h : isHex (lowerAscii c)) : c.toNat < 128 ∧ isBlank c = false := by
  have hc : c.toNat < 128 := by
    unfold lowerAscii at h
    split_ifs at h with hbig
    · have : c.toNat ≤ 0x5A := hbig.2
      omega
    · exact toNat_lt_of_hex h
  have hblank : isHex (lowerAscii c) → isBlank c = false := of_ascii c hc (by decide)
  exact ⟨hc, hblank h⟩

end Text

namespace Refresh

open Text

/-- **A digest is known in letters of either case, with blanks around it.** -/
theorem published_around {document before digest after : Text} (hb : ∀ c ∈ before, isBlank c)
    (ha : ∀ c ∈ after, isBlank c) (hd : asciiLower digest = Sha256.hex document) :
    published (before ++ digest ++ after) = Sha256.hex document := by
  have hchars : ∀ c ∈ digest, c.toNat < 128 ∧ isBlank c = false := by
    intro c hc
    have hmem : _ ∈ asciiLower digest := List.mem_map_of_mem hc
    rw [hd] at hmem
    exact of_isHex_lowerAscii (isHex_of_mem_digest hmem)
  rw [published, trim_around hb (fun c hc => (hchars c hc).2) ha,
    lower_of_ascii fun c hc => (hchars c hc).1, hd]

end Refresh

end LinkCleaner
