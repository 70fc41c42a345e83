import LinkCleaner.Json.Reader
import LinkCleaner.Json.Writer
import LinkCleaner.Proofs.Decimal.Shortest

/-!
Numbers that are written and read again. A number ends where a character stands that cannot go on
with it; its digits, its fraction and its exponent are found again, and the double that they are
read as is the one that was written.
-/

namespace LinkCleaner.Json

open Text Decimal

variable {ds fs es rest t : Text} {c : Char}

/-! ### Where a number ends -/

/-- What may follow a value: nothing, or what separates or closes. -/
def Ends (rest : Text) : Prop := ∀ c ∈ rest.head?, c = ',' ∨ c = ']' ∨ c = '\x7d'

/-- What follows digits is none. -/
def Stops (rest : Text) : Prop := ∀ c ∈ rest.head?, isAsciiDigit c = false

lemma Ends.stops (h : Ends rest) : Stops rest := by
  intro c hc
  rcases h c hc with rfl | rfl | rfl <;> rfl

lemma Ends.no_point (h : Ends rest) : rest.head? ≠ some '.' := by
  intro hp
  rcases h '.' hp with h | h | h <;> cases h

lemma ends_nil : Ends [] := fun c hc => by cases hc

lemma ends_cons (h : c = ',' ∨ c = ']' ∨ c = '\x7d') : Ends (c :: rest) := by
  intro d hd
  cases hd
  exact h

lemma stops_cons (h : isAsciiDigit c = false) : Stops (c :: rest) := by
  intro d hd
  cases hd
  exact h

lemma Stops.takeWhile_eq (h : Stops rest) : rest.takeWhile isAsciiDigit = [] := by
  cases rest with
  | nil => rfl
  | cons c r => rw [List.takeWhile_cons_of_neg (by simp [h c rfl])]

lemma takeWhile_digits (hd : IsDigits ds) (h : Stops rest) :
    (ds ++ rest).takeWhile isAsciiDigit = ds := by
  rw [List.takeWhile_append_of_pos hd, h.takeWhile_eq, List.append_nil]

lemma dropWhile_digits (hd : IsDigits ds) (h : Stops rest) :
    (ds ++ rest).dropWhile isAsciiDigit = rest := by
  rw [List.dropWhile_append_of_pos hd]
  cases rest with
  | nil => rfl
  | cons c r => rw [List.dropWhile_cons_of_neg (by simp [h c rfl])]

/-! ### The parts of a number -/

/-- Digits that a whole number may be written in. -/
structure Whole (ds : Text) : Prop where
  digits : IsDigits ds
  ne_nil : ds ≠ []
  leads : ds = ['0'] ∨ ds.head? ≠ some '0'

lemma whole_zero : Whole ['0'] := ⟨isDigits_zero, by decide, Or.inl rfl⟩

lemma wholeDigits_append (h : Whole ds) (hr : Stops rest) :
    wholeDigits (ds ++ rest) = some (ds, rest) := by
  obtain ⟨hd, hne, rfl | hhead⟩ := h
  · rfl
  · have htake := takeWhile_digits hd hr
    unfold wholeDigits
    split
    · next r hs =>
      cases ds with
      | nil => exact absurd rfl hne
      | cons c t =>
        cases hs
        exact absurd rfl hhead
    · simp only [htake, List.isEmpty_iff, hne, if_false, List.drop_left]

/-- A fraction as it stands in a number, with its point. -/
def pointed (fs : Text) : Text := if fs.isEmpty then [] else '.' :: fs

lemma fractionDigits_append (hf : IsDigits fs) (hr : Stops rest) (hp : rest.head? ≠ some '.') :
    fractionDigits (pointed fs ++ rest) = (fs, rest) := by
  unfold pointed
  cases fs with
  | nil =>
    cases rest with
    | nil => rfl
    | cons c r =>
      have hne : c ≠ '.' := fun he => hp (by rw [he]; rfl)
      simp [fractionDigits, hne]
  | cons d r =>
    have htake := takeWhile_digits hf hr
    have hdrop := dropWhile_digits hf hr
    simp only [List.isEmpty_cons, Bool.false_eq_true, if_false, List.cons_append, fractionDigits]
    rw [← List.cons_append, htake, hdrop]

/-- A sign as it stands in an exponent. -/
def signOf (down : Bool) : Char := if down then '-' else '+'

lemma exponentDigits_append (he : IsDigits es) (hne : es ≠ []) (hr : Stops rest) (down : Bool) :
    exponentDigits ('e' :: signOf down :: (es ++ rest)) = some (down, es, rest) := by
  have htake := takeWhile_digits he hr
  cases down <;>
    simp [exponentDigits, signOf, htake, hne]

lemma exponentDigits_of_ends (h : Ends rest) : exponentDigits rest = none := by
  cases rest with
  | nil => rfl
  | cons c r => rcases h c rfl with rfl | rfl | rfl <;> rfl

/-! ### Reading without a sign -/

lemma stops_pointed (hr : Stops rest) (fs : Text) : Stops (pointed fs ++ rest) := by
  unfold pointed
  split_ifs
  · exact hr
  · exact stops_cons rfl

lemma readMagnitude_parts (negative : Bool) (h : Whole ds) (hf : IsDigits fs) (hr : Stops rest)
    (hp : rest.head? ≠ some '.') : readMagnitude negative (ds ++ (pointed fs ++ rest)) =
      match exponentDigits rest with
      | some (down, es, u) =>
        let e : Int := if down then -(digitsValue es : Int) else digitsValue es
        .ok (some (.float (.ofDecimal negative (digitsValue (ds ++ fs)) (e - fs.length)), u))
      | none =>
        if fs.isEmpty then
          if digitLimit < ds.length then .error (.tooManyDigits ds.length)
          else
            let n : Int := digitsValue ds
            .ok (some (.int (if negative then -n else n), pointed fs ++ rest))
        else
          .ok (some (.float (.ofDecimal negative (digitsValue (ds ++ fs)) (-(fs.length : Int))),
            rest)) := by
  rw [readMagnitude, wholeDigits_append h (stops_pointed hr fs)]
  dsimp only
  rw [fractionDigits_append hf hr hp]
  cases fs <;> rfl

section Magnitude

variable (negative : Bool) (h : Whole ds)
include h

lemma readMagnitude_int (hl : ds.length ≤ digitLimit) (hr : Ends rest) :
    readMagnitude negative (ds ++ rest) =
      .ok (some (.int (if negative then -(digitsValue ds : Int) else digitsValue ds), rest)) := by
  have hparts := readMagnitude_parts negative h isDigits_nil hr.stops hr.no_point
  rw [exponentDigits_of_ends hr] at hparts
  simpa [pointed, hl.not_gt] using hparts

lemma readMagnitude_point (hf : IsDigits fs) (hne : fs ≠ []) (hr : Ends rest) :
    readMagnitude negative (ds ++ (pointed fs ++ rest)) =
      .ok (some (.float (.ofDecimal negative (digitsValue (ds ++ fs)) (-(fs.length : Int))),
        rest)) := by
  rw [readMagnitude_parts negative h hf hr.stops hr.no_point, exponentDigits_of_ends hr]
  simp [hne]

lemma readMagnitude_exponent (hf : IsDigits fs) (down : Bool) (he : IsDigits es) (hne : es ≠ [])
    (hr : Ends rest) :
    readMagnitude negative (ds ++ (pointed fs ++ 'e' :: signOf down :: (es ++ rest))) =
      .ok (some (.float (.ofDecimal negative (digitsValue (ds ++ fs))
        ((if down then -(digitsValue es : Int) else digitsValue es) - fs.length)), rest)) := by
  rw [readMagnitude_parts negative h hf (stops_cons rfl) (by simp),
    exponentDigits_append he hne hr.stops]

end Magnitude

/-! ### Digits that are written -/

lemma Whole.of_head (hd : IsDigits ds) (hne : ds ≠ []) (hh : ds.head? ≠ some '0') : Whole ds :=
  ⟨hd, hne, Or.inr hh⟩

lemma head_ofNat {n : Nat} (h : 0 < n) : (ofNat n).head? ≠ some '0' := by
  intro hh
  obtain ⟨r, hr⟩ := List.head?_eq_some_iff.mp hh
  exact ofNat_head h hr rfl

lemma whole_append {n : Nat} (h : 0 < n) (ht : IsDigits t) : Whole (ofNat n ++ t) := by
  refine .of_head (isDigits_append (isDigits_ofNat n) ht) (by simp [ofNat_ne_nil]) ?_
  rw [List.head?_append_of_ne_nil _ (ofNat_ne_nil n)]
  exact head_ofNat h

lemma whole_ofNat (n : Nat) : Whole (ofNat n) := by
  rcases Nat.eq_zero_or_pos n with rfl | hn
  · exact ⟨isDigits_ofNat 0, ofNat_ne_nil 0, Or.inl rfl⟩
  · exact .of_head (isDigits_ofNat n) (ofNat_ne_nil n) (head_ofNat hn)

/-- The text is read as a decimal that stands for a number, up to what follows it. -/
def ReadsAs (text : Text) (x : ℚ) : Prop :=
  ∀ negative rest, Ends rest → ∃ (digits : Nat) (exponent : Int),
    readMagnitude negative (text ++ rest) =
      .ok (some (.float (.ofDecimal negative digits exponent), rest)) ∧
    (digits * 10 ^ exponent : ℚ) = x

section DigitsText

variable {d : Digits} (hd : 0 < d.digits)

lemma readsAs_below (hp : d.point ≤ 0) :
    ReadsAs ('0' :: '.' :: (List.replicate (-d.point).toNat '0' ++ ofNat d.digits)) d.value := by
  intro negative rest hr
  have hf := isDigits_append (isDigits_zeros (-d.point).toNat) (isDigits_ofNat d.digits)
  have hne : List.replicate (-d.point).toNat '0' ++ ofNat d.digits ≠ [] := by
    simp [ofNat_ne_nil]
  have hpoint : pointed (List.replicate (-d.point).toNat '0' ++ ofNat d.digits) =
      '.' :: (List.replicate (-d.point).toNat '0' ++ ofNat d.digits) := by
    simp [pointed, ofNat_ne_nil]
  have hread := readMagnitude_point negative whole_zero hf hne hr
  rw [hpoint] at hread
  refine ⟨_, _, hread, ?_⟩
  rw [List.singleton_append, digitsValue_zero_cons, digitsValue_append, digitsValue_zeros,
    digitsValue_ofNat, Nat.zero_mul, Nat.zero_add, Digits.value, List.length_append,
    List.length_replicate]
  congr 2
  omega

include hd in
lemma readsAs_whole (hp : (ofNat d.digits).length ≤ d.point) :
    ReadsAs (ofNat d.digits ++ List.replicate (d.point - (ofNat d.digits).length).toNat '0'
      ++ ['.', '0']) d.value := by
  intro negative rest hr
  -- the zeros that are missing up to the point, and one after it
  have hw := whole_append hd (isDigits_zeros (d.point - (ofNat d.digits).length).toNat)
  have hread := readMagnitude_point negative hw isDigits_zero (by decide) hr
  have hpoint : pointed ['0'] ++ rest = ['.', '0'] ++ rest := rfl
  rw [hpoint, ← List.append_assoc] at hread
  refine ⟨_, _, hread, ?_⟩
  have hz : digitsValue ['0'] = 0 := rfl
  rw [digitsValue_append, digitsValue_append, digitsValue_zeros, digitsValue_ofNat, hz,
    Digits.value, List.length_singleton, List.length_replicate]
  obtain ⟨k, hk⟩ := Int.eq_ofNat_of_zero_le (sub_nonneg.mpr hp)
  rw [hk, Int.toNat_natCast, zpow_natCast]
  push_cast
  rw [zpow_neg_one]
  ring

include hd in
lemma readsAs_among (h0 : 0 < d.point) (hp : d.point < (ofNat d.digits).length) :
    ReadsAs ((ofNat d.digits).take d.point.toNat ++ '.' :: (ofNat d.digits).drop d.point.toNat)
      d.value := by
  intro negative rest hr
  obtain ⟨k, hk⟩ := Int.eq_ofNat_of_zero_le h0.le
  rw [hk, Int.toNat_natCast]
  have hlt : k < (ofNat d.digits).length := by omega
  have hw : Whole ((ofNat d.digits).take k) := by
    refine .of_head (fun c hc => isDigits_ofNat _ c (List.mem_of_mem_take hc)) ?_ ?_
    · simp [ofNat_ne_nil]
      omega
    · rw [List.head?_take, if_neg (by omega)]
      exact head_ofNat hd
  have hf : IsDigits ((ofNat d.digits).drop k) :=
    fun c hc => isDigits_ofNat _ c (List.mem_of_mem_drop hc)
  have hne : (ofNat d.digits).drop k ≠ [] := by simpa using hlt
  have hread := readMagnitude_point negative hw hf hne hr
  rw [pointed, if_neg (by simpa using hne), ← List.append_assoc] at hread
  refine ⟨_, _, hread, ?_⟩
  rw [List.take_append_drop, digitsValue_ofNat, Digits.value, List.length_drop, hk]
  congr 2
  omega

include hd in
lemma readsAs_exponent {c : Char} {r pad : Text} (hds : ofNat d.digits = c :: r)
    (hpad : pad = [] ∨ pad = ['0']) :
    ReadsAs (c :: (pointed r ++ 'e' :: signOf (d.point - 1 < 0) ::
      (pad ++ ofNat (d.point - 1).natAbs))) d.value := by
  intro negative rest hr
  have hdigits := isDigits_ofNat d.digits
  rw [hds] at hdigits
  obtain ⟨hc, hdr⟩ := List.forall_mem_cons.mp hdigits
  have hw : Whole [c] := by
    refine .of_head (List.forall_mem_singleton.mpr hc) (by simp) ?_
    simpa using ofNat_head hd hds
  have hes : IsDigits (pad ++ ofNat (d.point - 1).natAbs) := by
    rcases hpad with rfl | rfl
    · exact isDigits_ofNat _
    · exact isDigits_append isDigits_zero (isDigits_ofNat _)
  have hvalue : digitsValue (pad ++ ofNat (d.point - 1).natAbs) = (d.point - 1).natAbs := by
    rcases hpad with rfl | rfl
    · exact digitsValue_ofNat _
    · rw [List.singleton_append, digitsValue_zero_cons, digitsValue_ofNat]
  have hread := readMagnitude_exponent negative hw hdr (d.point - 1 < 0) hes
    (by simp [ofNat_ne_nil]) hr
  refine ⟨_, _, by simpa using hread, ?_⟩
  rw [← hds, digitsValue_ofNat, hvalue, Digits.value, hds, List.length_cons]
  congr 2
  rw [Nat.cast_succ]
  split_ifs <;> omega

include hd in
/-- **The text of digits is read as what they stand for.** -/
theorem readsAs_digitsText : ReadsAs (digitsText d) d.value := by
  have hofNat : ∀ n, Nat.toDigits 10 n = ofNat n := fun _ => rfl
  unfold digitsText
  simp only [hofNat]
  by_cases hnear : -4 < d.point ∧ d.point ≤ 16
  · rw [if_pos hnear]
    split_ifs with hbelow hwhole
    · exact readsAs_below hbelow
    · exact readsAs_whole hd hwhole
    · exact readsAs_among hd (not_le.mp hbelow) (not_le.mp hwhole)
  · rw [if_neg hnear]
    cases hds : ofNat d.digits with
    | nil => exact absurd hds (ofNat_ne_nil _)
    | cons c r =>
      have hpad : (if (ofNat (d.point - 1).natAbs).length < 2 then ['0'] else []) = [] ∨
          (if (ofNat (d.point - 1).natAbs).length < 2 then ['0'] else []) = ['0'] := by
        split_ifs <;> simp
      have hread := readsAs_exponent hd hds hpad
      cases r <;> simpa [pointed, signOf] using hread

end DigitsText

/-! ### Numbers with their sign -/

/-- A sign as it stands in front of a number. -/
def minus (negative : Bool) : Text := if negative then ['-'] else []

lemma find_keyword (negative : Bool) (hc : isAsciiDigit c) :
    (keywords.find? fun k => k.1.isPrefixOf (minus negative ++ c :: t)) = none := by
  have hkeys : ∀ k ∈ keywords, (k.1 ≠ [] ∧ k.1.head?.all fun x => !isAsciiDigit x) ∧
      (k.1.drop 1 ≠ [] ∧ (k.1.drop 1).head?.all fun x => !isAsciiDigit x) := by decide
  have hbegins : ∀ {k : Text}, (k ≠ [] ∧ k.head?.all fun x => !isAsciiDigit x) →
      k.isPrefixOf (c :: t) = false := by
    intro k ⟨hne, hk⟩
    cases k with
    | nil => exact absurd rfl hne
    | cons x r =>
      have hx : x ≠ c := by
        rintro rfl
        simp [hc] at hk
      simp [List.isPrefixOf, hx]
  rw [List.find?_eq_none]
  intro k hk
  obtain ⟨h1, h2⟩ := hkeys k hk
  cases negative with
  | false => exact Bool.eq_false_iff.mp (hbegins h1)
  | true =>
    obtain ⟨k, v⟩ := k
    cases k with
    | nil => exact absurd rfl h1.1
    | cons x r =>
      have hr : r.isPrefixOf (c :: t) = false := hbegins h2
      simp [minus, List.isPrefixOf, hr]

lemma head_of_readMagnitude {negative : Bool} {r : Value × Text}
    (h : readMagnitude negative t = .ok (some r)) : ∃ c ∈ t.head?, isAsciiDigit c := by
  have hw : (wholeDigits t).isSome := by
    unfold readMagnitude at h
    cases hw : wholeDigits t with
    | none => simp [hw] at h
    | some w => rfl
  unfold wholeDigits at hw
  split at hw
  · exact ⟨'0', rfl, rfl⟩
  · cases t with
    | nil => simp at hw
    | cons c r =>
      refine ⟨c, rfl, ?_⟩
      by_contra hc
      simp [List.takeWhile_cons_of_neg hc] at hw

lemma readScalar_signed {negative : Bool} {r : Value × Text}
    (h : readMagnitude negative t = .ok (some r)) : readScalar (minus negative ++ t) = .ok r := by
  obtain ⟨c, hc, hdigit⟩ := head_of_readMagnitude h
  obtain ⟨s, rfl⟩ := List.head?_eq_some_iff.mp hc
  rw [readScalar, find_keyword negative hdigit]
  cases negative with
  | true => simp [minus, h, bind, Except.bind]
  | false =>
    have hne : c ≠ '-' := by
      rintro rfl
      cases hdigit
    simp [minus, h, hne, bind, Except.bind]

/-- **A whole number is read as it was written**, unless it has too many digits. -/
theorem readScalar_ofInt {n : Int} (hl : (ofNat n.natAbs).length ≤ digitLimit) (hr : Ends rest) :
    readScalar (ofInt n ++ rest) = .ok (.int n, rest) := by
  cases n with
  | ofNat k =>
    have hread := readMagnitude_int false (whole_ofNat k) hl hr
    rw [digitsValue_ofNat] at hread
    exact readScalar_signed hread
  | negSucc k =>
    have hread := readMagnitude_int true (whole_ofNat (k + 1)) hl hr
    rw [digitsValue_ofNat] at hread
    exact readScalar_signed hread

/-- **A double is read as it was written.** -/
theorem readScalar_writeFloat {x : Binary64} (hx : x.IsCanonical) (hr : Ends rest) :
    readScalar (writeFloat x ++ rest) = .ok (.float x, rest) := by
  cases x with
  | nan => rfl
  | infinite negative => cases negative <;> rfl
  | finite negative m e =>
    have hx : Binary64.Canonical m e := hx
    have htext : writeFloat (.finite negative m e) =
        minus negative ++ if m = 0 then ['0', '.', '0'] else digitsText (shortest m e) := by
      cases negative <;> rfl
    rw [htext, List.append_assoc]
    rcases Nat.eq_zero_or_pos m with rfl | hm
    · have he : e = Binary64.leastExponent := hx.full.resolve_left (by decide)
      have hread := readMagnitude_point negative whole_zero isDigits_zero (by decide) hr
      rw [if_pos rfl, he]
      exact readScalar_signed hread
    · obtain ⟨hpos, hrounds⟩ := shortest_tell hx hm
      obtain ⟨digits, exponent, hread, hvalue⟩ := readsAs_digitsText hpos negative rest hr
      rw [← hvalue] at hrounds
      rw [Binary64.ofDecimal_of_rounds negative hx hm hrounds] at hread
      rw [if_neg hm.ne']
      exact readScalar_signed hread

/-! ### What was read -/

lemma bind_ok {α β : Type} {x : Except Fault α} {f : α → Except Fault β} {b : β}
    (h : x >>= f = .ok b) : ∃ a, x = .ok a ∧ f a = .ok b := by
  cases x with
  | error e => cases h
  | ok a => exact ⟨a, rfl, h⟩

lemma readScalar_cases {s : Text} {r : Value × Text} (h : readScalar s = .ok r) :
    (∃ k ∈ keywords, k.1 <+: s ∧ r.1 = k.2) ∨
      ∃ negative t, s = minus negative ++ t ∧ readMagnitude negative t = .ok (some r) := by
  unfold readScalar at h
  cases hk : keywords.find? fun k => k.1.isPrefixOf s with
  | some k =>
    have hbegins : k.1.isPrefixOf s :=
      List.find?_some (p := fun k : Text × Value => k.1.isPrefixOf s) hk
    rw [hk] at h
    cases h
    exact Or.inl ⟨k, List.mem_of_find?_eq_some hk, List.isPrefixOf_iff_prefix.mp hbegins, rfl⟩
  | none =>
    rw [hk] at h
    simp only at h
    split at h
    · obtain ⟨found, hm, hfound⟩ := bind_ok h
      cases found with
      | none => cases hfound
      | some p =>
        cases hfound
        exact Or.inr ⟨true, _, rfl, hm⟩
    · obtain ⟨found, hm, hfound⟩ := bind_ok h
      cases found with
      | none => cases hfound
      | some p =>
        cases hfound
        exact Or.inr ⟨false, _, rfl, hm⟩

end LinkCleaner.Json
