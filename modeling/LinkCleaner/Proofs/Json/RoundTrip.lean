import LinkCleaner.Proofs.Json.Number

/-!
Values that are written and read again. What was read once has no more digits than can be read, no
name twice and doubles of canonical form; written down, it is read as what it is, whatever fuel
there is beyond its length and whatever follows it that may follow a value.
-/

namespace LinkCleaner.Json

open Text Decimal

variable {c : Char} {s t rest : Text} {us : Str} {v w : Value} {vs : List Value}
  {fs : List (Str × Value)} {fuel depth : Nat}

/-! ### Strings -/

lemma hex4_control {n : Nat} (h : n < 0x20) :
    ∃ a b c d, hexPadded 4 n = [a, b, c, d] ∧ hex4? a b c d = some n := by
  have hall : ∀ n < 0x20,
      hexPadded 4 n = ['0', '0', Nat.digitChar (n / 16), Nat.digitChar (n % 16)] ∧
        hex4? '0' '0' (Nat.digitChar (n / 16)) (Nat.digitChar (n % 16)) = some n := by decide
  exact ⟨_, _, _, _, hall n h⟩

lemma readUnits_escaped (opening : Text) {d : Char} (hd : d ≠ 'u') (h : escaped? d = some c)
    (rest : Text) : readUnits opening ('\\' :: d :: rest) = do
      let (us, t) ← readUnits opening rest
      return (.char c :: us, t) := by
  rw [readUnits, if_neg hd, h]
  rintro a b e f r ⟨⟩
  exact absurd rfl hd

lemma readUnits_control (opening : Text) (h : c.toNat < 0x20) (hr : rest ≠ []) :
    readUnits opening (codeEscape c.toNat ++ rest) = do
      let (us, t) ← readUnits opening rest
      return (.char c :: us, t) := by
  obtain ⟨x, y, z, w, he, hx⟩ := hex4_control h
  have hunit : unitOf c.toNat = .char c := by
    rw [unitOf, if_neg (by omega), Char.ofNat_toNat]
  rw [codeEscape, he]
  simp only [List.cons_append, List.nil_append]
  rw [readUnits, if_neg (by simpa using hr), hx]
  simp only [hunit]
  rfl

lemma readUnits_plain (opening : Text) (h1 : c ≠ '\x22') (h2 : c ≠ '\\') (h3 : ¬ c.toNat < 0x20)
    (rest : Text) : readUnits opening (c :: rest) = do
      let (us, t) ← readUnits opening rest
      return (.char c :: us, t) := by
  rw [readUnits, if_neg h1, if_neg h2, if_neg h3]
  · rintro a b e f r ⟨⟩
    exact absurd rfl h2
  · rintro a r ⟨⟩
    exact absurd rfl h2

lemma readUnits_writeChar (opening : Text) (c : Char) (hr : rest ≠ []) :
    readUnits opening (writeChar false c ++ rest) = do
      let (us, t) ← readUnits opening rest
      return (.char c :: us, t) := by
  simp only [writeChar, Bool.false_and, Bool.false_eq_true, if_false]
  split_ifs with h1 h2 h3 h4 h5 h6 h7 h8
  any_goals
    subst c
    exact readUnits_escaped opening (by decide) rfl rest
  · exact readUnits_control opening h8 hr
  · exact readUnits_plain opening h1 h2 h8 rest

lemma readUnits_flatMap (opening : Text) (h : Str.isText us) (rest : Text) :
    readUnits opening (us.flatMap (writeUnit false) ++ '\x22' :: rest) = .ok (us, rest) := by
  induction us with
  | nil =>
    rw [List.flatMap_nil, List.nil_append, readUnits, if_pos rfl] <;> simp
  | cons u us ih =>
    rw [Str.isText, List.all_cons, Bool.and_eq_true] at h
    rw [List.flatMap_cons, List.append_assoc]
    cases u with
    | half code => cases h.1
    | char c =>
      rw [writeUnit, readUnits_writeChar opening c (by simp), ih h.2]
      rfl

/-! ### How a value starts -/

/-- A character that starts a value is no space, closes no list and marks no byte order. -/
def isOpening (c : Char) : Bool := !isSpace c && c != ']' && c != '\uFEFF'

/-- A character that starts a value which is neither a string nor a container. -/
def opensScalar (c : Char) : Bool := isOpening c && c != '\x22' && c != '[' && c != '\x7b'

lemma opensScalar_of_digit (h : isAsciiDigit c) : opensScalar c := by
  have hc : isAsciiDigit c → opensScalar c :=
    of_ascii c (by have := digit_bounds h; omega) (by decide)
  exact hc h

lemma isOpening_of_opensScalar (h : opensScalar c) : isOpening c := by
  simp only [opensScalar, Bool.and_eq_true] at h
  exact h.1.1.1

lemma opensScalar_of_readScalar {r : Value × Text} (h : readScalar s = .ok r) :
    ∃ c ∈ s.head?, opensScalar c := by
  rcases readScalar_cases h with ⟨k, hk, ⟨t, rfl⟩, -⟩ | ⟨negative, t, rfl, hm⟩
  · have hkeys : ∀ k ∈ keywords, k.1 ≠ [] ∧ k.1.head?.all opensScalar := by decide
    obtain ⟨hne, hopen⟩ := hkeys k hk
    cases hname : k.1 with
    | nil => exact absurd hname hne
    | cons c r => exact ⟨c, rfl, by simpa [hname] using hopen⟩
  · cases negative with
    | true => exact ⟨'-', rfl, rfl⟩
    | false =>
      obtain ⟨c, hc, hdigit⟩ := head_of_readMagnitude hm
      exact ⟨c, hc, opensScalar_of_digit hdigit⟩

lemma readValue_of_readScalar {r : Value × Text} (h : readScalar s = .ok r) (fuel : Nat) :
    readValue (fuel + 1) s = .ok r := by
  obtain ⟨c, hc, hopen⟩ := opensScalar_of_readScalar h
  obtain ⟨t, rfl⟩ := List.head?_eq_some_iff.mp hc
  simp only [opensScalar, Bool.and_eq_true, bne_iff_ne] at hopen
  obtain ⟨⟨⟨-, h1⟩, h2⟩, h3⟩ := hopen
  rw [readValue]
  · exact h
  all_goals
    rintro r ⟨⟩
    contradiction

lemma isOpening_of_readValue {r : Value × Text} (h : readValue fuel s = .ok r) :
    ∃ c ∈ s.head?, isOpening c := by
  cases fuel with
  | zero => simp [readValue] at h
  | succ fuel =>
    unfold readValue at h
    split at h
    · exact ⟨'\x22', rfl, rfl⟩
    · exact ⟨'[', rfl, rfl⟩
    · exact ⟨'\x7b', rfl, rfl⟩
    · obtain ⟨c, hc, hopen⟩ := opensScalar_of_readScalar h
      exact ⟨c, hc, isOpening_of_opensScalar hopen⟩

lemma isOpening_of_readElements {r : List Value × Text} (h : readElements fuel s = .ok r) :
    ∃ c ∈ s.head?, isOpening c := by
  cases fuel with
  | zero => simp [readElements] at h
  | succ fuel =>
    cases hv : readValue fuel s with
    | error e => simp [readElements, hv, bind, Except.bind] at h
    | ok r => exact isOpening_of_readValue hv

lemma skipSpace_cons (h : isSpace c = false) : skipSpace (c :: s) = c :: s := by
  rw [skipSpace, List.dropWhile_cons_of_neg (by simp [h])]

lemma skipSpace_of_opening (h : ∃ c ∈ s.head?, isOpening c) : skipSpace s = s := by
  obtain ⟨c, hc, ho⟩ := h
  obtain ⟨t, rfl⟩ := List.head?_eq_some_iff.mp hc
  refine skipSpace_cons ?_
  simp only [isOpening, Bool.and_eq_true, Bool.not_eq_true'] at ho
  exact ho.1.1

/-! ### Values that were read -/

/-- What holds of every value that was read. -/
inductive Regular : Value → Prop
  | null : Regular .null
  | bool (b : Bool) : Regular (.bool b)
  | int {n : Int} (h : (ofNat n.natAbs).length ≤ digitLimit) : Regular (.int n)
  | float {x : Binary64} (h : x.IsCanonical) : Regular (.float x)
  | str (s : Str) : Regular (.str s)
  | arr {vs : List Value} (h : ∀ v ∈ vs, Regular v) : Regular (.arr vs)
  | obj {fs : List (Str × Value)} (hnames : (fs.map Prod.fst).Nodup)
    (h : ∀ f ∈ fs, Regular f.2) : Regular (.obj fs)

lemma putField_of_not_mem {key : Str} (h : key ∉ fs.map Prod.fst) (v : Value) :
    Value.putField key v fs = fs ++ [(key, v)] := by
  induction fs with
  | nil => rfl
  | cons f fs ih =>
    rw [List.map_cons, List.mem_cons, not_or] at h
    rw [Value.putField, if_neg (Ne.symm h.1), ih h.2, List.cons_append]

lemma mem_putField {key : Str} {f : Str × Value} (h : f ∈ Value.putField key v fs) :
    f ∈ fs ∨ f = (key, v) := by
  induction fs with
  | nil => exact Or.inr (List.mem_singleton.mp h)
  | cons g fs ih =>
    unfold Value.putField at h
    split_ifs at h with hk
    · rcases List.mem_cons.mp h with rfl | hf
      · exact Or.inr (by rw [← hk])
      · exact Or.inl (List.mem_cons_of_mem _ hf)
    · rcases List.mem_cons.mp h with rfl | hf
      · exact Or.inl List.mem_cons_self
      · exact (ih hf).imp_left (List.mem_cons_of_mem _)

lemma names_putField (key : Str) (v : Value) (fs : List (Str × Value)) :
    (Value.putField key v fs).map Prod.fst =
      if key ∈ fs.map Prod.fst then fs.map Prod.fst else fs.map Prod.fst ++ [key] := by
  induction fs with
  | nil => rfl
  | cons f fs ih =>
    unfold Value.putField
    by_cases hk : f.1 = key
    · simp [hk]
    · simp only [if_neg hk, List.map_cons, ih, List.mem_cons, Ne.symm hk, false_or]
      split_ifs <;> rfl

/-- Fields as they are collected: no name twice, and nothing that was not there. -/
lemma collect_spec (fs : List (Str × Value)) :
    ((Value.collect fs).map Prod.fst).Nodup ∧ ∀ f ∈ Value.collect fs, f ∈ fs := by
  refine List.foldlRecOn (motive := fun acc : List (Str × Value) =>
    (acc.map Prod.fst).Nodup ∧ ∀ f ∈ acc, f ∈ fs) fs _ ⟨List.nodup_nil, by simp⟩ ?_
  rintro acc ⟨hnodup, hsub⟩ f hf
  constructor
  · rw [names_putField]
    split_ifs with hmem
    · exact hnodup
    · rw [← List.concat_eq_append]
      exact hnodup.concat hmem
  · intro g hg
    rcases mem_putField hg with h | rfl
    · exact hsub g h
    · exact hf

lemma collect_of_nodup (h : (fs.map Prod.fst).Nodup) : Value.collect fs = fs := by
  have hfold : ∀ (acc fs : List (Str × Value)), ((acc ++ fs).map Prod.fst).Nodup →
      fs.foldl (fun acc f => Value.putField f.1 f.2 acc) acc = acc ++ fs := by
    intro acc fs
    induction fs generalizing acc with
    | nil => intro _; rw [List.foldl_nil, List.append_nil]
    | cons f fs ih =>
      intro h
      have hnew : f.1 ∉ acc.map Prod.fst := by
        rw [List.map_append, List.map_cons] at h
        exact fun hm => (List.nodup_append.mp h).2.2 _ hm _ List.mem_cons_self rfl
      rw [List.foldl_cons, putField_of_not_mem hnew, ih _ (by simpa using h)]
      simp
  exact hfold [] fs h

/-! ### What is read -/

lemma isDigits_of_wholeDigits {ds : Text} (h : wholeDigits s = some (ds, t)) : IsDigits ds := by
  unfold wholeDigits at h
  split at h
  · cases h
    exact isDigits_zero
  · simp only at h
    split_ifs at h
    cases h
    exact List.all_eq_true.mp List.all_takeWhile

lemma length_digitsValue_le {ds : Text} (hd : IsDigits ds) (hl : ds.length ≤ digitLimit) :
    (ofNat (digitsValue ds)).length ≤ digitLimit := by
  have hlimit : 0 < digitLimit := by decide
  refine (Nat.length_toDigits_le_iff (by decide) hlimit).mpr ?_
  exact (digitsValue_lt hd).trans_le (Nat.pow_le_pow_right (by decide) hl)

lemma regular_of_readMagnitude {negative : Bool}
    (h : readMagnitude negative s = .ok (some (v, t))) : Regular v := by
  have hfloat : ∀ {digits exponent},
      Regular (.float (Binary64.ofDecimal negative digits exponent)) :=
    .float (Binary64.ofDecimal_isCanonical _ _ _)
  unfold readMagnitude at h
  cases hw : wholeDigits s with
  | none => simp [hw] at h
  | some w =>
    obtain ⟨ds, r⟩ := w
    simp only [hw] at h
    generalize fractionDigits r = fraction at h
    obtain ⟨_ | ⟨c, fs⟩, u⟩ := fraction
    · simp only at h
      generalize exponentDigits r = exponent at h
      obtain _ | ⟨down, es, u⟩ := exponent
      · -- it is a whole number, as neither a fraction nor an exponent follows
        simp only [List.isEmpty_nil, if_true] at h
        split_ifs at h with hl hneg
        all_goals
          have hlen := length_digitsValue_le (isDigits_of_wholeDigits hw) (not_lt.mp hl)
          cases h
          exact .int (by simpa using hlen)
      · cases h
        exact hfloat
    · simp only at h
      generalize exponentDigits u = exponent at h
      obtain _ | ⟨down, es, u⟩ := exponent
      · cases h
        exact hfloat
      · cases h
        exact hfloat

lemma regular_of_readScalar (h : readScalar s = .ok (v, t)) : Regular v := by
  rcases readScalar_cases h with ⟨k, hk, -, rfl⟩ | ⟨negative, r, -, hm⟩
  · simp only [keywords, List.mem_cons, List.not_mem_nil, or_false] at hk
    rcases hk with rfl | rfl | rfl | rfl | rfl | rfl
    exacts [.null, .bool true, .bool false, .float trivial, .float trivial, .float trivial]
  · exact regular_of_readMagnitude hm

/-- With so much fuel, what is read is regular. -/
structure ReadsRegular (fuel : Nat) : Prop where
  value : ∀ {s : Text} {r : Value × Text}, readValue fuel s = .ok r → Regular r.1
  elements : ∀ {s : Text} {r : List Value × Text}, readElements fuel s = .ok r →
    ∀ v ∈ r.1, Regular v
  members : ∀ {s : Text} {r : List (Str × Value) × Text}, readMembers fuel s = .ok r →
    ∀ f ∈ r.1, Regular f.2

lemma ReadsRegular.zero : ReadsRegular 0 where
  value h := by cases h
  elements h := by cases h
  members h := by cases h

lemma ReadsRegular.value_succ (ih : ReadsRegular fuel) {r : Value × Text}
    (h : readValue (fuel + 1) s = .ok r) : Regular r.1 := by
  unfold readValue at h
  split at h
  · obtain ⟨p, -, h⟩ := bind_ok h
    cases h
    exact .str _
  · split at h
    · cases h
      exact .arr (by simp)
    · obtain ⟨p, hp, h⟩ := bind_ok h
      cases h
      exact .arr (ih.elements hp)
  · split at h
    · cases h
      exact .obj List.nodup_nil (by simp)
    · obtain ⟨p, hp, h⟩ := bind_ok h
      cases h
      obtain ⟨hnames, hsub⟩ := collect_spec p.1
      exact .obj hnames fun f hf => ih.members hp f (hsub f hf)
  · exact regular_of_readScalar h

lemma ReadsRegular.elements_succ (ih : ReadsRegular fuel) {r : List Value × Text}
    (h : readElements (fuel + 1) s = .ok r) : ∀ v ∈ r.1, Regular v := by
  unfold readElements at h
  obtain ⟨p, hp, h⟩ := bind_ok h
  have hv := ih.value hp
  simp only at h
  split at h
  · cases h
    simpa using hv
  · obtain ⟨q, hq, h⟩ := bind_ok h
    cases h
    exact List.forall_mem_cons.mpr ⟨hv, ih.elements hq⟩
  · cases h

lemma ReadsRegular.members_succ (ih : ReadsRegular fuel) {r : List (Str × Value) × Text}
    (h : readMembers (fuel + 1) s = .ok r) : ∀ f ∈ r.1, Regular f.2 := by
  unfold readMembers at h
  split at h
  · obtain ⟨k, -, h⟩ := bind_ok h
    simp only at h
    split at h
    · obtain ⟨p, hp, h⟩ := bind_ok h
      have hv := ih.value hp
      split at h
      · cases h
        simpa using hv
      · obtain ⟨q, hq, h⟩ := bind_ok h
        cases h
        exact List.forall_mem_cons.mpr ⟨hv, ih.members hq⟩
      · cases h
    · cases h
  · cases h

lemma readsRegular (fuel : Nat) : ReadsRegular fuel := by
  induction fuel with
  | zero => exact .zero
  | succ fuel ih => exact ⟨ih.value_succ, ih.elements_succ, ih.members_succ⟩

/-- **A document that was read is regular.** -/
theorem regular_of_readDocument (h : readDocument s = .ok v) : Regular v := by
  unfold readDocument at h
  split at h
  · cases h
  · obtain ⟨p, hp, h⟩ := bind_ok h
    simp only at h
    split at h
    · cases h
      exact (readsRegular _).value hp
    · cases h

/-! ### What is written -/

/-- With so much fuel, what is written is read as it was. -/
structure ReadsWritten (fuel : Nat) : Prop where
  value : ∀ {depth v rest}, Regular v → v.isText → 2 * (writeAt .spaced depth v).length < fuel →
    Ends rest → readValue fuel (writeAt .spaced depth v ++ rest) = .ok (v, rest)
  elements : ∀ {depth v vs rest}, (∀ w ∈ v :: vs, Regular w) → Value.areText (v :: vs) →
    2 * (writeAt .spaced depth v ++ writeItems .spaced depth vs).length + 1 < fuel →
    readElements fuel (writeAt .spaced depth v ++ (writeItems .spaced depth vs ++ ']' :: rest)) =
      .ok (v :: vs, rest)
  members : ∀ {depth f fs rest}, (∀ g ∈ f :: fs, Regular g.2) → Value.fieldsAreText (f :: fs) →
    2 * (writeField .spaced depth f ++ writeFields .spaced depth fs).length + 1 < fuel →
    readMembers fuel
        (writeField .spaced depth f ++ (writeFields .spaced depth fs ++ '\x7d' :: rest)) =
      .ok (f :: fs, rest)

lemma ReadsWritten.zero : ReadsWritten 0 where
  value _ _ h := by omega
  elements _ _ h := by omega
  members _ _ h := by omega

lemma writeStr_append (us : Str) (rest : Text) :
    writeStr false us ++ rest = '\x22' :: (us.flatMap (writeUnit false) ++ '\x22' :: rest) := by
  simp [writeStr]

lemma break_spaced (depth : Nat) : Layout.spaced.break depth = [] := rfl

lemma writeAt_arr (depth : Nat) (v : Value) (vs : List Value) (rest : Text) :
    writeAt .spaced depth (.arr (v :: vs)) ++ rest = '[' ::
      (writeAt .spaced (depth + 1) v ++ (writeItems .spaced (depth + 1) vs ++ ']' :: rest)) := by
  rw [writeAt, break_spaced, break_spaced]
  simp

lemma writeItems_cons (depth : Nat) (v : Value) (vs : List Value) (rest : Text) :
    writeItems .spaced depth (v :: vs) ++ rest =
      ',' :: ' ' :: (writeAt .spaced depth v ++ (writeItems .spaced depth vs ++ rest)) := by
  rw [writeItems, break_spaced, show Layout.spaced.comma = [',', ' '] from rfl]
  simp

lemma writeAt_obj (depth : Nat) (f : Str × Value) (fs : List (Str × Value)) (rest : Text) :
    writeAt .spaced depth (.obj (f :: fs)) ++ rest = '\x7b' ::
      (writeField .spaced (depth + 1) f ++
        (writeFields .spaced (depth + 1) fs ++ '\x7d' :: rest)) := by
  rw [writeAt, break_spaced, break_spaced]
  simp

lemma writeFields_cons (depth : Nat) (f : Str × Value) (fs : List (Str × Value)) (rest : Text) :
    writeFields .spaced depth (f :: fs) ++ rest =
      ',' :: ' ' :: (writeField .spaced depth f ++ (writeFields .spaced depth fs ++ rest)) := by
  rw [writeFields, break_spaced, show Layout.spaced.comma = [',', ' '] from rfl]
  simp

lemma writeField_append (depth : Nat) (f : Str × Value) (rest : Text) :
    writeField .spaced depth f ++ rest = '\x22' :: (f.1.flatMap (writeUnit false) ++
      '\x22' :: ':' :: ' ' :: (writeAt .spaced depth f.2 ++ rest)) := by
  rw [writeField, show Layout.spaced.colon = [':', ' '] from rfl,
    show Layout.spaced.ascii = false from rfl]
  simp [writeStr]

lemma length_arr (depth : Nat) (v : Value) (vs : List Value) :
    (writeAt .spaced depth (.arr (v :: vs))).length =
      (writeAt .spaced (depth + 1) v ++ writeItems .spaced (depth + 1) vs).length + 2 := by
  simpa [Nat.add_assoc] using congrArg List.length (writeAt_arr depth v vs [])

lemma length_items (depth : Nat) (v : Value) (vs : List Value) :
    (writeItems .spaced depth (v :: vs)).length =
      (writeAt .spaced depth v ++ writeItems .spaced depth vs).length + 2 := by
  simpa using congrArg List.length (writeItems_cons depth v vs [])

lemma length_obj (depth : Nat) (f : Str × Value) (fs : List (Str × Value)) :
    (writeAt .spaced depth (.obj (f :: fs))).length =
      (writeField .spaced (depth + 1) f ++ writeFields .spaced (depth + 1) fs).length + 2 := by
  simpa [Nat.add_assoc] using congrArg List.length (writeAt_obj depth f fs [])

lemma length_fields (depth : Nat) (f : Str × Value) (fs : List (Str × Value)) :
    (writeFields .spaced depth (f :: fs)).length =
      (writeField .spaced depth f ++ writeFields .spaced depth fs).length + 2 := by
  simpa using congrArg List.length (writeFields_cons depth f fs [])

lemma ends_items (vs : List Value) (rest : Text) :
    Ends (writeItems .spaced depth vs ++ ']' :: rest) := by
  cases vs with
  | nil => exact ends_cons (Or.inr (Or.inl rfl))
  | cons v vs =>
    rw [writeItems_cons]
    exact ends_cons (Or.inl rfl)

lemma ends_fields (fs : List (Str × Value)) (rest : Text) :
    Ends (writeFields .spaced depth fs ++ '\x7d' :: rest) := by
  cases fs with
  | nil => exact ends_cons (Or.inr (Or.inr rfl))
  | cons f fs =>
    rw [writeFields_cons]
    exact ends_cons (Or.inl rfl)

lemma ReadsWritten.arr_succ (ih : ReadsWritten fuel) (hv : ∀ w ∈ vs, Regular w)
    (ht : Value.areText vs) (hl : 2 * (writeAt .spaced depth (.arr vs)).length < fuel + 1)
    (rest : Text) :
    readValue (fuel + 1) (writeAt .spaced depth (.arr vs) ++ rest) = .ok (.arr vs, rest) := by
  cases vs with
  | nil => rfl
  | cons v vs =>
    rw [length_arr] at hl
    have hread : readElements fuel (writeAt .spaced (depth + 1) v ++
        (writeItems .spaced (depth + 1) vs ++ ']' :: rest)) = .ok (v :: vs, rest) :=
      ih.elements hv ht (by omega)
    obtain ⟨c, hc, hopen⟩ := isOpening_of_readElements hread
    rw [writeAt_arr, readValue, skipSpace_of_opening ⟨c, hc, hopen⟩]
    -- an array that holds something does not begin with its end
    obtain ⟨t, ht⟩ := List.head?_eq_some_iff.mp hc
    rw [ht] at hread ⊢
    split
    · next hclose =>
      cases hclose
      cases hopen
    · rw [hread]
      rfl

lemma ReadsWritten.obj_succ (ih : ReadsWritten fuel) (hnames : (fs.map Prod.fst).Nodup)
    (hf : ∀ f ∈ fs, Regular f.2) (ht : Value.fieldsAreText fs)
    (hl : 2 * (writeAt .spaced depth (.obj fs)).length < fuel + 1) (rest : Text) :
    readValue (fuel + 1) (writeAt .spaced depth (.obj fs) ++ rest) = .ok (.obj fs, rest) := by
  cases fs with
  | nil => rfl
  | cons f fs =>
    rw [length_obj] at hl
    have hread : readMembers fuel (writeField .spaced (depth + 1) f ++
        (writeFields .spaced (depth + 1) fs ++ '\x7d' :: rest)) = .ok (f :: fs, rest) :=
      ih.members hf ht (by omega)
    rw [writeAt_obj, readValue]
    rw [writeField_append] at hread ⊢
    rw [skipSpace_cons rfl]
    split
    · next hclose => cases hclose
    · rw [hread]
      exact congrArg (fun fs => Except.ok (Value.obj fs, rest)) (collect_of_nodup hnames)

lemma ReadsWritten.value_succ (ih : ReadsWritten fuel) (hv : Regular v) (ht : v.isText)
    (hl : 2 * (writeAt .spaced depth v).length < fuel + 1) (hr : Ends rest) :
    readValue (fuel + 1) (writeAt .spaced depth v ++ rest) = .ok (v, rest) := by
  cases hv with
  | null => rfl
  | bool b => cases b <;> rfl
  | int h => exact readValue_of_readScalar (readScalar_ofInt h hr) fuel
  | float h => exact readValue_of_readScalar (readScalar_writeFloat h hr) fuel
  | str us =>
    rw [writeAt, show Layout.spaced.ascii = false from rfl, writeStr_append, readValue,
      readUnits_flatMap _ ht]
    rfl
  | arr h => exact ih.arr_succ h ht hl rest
  | obj hnames h => exact ih.obj_succ hnames h ht hl rest

lemma ReadsWritten.elements_succ (ih : ReadsWritten fuel) (hv : ∀ w ∈ v :: vs, Regular w)
    (ht : Value.areText (v :: vs))
    (hl : 2 * (writeAt .spaced depth v ++ writeItems .spaced depth vs).length + 1 < fuel + 1) :
    readElements (fuel + 1)
        (writeAt .spaced depth v ++ (writeItems .spaced depth vs ++ ']' :: rest)) =
      .ok (v :: vs, rest) := by
  obtain ⟨hv, hvs⟩ := List.forall_mem_cons.mp hv
  rw [Value.areText, Bool.and_eq_true] at ht
  rw [List.length_append] at hl
  rw [readElements, ih.value hv ht.1 (by omega) (ends_items vs rest)]
  cases vs with
  | nil => rfl
  | cons w ws =>
    rw [length_items] at hl
    have hread : readElements fuel (writeAt .spaced depth w ++
        (writeItems .spaced depth ws ++ ']' :: rest)) = .ok (w :: ws, rest) :=
      ih.elements hvs ht.2 (by omega)
    have hskip := skipSpace_of_opening (isOpening_of_readElements hread)
    have hspace : ∀ t, skipSpace (' ' :: t) = skipSpace t := fun _ => rfl
    rw [writeItems_cons]
    simp only [bind, Except.bind, skipSpace_cons (show isSpace ',' = false from rfl), hspace, hskip,
      hread]
    rfl

lemma ReadsWritten.members_succ (ih : ReadsWritten fuel) {f : Str × Value}
    (hf : ∀ g ∈ f :: fs, Regular g.2) (ht : Value.fieldsAreText (f :: fs))
    (hl : 2 * (writeField .spaced depth f ++ writeFields .spaced depth fs).length + 1 < fuel + 1) :
    readMembers (fuel + 1)
        (writeField .spaced depth f ++ (writeFields .spaced depth fs ++ '\x7d' :: rest)) =
      .ok (f :: fs, rest) := by
  obtain ⟨hf, hfs⟩ := List.forall_mem_cons.mp hf
  rw [Value.fieldsAreText, Bool.and_eq_true, Bool.and_eq_true] at ht
  obtain ⟨⟨hname, hvalue⟩, ht⟩ := ht
  -- the quotes, the colon and the blank leave enough fuel for the value
  have hlen := congrArg List.length (writeField_append depth f [])
  rw [List.length_append] at hl
  simp only [List.length_append, List.length_cons, List.length_nil] at hlen
  have hread : readValue fuel (writeAt .spaced depth f.2 ++
      (writeFields .spaced depth fs ++ '\x7d' :: rest)) = .ok (f.2, _) :=
    ih.value hf hvalue (by omega) (ends_fields fs rest)
  have hskip := skipSpace_of_opening (isOpening_of_readValue hread)
  have hspace : ∀ t, skipSpace (' ' :: t) = skipSpace t := fun _ => rfl
  rw [writeField_append, readMembers, readUnits_flatMap _ hname]
  simp only [bind, Except.bind, skipSpace_cons (show isSpace ':' = false from rfl), hspace, hskip,
    hread]
  cases fs with
  | nil => rfl
  | cons g gs =>
    rw [length_fields] at hl
    have hread : readMembers fuel (writeField .spaced depth g ++
        (writeFields .spaced depth gs ++ '\x7d' :: rest)) = .ok (g :: gs, rest) :=
      ih.members hfs ht (by omega)
    rw [writeFields_cons]
    rw [writeField_append] at hread ⊢
    simp only [skipSpace_cons (show isSpace ',' = false from rfl), hspace,
      skipSpace_cons (show isSpace '\x22' = false from rfl), hread]
    rfl

lemma readsWritten (fuel : Nat) : ReadsWritten fuel := by
  induction fuel with
  | zero => exact .zero
  | succ fuel ih => exact ⟨ih.value_succ, ih.elements_succ, ih.members_succ⟩

/-- **A regular value is read as it was written**, if its strings are texts. -/
theorem readDocument_write (hv : Regular v) (ht : v.isText) :
    readDocument (write .spaced v) = .ok v := by
  have hread : readValue (2 * (write .spaced v).length + 2) (writeAt .spaced 0 v ++ []) =
      .ok (v, []) := (readsWritten _).value hv ht (by rw [write]; omega) ends_nil
  rw [List.append_nil, ← write] at hread
  obtain ⟨c, hc, hopen⟩ := isOpening_of_readValue hread
  have hskip := skipSpace_of_opening ⟨c, hc, hopen⟩
  unfold readDocument
  split
  · next t hmark =>
    rw [hmark] at hc
    cases hc
    cases hopen
  · rw [hskip, hread]
    rfl

end LinkCleaner.Json
