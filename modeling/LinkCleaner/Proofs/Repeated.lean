import Mathlib.Order.WellFounded
import LinkCleaner.Proofs.Again

/-!
Cleaning by the lists again and again. Texts can grow from one pass to the next, but a pass that
unwraps a redirector leaves fewer characters in the names and values that the text decodes to; and
once a pass was made there is nothing to do but to unwrap. So only so many passes change anything,
and no redirector is met twice.
-/

namespace LinkCleaner

open Text Url

variable {raw text : Text} {u : Url} {o : CleaningOptions}

/-! ### One pass -/

/-- The number of characters in the names and values of a text; what is no URL has none. -/
def pairSize (text : Text) : Nat :=
  match Url.parse text with
  | .error _ => 0
  | .ok u => Form.size u.query

lemma pairSize_of_ok (h : Url.parse text = .ok u) : pairSize text = Form.size u.query := by
  rw [pairSize, h]

namespace Url

lemma size_landing_le (u : Url) : Form.size u.landing.query ≤ Form.size u.query := by
  rcases unwrap_cases u with ⟨-, he⟩ | ⟨v, provider, hu, he, -⟩ <;> rw [he]
  exact (size_of_unwrap hu).le

lemma size_landing_lt (h : u.unwrap?.isSome) : Form.size u.landing.query < Form.size u.query := by
  obtain ⟨⟨v, provider⟩, hu⟩ := Option.isSome_iff_exists.mp h
  rw [landing_of_unwrap hu]
  exact size_of_unwrap hu

lemma Sound.pairs_of_parse_serialize (h : Sound u) {v : Url} (hv : Url.parse u.serialize = .ok v) :
    v.query = u.query ∧ v.fragment.getD [] = u.fragment.getD [] := by
  have hq := isQuery_encode u.query
  refine ⟨?_, h.fragment_of_parse_assemble hq hv⟩
  rw [(h.query_of_parse_assemble hq hv).2, Form.decode_encode]

end Url

lemma pass_leaves (h : Url.parse text = .ok u) (o : CleaningOptions) : ∃ w, Sound w ∧
    Stripped o.removes w ∧ (stripTracking text o).url = w.serialize ∧
    Form.size w.query ≤ Form.size u.query ∧
    ((stripTracking text o).unwrappedFrom.isSome → Form.size w.query < Form.size u.query) := by
  have hsub : (u.landing.strip o.removes).1.query.Sublist u.landing.query := by
    rw [strip_query]
    exact List.filter_sublist
  have hsize := Form.size_sublist hsub
  rw [stripTracking_of_ok h o]
  refine ⟨_, (landing_sound (parse_sound h)).strip o.removes, stripped_strip o.removes u.landing,
    rfl, hsize.trans u.size_landing_le, fun hu => ?_⟩
  rw [Option.isSome_map] at hu
  exact hsize.trans_lt (size_landing_lt hu)

lemma pass_of_error {e : ParseError} (h : Url.parse text = .error e) (o : CleaningOptions) :
    stripTracking text o = .refused text .invalidUrl := by
  rw [stripTracking, h]

lemma pairSize_serialize_le {w : Url} (h : Sound w) : pairSize w.serialize ≤ Form.size w.query := by
  unfold pairSize
  split
  · exact Nat.zero_le _
  · next v hv => rw [(h.pairs_of_parse_serialize hv).1]

lemma pairSize_pass_le (text : Text) (o : CleaningOptions) :
    pairSize (stripTracking text o).url ≤ pairSize text := by
  cases h : Url.parse text with
  | error e => rw [pass_of_error h]; exact Nat.le_refl _
  | ok u =>
    obtain ⟨w, hw, -, hurl, hle, -⟩ := pass_leaves h o
    rw [hurl, pairSize_of_ok h]
    exact (pairSize_serialize_le hw).trans hle

/-- **A pass that unwraps makes the pairs smaller.** -/
lemma pairSize_pass_lt (h : (stripTracking text o).unwrappedFrom.isSome) :
    pairSize (stripTracking text o).url < pairSize text := by
  cases hp : Url.parse text with
  | error e =>
    rw [pass_of_error hp] at h
    cases h
  | ok u =>
    obtain ⟨w, hw, -, hurl, -, hlt⟩ := pass_leaves hp o
    rw [hurl, pairSize_of_ok hp]
    exact (pairSize_serialize_le hw).trans_lt (hlt h)

/-- **A second pass changes nothing but by unwrapping.** -/
lemma unwraps_of_changed (h : (stripTracking (stripTracking text o).url o).changed) :
    (stripTracking (stripTracking text o).url o).unwrappedFrom.isSome := by
  cases hp : Url.parse text with
  | error e =>
    rw [pass_of_error hp, CleanResult.refused, pass_of_error hp] at h
    cases h
  | ok u =>
    obtain ⟨w, hw, hstripped, hurl, -, -⟩ := pass_leaves hp o
    rw [hurl] at h ⊢
    cases hv : Url.parse w.serialize with
    | error e =>
      rw [pass_of_error hv] at h
      cases h
    | ok v =>
      obtain ⟨hq, hf⟩ := hw.pairs_of_parse_serialize hv
      have hagain : Stripped o.removes v := by
        rw [Stripped, hq, hf]
        exact hstripped
      rw [stripTracking_of_ok hv o] at h ⊢
      rcases unwrap_cases v with ⟨hn, hl⟩ | ⟨x, provider, hx, -, -⟩
      · rw [hn, hl, strip_of_stripped hagain] at h
        cases h
      · rw [hx]
        rfl

/-! ### All passes -/

/-- The text that each of the passes reads: what the one before has left. -/
def textOfPass (o : CleaningOptions) (raw : Text) : Nat → Text
  | 0 => raw
  | n + 1 => (stripTracking (textOfPass o raw n) o).url

/-- One pass after another, counted from 0. -/
def pass (o : CleaningOptions) (raw : Text) (n : Nat) : CleanResult :=
  stripTracking (textOfPass o raw n) o

lemma url_pass (o : CleaningOptions) (raw : Text) (n : Nat) :
    (pass o raw n).url = textOfPass o raw (n + 1) := rfl

lemma pairSize_antitone (o : CleaningOptions) (raw : Text) :
    Antitone fun n => pairSize (textOfPass o raw n) :=
  antitone_nat_of_succ_le fun n => pairSize_pass_le (textOfPass o raw n) o

lemma pairSize_lt {i j k : Nat} (hi : i ≤ k) (hj : k < j)
    (hu : (pass o raw k).unwrappedFrom.isSome) :
    pairSize (textOfPass o raw j) < pairSize (textOfPass o raw i) :=
  calc pairSize (textOfPass o raw j)
      ≤ pairSize (textOfPass o raw (k + 1)) := pairSize_antitone o raw hj
    _ < pairSize (textOfPass o raw k) := pairSize_pass_lt hu
    _ ≤ pairSize (textOfPass o raw i) := pairSize_antitone o raw hi

/-- Each pass that unwraps is paid for by a character. -/
lemma count_unwrapping_le (o : CleaningOptions) (raw : Text) (n : Nat) :
    (List.range n).countP (fun i => (pass o raw i).unwrappedFrom.isSome) +
      pairSize (textOfPass o raw n) ≤ pairSize raw := by
  induction n with
  | zero => simp [textOfPass]
  | succ n ih =>
    rw [List.range_succ, List.countP_append, List.countP_singleton]
    split_ifs with hu
    · have hlt := pairSize_lt (Nat.le_refl n) (Nat.lt_add_one n) hu
      omega
    · have hle := pairSize_antitone o raw (Nat.le_add_right n 1)
      simp only at hle
      omega

lemma count_changed_le (o : CleaningOptions) (raw : Text) (n : Nat) :
    (List.range n).countP (fun i => (pass o raw i).changed) ≤
      1 + (List.range n).countP fun i => (pass o raw i).unwrappedFrom.isSome := by
  induction n with
  | zero => simp
  | succ n ih =>
    simp only [List.range_succ, List.countP_append, List.countP_singleton]
    cases n with
    | zero => split_ifs <;> simp
    | succ n =>
      have himp : (pass o raw (n + 1)).changed → (pass o raw (n + 1)).unwrappedFrom.isSome :=
        unwraps_of_changed
      split_ifs with hc hu
      · omega
      · exact absurd (himp hc) hu
      all_goals omega

/-- **Repeated cleaning ends.** Each pass that unwraps leaves a URL whose pairs have fewer
characters than those it has read; all other passes after the first change nothing. So there are no
more passes that change something than characters in the pairs of the first text, and one; none
comes after some point; and no text is met again once a redirector was unwrapped. -/
theorem passes_end (h : Url.parse raw = .ok u) (o : CleaningOptions) :
    (∀ n : Nat, (pass o raw n).unwrappedFrom.isSome → ∃ v w : Url,
      Url.parse (textOfPass o raw n) = .ok v ∧ (pass o raw n).url = w.serialize ∧
        Form.size w.query < Form.size v.query ∧
        ∀ x, Url.parse (textOfPass o raw (n + 1)) = .ok x → x.query = w.query) ∧
      (∀ n : Nat, 0 < n → (pass o raw n).changed → (pass o raw n).unwrappedFrom.isSome) ∧
      (∀ n : Nat, (List.range n).countP (fun i => (pass o raw i).changed) ≤ 1 + Form.size u.query) ∧
      (∃ n, ∀ m : Nat, n ≤ m → (pass o raw m).changed = false) ∧
      ∀ i j k : Nat, i ≤ k → k < j → (pass o raw k).unwrappedFrom.isSome →
        textOfPass o raw i ≠ textOfPass o raw j := by
  have hlater : ∀ n, 0 < n → (pass o raw n).changed → (pass o raw n).unwrappedFrom.isSome := by
    intro n hn hc
    obtain ⟨m, rfl⟩ := Nat.exists_eq_succ_of_ne_zero hn.ne'
    exact unwraps_of_changed hc
  refine ⟨fun n hu => ?_, hlater, fun n => ?_, ?_, fun i j k hi hj hu he => ?_⟩
  · cases hp : Url.parse (textOfPass o raw n) with
    | error e =>
      rw [pass, pass_of_error hp] at hu
      cases hu
    | ok v =>
      obtain ⟨w, hw, -, hurl, -, hlt⟩ := pass_leaves hp o
      refine ⟨v, w, rfl, hurl, hlt hu, fun x hx => ?_⟩
      rw [← url_pass, pass, hurl] at hx
      exact (hw.pairs_of_parse_serialize hx).1
  · have hc := count_changed_le o raw n
    have hu := count_unwrapping_le o raw n
    rw [pairSize_of_ok h] at hu
    omega
  · -- from where the pairs are smallest on, no pass can unwrap
    let size n := pairSize (textOfPass o raw n)
    refine ⟨Function.argmin size + 1, fun m hm => ?_⟩
    by_contra hc
    have hu := hlater m (by omega) (by simpa using hc)
    have hlt : size (m + 1) < size m := pairSize_lt (Nat.le_refl m) (Nat.lt_add_one m) hu
    have hle : size m ≤ size (Function.argmin size) := pairSize_antitone o raw (by omega)
    exact absurd ((hlt.trans_le hle).trans_le (Function.argmin_le size (m + 1))) (Nat.lt_irrefl _)
  · have hlt := pairSize_lt hi hj hu
    rw [he] at hlt
    exact absurd hlt (Nat.lt_irrefl _)

/-- The first pass takes out a parameter and lengthens the text; only then is there a redirector,
and it leads to another one. -/
theorem passes_end_nested :
    let raw := ("file:l.php?utm_id=1&u=https://l.instagram.com/" ++
      "?u=ftp://\u00e9.x/b%2520c d%26utm_x").toList
    let u : Url := ⟨"file".toList, [], "l.php".toList, [("utm_id".toList, "1".toList),
      ("u".toList, "https://l.instagram.com/?u=ftp://\u00e9.x/b%20c d&utm_x".toList)], none,
      some ("utm_id=1&u=https://l.instagram.com/" ++
        "?u=ftp://\u00e9.x/b%2520c%20d%26utm_x").toList⟩
    Url.parse raw = .ok u ∧ (pass {} raw 0).changed = true ∧
      (pass {} raw 0).unwrappedFrom = none ∧ raw.length < (pass {} raw 0).url.length ∧
      (pass {} raw 1).unwrappedFrom = some "facebook".toList ∧
      (pass {} raw 2).unwrappedFrom = some "instagram".toList ∧
      (pass {} raw 2).url = "ftp://\u00e9.x/b%20c%20d".toList ∧ Form.size u.query = 58 ∧
      (List.range 100).countP (fun i => (pass {} raw i).changed) ≤ 59 ∧
      textOfPass {} raw 1 ≠ textOfPass {} raw 3 := by
  intro raw u
  have h : Url.parse raw = .ok u := by decide +kernel
  have hfirst : (pass {} raw 0).changed = true ∧ (pass {} raw 0).unwrappedFrom = none ∧
      raw.length < (pass {} raw 0).url.length := by decide +kernel
  have hsecond : (pass {} raw 1).unwrappedFrom = some "facebook".toList := by decide +kernel
  have hthird : (pass {} raw 2).unwrappedFrom = some "instagram".toList ∧
      (pass {} raw 2).url = "ftp://\u00e9.x/b%20c%20d".toList := by decide +kernel
  have hsize : Form.size u.query = 58 := by decide +kernel
  obtain ⟨-, -, hcount, -, hne⟩ := passes_end h {}
  rw [hsize] at hcount
  refine ⟨h, hfirst.1, hfirst.2.1, hfirst.2.2, hsecond, hthird.1, hthird.2, hsize, hcount 100, ?_⟩
  exact hne 1 3 1 (Nat.le_refl 1) (by decide) (by rw [hsecond]; rfl)

end LinkCleaner
