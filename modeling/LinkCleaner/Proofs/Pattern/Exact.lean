import Mathlib.Tactic.Lemma
import Mathlib.Tactic.SplitIfs
import LinkCleaner.Pattern.Match
import LinkCleaner.Proofs.Text.Ascii

/-!
Patterns that match one text alone. A text in which every mark stands behind a backslash is read as
its characters, one by one; from the start to the end of a text, and with regard to case, they match
that text and no other. A part of it can be captured.
-/

namespace LinkCleaner.Pattern

open Text

/-- A text in which all but letters and digits stand behind a backslash. -/
def escape (s : Text) : Text :=
  s.flatMap fun c => if isAsciiLetter c || isAsciiDigit c then [c] else ['\\', c]

/-- A pattern for one text, given in three parts of which the second is captured. -/
def exactSource (a t b : Text) : Text :=
  '(' :: '?' :: '-' :: 'i' :: ':' :: '\\' :: 'A' ::
    (escape a ++ '(' :: (escape t ++ ')' :: (escape b ++ ['\\', 'Z', ')'])))

/-- Characters that are compared in a mode. -/
def charsIn (m : Mode) (s : Text) : List Node := s.map fun c => .char m (.one c.toNat false)

/-- The characters of a text as they are, with regard to case. -/
def chars (s : Text) : List Node := s.map fun c => .char {} (.one c.toNat false)

def exactNode (a t b : Text) : Node :=
  .group none (seqOf (.anchor {} .textStart :: (chars a ++
    .group (some 1) (seqOf (chars t)) :: (chars b ++ [.anchor {} .textStop]))))

def exact (a t b : Text) : Pattern :=
  { source := exactSource a t b, groups := 1, node := exactNode a t b }

/-! ### Lexemes -/

/-- Characters that mean something else than themselves where no backslash precedes them. -/
def marks : Text := "\\[()|.^$?*+\x7b".toList

def isBare (c : Char) : Bool := !marks.contains c

lemma lexOne_literal {c : Char} (h : isBare c) (r : Text) :
    lexOne c r = .ok (some (.literal c.toNat), r) := by
  unfold lexOne
  split
  case h_13 => rfl
  all_goals exact absurd h (by decide)

lemma isBare_of_digit {c : Char} (h : isAsciiLetter c || isAsciiDigit c) : isBare c := by
  have hm : marks.all fun d => !(isAsciiLetter d || isAsciiDigit d) := by decide
  simp only [isBare, List.contains_eq_mem, Bool.not_eq_true', decide_eq_false_iff_not]
  intro hc
  have hn := List.all_eq_true.mp hm c hc
  rw [h] at hn
  cases hn

lemma lexEscape_mark {c : Char} (h : ¬ (isAsciiLetter c || isAsciiDigit c)) (r : Text) :
    lexEscape c r = .ok (.literal c.toNat, r) := by
  have ha : anchor? c = none := by
    unfold anchor?
    split
    case h_5 => rfl
    all_goals exact absurd h (by decide)
  have hk : category? c = none := by
    unfold category?
    split
    case h_7 => rfl
    all_goals exact absurd h (by decide)
  have hc : lexCode? c r = none := by
    unfold lexCode?
    split_ifs with h1 h2 h3
    · exact absurd h (by subst h1; decide)
    · exact absurd h (by subst h2; decide)
    · exact absurd h (by subst h3; decide)
    · rfl
  rw [Bool.or_eq_true, not_or, Bool.not_eq_true, Bool.not_eq_true] at h
  unfold lexEscape
  by_cases hb : c = '\\'
  · subst hb
    rfl
  · have hn : control? c = none := by
      unfold control?
      split
      case h_7 => exact absurd rfl hb
      case h_8 => rfl
      all_goals exact absurd h.1 (by decide)
    simp [ha, hk, hc, hn, h.1, h.2]

/-- A text that is not spaced out begins with these lexemes, after which another text is left. The
two lists tell whether the groups around are spaced out. -/
def Lexes (outer : List Bool) (s : Text) (ls : List Lexeme) (outer' : List Bool) (r : Text) :
    Prop :=
  ∀ fuel, s.length ≤ fuel →
    ∃ m, r.length ≤ m ∧ lexFrom fuel false outer s = ls ++ lexFrom m false outer' r

section Lexes

variable {outer outer' outer'' : List Bool} {s r t : Text} {ls ms : List Lexeme} {l : Lexeme}
  {c : Char}

lemma Lexes.trans (h : Lexes outer s ls outer' r) (h' : Lexes outer' r ms outer'' t) :
    Lexes outer s (ls ++ ms) outer'' t := by
  intro fuel hfuel
  obtain ⟨m, hm, he⟩ := h fuel hfuel
  obtain ⟨n, hn, he'⟩ := h' m hm
  exact ⟨n, hn, by rw [he, he', List.append_assoc]⟩

lemma lexes_one (h : lexOne c s = .ok (some l, r)) (hlen : r.length ≤ s.length)
    (hl : l.spacing false outer = (false, outer')) : Lexes outer (c :: s) [l] outer' r := by
  intro fuel hfuel
  cases fuel with
  | zero => simp at hfuel
  | succ m =>
    rw [List.length_cons] at hfuel
    refine ⟨m, by omega, ?_⟩
    simp [lexFrom, h, hl]

lemma lexes_literals (h : s.all isBare) (r : Text) :
    Lexes outer (s ++ r) (s.map fun c => .literal c.toNat) outer r := by
  induction s with
  | nil => exact fun fuel hfuel => ⟨fuel, hfuel, rfl⟩
  | cons c s ih =>
    rw [List.all_cons, Bool.and_eq_true] at h
    have hone : Lexes outer (c :: (s ++ r)) [.literal c.toNat] outer (s ++ r) :=
      lexes_one (lexOne_literal h.1 _) (Nat.le_refl _) rfl
    exact hone.trans (ih h.2)

lemma lexes_escape (s r : Text) :
    Lexes outer (escape s ++ r) (s.map fun c => .literal c.toNat) outer r := by
  induction s with
  | nil => exact fun fuel hfuel => ⟨fuel, hfuel, rfl⟩
  | cons c s ih =>
    have hone : Lexes outer (escape (c :: s) ++ r) [.literal c.toNat] outer (escape s ++ r) := by
      rw [escape, List.flatMap_cons, List.append_assoc]
      split_ifs with h
      · exact lexes_one (lexOne_literal (isBare_of_digit h) _) (Nat.le_refl _) rfl
      · refine lexes_one (s := c :: (escape s ++ r)) ?_ (by simp) rfl
        simp only [lexOne, lexEscape_mark h]
        rfl
    exact hone.trans ih

lemma lexGroup_capture (h : s.head? ≠ some '?') : lexGroup s = .ok (some (.openGroup none), s) := by
  unfold lexGroup
  split
  case h_12 => rfl
  all_goals simp at h

lemma head?_escape (s r : Text) (hr : r.head? ≠ some '?') : (escape s ++ r).head? ≠ some '?' := by
  cases s with
  | nil => exact hr
  | cons c s =>
    rw [escape, List.flatMap_cons, List.append_assoc]
    split_ifs with h
    · rw [List.singleton_append, List.head?_cons, ne_eq, Option.some.injEq]
      rintro rfl
      exact absurd h (by decide)
    · simp

end Lexes

lemma lex_exactSource (a t b : Text) :
    lex (exactSource a t b) = .openPlain [] ['i'] :: .anchor .textStart ::
      (a.map (fun c => .literal c.toNat) ++ .openGroup none ::
        (t.map (fun c => .literal c.toNat) ++ .close ::
          (b.map (fun c => .literal c.toNat) ++ [.anchor .textStop, .close]))) := by
  have hopen : ∀ r, Lexes [] ('(' :: '?' :: '-' :: 'i' :: ':' :: '\\' :: 'A' :: r)
      ([.openPlain [] ['i']] ++ [.anchor .textStart]) [false] r := by
    intro r
    have h1 : lexOne '(' ('?' :: '-' :: 'i' :: ':' :: '\\' :: 'A' :: r) =
        .ok (some (.openPlain [] ['i']), '\\' :: 'A' :: r) := rfl
    have h2 : lexOne '\\' ('A' :: r) = .ok (some (.anchor .textStart), r) := rfl
    exact (lexes_one h1 (by simp) rfl).trans (lexes_one h2 (by simp) rfl)
  have hgroup : ∀ r, Lexes [false] ('(' :: (escape t ++ ')' :: r)) [.openGroup none]
      [false, false] (escape t ++ ')' :: r) := fun r =>
    lexes_one (lexGroup_capture (head?_escape t _ (by simp))) (Nat.le_refl _) rfl
  have hclose : ∀ r, Lexes [false, false] (')' :: r) [.close] [false] r := fun r =>
    lexes_one rfl (Nat.le_refl _) rfl
  have hend : Lexes [false] ['\\', 'Z', ')'] ([.anchor .textStop] ++ [.close]) [] [] := by
    have h1 : lexOne '\\' ['Z', ')'] = .ok (some (.anchor .textStop), [')']) := rfl
    have h2 : lexOne ')' [] = .ok (some .close, []) := rfl
    exact (lexes_one h1 (by simp) rfl).trans (lexes_one h2 (by simp) rfl)
  have hall := (hopen _).trans ((lexes_escape a _).trans ((hgroup _).trans ((lexes_escape t _).trans
    ((hclose _).trans ((lexes_escape b _).trans hend)))))
  obtain ⟨m, -, he⟩ := hall _ (Nat.le_refl _)
  rw [lex, exactSource, he]
  cases m <;> simp [lexFrom]

/-! ### The expression -/

lemma ok_bind {α β : Type} (x : α) (f : α → Except Refusal β) : (Except.ok x >>= f) = f x := rfl

lemma foldlM_literals (s : Text) (p : Parsing) :
    (s.map fun c => Lexeme.literal c.toNat).foldlM Parsing.step p =
      .ok { p with level := { p.level with
        items := ((charsIn p.level.mode s).map Item.node).reverse ++ p.level.items } } := by
  induction s generalizing p with
  | nil => rfl
  | cons c s ih =>
    have hstep : p.step (.literal c.toNat) =
        .ok (p.push (.node (.char p.level.mode (.one c.toNat false)))) := rfl
    rw [List.map_cons, List.foldlM_cons, hstep]
    refine (ih (p.push (.node (.char p.level.mode (.one c.toNat false))))).trans ?_
    simp [charsIn, Parsing.push, Level.push]

lemma foldlM_chars (s : Text) (p : Parsing) (h : p.level.mode = {}) :
    (s.map fun c => Lexeme.literal c.toNat).foldlM Parsing.step p =
      .ok { p with level := { p.level with
        items := ((chars s).map Item.node).reverse ++ p.level.items } } := by
  rw [foldlM_literals, h]
  rfl

lemma flatMap_nodes (ns : List Node) : (ns.map Item.node).flatMap Item.nodes = ns := by
  rw [List.flatMap_map]
  exact List.flatMap_singleton' ns

/-- **The pattern for one text is read as its characters**, with the second part in a group. -/
theorem parse_exactSource (a t b : Text) :
    Pattern.parse (exactSource a t b) = .ok (exact a t b) := by
  have hmode : Parsing.withFlags startMode [] ['i'] = {} := rfl
  unfold Pattern.parse
  rw [lex_exactSource]
  simp only [List.foldlM_cons, List.foldlM_append, List.foldlM_nil, bind_pure, ok_bind, hmode,
    foldlM_chars, Parsing.step, Parsing.enter, Parsing.push, Parsing.openCapture,
    Parsing.closeGroup, Level.push, Level.nodes, Level.all, Level.current, List.isEmpty_nil,
    List.isEmpty_cons, Bool.not_true, Bool.not_false, Bool.or_true, List.reverse_nil,
    List.reverse_cons, List.reverse_append, List.reverse_reverse, List.nil_append,
    List.cons_append, List.append_assoc, List.flatMap_append, List.flatMap_cons,
    List.flatMap_nil, List.append_nil, flatMap_nodes]
  rfl

/-! ### Matches -/

variable {whole s r : Text} {ns : List Node} {k : Rest} {st : State}

lemma run_seqOf_cons (n : Node) (ns : List Node) :
    run whole (seqOf (n :: ns)) st k = run whole n st fun u => run whole (seqOf ns) u k := by
  cases ns <;> rfl

/-- The state after a text that comes next. -/
def State.past (s r : Text) (st : State) : State :=
  { st with before := s.reverse ++ st.before, after := r, index := st.index + s.length }

lemma State.past_past (s t q r : Text) (st : State) :
    (st.past s q).past t r = st.past (s ++ t) r := by
  simp [past, Nat.add_assoc]

lemma run_test (m : Mode) (test : CharTest) (st : State) (k : Rest) :
    run whole (.char m test) st k =
      match st.next? with
      | none => none
      | some (d, u) => if test.holds m d then k u else none := rfl

lemma run_char (c : Char) (st : State) (k : Rest) :
    run whole (.char {} (.one c.toNat false)) st k =
      match st.next? with
      | none => none
      | some (d, u) => if d = c then k u else none := by
  have hholds : ∀ d : Char, (CharTest.one c.toNat false).holds {} d ↔ d = c := by
    intro d
    rw [← Char.toNat_inj]
    simpa [CharTest.holds, Mode.isCode, Mode.fold] using eq_comm
  simp only [run_test, hholds]

lemma run_chars (s : Text) (ns : List Node) (st : State) (k : Rest) :
    (∀ r, st.after = s ++ r →
      run whole (seqOf (chars s ++ ns)) st k = run whole (seqOf ns) (st.past s r) k) ∧
    (¬ s <+: st.after → run whole (seqOf (chars s ++ ns)) st k = none) := by
  induction s generalizing st with
  | nil =>
    refine ⟨?_, fun h => absurd List.nil_prefix h⟩
    rintro r hr
    rw [List.nil_append] at hr
    rw [State.past, ← hr]
    rfl
  | cons c s ih =>
    have hcons : run whole (seqOf (chars (c :: s) ++ ns)) st k =
        match st.next? with
        | none => none
        | some (d, u) => if d = c then run whole (seqOf (chars s ++ ns)) u k else none := by
      rw [chars, List.map_cons, List.cons_append, run_seqOf_cons, run_char]
      rfl
    rw [hcons]
    cases hst : st.after with
    | nil => simp [State.next?, hst]
    | cons d q =>
      simp only [State.next?, hst]
      obtain ⟨ih1, ih2⟩ := ih { st with before := d :: st.before, after := q, index := st.index + 1 }
      constructor
      · intro r hr
        rw [List.cons_append, List.cons.injEq] at hr
        obtain ⟨rfl, rfl⟩ := hr
        rw [if_pos rfl, ih1 r rfl]
        simp [State.past, Nat.add_assoc, Nat.add_comm 1]
      · intro hn
        split_ifs with hd
        · subst hd
          refine ih2 fun hp => hn ?_
          exact List.cons_prefix_cons.mpr ⟨rfl, hp⟩
        · rfl

lemma run_textStart (ns : List Node) (st : State) (k : Rest) :
    run whole (seqOf (.anchor {} .textStart :: ns)) st k =
      if st.before.isEmpty then run whole (seqOf ns) st k else none := by
  rw [run_seqOf_cons]
  rfl

lemma run_textStop (st : State) (k : Rest) :
    run whole (seqOf [.anchor {} .textStop]) st k = if st.isAtEnd then k st else none := rfl

lemma run_capture (n : Nat) (t : Text) (ns : List Node) (st : State) (k : Rest) :
    run whole (seqOf (.group (some n) (seqOf (chars t)) :: ns)) st k =
      run whole (seqOf (chars t ++ [])) (st.startGroup n) fun u =>
        run whole (seqOf ns) (u.stopGroup n) k := by
  rw [run_seqOf_cons, List.append_nil]
  rfl

/-! ### Patterns that are looked for at the start alone -/

section Anchored

variable {p : Pattern} (h : ∀ whole st k, st.before ≠ [] → run whole p.node st k = none)

include h

lemma searchFrom_inner (before : Text) (index : Nat) (hb : before ≠ []) (s : Text) :
    p.searchFrom whole false before index s = none := by
  induction s generalizing before index with
  | nil => simp [searchFrom, matchAt, h, hb]
  | cons c s ih =>
    have hat : p.matchAt whole false ⟨before, c :: s, index, [], []⟩ = none := by
      simp [matchAt, h, hb]
    rw [searchFrom, hat]
    exact ih (c :: before) (index + 1) (List.cons_ne_nil c before)

/-- A pattern that does not match away from the start of a text is looked for there alone. -/
lemma search_anchored (s : Text) : p.search s = p.matchAt s false (.ofText s) := by
  cases s with
  | nil => rfl
  | cons c s =>
    rw [search, searchFrom, searchFrom_inner h [c] 1 (List.cons_ne_nil c []), ← State.ofText]
    cases p.matchAt (c :: s) false (.ofText (c :: s)) <;> rfl

end Anchored

/-! ### The pattern for one text -/

variable {a t b : Text}

lemma run_exactNode_inner (h : st.before ≠ []) :
    run whole (exactNode a t b) st k = none := by
  refine (run_textStart _ st k).trans (if_neg ?_)
  simpa using h

/-- The state after the whole text, with the second part in the group. -/
def exactEnd (a t b : Text) : State :=
  ((((State.ofText (a ++ (t ++ b))).past a (t ++ b)).startGroup 1).past t b |>.stopGroup 1).past b []

lemma group?_exactEnd :
    (exactEnd a t b).group? 1 = some (a.length, a.length + t.length) := by
  simp [exactEnd, State.group?, State.past, State.stopGroup, State.startGroup, State.ofText]

lemma run_exactNode_self (k : Rest) :
    run whole (exactNode a t b) (.ofText (a ++ (t ++ b))) k = k (exactEnd a t b) := by
  refine (run_textStart _ _ k).trans ((if_pos rfl).trans ?_)
  rw [(run_chars a _ _ k).1 (t ++ b) rfl, run_capture, (run_chars t [] _ _).1 b rfl]
  refine ((run_chars b _ _ k).1 [] (List.append_nil b).symm).trans ?_
  exact (run_textStop _ k).trans (if_pos rfl)

lemma run_exactNode_other (h : s ≠ a ++ (t ++ b)) :
    run whole (exactNode a t b) (.ofText s) k = none := by
  refine (run_textStart _ _ k).trans ((if_pos rfl).trans ?_)
  by_cases ha : a <+: s
  · obtain ⟨r, rfl⟩ := ha
    rw [(run_chars a _ (.ofText (a ++ r)) k).1 r rfl, run_capture]
    by_cases ht : t <+: r
    · obtain ⟨q, rfl⟩ := ht
      rw [(run_chars t [] _ _).1 q rfl]
      change run whole (seqOf (chars b ++ [.anchor {} .textStop])) _ k = none
      by_cases hb : b <+: q
      · obtain ⟨e, rfl⟩ := hb
        rw [(run_chars b _ _ k).1 e rfl, run_textStop, if_neg]
        intro he
        have he' : e = [] := by simpa [State.isAtEnd, State.past] using he
        exact h (by rw [he', List.append_nil])
      · exact (run_chars b _ _ k).2 hb
    · exact (run_chars t [] _ _).2 ht
  · exact (run_chars a _ (.ofText s) k).2 ha

lemma search_exact (s : Text) :
    (exact a t b).search s = (exact a t b).matchAt s false (.ofText s) :=
  search_anchored (fun _ _ _ hb => run_exactNode_inner hb) s

/-- **The pattern for one text matches that text, and captures its part.** -/
theorem search_exact_self :
    ∃ f, (exact a t b).search (a ++ (t ++ b)) = some f ∧ f.group? (a ++ (t ++ b)) 1 = some t := by
  refine ⟨⟨0, exactEnd a t b⟩, ?_, ?_⟩
  · rw [search_exact, matchAt]
    exact (congrArg _ (run_exactNode_self _)).trans rfl
  · rw [Found.group?, group?_exactEnd, Option.map_some]
    simp [slice]

/-- **It matches no other text.** -/
theorem search_exact_other (h : s ≠ a ++ (t ++ b)) : (exact a t b).search s = none := by
  rw [search_exact, matchAt]
  exact (congrArg _ (run_exactNode_other h)).trans rfl

end LinkCleaner.Pattern
