import LinkCleaner.Proofs.Pattern.Exact

/-!
Patterns that tell how a text begins: a caret with characters behind it. Such a pattern compares
characters one by one, in its mode, and does not see what comes after them.
-/

namespace LinkCleaner.Pattern

open Text

/-- A caret and characters behind it. -/
def openingNode (m : Mode) (s : Text) : Node := seqOf (.anchor m .start :: charsIn m s)

/-- Whether a text begins with these characters, as the mode compares them. -/
def Mode.opens (m : Mode) : Text → Text → Bool
  | [], _ => true
  | _ :: _, [] => false
  | c :: s, d :: t => m.isCode c.toNat d && m.opens s t

variable {m : Mode} {s t r whole : Text} {st : State} {k : Rest} {p : Pattern}

lemma run_charsIn_append (s : Text) (ns : List Node) (st : State) (k : Rest) :
    run whole (seqOf (charsIn m s ++ ns)) st k =
      if m.opens s st.after then
        run whole (seqOf ns) (st.past (st.after.take s.length) (st.after.drop s.length)) k
      else none := by
  induction s generalizing st with
  | nil => rfl
  | cons c s ih =>
    rw [charsIn, List.map_cons, List.cons_append, run_seqOf_cons, run_test]
    cases hst : st.after with
    | nil => simp [State.next?, hst, Mode.opens]
    | cons d q =>
      simp only [State.next?, hst, CharTest.holds, Bool.bne_false]
      by_cases hc : m.isCode c.toNat d
      · have hopens : m.opens (c :: s) (d :: q) = m.opens s q := by
          rw [Mode.opens, hc, Bool.true_and]
        have hpast := State.past_past [d] (q.take s.length) q (q.drop s.length) st
        rw [List.singleton_append] at hpast
        rw [if_pos hc, hopens, List.length_cons, List.take_succ_cons, List.drop_succ_cons, ← hpast]
        exact ih _
      · simp [hc, Mode.opens]

lemma run_charsIn (hk : ∀ u, (k u).isSome) :
    (run whole (seqOf (charsIn m s)) st k).isSome = m.opens s st.after := by
  rw [← List.append_nil (charsIn m s), run_charsIn_append]
  split_ifs with ho
  · rw [ho]
    exact hk _
  · rw [Bool.eq_false_iff.mpr ho]
    rfl

lemma run_openingNode (hm : m.multiline = false) :
    run whole (openingNode m s) st k =
      if st.before.isEmpty then run whole (seqOf (charsIn m s)) st k else none := by
  refine (run_seqOf_cons _ _).trans ?_
  simp [run, Anchor.holds, hm]

/-- **A caret with characters behind it occurs in the texts that begin with these characters.** -/
theorem occurs_of_opening (h : p.node = openingNode m s) (hm : m.multiline = false) (t : Text) :
    p.occurs t = m.opens s t := by
  have hanchored : ∀ whole st k, st.before ≠ [] → run whole p.node st k = none := by
    intro whole st k hb
    rw [h, run_openingNode hm, if_neg (by simpa using hb)]
  rw [occurs, search_anchored hanchored]
  simp only [matchAt, h, run_openingNode hm, State.ofText, List.isEmpty_nil, if_true,
    Option.isSome_map]
  exact run_charsIn fun _ => rfl

lemma opens_append (h : ∀ d ∈ r.head?, ∀ c ∈ s, m.isCode c.toNat d = false) :
    m.opens s (t ++ r) = m.opens s t := by
  induction s generalizing t with
  | nil => rfl
  | cons c s ih =>
    cases t with
    | cons d t =>
      have hs : ∀ d ∈ r.head?, ∀ c ∈ s, m.isCode c.toNat d = false :=
        fun d hd c hc => h d hd c (List.mem_cons_of_mem _ hc)
      rw [List.cons_append, Mode.opens, Mode.opens, ih hs]
    | nil =>
      cases r with
      | nil => rfl
      | cons d r => simp [Mode.opens, h d (by simp) c List.mem_cons_self]

end LinkCleaner.Pattern
