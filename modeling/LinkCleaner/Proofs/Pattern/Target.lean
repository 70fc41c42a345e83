import LinkCleaner.Proofs.Pattern.Opening
import LinkCleaner.Proofs.Url.Page

/-!
Patterns for the pages of one host that hand on a target. The one occurs in the pages of its host
and of no other, and the one behind it captures the target up to the end of the text.
-/

namespace LinkCleaner.Pattern

open Text Url

/-- The text of a page up to the target that it hands on. -/
def lead (host : Text) : Text := "https://".toList ++ (host ++ "/go?to=".toList)

/-- The part of it behind the scheme. -/
def leadRest (host : Text) : Text := "://".toList ++ (host ++ "/go?to=".toList)

/-- The pattern for such pages of a host. -/
def leadSource (host : Text) : Text :=
  "^https?://".toList ++ (escape host ++ "/go\\?to=".toList)

/-- The pattern for the target on such a page. -/
def targetSource (host : Text) : Text := leadSource host ++ "([^&]+)".toList

def leadNodes (host : Text) : List Node :=
  .anchor startMode .start :: (charsIn startMode "http".toList ++
    .many 0 (some 1) .greedy (.char startMode (.one 's'.toNat false)) ::
      charsIn startMode (leadRest host))

/-- Characters other than `&`. -/
def stretch : Node := .many 1 none .greedy (.char startMode (.one '&'.toNat true))

def leadPattern (host : Text) : Pattern :=
  { source := leadSource host, groups := 0, node := seqOf (leadNodes host) }

def targetPattern (host : Text) : Pattern :=
  { source := targetSource host, groups := 1
    node := seqOf (leadNodes host ++ [.group (some 1) stretch]) }

variable {host g q r whole : Text} {st : State} {k : Rest} {ns : List Node}

/-! ### How they are read -/

/-- The lexemes that both patterns begin with. -/
def leadLexemes (host : Text) : List Lexeme :=
  .anchor .start :: ("http".toList.map (fun c => .literal c.toNat) ++
    .literal 's'.toNat :: .count 0 (some 1) .greedy ::
      (leadRest host).map fun c => .literal c.toNat)

lemma leadSource_append (host r : Text) :
    leadSource host ++ r = '^' :: ("http".toList ++ 's' :: '?' :: ':' :: '/' :: '/' ::
      (escape host ++ ("/go".toList ++ '\\' :: '?' :: ("to=".toList ++ r)))) := by
  have hscheme : "^https?://".toList = '^' :: ("http".toList ++ ['s', '?', ':', '/', '/']) := by
    decide
  have hpath : "/go\\?to=".toList = "/go".toList ++ '\\' :: '?' :: "to=".toList := by decide
  unfold leadSource
  rw [hscheme, hpath]
  simp only [List.append_assoc, List.cons_append, List.nil_append]

lemma lexes_lead (host r : Text) : Lexes [] (leadSource host ++ r) (leadLexemes host) [] r := by
  have hcaret : ∀ r, Lexes [] ('^' :: r) [.anchor .start] [] r := fun r =>
    lexes_one rfl (Nat.le_refl _) rfl
  have hcount : ∀ r, Lexes [] ('s' :: '?' :: ':' :: r)
      ([.literal 's'.toNat] ++ [.count 0 (some 1) .greedy]) [] (':' :: r) := fun r =>
    (lexes_one rfl (Nat.le_refl _) rfl).trans (lexes_one rfl (Nat.le_refl _) rfl)
  have hslashes : ∀ r, Lexes [] (':' :: '/' :: '/' :: r)
      ([':', '/', '/'].map fun c => .literal c.toNat) [] r :=
    fun r => lexes_literals (s := [':', '/', '/']) (by decide) r
  have hmark : ∀ r, Lexes [] ('\\' :: '?' :: r) [.literal '?'.toNat] [] r := fun r =>
    lexes_one rfl (by simp) rfl
  have hgo : ∀ r, Lexes [] ("/go".toList ++ r) ("/go".toList.map fun c => .literal c.toNat) [] r :=
    fun r => lexes_literals (by decide) r
  have hpath := (hgo _).trans
    ((hmark _).trans (lexes_literals (s := "to=".toList) (by decide) r))
  have hall := (hcaret _).trans ((lexes_literals (s := "http".toList) (by decide) _).trans
    ((hcount _).trans ((hslashes _).trans ((lexes_escape host _).trans hpath))))
  rw [leadSource_append]
  simpa [leadLexemes, leadRest] using hall

lemma lex_leadSource (host : Text) : lex (leadSource host) = leadLexemes host := by
  obtain ⟨m, -, he⟩ := lexes_lead host [] _ (Nat.le_refl _)
  rw [List.append_nil] at he
  rw [lex, he]
  cases m <;> simp [lexFrom]

lemma lex_targetSource (host : Text) :
    lex (targetSource host) = leadLexemes host ++
      [.openGroup none, .set [.single '&'.toNat] true, .count 1 none .greedy, .close] := by
  have htail : Lexes [] "([^&]+)".toList
      ([.openGroup none] ++ ([.set [.single '&'.toNat] true] ++
        ([.count 1 none .greedy] ++ [.close]))) [] [] := by
    have h1 : Lexes [] ('(' :: "[^&]+)".toList) [.openGroup none] [false] "[^&]+)".toList :=
      lexes_one rfl (Nat.le_refl _) rfl
    have h2 : Lexes [false] ('[' :: "^&]+)".toList) [.set [.single '&'.toNat] true] [false]
        "+)".toList := lexes_one rfl (by decide) rfl
    have h3 : Lexes [false] ('+' :: ")".toList) [.count 1 none .greedy] [false] ")".toList :=
      lexes_one rfl (Nat.le_refl _) rfl
    exact h1.trans (h2.trans (h3.trans (lexes_one rfl (Nat.le_refl _) rfl)))
  obtain ⟨m, -, he⟩ := (lexes_lead host _).trans htail _ (Nat.le_refl _)
  rw [lex, targetSource, he]
  cases m <;> simp [lexFrom]

lemma foldlM_lead (host : Text) :
    (leadLexemes host).foldlM Parsing.step { level := { mode := startMode } } =
      .ok { level := { mode := startMode, items := ((leadNodes host).map Item.node).reverse }
            counted := true } := by
  simp only [leadLexemes, List.foldlM_cons, List.foldlM_append, ok_bind, foldlM_literals,
    Parsing.step, Parsing.push, Level.push, Parsing.count, Item.repeated?, leadNodes,
    List.map_cons, List.map_append, List.reverse_cons, List.reverse_append, List.append_assoc,
    List.cons_append, List.nil_append]

/-- **The pattern for the pages is read as its characters**, the `s` of the scheme counted. -/
theorem parse_leadSource (host : Text) :
    Pattern.parse (leadSource host) = .ok (leadPattern host) := by
  unfold Pattern.parse
  rw [lex_leadSource, foldlM_lead]
  simp only [ok_bind, Parsing.finish, Level.nodes, Level.all, Level.current, List.reverse_nil,
    List.nil_append, List.reverse_reverse, flatMap_nodes]
  rfl

/-- **The pattern for the target is read as the same with a group behind it.** -/
theorem parse_targetSource (host : Text) :
    Pattern.parse (targetSource host) = .ok (targetPattern host) := by
  unfold Pattern.parse
  rw [lex_targetSource, List.foldlM_append, foldlM_lead]
  simp only [List.foldlM_cons, List.foldlM_nil, bind_pure, ok_bind, Parsing.step,
    Parsing.openCapture, Parsing.enter, Parsing.push, Parsing.count, Parsing.closeGroup,
    Parsing.finish, Level.push, Level.nodes, Level.all, Level.current, Item.repeated?,
    List.reverse_nil, List.nil_append, List.reverse_cons, List.reverse_reverse,
    List.flatMap_append, flatMap_nodes]
  rfl

example : targetSource "a-b.test".toList = "^https?://a\\-b\\.test/go\\?to=([^&]+)".toList := by
  decide

/-! ### How characters are compared -/

/-- ASCII other than a capital. -/
def isSmallAscii (c : Char) : Bool := c.toNat < 128 && !('A' ≤ c && c ≤ 'Z')

/-- Such characters are compared as they are: their small forms are they themselves, and of the
other letters with their capitals none is ASCII. -/
lemma isCode_small {c d : Char} (hc : isSmallAscii c) (hd : isSmallAscii d) :
    startMode.isCode c.toNat d = (c == d) := by
  have hlt : ∀ {e : Char}, isSmallAscii e → e.toNat < 128 := fun he => by
    simp only [isSmallAscii, Bool.and_eq_true, decide_eq_true_eq] at he
    exact he.1
  have hfold : ∀ {e : Char}, isSmallAscii e → smallCode e.toNat = e.toNat := fun {e} he =>
    of_ascii (p := fun e => isSmallAscii e → smallCode e.toNat = e.toNat) e (hlt he)
      (by decide +kernel) he
  have hother : ∀ n ∈ othersOfCapital c.toNat, 128 ≤ n :=
    of_ascii (p := fun e => ∀ n ∈ othersOfCapital e.toNat, 128 ≤ n) c (hlt hc) (by decide +kernel)
  have hnone : d.toNat ∉ othersOfCapital c.toNat := fun hm =>
    absurd (hlt hd) (Nat.not_lt.mpr (hother _ hm))
  rw [Bool.eq_iff_iff, beq_iff_eq, ← Char.toNat_inj]
  simp [Mode.isCode, Mode.fold, startMode, sameLetter, hfold hc, hfold hd, hnone]

lemma isSmallAscii_of_hostChar {c : Char} (h : isHostChar c) : isSmallAscii c :=
  of_ascii (p := fun c => isHostChar c → isSmallAscii c) c (toNat_lt_of_hostChar h)
    (by decide +kernel) h

lemma opens_append_left (m : Mode) (s t r : Text) : m.opens (s ++ t) (s ++ r) = m.opens t r := by
  induction s with
  | nil => rfl
  | cons c s ih =>
    have hc : m.isCode c.toNat c := by simp [Mode.isCode]
    rw [List.cons_append, List.cons_append, Mode.opens, hc, Bool.true_and, ih]

lemma opens_self (m : Mode) (s r : Text) : m.opens s (s ++ r) := by
  have h := opens_append_left m s [] r
  rw [List.append_nil] at h
  exact h

lemma opens_host (hh : ∀ c ∈ host, isHostChar c) (hg : ∀ c ∈ g, isHostChar c) (s t : Text) :
    startMode.opens (host ++ '/' :: s) (g ++ '/' :: t) =
      (host == g && startMode.opens s t) := by
  have hslash : isSmallAscii '/' := by decide
  have hne : ∀ {c : Char}, isHostChar c → c ≠ '/' := by
    rintro _ hc rfl
    exact absurd hc (by decide)
  -- where one host ends before the other, a slash meets a character that is none
  induction host generalizing g with
  | nil =>
    cases g with
    | nil => exact opens_append_left startMode ['/'] s t
    | cons d g =>
      have hd := hg d List.mem_cons_self
      have hcode : startMode.isCode '/'.toNat d = false := by
        rw [isCode_small hslash (isSmallAscii_of_hostChar hd), beq_eq_false_iff_ne]
        exact (hne hd).symm
      simp only [List.nil_append, List.cons_append, Mode.opens, hcode, Bool.false_and]
      rfl
  | cons c h ih =>
    have hc := hh c List.mem_cons_self
    have hrest : ∀ e ∈ h, isHostChar e := fun e he => hh e (List.mem_cons_of_mem c he)
    cases g with
    | nil =>
      have hcode : startMode.isCode c.toNat '/' = false := by
        rw [isCode_small (isSmallAscii_of_hostChar hc) hslash, beq_eq_false_iff_ne]
        exact hne hc
      simp only [List.nil_append, List.cons_append, Mode.opens, hcode, Bool.false_and]
      rfl
    | cons d g =>
      have hd := hg d List.mem_cons_self
      simp only [List.cons_append, Mode.opens, List.cons_beq_cons, Bool.and_assoc,
        isCode_small (isSmallAscii_of_hostChar hc) (isSmallAscii_of_hostChar hd),
        ih hrest fun e he => hg e (List.mem_cons_of_mem d he)]

/-! ### Matches -/

lemma run_charsIn_self {m : Mode} {s : Text} (h : st.after = s ++ r) :
    run whole (seqOf (charsIn m s ++ ns)) st k = run whole (seqOf ns) (st.past s r) k := by
  have hopens : m.opens s st.after := h ▸ opens_self m s r
  rw [run_charsIn_append, if_pos hopens, h, List.take_left, List.drop_left]

lemma run_charsIn_none {m : Mode} {s : Text} (h : m.opens s st.after = false) :
    run whole (seqOf (charsIn m s ++ ns)) st k = none := by
  rw [run_charsIn_append, h]
  rfl

lemma run_test_of_holds {m : Mode} {test : CharTest} {c : Char} (whole : Text)
    (hst : st.after = c :: r) (hc : test.holds m c) :
    run whole (.char m test) st k = k (st.past [c] r) := by
  rw [run_test, State.next?, hst]
  simp only [hc, if_true]
  rfl

/-- An optional character that is there is taken, if nothing matches without it. -/
lemma run_optional {m : Mode} {test : CharTest} {c : Char} (hst : st.after = c :: r)
    (hc : test.holds m c) (hno : k st = none) :
    run whole (.many 0 (some 1) .greedy (.char m test)) st k = k (st.past [c] r) := by
  have hone : optional 0 (some 1) st = 1 := by simp [optional]
  have htaken : run whole (.char m test) st
      (fun t => runMore (run whole (.char m test)) 0 (some st.index) t k) = k (st.past [c] r) :=
    run_test_of_holds whole hst hc
  change runMore (run whole (.char m test)) (optional 0 (some 1) st) none st k = _
  rw [hone, runMore, if_neg (by simp), htaken]
  cases h : k (st.past [c] r) with
  | some e => rfl
  | none => exact hno

/-- As many characters as can be are taken, if all that comes next pass and the rest matches at the
end. -/
lemma runMore_all {m : Mode} {test : CharTest} {e : State} {fuel : Nat} {last : Option Nat}
    (hall : ∀ d ∈ st.after, test.holds m d) (hfuel : st.after.length ≤ fuel)
    (hlast : last ≠ some st.index) (hk : k (st.past st.after []) = some e) :
    runMore (run whole (.char m test)) fuel last st k = some e := by
  obtain ⟨before, after, index, starts, stops⟩ := st
  simp only at hall hfuel hlast hk
  induction after generalizing before index fuel last with
  | nil =>
    have hend : k ⟨before, [], index, starts, stops⟩ = some e := hk
    cases fuel with
    | zero => exact hend
    | succ fuel => rw [runMore, if_neg hlast, run_test, hend]; rfl
  | cons d q ih =>
    cases fuel with
    | zero => simp at hfuel
    | succ fuel =>
      have hrest : runMore (run whole (.char m test)) fuel (some index)
          (State.past [d] q ⟨before, d :: q, index, starts, stops⟩) k = some e := by
        refine ih _ _ (fun c hc => hall c (List.mem_cons_of_mem d hc)) (by simpa using hfuel)
          (by simp) ?_
        rw [← hk]
        simp [State.past, Nat.add_assoc, Nat.add_comm 1]
      have hd : test.holds m d := hall d List.mem_cons_self
      rw [runMore, if_neg hlast, run_test_of_holds whole rfl hd, hrest]

lemma isCode_of_isEncoded {d : Char} (h : Form.isEncoded d) :
    startMode.isCode '&'.toNat d = false :=
  of_ascii (p := fun d => Form.isEncoded d → startMode.isCode '&'.toNat d = false) d
    (Form.toNat_lt_of_isEncoded h) (by decide +kernel) h

lemma run_stretch {e : State} (hne : st.after ≠ []) (hall : ∀ d ∈ st.after, Form.isEncoded d)
    (hk : k (st.past st.after []) = some e) : run whole stretch st k = some e := by
  have htest : ∀ d ∈ st.after, (CharTest.one '&'.toNat true).holds startMode d := fun d hd => by
    rw [CharTest.holds, isCode_of_isEncoded (hall d hd)]
    rfl
  cases hst : st.after with
  | nil => exact absurd hst hne
  | cons d q =>
    rw [hst] at htest hk
    have hrest : runMore (run whole (.char startMode (.one '&'.toNat true)))
        (optional 1 none (st.past [d] q)) none (st.past [d] q) k = some e := by
      refine runMore_all (fun c hc => htest c (List.mem_cons_of_mem d hc)) ?_ (by simp) ?_
      · simp [optional]
      · rw [← hk]
        exact congrArg k (State.past_past [d] q q [] st)
    exact (run_test_of_holds whole hst (htest d List.mem_cons_self)).trans hrest

/-! ### The two patterns -/

lemma lead_append (g q : Text) : lead g ++ q = "http".toList ++ 's' :: (leadRest g ++ q) := by
  have hscheme : "https://".toList = "http".toList ++ 's' :: "://".toList := by decide
  unfold lead leadRest
  rw [hscheme]
  simp only [List.append_assoc, List.cons_append]

lemma opens_leadRest (hh : IsPlainHost host) (hg : IsPlainHost g) :
    startMode.opens (leadRest host) (leadRest g ++ q) = (host == g) := by
  have hpath : "/go?to=".toList = '/' :: "go?to=".toList := by decide
  unfold leadRest
  rw [hpath, List.append_assoc, List.append_assoc, opens_append_left, List.cons_append,
    opens_host hh.chars hg.chars, opens_self, Bool.and_true]

lemma run_lead (hh : IsPlainHost host) (hg : IsPlainHost g) :
    run whole (seqOf (leadNodes host ++ ns)) (.ofText (lead g ++ q)) k =
      if host = g then run whole (seqOf ns) ((State.ofText (lead g ++ q)).past (lead g) q) k
      else none := by
  have hscheme : (State.ofText (lead g ++ q)).after = "http".toList ++ 's' :: (leadRest g ++ q) :=
    lead_append g q
  have hstart : run whole (seqOf (leadNodes host ++ ns)) (.ofText (lead g ++ q)) k =
      run whole (seqOf (charsIn startMode "http".toList ++
        (.many 0 (some 1) .greedy (.char startMode (.one 's'.toNat false)) ::
          (charsIn startMode (leadRest host) ++ ns)))) (.ofText (lead g ++ q)) k := by
    rw [leadNodes, List.cons_append, List.append_assoc, List.cons_append, run_seqOf_cons]
    rfl
  -- without the `s` of the scheme the colon is not found
  have hno : ∀ u : State, u.after = 's' :: (leadRest g ++ q) →
      run whole (seqOf (charsIn startMode (leadRest host) ++ ns)) u k = none := by
    intro u hu
    refine run_charsIn_none ?_
    rw [hu]
    have hcolon : startMode.isCode ':'.toNat 's' = false := by decide +kernel
    exact (congrArg (· && _) hcolon).trans (Bool.false_and _)
  rw [hstart, run_charsIn_self hscheme, run_seqOf_cons, run_optional rfl (by decide +kernel)
    (hno _ rfl), State.past_past]
  split_ifs with he
  · subst he
    have hlead : "http".toList ++ ['s'] ++ leadRest host = lead host := by
      simpa using (lead_append host []).symm
    rw [run_charsIn_self rfl, State.past_past, hlead]
  · exact run_charsIn_none ((opens_leadRest hh hg).trans (beq_eq_false_iff_ne.mpr he))

lemma run_lead_inner (h : st.before ≠ []) :
    run whole (seqOf (leadNodes host ++ ns)) st k = none := by
  rw [leadNodes, List.cons_append, run_seqOf_cons]
  have hstart : Anchor.holds startMode st .start = false := by
    simpa [Anchor.holds, startMode] using h
  simp only [run, hstart]
  rfl

/-- **The pattern for the pages of a host occurs in these and in those of no other host.** -/
theorem occurs_lead (hh : IsPlainHost host) (hg : IsPlainHost g) (q : Text) :
    (leadPattern host).occurs (lead g ++ q) = (host == g) := by
  have hnode : (leadPattern host).node = seqOf (leadNodes host ++ []) := by
    rw [List.append_nil]
    rfl
  have hanchored (whole : Text) (st : State) (k : Rest) (hb : st.before ≠ []) :
      run whole (leadPattern host).node st k = none := by
    rw [hnode, run_lead_inner hb]
  rw [occurs, search_anchored hanchored, matchAt, Option.isSome_map, hnode]
  refine (congrArg Option.isSome (run_lead hh hg)).trans ?_
  by_cases he : host = g
  · rw [if_pos he, beq_iff_eq.mpr he]
    rfl
  · rw [if_neg he, beq_eq_false_iff_ne.mpr he]
    rfl

/-- **The pattern behind it captures the target**, if this was encoded. -/
theorem search_target (hh : IsPlainHost host) (hne : q ≠ []) (hq : ∀ d ∈ q, Form.isEncoded d) :
    ∃ f, (targetPattern host).search (lead host ++ q) = some f ∧
      f.group? (lead host ++ q) 1 = some q := by
  have hanchored (whole : Text) (st : State) (k : Rest) (hb : st.before ≠ []) :
      run whole (targetPattern host).node st k = none := run_lead_inner hb
  let st : State := (State.ofText (lead host ++ q)).past (lead host) q
  have hrun : run (lead host ++ q) (targetPattern host).node (.ofText (lead host ++ q)) some =
      some (((st.startGroup 1).past q []).stopGroup 1) := by
    refine (run_lead hh hh).trans ((if_pos rfl).trans ?_)
    have hstretch : run (lead host ++ q) stretch (st.startGroup 1)
        (fun u => some (u.stopGroup 1)) = some (((st.startGroup 1).past q []).stopGroup 1) :=
      run_stretch hne hq rfl
    exact hstretch
  refine ⟨⟨0, ((st.startGroup 1).past q []).stopGroup 1⟩, ?_, ?_⟩
  · rw [search_anchored hanchored, matchAt]
    exact congrArg (Option.map fun t => Found.mk 0 t) hrun
  · have hgroup : (((st.startGroup 1).past q []).stopGroup 1).group? 1 =
        some ((lead host).length, (lead host).length + q.length) := by
      simp [st, State.group?, State.past, State.stopGroup, State.startGroup, State.ofText]
    rw [Found.group?, hgroup, Option.map_some]
    simp [slice]

end LinkCleaner.Pattern
