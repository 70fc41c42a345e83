import LinkCleaner.Proofs.Rules.TakenOver

/-!
What raw rules leave of the parameters that are to be kept. A raw rule deletes parts of the text,
and what is left is taken over if no name that is to be kept is missing in it. So the names stay;
but of several pairs of one name some may go, and a value may lose a part.
-/

namespace LinkCleaner.Rules

open Text Url

variable {raw : Text} {u v w : Url} {o : CleaningOptions} {c : Cleaning} {q : Pattern}

/-- The pairs whose name is to be kept. -/
def pairsToKeep (o : CleaningOptions) (ps : List Form.Pair) : List Form.Pair :=
  ps.filter fun p => o.keep.contains (lower p.1)

/-- A raw rule spares the pairs that are to be kept if the URL that it puts in place of another has
the same. -/
def Spares (o : CleaningOptions) (u : Url) (q : Pattern) : Prop :=
  ∀ v ∈ rewritten? o u q, pairsToKeep o v.query = pairsToKeep o u.query

instance (o : CleaningOptions) (u : Url) (q : Pattern) : Decidable (Spares o u q) :=
  inferInstanceAs (Decidable (∀ v ∈ rewritten? o u q, _))

/-- The URL that raw rules leave, one after another. -/
def afterRules (o : CleaningOptions) (qs : List Pattern) (u : Url) : Url :=
  (qs.foldl (deleteBy o) { url := u }).url

/-! ### One rule -/

lemma pairsToKeep_deleteBy_iff (c : Cleaning) (q : Pattern) :
    pairsToKeep o (deleteBy o c q).url.query = pairsToKeep o c.url.query ↔ Spares o c.url q := by
  rw [deleteBy_eq, Spares]
  cases rewritten? o c.url q <;> simp

/-! ### All rules -/

lemma foldl_take_succ (qs : List Pattern) (c : Cleaning) (n : Nat) :
    (qs.take (n + 1)).foldl (deleteBy o) c =
      qs[n]?.toList.foldl (deleteBy o) ((qs.take n).foldl (deleteBy o) c) := by
  rw [List.take_add_one, List.foldl_append]

lemma pairsToKeep_take_iff (qs : List Pattern) (u : Url) :
    (∀ n, pairsToKeep o (afterRules o (qs.take n) u).query = pairsToKeep o u.query) ↔
      ∀ n q, qs[n]? = some q → Spares o (afterRules o (qs.take n) u) q := by
  constructor
  · intro h n q hq
    have hnext := h (n + 1)
    rw [← h n, afterRules, foldl_take_succ, hq] at hnext
    exact (pairsToKeep_deleteBy_iff _ q).mp hnext
  · intro h n
    induction n with
    | zero => rfl
    | succ n ih =>
      rw [← ih, afterRules, foldl_take_succ]
      cases hq : qs[n]? with
      | none => rfl
      | some q => exact (pairsToKeep_deleteBy_iff _ q).mpr (h n q hq)

lemma afterRules_eq_last (qs : List Pattern) (c : Cleaning) :
    (qs.foldl (deleteBy o) c).url = (rewritesBy o qs c).getLast?.getD c.url := by
  induction qs generalizing c with
  | nil => rfl
  | cons q qs ih =>
    rw [List.foldl_cons, ih, rewritesBy, List.getLast?_append, deleteBy_eq]
    cases rewritten? o c.url q <;> cases (rewritesBy o qs _).getLast? <;> rfl

lemma afterRules_faithful (h : Sound u) (qs : List Pattern) :
    Faithful o u (afterRules o qs u) := by
  refine List.foldlRecOn (motive := fun b : Cleaning => Faithful o u b.url) _ _ (.refl h) ?_
  exact fun _ hb q _ => hb.trans (deleteBy_faithful hb.sound q)

/-- **Raw rules leave every name that is to be kept**, but not each of its pairs: these are the same
in the end exactly if the URL that was put in place last has the same, if any was; and they are the
same all along exactly if every rule spares them in its turn. -/
theorem rawRules_keep_iff (h : parse raw = .ok u) (he : Edited u v) (p : Provider)
    (o : CleaningOptions) :
    (∀ k ∈ v.keys, lower k ∈ o.keep →
        ∃ l ∈ (afterRules o p.rawRules v).keys, lower l = lower k) ∧
      (pairsToKeep o (afterRules o p.rawRules v).query = pairsToKeep o v.query ↔
        ∀ w, (rewritesBy o p.rawRules { url := v }).getLast? = some w →
          pairsToKeep o w.query = pairsToKeep o v.query) ∧
      ((∀ n, pairsToKeep o (afterRules o (p.rawRules.take n) v).query = pairsToKeep o v.query) ↔
        ∀ n q, p.rawRules[n]? = some q → Spares o (afterRules o (p.rawRules.take n) v) q) := by
  refine ⟨(afterRules_faithful (he.sound (parse_sound h)) p.rawRules).keeps, ?_,
    pairsToKeep_take_iff p.rawRules v⟩
  rw [afterRules, afterRules_eq_last]
  cases (rewritesBy o p.rawRules { url := v }).getLast? with
  | none => simp
  | some w => simp

/-- The first rule cuts the path, the second one is not followed as it would cut all names, and the
third one cuts a pair between two that are to be kept. -/
theorem rawRules_keep_id :
    let raw := "https://shop.test/a/track/7?ID=1&gclid=0&x=2%20&id=3".toList
    let u : Url := ⟨"https".toList, "shop.test".toList, "/a/track/7".toList,
      [("ID".toList, "1".toList), ("gclid".toList, "0".toList), ("x".toList, "2 ".toList),
        ("id".toList, "3".toList)], none, some "ID=1&gclid=0&x=2%20&id=3".toList⟩
    let v := u.without fun k => k == "gclid".toList
    let p : Provider :=
      { name := "shop".toList
        rawRules :=
          ["/track/\\d+".toList, "[?&]id=.*".toList, "&x=[^&]*".toList].filterMap pattern? }
    let o : CleaningOptions := { keep := ["id".toList] }
    let kept := [("ID".toList, "1".toList), ("id".toList, "3".toList)]
    parse raw = .ok u ∧ Edited u v ∧ p.rawRules.length = 3 ∧
      (afterRules o p.rawRules v).href = "https://shop.test/a?ID=1&id=3".toList ∧
      pairsToKeep o v.query = kept ∧
      pairsToKeep o (afterRules o (p.rawRules.take 2) v).query = kept ∧
      pairsToKeep o (afterRules o p.rawRules v).query = kept := by
  intro raw u v p o kept
  have h : parse raw = .ok u := by decide +kernel
  have he : Edited u v := .without _ .read
  have hlength : p.rawRules.length = 3 := by decide +kernel
  have hkept : pairsToKeep o v.query = kept := by decide +kernel
  have hspares : ∀ n < 3, ∀ q ∈ p.rawRules[n]?,
      Spares o (afterRules o (p.rawRules.take n) v) q := by
    decide +kernel
  obtain ⟨-, -, hiff⟩ := rawRules_keep_iff h he p o
  have hall := hiff.mpr fun n q hq =>
    hspares n (hlength ▸ (List.getElem?_eq_some_iff.mp hq).1) q hq
  have hend := hall 3
  rw [← hlength, List.take_length] at hend
  exact ⟨h, he, hlength, by decide +kernel, hkept, (hall 2).trans hkept, hend.trans hkept⟩

/-- A pair that is to be kept is lost, as there is another one of its name; and the value of one
that is to be kept loses a part. -/
theorem kept_pair_lost :
    let o : CleaningOptions := { keep := ["id".toList] }
    let cutting (source : Text) : Provider :=
      { name := "shop".toList
        urlPattern := pattern? ".*".toList
        rawRules := (pattern? source).toList }
    let page (query : Text) : Url := ⟨"https".toList, "shop.test".toList, "/".toList,
      Form.decode query, none, some query⟩
    let twice := page "id=1&id=2".toList
    let once := page "id=12".toList
    parse "https://shop.test/?id=1&id=2".toList = .ok twice ∧
      pairsToKeep o twice.query = [("id".toList, "1".toList), ("id".toList, "2".toList)] ∧
      pairsToKeep o (afterRules o (cutting "&id=2".toList).rawRules twice).query =
        [("id".toList, "1".toList)] ∧
      apply (some [cutting "&id=2".toList]) "https://shop.test/?id=1&id=2".toList o =
        { url := "https://shop.test/?id=1".toList, changed := true } ∧
      parse "https://shop.test/?id=12".toList = .ok once ∧
      pairsToKeep o once.query = [("id".toList, "12".toList)] ∧
      pairsToKeep o (afterRules o (cutting "2".toList).rawRules once).query =
        [("id".toList, "1".toList)] := by
  decide +kernel

end LinkCleaner.Rules
