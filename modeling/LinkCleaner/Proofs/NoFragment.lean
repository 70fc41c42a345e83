import LinkCleaner.Proofs.Again
import LinkCleaner.Proofs.Clean
import LinkCleaner.Proofs.Rules.Observed

/-!
Cleaning a URL without a fragment when fragments are to be dropped. There is nothing to drop, but
the URL is written down anew before it is cleaned. The lists do not notice, unless the URL is
ambiguous; rules notice as soon as its query was not written as it would be encoded.
-/

namespace LinkCleaner

open Text Url

variable {raw : Text} {u w : Url}

namespace Url

lemma fragment_of_parse (h : parse raw = .ok u) (hf : '#' ∉ raw) : u.fragment = none := by
  obtain ⟨-, rfl⟩ := checked_of_parse h
  have hno : (trim raw).contains '#' = false := by
    simpa using fun hm => hf ((trim_sublist raw).subset hm)
  rw [hno]
  rfl

lemma written_of_parse (h : parse raw = .ok u) : ∃ q, u.written = some q := by
  obtain ⟨-, rfl⟩ := checked_of_parse h
  exact ⟨_, rfl⟩

/-! ### The URL that is read second -/

/-- Its canonical text is read as a URL with that canonical text, and with a hop if there was one
before. -/
def Settled (u : Url) : Prop :=
  ∃ w, parse u.serialize = .ok w ∧ w.serialize = u.serialize ∧
    w.unwrap?.isSome = u.unwrap?.isSome

/-- Its canonical text is read as a URL that reads the same to patterns. -/
def Canonical (u : Url) : Prop := ∃ w, parse u.serialize = .ok w ∧ w.href = u.href

lemma settled_iff (hw : parse u.serialize = .ok w) :
    Settled u ↔ w.serialize = u.serialize ∧ w.unwrap?.isSome = u.unwrap?.isSome := by
  refine ⟨fun ⟨v, hv, hs⟩ => ?_, fun hs => ⟨w, hw, hs⟩⟩
  rw [hw] at hv
  cases hv
  exact hs

lemma Sound.again (h : Sound u) (hf : u.fragment = none) (hw : parse u.serialize = .ok w) :
    w.query = u.query ∧ w.fragment = none := by
  have hq := isQuery_encode u.query
  refine ⟨?_, fragment_of_parse hw fun hm => ?_⟩
  · rw [(h.query_of_parse_assemble hq hw).2, Form.decode_encode]
  · have hno : u.serialize.contains '#' = !(u.fragment.getD []).isEmpty := h.contains_assemble hq
    rw [hf, List.contains_iff_mem.mpr hm] at hno
    cases hno

lemma unwrap_reread (u : Url) : (u.reread (Form.encode u.query)).unwrap? = u.unwrap? := by
  have hget : ∀ name, (u.reread (Form.encode u.query)).get? name = u.get? name := by
    intro name
    rw [get?, get?, reread, Form.decode_encode]
  rw [unwrap?, unwrap?, Redirector.find_congr (u := u) (v := u.reread _) rfl rfl
    fun _ _ name _ => hget name]

/-- A URL that is ambiguous has no host, and its path is that of no redirector. -/
lemma unwrap_of_ambiguous (h : u.Ambiguous) : u.unwrap? = none := by
  have hpath : u.path ≠ "/l.php".toList := by
    intro he
    obtain ⟨-, hp | ⟨-, -, hp⟩⟩ := h <;> rw [he] at hp <;> exact absurd hp (by decide)
  have hhosts : ∀ r ∈ Redirector.all, r.hasHost [] = false ∧
      (r.either → r.path = some "/l.php".toList) := by decide
  have hnone : ∀ r ∈ Redirector.all, r.target? u = none := by
    intro r hr
    obtain ⟨hhost, heither⟩ := hhosts r hr
    have hcovers : r.covers u.host u.path = false := by
      rw [host, h.1, hostName_nil, Redirector.covers, hhost]
      split_ifs with he
      · simpa [Redirector.hasPath, heither he] using hpath
      · rfl
    rw [Redirector.target?, Redirector.targetAt?, hcovers]
    rfl
  have hfind : Redirector.find? Redirector.all u = none :=
    List.findSome?_eq_none_iff.mpr fun r hr => by rw [hnone r hr]; rfl
  rw [unwrap?, hfind]
  rfl

lemma Sound.settled (h : Sound u) (hn : ¬ u.Ambiguous) : Settled u :=
  ⟨_, h.parse_serialize hn, serialize_reread u, by rw [unwrap_reread]⟩

lemma Sound.canonical_iff (h : Sound u) (hn : ¬ u.Ambiguous) :
    Canonical u ↔ Form.encode u.query = u.written.getD (Form.encode u.query) := by
  have hq := isQuery_encode u.query
  have hhref : (u.reread (Form.encode u.query)).href = u.serialize := by
    rw [href, assemble, getD_fragment_reread]
    rfl
  constructor
  · rintro ⟨w, hw, he⟩
    rw [h.parse_serialize hn] at hw
    cases hw
    rw [hhref] at he
    exact (h.assemble_inj h hq h.query_href.1 he).1
  · intro he
    refine ⟨_, h.parse_serialize hn, ?_⟩
    rw [hhref, serialize, href, ← he]

lemma strip_of_no_fragment (hf : u.fragment = none) (doomed : Text → Bool) :
    (u.strip doomed).1.serialize =
        u.assemble (Form.encode (u.query.filter fun p => !doomed p.1)) ∧
      (u.strip doomed).2 = u.keys.any doomed := by
  by_cases hit : u.keys.any doomed
  · have hnone : (u.without doomed).fragment = none := hf
    simp only [strip, hit, if_true, hnone, Option.bind_none, and_true]
    rfl
  · simp only [strip, hit, hf, Bool.false_eq_true, if_false, Option.bind_none, and_true]
    rw [filter_of_not_hit hit]
    rfl

lemma Sound.strip_again (hu : Sound u) (hf : u.fragment = none) (hw : parse u.serialize = .ok w)
    (doomed : Text → Bool) :
    ((u.strip doomed).1.serialize = (w.strip doomed).1.serialize ↔ w.serialize = u.serialize) ∧
      (u.strip doomed).2 = (w.strip doomed).2 := by
  obtain ⟨hquery, hwf⟩ := hu.again hf hw
  obtain ⟨htext, hflag⟩ := strip_of_no_fragment hf doomed
  obtain ⟨hwtext, hwflag⟩ := strip_of_no_fragment hwf doomed
  have hq := isQuery_encode
  have hinj := fun ps (he : u.assemble (Form.encode ps) = w.assemble (Form.encode ps)) =>
    (hu.assemble_inj (parse_sound hw) (hq ps) (hq ps) he).2
  rw [htext, hwtext, hflag, hwflag, keys, keys, serialize, serialize, hquery]
  exact ⟨⟨fun he => (hinj _ he _).symm, fun he => hinj _ he.symm _⟩, rfl⟩

end Url

/-! ### The lists -/

lemma stripTracking_serialize (h : parse raw = .ok u) (hf : '#' ∉ raw) (o : CleaningOptions) :
    stripTracking raw o = stripTracking u.serialize o ↔ Settled u := by
  have hsound := parse_sound h
  cases hw : parse u.serialize with
  | error e =>
    rw [stripTracking_of_ok h, stripTracking_of_error hw]
    refine iff_of_false (fun he => ?_) ?_
    · cases congrArg CleanResult.error he
    · rintro ⟨w, hs, -⟩
      rw [hw] at hs
      cases hs
  | ok w =>
    rw [stripTracking_of_ok h, stripTracking_of_ok hw, settled_iff hw, CleanResult.mk.injEq]
    rcases unwrap_cases u with ⟨hu, hl⟩ | ⟨v, provider, hu, hl, -⟩
    · rcases unwrap_cases w with ⟨hwu, hwl⟩ | ⟨v, provider, hwu, -, -⟩
      · obtain ⟨htext, hflag⟩ := hsound.strip_again (fragment_of_parse h hf) hw o.removes
        rw [hl, hwl, hu, hwu, htext, hflag]
        simp
      · simp [hu, hwu]
    · -- a hop: the URL is not ambiguous, so it is read as it was
      have hn : ¬ u.Ambiguous := by
        intro ha
        rw [unwrap_of_ambiguous ha] at hu
        cases hu
      rw [hsound.parse_serialize hn] at hw
      cases hw
      have hwu := unwrap_reread u
      rw [hu] at hwu
      rw [hl, landing_of_unwrap hwu, hwu, hu, serialize_reread]
      simp

/-! ### Rules -/

lemma Rules.apply_serialize (h : parse raw = .ok u) (o : CleaningOptions) :
    (∀ rs, Compiled rs → apply (some rs) raw o = apply (some rs) u.serialize o) ↔
      Canonical u := by
  unfold Canonical
  cases hw : parse u.serialize with
  | error e =>
    refine iff_of_false (fun hall => ?_) (by simp)
    have he := congrArg CleanResult.error (hall [] compiled_nil)
    rw [(apply_of_ok h [] o).1, apply_of_error hw] at he
    cases he
  | ok w =>
    rw [apply_eq_iff h hw]
    simp

/-! ### Every engine -/

/-- It makes no difference to the outcome whether the fragment is to be cleaned or to be dropped. -/
def Indifferent (engine : Engine) (rules : Option Rules.Ruleset) (raw : Text)
    (o : CleaningOptions) : Prop :=
  cleanUrl engine rules raw { o with cleanHash := true } =
    cleanUrl engine rules raw { o with cleanHash := false }

instance (engine : Engine) (rules : Option Rules.Ruleset) (raw : Text) (o : CleaningOptions) :
    Decidable (Indifferent engine rules raw o) := inferInstanceAs (Decidable (_ = _))

lemma stripTracking_cleanHash (raw : Text) (o : CleaningOptions) (b : Bool) :
    stripTracking raw { o with cleanHash := b } = stripTracking raw o := by
  have hremoves : ({ o with cleanHash := b } : CleaningOptions).removes = o.removes := rfl
  unfold stripTracking cleanHop
  rw [hremoves]

lemma Rules.apply_cleanHash (rules : Option Ruleset) (raw : Text) (o : CleaningOptions)
    (b : Bool) : apply rules raw { o with cleanHash := b } = apply rules raw o := by
  have hclean : cleanBy { o with cleanHash := b } = cleanBy o := rfl
  unfold apply
  rw [hclean]

/-- What an engine makes of the text that is cleaned. -/
def outcomeOf (engine : Engine) (rules : Option Rules.Ruleset) (raw : Text) (o : CleaningOptions)
    (text : Text) : CleanResult :=
  match engine with
  | .rules => (Rules.apply rules text o).orInput raw
  | .heuristic => (stripTracking text o).orInput raw
  | .both =>
    let first := stripTracking text o
    if first.ok then first.andThen (Rules.apply rules first.url o) else first.orInput raw

lemma cleanUrl_cleanHash (engine : Engine) (rules : Option Rules.Ruleset) (raw : Text)
    (o : CleaningOptions) (b : Bool) :
    cleanUrl engine rules raw { o with cleanHash := b } =
      outcomeOf engine rules raw o (if b then raw else dropFragment raw) := by
  have hsource : ({ o with cleanHash := b } : CleaningOptions).source raw =
      if b then raw else dropFragment raw := rfl
  cases engine <;>
    simp only [cleanUrl, outcomeOf, hsource, stripTracking_cleanHash, Rules.apply_cleanHash]

lemma indifferent_iff_outcome (engine : Engine) (rules : Option Rules.Ruleset) (raw : Text)
    (o : CleaningOptions) : Indifferent engine rules raw o ↔
      outcomeOf engine rules raw o raw = outcomeOf engine rules raw o (dropFragment raw) := by
  rw [Indifferent, cleanUrl_cleanHash, cleanUrl_cleanHash, if_pos rfl, if_neg Bool.false_ne_true]

lemma outcomeOf_both_none (raw : Text) (o : CleaningOptions) (text : Text) :
    outcomeOf .both none raw o text = outcomeOf .heuristic none raw o text := by
  unfold outcomeOf
  simp only
  split_ifs with hok
  · rw [CleanResult.ok, Option.isNone_iff_eq_none] at hok
    rw [CleanResult.orInput_of_ok hok]
    rfl
  · rfl

lemma dropFragment_of_no_fragment (h : parse raw = .ok u) (hf : '#' ∉ raw) :
    dropFragment raw = u.serialize := by
  have hnone : u.withFragment none = u := by
    rw [withFragment, ← fragment_of_parse h hf]
  rw [dropFragment_of_ok h, hnone]

lemma CleanResult.orInput_inj {r s : CleanResult} (hr : r.error = none) (raw : Text) :
    r.orInput raw = s.orInput raw ↔ r = s := by
  refine ⟨fun h => ?_, fun h => by rw [h]⟩
  have hs : s.error = none := by
    rw [← s.orInput_error raw, ← h, r.orInput_error raw, hr]
  rwa [orInput_of_ok hr, orInput_of_ok hs] at h

lemma indifferent_heuristic (h : parse raw = .ok u) (hf : '#' ∉ raw)
    (rules : Option Rules.Ruleset) (o : CleaningOptions) :
    Indifferent .heuristic rules raw o ↔ Settled u := by
  have hok : (stripTracking raw o).error = none := by rw [stripTracking_of_ok h]
  rw [indifferent_iff_outcome, dropFragment_of_no_fragment h hf]
  exact (CleanResult.orInput_inj hok raw).trans (stripTracking_serialize h hf o)

lemma indifferent_both (h : parse raw = .ok u) (hf : '#' ∉ raw) (o : CleaningOptions) :
    (∀ rules, Indifferent .both rules raw o) ↔ Settled u := by
  constructor
  · -- without rules the lists have the last word
    intro hall
    have hnone := hall none
    rw [indifferent_iff_outcome, outcomeOf_both_none, outcomeOf_both_none,
      ← indifferent_iff_outcome] at hnone
    exact (indifferent_heuristic h hf none o).mp hnone
  · intro hs rules
    have hfirst := (stripTracking_serialize h hf o).mpr hs
    rw [indifferent_iff_outcome, dropFragment_of_no_fragment h hf, outcomeOf, outcomeOf, hfirst]

lemma indifferent_rules (h : parse raw = .ok u) (hf : '#' ∉ raw) (o : CleaningOptions) :
    (∀ rs, Rules.Compiled rs → Indifferent .rules (some rs) raw o) ↔ Canonical u := by
  rw [← Rules.apply_serialize h o]
  refine forall₂_congr fun rs _ => ?_
  rw [indifferent_iff_outcome, dropFragment_of_no_fragment h hf]
  exact CleanResult.orInput_inj (Rules.apply_of_ok h rs o).1 raw

lemma indifferent_no_rules (raw : Text) (o : CleaningOptions) :
    Indifferent .rules none raw o := by
  rw [indifferent_iff_outcome]
  rfl

/-- **Dropping a fragment that is not there is not always without effect.** To the lists, alone or
before rules, it makes no difference exactly if the URL settles, and to rules exactly if it is
canonical. All URLs but the ambiguous ones settle; they are canonical if their query was written as
it is encoded. -/
theorem indifferent_iff (h : parse raw = .ok u) (hf : '#' ∉ raw) (o : CleaningOptions) :
    (∀ rules, Indifferent .heuristic rules raw o ↔ Settled u) ∧
      ((∀ rules, Indifferent .both rules raw o) ↔ Settled u) ∧
      Indifferent .rules none raw o ∧
      ((∀ rs, Rules.Compiled rs → Indifferent .rules (some rs) raw o) ↔ Canonical u) ∧
      (¬ u.Ambiguous → Settled u ∧ (Canonical u ↔ u.written = some (Form.encode u.query))) := by
  have hu := parse_sound h
  refine ⟨fun rules => indifferent_heuristic h hf rules o, indifferent_both h hf o,
    indifferent_no_rules raw o, indifferent_rules h hf o, fun hn => ⟨hu.settled hn, ?_⟩⟩
  obtain ⟨q, hq⟩ := written_of_parse h
  rw [hu.canonical_iff hn, hq, Option.getD_some, Option.some.injEq, eq_comm]

theorem indifferent_encoded :
    let raw := "https://r.test/go?to=https%3A%2F%2Ffinal.test%2Fpage&utm_id=1".toList
    let u : Url := ⟨"https".toList, "r.test".toList, "/go".toList,
      [("to".toList, "https://final.test/page".toList), ("utm_id".toList, "1".toList)], none,
      some "to=https%3A%2F%2Ffinal.test%2Fpage&utm_id=1".toList⟩
    parse raw = .ok u ∧ '#' ∉ raw ∧ ¬ u.Ambiguous ∧ (∀ rules, Indifferent .both rules raw {}) ∧
      ∀ rs, Rules.Compiled rs → Indifferent .rules (some rs) raw {} := by
  intro raw u
  have h : parse raw = .ok u := by decide +kernel
  have hf : '#' ∉ raw := by decide
  have hn : ¬ u.Ambiguous := by decide
  obtain ⟨-, hboth, -, hrules, hclear⟩ := indifferent_iff h hf {}
  obtain ⟨hs, hc⟩ := hclear hn
  exact ⟨h, hf, hn, hboth.mpr hs, hrules.mpr (hc.mpr (by decide +kernel))⟩

/-- A redirection that matches its target as it was written does not match it any more. A path that
is ambiguous even becomes that of a redirector. -/
theorem target_as_written_lost :
    let redirection := "^https?://r\\.test/go\\?to=(https?://[^&]+)".toList
    let doc : Json.Value := .ofFields [("providers".toList, .ofFields [("test".toList,
      .ofFields [("urlPattern".toList, .text ".*".toList),
        ("redirections".toList, .arr [.text redirection])])])]
    let rs : Rules.Ruleset :=
      [{ name := "test".toList
         urlPattern := Rules.pattern? ".*".toList
         redirections := (Rules.pattern? redirection).toList }]
    let raw := "https://r.test/go?to=https://final.test/page".toList
    Rules.compile doc = .ok (some rs) ∧ '#' ∉ raw ∧
      cleanUrl .rules (some rs) raw { cleanHash := true } =
        { url := "https://final.test/page".toList, changed := true
          unwrappedFrom := some "test".toList } ∧
      cleanUrl .rules (some rs) raw { cleanHash := false } =
        { url := "https://r.test/go?to=https%3A%2F%2Ffinal.test%2Fpage".toList } ∧
      ¬ Indifferent .rules (some rs) raw {} ∧
      ¬ Indifferent .heuristic none "file:l.php?u=https://final.test/page".toList {} := by
  intro redirection doc rs raw
  have hcleaned : cleanUrl .rules (some rs) raw { cleanHash := true } =
      { url := "https://final.test/page".toList, changed := true
        unwrappedFrom := some "test".toList } := by decide +kernel
  have hdropped : cleanUrl .rules (some rs) raw { cleanHash := false } =
      { url := "https://r.test/go?to=https%3A%2F%2Ffinal.test%2Fpage".toList } := by
    decide +kernel
  refine ⟨rfl, by decide, hcleaned, hdropped, fun h => ?_, by decide +kernel⟩
  have hsource := congrArg CleanResult.unwrappedFrom (hcleaned.symm.trans (h.trans hdropped))
  cases hsource

end LinkCleaner
