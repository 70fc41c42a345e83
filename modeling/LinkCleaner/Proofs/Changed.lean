import LinkCleaner.Proofs.Redirector
import LinkCleaner.Proofs.Strip

/-!
Whether cleaning says that it has changed something is decided on the way: at the hop, at the query
and at the fragment. Each of the three leaves a mark on the text that none of the others takes
away.
-/

namespace LinkCleaner

open Text Url

/-! ### Texts that differ -/

lemma Url.Sound.serialize_inj {u v : Url} (hu : Sound u) (hv : Sound v)
    (h : u.serialize = v.serialize) :
    u.query = v.query ∧ u.fragment.getD [] = v.fragment.getD [] := by
  have hs := congrArg splitParts h
  rw [serialize, serialize, hu.splitParts_assemble (isQuery_encode u.query),
    hv.splitParts_assemble (isQuery_encode v.query), Parts.mk.injEq] at hs
  obtain ⟨-, -, -, hq, hf⟩ := hs
  have hd := congrArg Form.decode hq
  rw [Form.decode_encode, Form.decode_encode] at hd
  exact ⟨hd, hf⟩

lemma Form.not_mark_mem_encode (ps : List Form.Pair) : '?' ∉ Form.encode ps := by
  intro h
  rcases Form.mem_encode h with h | h | h
  · exact (Form.isEncoded_spec h).2.2.1 rfl
  all_goals exact absurd h (by decide)

lemma fragmentPairs_encode (ps : List Form.Pair) : fragmentPairs (Form.encode ps) = ps := by
  have hd : dropPrefix ['?'] (Form.encode ps) = Form.encode ps := by
    have hn := Form.not_mark_mem_encode ps
    cases h : Form.encode ps with
    | nil => rfl
    | cons c r =>
      rw [h, List.mem_cons, not_or] at hn
      rw [dropPrefix, if_neg]
      simpa [List.isPrefixOf] using hn.1
  rw [fragmentPairs, hd, Form.decode_encode]

/-! ### The flag -/

namespace Url

variable {u v : Url} {doomed : Text → Bool}

lemma strip_flag (doomed : Text → Bool) (u : Url) :
    (u.strip doomed).2 = true ↔
      (∃ p ∈ u.query, doomed p.1) ∨ Hit (fun k => doomed k) (u.fragment.getD []) := by
  have hkeys : u.keys.any doomed ↔ ∃ p ∈ u.query, doomed p.1 := by
    rw [List.any_eq_true]
    constructor
    · rintro ⟨k, hk, hd⟩
      obtain ⟨p, hp, rfl⟩ := mem_keys.mp hk
      exact ⟨p, hp, hd⟩
    · rintro ⟨p, hp, hd⟩
      exact ⟨p.1, mem_keys.mpr ⟨p, hp, rfl⟩, hd⟩
  have hf : (if u.keys.any doomed then u.without doomed else u).fragment = u.fragment := by
    split_ifs <;> rfl
  unfold strip
  simp only [hf]
  rw [← hkeys]
  cases hu : u.fragment with
  | none => simp [Hit]
  | some f =>
    rw [Option.bind_some, Option.getD_some]
    rcases cleanFragment_cases doomed f with ⟨hc, hn⟩ | ⟨ps, hc, hit, -⟩ <;> rw [hc]
    · simp [hn]
    · simp [hit]

lemma strip_of_not_flag (h : (u.strip doomed).2 = false) : (u.strip doomed).1 = u := by
  unfold strip at h ⊢
  cases hk : u.keys.any doomed with
  | true =>
    simp only [hk, if_true] at h
    split at h <;> cases h
  | false =>
    simp only [hk, Bool.false_eq_true, if_false] at h ⊢
    split at h
    · rfl
    · cases h

/-- **The flag of stripping is exact**: it is raised exactly if the text is another one. -/
theorem Sound.strip_flag_iff (h : Sound u) (doomed : Text → Bool) :
    (u.strip doomed).2 = true ↔ (u.strip doomed).1.serialize ≠ u.serialize := by
  constructor
  · intro hflag he
    obtain ⟨hq, hf⟩ := (h.strip doomed).serialize_inj h he
    rcases (strip_flag doomed u).mp hflag with ⟨p, hp, hd⟩ | hit
    · -- a doomed pair is not among those that are left
      rw [strip_query] at hq
      rw [← hq, List.mem_filter, hd] at hp
      exact absurd hp.2 (by decide)
    · -- a fragment that is written anew reads as the pairs that are left
      rw [(strip_fragment doomed u).2 hit] at hf
      obtain ⟨-, p, hp, hd⟩ := hit
      rw [← hf, fragmentPairs_encode, List.mem_filter] at hp
      rw [hd] at hp
      exact absurd hp.2 (by decide)
  · intro hne
    by_contra hflag
    rw [Bool.not_eq_true] at hflag
    exact hne (by rw [strip_of_not_flag hflag])

/-- **No hop is undone**: whatever is taken out of the URL that a hop leads to, its pairs stay
smaller than those of the redirector. -/
theorem Sound.serialize_hop_ne {provider : Text} (h : Sound u) (hu : u.unwrap? = some (v, provider))
    {w : Url} (hw : Sound w) (hsub : w.query.Sublist v.query) : w.serialize ≠ u.serialize := by
  intro he
  have hq := (hw.serialize_inj h he).1
  have hhop := size_of_unwrap hu
  have hle := Form.size_sublist hsub
  rw [hq] at hle
  omega

end Url

/-! ### The whole -/

/-- **The flag of cleaning by the lists is exact**: it is raised exactly if the text differs from
the canonical text of what was read, and that is so exactly if there was a hop, or a pair that is
not wanted in the query or the fragment of the URL that is cleaned. In particular the text that a
hop leads to is never that of the redirector. -/
theorem stripTracking_changed_iff {raw : Text} {u : Url} (h : parse raw = .ok u)
    (o : CleaningOptions) :
    ((stripTracking raw o).changed = true ↔ (stripTracking raw o).url ≠ u.serialize) ∧
      ((stripTracking raw o).changed = true ↔
        u.unwrap?.isSome ∨ (∃ p ∈ u.landing.query, o.Unwanted p.1) ∨
          Hit o.Unwanted (u.landing.fragment.getD [])) ∧
      (∀ v provider, u.unwrap? = some (v, provider) →
        v.serialize ≠ u.serialize ∧ (stripTracking raw o).url ≠ u.serialize) := by
  have hu := parse_sound h
  have hland := landing_sound hu
  have hhop : ∀ v provider, u.unwrap? = some (v, provider) →
      v.serialize ≠ u.serialize ∧ (u.landing.strip o.removes).1.serialize ≠ u.serialize := by
    intro v provider hv
    rw [landing_of_unwrap hv] at hland ⊢
    refine ⟨hu.serialize_hop_ne hv hland (List.Sublist.refl _), ?_⟩
    refine hu.serialize_hop_ne hv (hland.strip o.removes) ?_
    rw [strip_query]
    exact List.filter_sublist
  rw [stripTracking_of_ok h o]
  simp only [Bool.or_eq_true]
  refine ⟨?_, ?_, hhop⟩
  · rcases unwrap_cases u with ⟨hn, hl⟩ | ⟨v, provider, hv, -, -⟩
    · rw [hn, hl]
      simpa using hu.strip_flag_iff o.removes
    · simp [hv, (hhop v provider hv).2]
  · simp only [strip_flag, Hit, CleaningOptions.removes_iff]

theorem stripTracking_changed_nested :
    let raw := ("https://l.facebook.com/l.php?u=https://l.facebook.com/l.php" ++
      "?u=%C3%28%26utm_id=1%23?fbclid=2%26a=b").toList
    let u : Url := ⟨"https".toList, "l.facebook.com".toList, "/l.php".toList,
      [("u".toList, "https://l.facebook.com/l.php?u=\uFFFD(&utm_id=1#?fbclid=2&a=b".toList)], none,
      some "u=https://l.facebook.com/l.php?u=%C3%28%26utm_id=1%23?fbclid=2%26a=b".toList⟩
    parse raw = .ok u ∧ u.unwrap?.isSome ∧ (stripTracking raw {}).changed = true ∧
      (stripTracking raw {}).url = "https://l.facebook.com/l.php?u=%EF%BF%BD%28#a=b".toList ∧
      (stripTracking raw {}).url ≠ u.serialize := by
  intro raw u
  have h : parse raw = .ok u := by decide +kernel
  have hhop : u.unwrap?.isSome := by decide +kernel
  have hurl : (stripTracking raw {}).url =
      "https://l.facebook.com/l.php?u=%EF%BF%BD%28#a=b".toList := by decide +kernel
  obtain ⟨hne, hevent, -⟩ := stripTracking_changed_iff h {}
  have hflag := hevent.mpr (Or.inl hhop)
  exact ⟨h, hhop, hflag, hurl, hne.mp hflag⟩

end LinkCleaner
