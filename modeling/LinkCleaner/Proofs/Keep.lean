import LinkCleaner.Proofs.Strip

/-!
Parameters that are to be kept: what a step of cleaning may turn a URL into without losing one.
-/

namespace LinkCleaner

open Text Url

/-- A URL that another may have been turned into: it is sound, and has every parameter that is to be
kept and that the other has. -/
structure Faithful (o : CleaningOptions) (u v : Url) : Prop where
  sound : Sound v
  keeps : ∀ k ∈ u.keys, lower k ∈ o.keep → ∃ l ∈ v.keys, lower l = lower k

namespace Faithful

variable {o : CleaningOptions} {u v w : Url}

lemma refl (h : Sound u) : Faithful o u u := ⟨h, fun k hk _ => ⟨k, hk, rfl⟩⟩

lemma trans (h : Faithful o u v) (h' : Faithful o v w) : Faithful o u w := by
  refine ⟨h'.sound, fun k hk hkeep => ?_⟩
  obtain ⟨l, hl, he⟩ := h.keeps k hk hkeep
  obtain ⟨m, hm, he'⟩ := h'.keeps l hl (by rwa [he])
  exact ⟨m, hm, he'.trans he⟩

lemma of_query_eq (h : Sound v) (hq : v.query = u.query) : Faithful o u v := by
  refine ⟨h, fun k hk _ => ⟨k, ?_, rfl⟩⟩
  rw [mem_keys] at hk ⊢
  rwa [hq]

lemma of_filter {doomed : Text → Bool} (h : Sound v)
    (hq : v.query = u.query.filter fun p => !doomed p.1)
    (hd : ∀ k, lower k ∈ o.keep → doomed k = false) : Faithful o u v := by
  refine ⟨h, fun k hk hkeep => ⟨k, ?_, rfl⟩⟩
  rw [mem_keys] at hk ⊢
  obtain ⟨p, hp, rfl⟩ := hk
  refine ⟨p, ?_, rfl⟩
  rw [hq, List.mem_filter, hd p.1 hkeep]
  exact ⟨hp, rfl⟩

lemma of_parse_serialize (h : Sound v) (hw : parse v.serialize = .ok w) : Faithful o v w := by
  refine of_query_eq (parse_sound hw) ?_
  rw [(h.query_of_parse_assemble (isQuery_encode v.query) hw).2, Form.decode_encode]

lemma of_strip (h : Sound u) : Faithful o u (u.strip o.removes).1 :=
  of_filter (h.strip o.removes) (strip_query o.removes u)
    fun _ hk => CleaningOptions.removes_of_keep hk

end Faithful

end LinkCleaner
