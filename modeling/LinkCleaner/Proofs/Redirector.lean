import LinkCleaner.Proofs.Form.Size
import LinkCleaner.Proofs.Url.RoundTrip
import LinkCleaner.Redirector

/-!
Hops through redirectors. The target of a hop stands in one pair of the query, so that the pairs of
the URL it leads to are smaller; and whether there is a hop depends on the host, the path and the
few parameters that may hold a target.
-/

namespace LinkCleaner

open Text Url

/-! ### The size of what is read -/

namespace Url

lemma query_sublist (text : Text) : (splitParts text).query.Sublist text := by
  have hscrub : (scrub text).Sublist text :=
    List.filter_sublist.trans (List.dropWhile_sublist _)
  have hscheme : (splitScheme (scrub text)).2.Sublist (scrub text) := by
    rcases splitScheme_cases (scrub text) with he | ⟨t, r, hs, he, -⟩ <;> rw [he]
    rw [hs]
    exact (List.sublist_cons_self ':' r).trans (List.sublist_append_right t (':' :: r))
  have hauth : ∀ s, (splitAuthority s).2.Sublist s := by
    intro s
    rcases splitAuthority_cases s with he | ⟨a, r, hs, he, -, -⟩ <;> rw [he]
    rw [hs]
    exact ((List.sublist_append_right a r).cons '/').cons '/'
  rw [splitParts_eq]
  exact ((((cut_rest_sublist '?' _).trans (cut_fst_sublist '#' _)).trans (hauth _)).trans
    hscheme).trans hscrub

lemma size_of_parse {raw : Text} {u : Url} (h : parse raw = .ok u) :
    Form.size u.query ≤ raw.length := by
  obtain ⟨-, rfl⟩ := checked_of_parse h
  rw [ofParts, Form.decode_escapeBlanks]
  exact (Form.size_decode_le _).trans
    ((query_sublist _).trans (trim_sublist raw)).length_le

end Url

/-! ### Targets -/

namespace Redirector

variable {u v : Url} {rs : List Redirector} {target provider : Text}

lemma mem_of_find (h : find? rs u = some (target, provider)) :
    ∃ r ∈ rs, ∃ name ∈ r.params, (name, target) ∈ u.query := by
  obtain ⟨r, hr, hfound⟩ := List.exists_of_findSome?_eq_some h
  obtain ⟨t, htarget, he⟩ := Option.map_eq_some_iff.mp hfound
  cases he
  unfold target? targetAt? at htarget
  split_ifs at htarget
  obtain ⟨name, hname, hv⟩ := List.exists_of_findSome?_eq_some htarget
  obtain ⟨a, b, hq, -⟩ := List.lookup_eq_some_iff.mp (Option.filter_eq_some_iff.mp hv).1
  exact ⟨r, hr, name, hname, by rw [hq]; simp⟩

lemma name_ne_nil : ∀ r ∈ all, ∀ name ∈ r.params, name ≠ [] := by decide

private lemma findSome?_congr {α β : Type} {xs : List α} {f g : α → Option β}
    (h : ∀ x ∈ xs, f x = g x) : xs.findSome? f = xs.findSome? g := by
  rw [← List.head?_filterMap, ← List.head?_filterMap, List.filterMap_congr h]

lemma find_congr (hhost : v.host = u.host) (hpath : v.path = u.path)
    (hget : ∀ r ∈ rs, ∀ name ∈ r.params, v.get? name = u.get? name) :
    find? rs v = find? rs u := by
  have htarget : ∀ r ∈ rs, r.target? v = r.target? u := by
    intro r hr
    have hfind : (r.params.findSome? fun name => (v.get? name).filter fun x => !x.isEmpty) =
        r.params.findSome? fun name => (u.get? name).filter fun x => !x.isEmpty :=
      findSome?_congr fun name hname => by rw [hget r hr name hname]
    simp only [target?, targetAt?, hhost, hpath, hfind]
  exact findSome?_congr fun r hr => by rw [htarget r hr]

end Redirector

namespace Url

variable {u v : Url} {provider : Text}

/-- **A hop makes the pairs smaller.** The target is but one value, and it has a name. -/
theorem size_of_unwrap (h : u.unwrap? = some (v, provider)) :
    Form.size v.query < Form.size u.query := by
  unfold unwrap? at h
  cases hf : Redirector.find? Redirector.all u with
  | none =>
    rw [hf] at h
    cases h
  | some found =>
    obtain ⟨target, source⟩ := found
    obtain ⟨r, hr, name, hname, hmem⟩ := Redirector.mem_of_find hf
    rw [hf] at h
    obtain ⟨w, hw, he⟩ := Option.map_eq_some_iff.mp h
    cases he
    have hv : parse target = .ok v := by
      unfold parse? at hw
      cases hp : parse target with
      | error e => rw [hp] at hw; cases hw
      | ok x => rw [hp] at hw; cases hw; rfl
    have hsize := size_of_parse hv
    have hpair := Form.le_size hmem
    have hpos := List.length_pos_iff.mpr (Redirector.name_ne_nil r hr name hname)
    simp only at hpair
    omega

end Url

end LinkCleaner
