import LinkCleaner.Proofs.Strip
import LinkCleaner.Proofs.Url.Page

/-!
Pages of redirectors with the target in one of their pairs. Whatever the target is and whatever
stands beside it, cleaning such a page is cleaning the URL in it, and it goes no further.
-/

namespace LinkCleaner

open Text Url

variable {t host path provider : Text} {ps : List Form.Pair} {v : Url} {o : CleaningOptions}

/-! ### Redirectors of a page -/

namespace Redirector

/-- The first value that is not empty under one of these names. -/
def firstOf (names : List Text) (ps : List Form.Pair) : Option Text :=
  names.findSome? fun name => (ps.lookup name).filter fun value => !value.isEmpty

/-- The names of the redirectors that cover a page, each with the parameters that may hold its
target. -/
def covering (host path : Text) : List (Text × List Text) :=
  all.filterMap fun r => if r.covers host path then some (r.provider, r.params) else none

lemma get?_page (ps : List Form.Pair) (name : Text) :
    (page host path (Form.encode ps)).get? name = ps.lookup name := by
  rw [get?, page, Form.decode_encode]

lemma find_page (h : IsPlainHost host) (ps : List Form.Pair) :
    find? all (page host path (Form.encode ps)) = (covering host path).findSome? fun r =>
      (firstOf r.2 ps).map fun t => (t, r.1) := by
  have hhost : (page host path (Form.encode ps)).host = host := h.hostName_eq
  have hpath : (page host path (Form.encode ps)).path = path := rfl
  rw [find?, covering, ← List.head?_filterMap, ← List.head?_filterMap, List.filterMap_filterMap]
  congr 2
  funext r
  simp only [target?, targetAt?, hhost, hpath, get?_page]
  split_ifs <;> rfl

lemma firstOf_cons {name : Text} {names : List Text} (h : ps.lookup name = some t) (ht : t ≠ []) :
    firstOf (name :: names) ps = some t := by
  have hkept : (some t).filter (fun value : Text => !value.isEmpty) = some t := by simpa using ht
  rw [firstOf, List.findSome?_cons, h, hkept]

lemma firstOf_cons_blank {name : Text} {names : List Text} (h : (ps.lookup name).getD [] = []) :
    firstOf (name :: names) ps = firstOf names ps := by
  have hnone : (ps.lookup name).filter (fun value : Text => !value.isEmpty) = none := by
    cases hv : ps.lookup name with
    | none => rfl
    | some value =>
      rw [hv, Option.getD_some] at h
      rw [h]
      rfl
  rw [firstOf, List.findSome?_cons, hnone, firstOf]

lemma ne_nil_of_firstOf {names : List Text} (h : firstOf names ps = some t) : ps ≠ [] := by
  rintro rfl
  obtain ⟨name, -, hname⟩ := List.exists_of_findSome?_eq_some h
  cases hname

lemma unwrap_page {names : List Text} {rest : List (Text × List Text)} (h : IsPlainHost host)
    (hp : IsPath path) (hr : ['/'].isPrefixOf path)
    (hc : covering host path = (provider, names) :: rest) (ht : firstOf names ps = some t)
    (hv : Url.parse t = .ok v) :
    ∃ u, Url.parse (pageText host path (Form.encode ps)) = .ok u ∧
      u.unwrap? = some (v, provider) := by
  have hne : Form.encode ps ≠ [] := by
    intro he
    refine ne_nil_of_firstOf ht ?_
    rw [← Form.decode_encode ps, he, Form.decode_nil]
  refine ⟨_, (parse_pageText h hp hr (isQuery_encode ps) hne).1, ?_⟩
  rw [unwrap?, find_page h, hc, List.findSome?_cons, ht]
  simp only [Option.map_some, hop?, parse?, hv, Except.toOption]

end Redirector

/-! ### What is stripped -/

lemma strip_strippedTo (o : CleaningOptions) (u : Url) :
    StrippedTo o u (u.strip o.removes).1 := by
  obtain ⟨h1, h2, h3⟩ := (strip_edited o.removes u).place
  obtain ⟨hkeep, hnew⟩ := strip_fragment o.removes u
  simp only [Hit, CleaningOptions.removes_iff] at hkeep hnew
  refine ⟨h1, h2, h3, by rw [strip_query, filter_removes], hkeep, fun hit => ?_⟩
  rw [hnew hit, Form.decode_encode, filter_removes]

/-! ### The whole -/

/-- Pairs that hold a target for a redirector: what stands before them in the text of its page, and
its name. Of pairs of one name the first counts. -/
inductive Wraps (t : Text) (ps : List Form.Pair) : Text → Text → Prop where
  | google (h : ps.lookup "url".toList = some t ∨
      ((ps.lookup "url".toList).getD [] = [] ∧ ps.lookup "q".toList = some t)) :
    Wraps t ps "https://www.google.com/url?".toList "google".toList
  | facebook (h : ps.lookup "u".toList = some t) :
    Wraps t ps "https://l.facebook.com/l.php?".toList "facebook".toList
  | instagram (h : ps.lookup "u".toList = some t) :
    Wraps t ps "https://l.instagram.com/?".toList "instagram".toList

lemma Wraps.unwrap {front : Text} (hw : Wraps t ps front provider) (hv : Url.parse t = .ok v) :
    ∃ u, Url.parse (front ++ Form.encode ps) = .ok u ∧ u.unwrap? = some (v, provider) := by
  have ht : t ≠ [] := by
    rintro rfl
    cases hv
  -- each page is covered by one redirector, which finds the target
  cases hw with
  | google h =>
    have hc : Redirector.covering "www.google.com".toList "/url".toList =
        [("google".toList, ["url".toList, "q".toList])] := by decide
    have hfirst : Redirector.firstOf ["url".toList, "q".toList] ps = some t := by
      rcases h with h | ⟨h1, h2⟩
      · exact Redirector.firstOf_cons h ht
      · exact (Redirector.firstOf_cons_blank h1).trans (Redirector.firstOf_cons h2 ht)
    have hpage := Redirector.unwrap_page (by decide) (by decide) (by decide) hc hfirst hv
    exact hpage
  | facebook h =>
    have hc : Redirector.covering "l.facebook.com".toList "/l.php".toList =
        [("facebook".toList, ["u".toList])] := by decide
    have hpage := Redirector.unwrap_page (by decide) (by decide) (by decide) hc
      (Redirector.firstOf_cons h ht) hv
    exact hpage
  | instagram h =>
    have hc : Redirector.covering "l.instagram.com".toList "/".toList =
        [("instagram".toList, ["u".toList])] := by decide
    have hpage := Redirector.unwrap_page (by decide) (by decide) (by decide) hc
      (Redirector.firstOf_cons h ht) hv
    exact hpage

/-- **Cleaning undoes wrapping.** A redirector's page is cleaned as the URL that it leads to, by one
hop: the pairs that are not wanted leave the query and the fragment of this URL, also if it is
itself a redirector's page. -/
theorem stripTracking_wrapped {front : Text} (hv : Url.parse t = .ok v)
    (hw : Wraps t ps front provider) (o : CleaningOptions) :
    let r := stripTracking (front ++ Form.encode ps) o
    r.error = none ∧ r.unwrappedFrom = some provider ∧ r.changed = true ∧
      r.url = (v.strip o.removes).1.serialize ∧ StrippedTo o v (v.strip o.removes).1 ∧
      (v.unwrap? = none → r.url = (stripTracking t o).url) := by
  obtain ⟨u, hu, hhop⟩ := hw.unwrap hv
  rw [stripTracking_of_ok hu, stripTracking_of_ok hv, hhop, landing_of_unwrap hhop]
  refine ⟨rfl, rfl, rfl, rfl, strip_strippedTo o v, fun hn => ?_⟩
  rcases unwrap_cases v with ⟨-, hl⟩ | ⟨w, _, hw, -⟩
  · rw [hl]
  · rw [hn] at hw
    cases hw

/-- The first target is empty, and the second one has blanks around it and is a redirector's page
whose own target is no URL. -/
theorem stripTracking_wrapped_refused_target :
    let t := " https://l.facebook.com/l.php?u=nope&utm_id=1&x=\u00fc+%26#a=b&fbclid=2 ".toList
    let ps := [("url".toList, []), ("q".toList, t), ("url".toList, "https://x.test/".toList)]
    let front := "https://www.google.com/url?".toList
    let v : Url := ⟨"https".toList, "l.facebook.com".toList, "/l.php".toList,
      [("u".toList, "nope".toList), ("utm_id".toList, "1".toList), ("x".toList, "\u00fc &".toList)],
      some "a=b&fbclid=2".toList, some "u=nope&utm_id=1&x=\u00fc+%26".toList⟩
    let r := stripTracking (front ++ Form.encode ps) {}
    Url.parse t = .ok v ∧ Wraps t ps front "google".toList ∧ v.unwrap? = none ∧
      r.error = none ∧ r.unwrappedFrom = some "google".toList ∧ r.changed = true ∧
      r.url = "https://l.facebook.com/l.php?u=nope&x=%C3%BC+%26#a=b".toList ∧
      r.url = (stripTracking t {}).url := by
  intro t ps front v r
  have hv : Url.parse t = .ok v := by decide +kernel
  have hw : Wraps t ps front "google".toList := .google (Or.inr (by decide))
  have hn : v.unwrap? = none := by decide +kernel
  obtain ⟨herr, hsource, hchanged, hurl, -, hsame⟩ := stripTracking_wrapped hv hw {}
  refine ⟨hv, hw, hn, herr, hsource, hchanged, hurl.trans ?_, hsame hn⟩
  decide +kernel

end LinkCleaner
