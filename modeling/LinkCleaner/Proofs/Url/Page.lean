import LinkCleaner.Proofs.Url.RoundTrip

/-!
Pages of a host whose name is plain: small ASCII letters, digits, hyphens and points. The text of
such a page, with a path and a query in which nothing is to be escaped, is read as it is written.
-/

namespace LinkCleaner.Url

open Text

variable {host path q : Text}

/-! ### Plain hosts -/

def isHostChar (c : Char) : Bool :=
  ('a' ≤ c && c ≤ 'z') || isAsciiDigit c || c == '-' || c == '.'

structure IsPlainHost (host : Text) : Prop where
  ne_nil : host ≠ []
  chars : ∀ c ∈ host, isHostChar c

instance (host : Text) : Decidable (IsPlainHost host) :=
  decidable_of_iff (host ≠ [] ∧ host.all isHostChar)
    ⟨fun h => ⟨h.1, List.all_eq_true.mp h.2⟩, fun h => ⟨h.1, List.all_eq_true.mpr h.2⟩⟩

lemma toNat_lt_of_hostChar {c : Char} (h : isHostChar c) : c.toNat < 128 := by
  simp only [isHostChar, Bool.or_eq_true, Bool.and_eq_true, decide_eq_true_eq, beq_iff_eq] at h
  rcases h with ((⟨-, h⟩ | h) | rfl) | rfl
  · have : c.toNat ≤ 0x7A := h
    omega
  · have := digit_bounds h
    omega
  all_goals decide

lemma hostChar_spec {c : Char} (h : isHostChar c) :
    (endsAuthority c = false ∧ isBlank c = false ∧ isLookalike c = false) ∧
      c ∉ "@[]:%".toList ∧ Settled c := by
  have hc : isHostChar c →
      (endsAuthority c = false ∧ isBlank c = false ∧ isLookalike c = false) ∧
        c ∉ "@[]:%".toList ∧ c ≠ 'Σ' ∧ c ≠ 'İ' ∧ lowerChar c = c :=
    of_ascii c (toNat_lt_of_hostChar h) (by decide +kernel)
  exact hc h

namespace IsPlainHost

variable (h : IsPlainHost host)

include h

lemma not_mem {c : Char} (hc : c ∈ "@[]:%".toList) : c ∉ host :=
  fun hm => (hostChar_spec (h.chars c hm)).2.1 hc

lemma lower_eq : lower host = host :=
  (small_lower host).eq_of_settled fun c hc => (hostChar_spec (h.chars c hc)).2.2

lemma hostPart_eq : hostPart host = host := by
  rw [hostPart, cutLast_of_not_mem (h.not_mem (by decide))]

lemma hostAndPort_eq : hostAndPort host = (host, []) := by
  rw [hostAndPort, h.hostPart_eq, cut_of_not_mem (h.not_mem (by decide))]
  simp only [cut_of_not_mem (h.not_mem (show ':' ∈ "@[]:%".toList by decide)), Option.getD_none]

lemma hostName_eq : hostName host = host := by
  rw [hostName, h.hostAndPort_eq]
  simp only [cut_of_not_mem (h.not_mem (show '%' ∈ "@[]:%".toList by decide)), h.lower_eq]

lemma checkAuthority_eq : checkAuthority host = .ok () := by
  have hlook : ¬ host.any isLookalike := by
    simp only [List.any_eq_true, not_exists, not_and, Bool.not_eq_true]
    exact fun c hc => (hostChar_spec (h.chars c hc)).1.2.2
  rw [checkAuthority_eq_ok, h.hostAndPort_eq, checkBrackets, checkLookalikes, if_neg hlook]
  simp [h.not_mem (show '[' ∈ "@[]:%".toList by decide),
    h.not_mem (show ']' ∈ "@[]:%".toList by decide), checkPort]

lemma lowerAuthority_eq : lowerAuthority host = host := by
  rw [lowerAuthority, cutLast_of_not_mem (h.not_mem (by decide))]
  exact h.lower_eq

end IsPlainHost

/-! ### Pages -/

instance (q : Text) : Decidable (IsQuery q) :=
  decidable_of_iff (q.all fun c => c != '#' && !isBlank c) (by simp [IsQuery])

instance (p : Text) : Decidable (IsPath p) :=
  decidable_of_iff (p.all fun c => c != '?' && c != '#' && !isBlank c)
    (by simp [IsPath, and_assoc])

/-- A page of a host, under a path and with a query. -/
def page (host path q : Text) : Url :=
  ⟨"https".toList, host, path, Form.decode q, none, some q⟩

def pageText (host path q : Text) : Text := "https://".toList ++ (host ++ (path ++ '?' :: q))

lemma isScheme_https : IsScheme "https".toList :=
  ⟨⟨'h', "ttps".toList, rfl, by decide⟩, List.all_eq_true.mp (by decide), by decide⟩

lemma rooted_of_slash (h : ['/'].isPrefixOf path) : Rooted path := by
  rw [rooted_iff, h, Bool.or_true]

lemma assemble_page (hq : q ≠ []) (h : host ≠ []) (hp : ['/'].isPrefixOf path) :
    (page host path q).assemble q = pageText host path q := by
  have hslashes : hierarchy "https".toList host path = '/' :: '/' :: (host ++ path) :=
    (hierarchy_slashes (Or.inl h)).1 (rooted_of_slash hp)
  have hquery : marked '?' q = '?' :: q := if_neg (by simpa using hq)
  have hnone : marked '#' ((none : Option Text).getD []) = [] := rfl
  have hopens : "https".toList ++ [':', '/', '/'] = "https://".toList := by decide
  calc (page host path q).assemble q
      = ("https".toList ++ [':', '/', '/']) ++ (host ++ (path ++ '?' :: q)) := by
        simp only [assemble, page, hslashes, hquery, hnone, List.append_nil, List.append_assoc,
          List.cons_append, List.nil_append]
    _ = pageText host path q := congrArg (· ++ (host ++ (path ++ '?' :: q))) hopens

section

variable (h : IsPlainHost host) (hp : IsPath path) (hr : ['/'].isPrefixOf path) (hq : IsQuery q)

include h hp hr hq

lemma sound_page : Sound (page host path q) where
  scheme := isScheme_https
  authority c hc := ⟨(hostChar_spec (h.chars c hc)).1.1, (hostChar_spec (h.chars c hc)).1.2.1⟩
  checked := h.checkAuthority_eq
  small := h.lowerAuthority_eq
  path := hp
  rooted _ := rooted_of_slash hr
  special _ := by
    refine ⟨fun he => h.ne_nil (h.hostName_eq.symm.trans he), ?_⟩
    rintro rfl
    simp at hr
  written t ht := by
    cases ht
    exact ⟨hq, rfl⟩
  fragment t ht := by cases ht

/-- **The text of a page is read as the page**, and written as it was. -/
theorem parse_pageText (hne : q ≠ []) :
    parse (pageText host path q) = .ok (page host path q) ∧
      (page host path q).href = pageText host path q := by
  have hsound := sound_page h hp hr hq
  have hn : ¬ (page host path q).Ambiguous := fun ha => h.ne_nil ha.1
  refine ⟨?_, assemble_page hne h.ne_nil hr⟩
  rw [← assemble_page hne h.ne_nil hr, hsound.parse_assemble_eq hn hq]
  rfl

end

end LinkCleaner.Url
