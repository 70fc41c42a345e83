import LinkCleaner.Proofs.Checked
import LinkCleaner.Proofs.Text.Apart

/-!
The host of a URL that was read. It is split off the authority in small letters whenever a
redirector asks for it; that passes every check once more and yields the host as it was written, in
small letters.
-/

namespace LinkCleaner

open Text

namespace Url

variable {a raw : Text} {u : Url}

/-! ### Ports -/

lemma isStop_of_digit {c : Char} (h : isAsciiDigit c) : isStop c := by
  have hb := digit_bounds h
  have hc : isAsciiDigit c → isStop c := of_ascii c (by omega) (by decide)
  exact hc h

lemma meetsCased_port {port : Text} (h : ∀ c ∈ port, isAsciiDigit c) :
    meetsCased (':' :: port) = false := by
  -- a colon does not count, and so what follows it decides
  rw [meetsCased, List.dropWhile_cons_of_pos (by decide)]
  cases port with
  | nil => rfl
  | cons d ds => exact meetsCased_cons_stop (isStop_of_digit (h d List.mem_cons_self)) ds

lemma lower_append_port {port : Text} (h : ∀ c ∈ port, isAsciiDigit c) (s : Text) :
    lower (s ++ ':' :: port) = lower s ++ ':' :: port := by
  rw [lower_append (meetsCased_port h)]
  congr 1
  refine (small_lowerFrom s.reverse (':' :: port)).eq_of_settled fun c hc => settled_of_mark ?_
  rcases List.mem_cons.mp hc with rfl | hc
  · decide
  · exact isMark_of_digit (h c hc)

lemma digits_of_checkPort {port : Text} (h : checkPort port = .ok ()) :
    ∀ c ∈ port, isAsciiDigit c := by
  unfold checkPort at h
  split_ifs at h with h1 h2
  · rw [List.isEmpty_iff] at h1
    simp [h1]
  · simpa using h2

/-! ### Hosts -/

lemma not_mem_lower {c : Char} (hc : isMark c) {s : Text} (h : c ∉ s) : c ∉ lower s := by
  rwa [(small_lower s).mem_mark_iff hc]

lemma host_lowerAuthority (h : checkPort (hostAndPort a).2 = .ok ()) :
    (hostAndPort (lowerAuthority a)).1 = lower (hostAndPort a).1 := by
  unfold hostAndPort at h ⊢
  rw [hostPart_lowerAuthority]
  generalize hostPart a = b at h ⊢
  rcases cut_cases '[' b with ⟨hn, he⟩ | ⟨x, r, hx, rfl, he⟩ <;> simp only [he] at h ⊢
  · rw [cut_of_not_mem (not_mem_lower (by decide) hn)]
    rcases cut_cases ':' b with ⟨hc, he⟩ | ⟨host, port, hc, rfl, he⟩ <;> simp only [he] at h ⊢
    · rw [cut_of_not_mem (not_mem_lower (by decide) hc)]
    · have hport : ∀ c ∈ port, isAsciiDigit c := digits_of_checkPort h
      rw [lower_append_port hport, cut_append (not_mem_lower (by decide) hc)]
  · rw [lower_append_stop (by decide) (settled_of_mark (by decide)),
      cut_append (not_mem_lower (by decide) hx)]
    rcases cut_cases ']' r with ⟨hc, he⟩ | ⟨host, after, hc, rfl, he⟩ <;> simp only [he]
    · rw [cut_of_not_mem (not_mem_lower (by decide) hc)]
    · rw [lower_append_stop (by decide) (settled_of_mark (by decide)),
        cut_append (not_mem_lower (by decide) hc)]

lemma hostName_lowerAuthority (h : checkPort (hostAndPort a).2 = .ok ()) :
    hostName (lowerAuthority a) = lower (hostName a) := by
  unfold hostName
  rw [host_lowerAuthority h]
  generalize (hostAndPort a).1 = host
  rcases cut_cases '%' host with ⟨hn, he⟩ | ⟨name, zone, hn, rfl, he⟩ <;> rw [he]
  · rw [cut_of_not_mem (not_mem_lower (by decide) hn)]
  · rw [lower_append_stop (by decide) (settled_of_mark (by decide)),
      cut_append (not_mem_lower (by decide) hn)]
    simp only [lower_append_stop (c := '%') (by decide) (settled_of_mark (by decide))]

/-- **The host of a URL that was read can be split off again.** The authority comes back as it is
and passes every check, that of the port included; the host is the one in the text, in small
letters, and a URL of a scheme that needs one has one. So nothing fails on the way when the text is
cleaned. -/
theorem host_split_again (h : parse raw = .ok u) :
    let first := splitParts (trim raw)
    let again := splitParts ('/' :: '/' :: u.authority)
    again.authority = u.authority ∧ checkAuthority again.authority = .ok () ∧
      u.hostAnew = .ok (lower (hostName first.authority)) ∧
      (specialSchemes.contains u.scheme → lower (hostName first.authority) ≠ []) ∧
      ∀ o, stripChecked raw o = .ok (stripTracking raw o) := by
  intro first again
  have hsound := parse_sound h
  have hsame : again.authority = u.authority := hsound.authority_anew
  obtain ⟨hchecked, hu⟩ := checked_of_parse h
  have hport := (checkAuthority_eq_ok.mp hchecked.authority).2.2
  have hhost : u.host = lower (hostName first.authority) := by
    rw [hu, host]
    exact hostName_lowerAuthority hport
  refine ⟨hsame, by rw [hsame]; exact hsound.checked, ?_, fun hs => ?_, stripChecked_eq raw⟩
  · rw [hsound.hostAnew, hhost]
  · rw [← hhost]
    exact (hsound.special hs).1

/-- A zone is written in small letters with the rest, a final sigma in its place, and the name of
the user is left as it is. -/
theorem host_split_again_zone :
    let raw := "https://Me@[FE80::1%ΟΔΟΣ]:443/x".toList
    let u : Url :=
      { scheme := "https".toList, authority := "Me@[fe80::1%οδος]:443".toList,
        path := "/x".toList, query := [], fragment := none, written := some [] }
    parse raw = .ok u ∧ hostName (splitParts (trim raw)).authority = "fe80::1%ΟΔΟΣ".toList ∧
      u.hostAnew = .ok "fe80::1%οδος".toList := by
  intro raw u
  have h : parse raw = .ok u := by decide +kernel
  have hhost : hostName (splitParts (trim raw)).authority = "fe80::1%ΟΔΟΣ".toList := by
    decide +kernel
  obtain ⟨-, -, hanew, -⟩ := host_split_again h
  rw [hhost] at hanew
  exact ⟨h, hhost, hanew.trans (by decide +kernel)⟩

end Url

end LinkCleaner
