import Mathlib.Tactic.Lemma
import Mathlib.Tactic.SplitIfs
import LinkCleaner.Http.Network

/-!
How often a text is asked for. An attempt that fails in passing is followed by another, after the
waits that are provided for; the first that does not fail so is the last, and else the one after the
last wait. What the attempts come to is up to the network, and any script of replies is one that a
network can follow.
-/

namespace LinkCleaner.Http

variable {url : Text} {n : Network} {waits : List Nat}

/-- A fault that may be over by the next attempt: the server is busy or has broken down, or the
connection has failed. -/
def MayPass : Except FetchFault Text → Prop
  | .ok _ => False
  | .error (.status c) => c = 429 ∨ 500 ≤ c
  | .error (.failed name _) => name ∉ FetchFault.lasting

/-- The network when an attempt was made, in vain, before each of the waits. -/
def before (url : Text) : List Nat → Network → Network
  | [], n => n
  | w :: ws, n => before url ws ((attempt url n).2.wait w)

/-- The attempt of this number, if it comes to it; the first has the number one. -/
def attemptAt (url : Text) (n : Network) (i : Nat) : Except FetchFault Text × Network :=
  attempt url (before url (retryWaits.take (i - 1)) n)

/-- What that attempt comes to. -/
abbrev outcome (url : Text) (n : Network) (i : Nat) : Except FetchFault Text :=
  (attemptAt url n i).1

/-- The network after that attempt. -/
abbrev after (url : Text) (n : Network) (i : Nat) : Network := (attemptAt url n i).2

/-- The number of the last attempt of a script: of the first that comes to something else than a
fault that may pass, or else of the third. -/
structure IsLast (script : Nat → Except FetchFault Text) (k : Nat) : Prop where
  pos : 1 ≤ k
  le : k ≤ 3
  earlier : ∀ i, 1 ≤ i → i < k → MayPass (script i)
  last : k < 3 → ¬ MayPass (script k)

/-! ### Trying again -/

lemma isTransient_iff (f : FetchFault) : f.isTransient ↔ MayPass (.error f) := by
  cases f with
  | status c => simp [FetchFault.isTransient, MayPass]
  | failed name message => simp [FetchFault.isTransient, MayPass]

/-- Trying again ends with an attempt, and all those before it have failed in passing. -/
lemma fetchWith_eq (url : Text) (waits : List Nat) (n : Network) :
    ∃ j ≤ waits.length, (∀ i < j, MayPass (attempt url (before url (waits.take i) n)).1) ∧
      (j < waits.length → ¬ MayPass (attempt url (before url (waits.take j) n)).1) ∧
      fetchWith url waits n = attempt url (before url (waits.take j) n) := by
  induction waits generalizing n with
  | nil =>
    refine ⟨0, Nat.le_refl _, by simp, by simp, ?_⟩
    rw [fetchWith, List.take_nil, before]
    rcases attempt url n with ⟨e | text, m⟩ <;> rfl
  | cons w ws ih =>
    rw [fetchWith]
    rcases ha : attempt url n with ⟨e | text, m⟩
    · by_cases he : e.isTransient
      · -- the first attempt has failed in passing: the others have what is left of the waits
        obtain ⟨j, hj, hearlier, hlast, hend⟩ := ih (m.wait w)
        have hbefore : ∀ i, before url ((w :: ws).take (i + 1)) n =
            before url (ws.take i) (m.wait w) := by
          intro i
          rw [List.take_succ_cons, before, ha]
        refine ⟨j + 1, by simpa using hj, ?_, ?_, ?_⟩
        · rintro (_ | i) hi
          · rwa [List.take_zero, before, ha, ← isTransient_iff]
          · rw [hbefore]
            exact hearlier i (by omega)
        · rw [hbefore, List.length_cons]
          exact fun hlt => hlast (by omega)
        · simp only [if_pos he]
          rw [hbefore, hend]
      · refine ⟨0, Nat.zero_le _, by simp, fun _ => ?_, ?_⟩
        · rwa [List.take_zero, before, ha, ← isTransient_iff]
        · rw [List.take_zero, before, ha]
          simp only [if_neg he]
    · refine ⟨0, Nat.zero_le _, by simp, fun _ => ?_, ?_⟩
      · rw [List.take_zero, before, ha]
        exact id
      · rw [List.take_zero, before, ha]

/-- **A text is fetched by the last attempt of the script.** -/
theorem fetch_eq (url : Text) (n : Network) :
    ∃ k, IsLast (outcome url n) k ∧ fetch url n = attemptAt url n k := by
  obtain ⟨j, hj, hearlier, hlast, hend⟩ := fetchWith_eq url retryWaits n
  have hthree : retryWaits.length = 2 := rfl
  refine ⟨j + 1, ⟨by omega, by omega, fun i h1 hi => ?_, fun hlt => ?_⟩, hend⟩
  · exact hearlier (i - 1) (by omega)
  · exact hlast (by omega)

/-! ### One attempt -/

/-- Where a reply leads on to. -/
def Reply.target? : Reply → Option Text
  | .response status _ (some l) => if redirectCodes.contains status then some l else none
  | _ => none

/-- What a reply comes to that leads on to nothing else. -/
def Reply.verdict : Reply → Except FetchFault Text
  | .response status text _ => if isSuccess status then .ok text else .error (.status status)
  | .failure name message => .error (.failed name message)

lemma follow_succ (left : Nat) (url : Text) (n : Network) :
    follow (left + 1) url n =
      match (n.get url).1.target? with
      | some l => follow left (resolve url l) (n.get url).2
      | none => ((n.get url).1.verdict, (n.get url).2) := by
  rw [follow]
  rcases n.get url with ⟨⟨status, text, _ | l⟩ | ⟨name, message⟩, m⟩
  · simp only [Reply.target?, Reply.verdict]
    split_ifs <;> rfl
  · simp only [Reply.target?, Reply.verdict]
    split_ifs <;> rfl
  · rfl

lemma waits_get (n : Network) (url : Text) : (n.get url).2.waits = n.waits := rfl

lemma exchanges_get (n : Network) (url : Text) :
    (n.get url).2.exchanges = n.exchanges ++ [⟨url, Network.statusOf (n.get url).1⟩] := rfl

lemma waits_follow (left : Nat) (url : Text) (n : Network) :
    (follow left url n).2.waits = n.waits := by
  induction left generalizing url n with
  | zero => rfl
  | succ left ih =>
    rw [follow_succ]
    cases (n.get url).1.target? with
    | some l => exact (ih _ _).trans (waits_get n url)
    | none => exact waits_get n url

/-- What the last response of an attempt makes of it: a text if its status is good, and a fault that
names its status if not. The other faults come without a response, or with one that leads on once
too often. -/
def Decides (status : Option Nat) : Except FetchFault Text → Prop
  | .ok _ => ∃ c, status = some c ∧ isSuccess c
  | .error (.status c) => status = some c ∧ isSuccess c = false
  | .error (.failed _ _) => status = none ∨ ∃ c, status = some c ∧ c ∈ redirectCodes

lemma decides_verdict (r : Reply) : Decides (Network.statusOf r) r.verdict := by
  rcases r with ⟨status, text, location⟩ | ⟨name, message⟩
  · rw [Reply.verdict]
    split_ifs with h
    · exact ⟨status, rfl, h⟩
    · exact ⟨rfl, by simpa using h⟩
  · exact Or.inl rfl

lemma status_of_target {r : Reply} {l : Text} (h : r.target? = some l) :
    ∃ c, Network.statusOf r = some c ∧ c ∈ redirectCodes := by
  rcases r with ⟨status, text, _ | l'⟩ | ⟨name, message⟩
  · cases h
  · simp only [Reply.target?] at h
    split_ifs at h with hc
    exact ⟨status, rfl, by simpa using hc⟩
  · cases h

/-- Each redirection is one request more, and the last response decides. -/
lemma follow_decides (left : Nat) (url : Text) (n : Network) :
    ∃ earlier last, (follow (left + 1) url n).2.exchanges = n.exchanges ++ earlier ++ [last] ∧
      earlier.length ≤ left ∧ Decides last.status (follow (left + 1) url n).1 := by
  induction left generalizing url n with
  | zero =>
    refine ⟨[], ⟨url, Network.statusOf (n.get url).1⟩, ?_⟩
    rw [follow_succ, List.append_nil]
    cases ht : (n.get url).1.target? with
    | none => exact ⟨exchanges_get n url, Nat.le_refl _, decides_verdict _⟩
    | some l => exact ⟨exchanges_get n url, Nat.le_refl _, Or.inr (status_of_target ht)⟩
  | succ left ih =>
    rw [follow_succ]
    cases ht : (n.get url).1.target? with
    | none =>
      refine ⟨[], ⟨url, Network.statusOf (n.get url).1⟩, ?_, Nat.zero_le _, decides_verdict _⟩
      rw [List.append_nil]
      exact exchanges_get n url
    | some l =>
      obtain ⟨earlier, last, hex, hlen, hdec⟩ := ih (resolve url l) (n.get url).2
      refine ⟨⟨url, Network.statusOf (n.get url).1⟩ :: earlier, last, ?_, by simpa using hlen, hdec⟩
      rw [hex, exchanges_get]
      simp only [List.append_assoc, List.cons_append, List.nil_append]

/-! ### Waits -/

lemma waits_attempt (url : Text) (n : Network) : (attempt url n).2.waits = n.waits :=
  waits_follow hopLimit url n

lemma waits_before (url : Text) (waits : List Nat) (n : Network) :
    (before url waits n).waits = n.waits ++ waits := by
  induction waits generalizing n with
  | nil => rw [before, List.append_nil]
  | cons w ws ih =>
    rw [before, ih, Network.wait, waits_attempt, List.append_assoc, List.singleton_append]

/-- Before an attempt there is a wait for each attempt before it, and no other. -/
theorem waits_after (url : Text) (n : Network) (k : Nat) :
    (after url n k).waits = n.waits ++ retryWaits.take (k - 1) := by
  rw [after, attemptAt, waits_attempt, waits_before]

/-! ### Scripts -/

/-- The replies that a server still has for a URL. -/
def Server.replies (s : Server) (url : Text) : List Reply := (s.lookup url).getD []

/-- The reply of this number; the last one is given for ever. -/
def replyAt : List Reply → Nat → Reply
  | [], _ => notFound
  | [r], _ => r
  | r :: _ :: _, 0 => r
  | _ :: q :: rs, i + 1 => replyAt (q :: rs) i

lemma lookup_replaced {s : Server} {url : Text} {rs : List Reply} (h : s.lookup url = some rs)
    (rest : List Reply) :
    List.lookup url (s.map fun e => if e.1 = url then (url, rest) else e) = some rest := by
  induction s with
  | nil => cases h
  | cons e s ih =>
    obtain ⟨u, qs⟩ := e
    by_cases hu : u = url
    · simp [hu]
    · have hne : (url == u) = false := by simpa using Ne.symm hu
      rw [List.lookup_cons, hne] at h
      rw [List.map_cons, if_neg hu, List.lookup_cons, hne]
      exact ih h

lemma next_replies (s : Server) (url : Text) :
    (s.next url).1 = replyAt (s.replies url) 0 ∧
      ∀ i, replyAt ((s.next url).2.replies url) i = replyAt (s.replies url) (i + 1) := by
  unfold Server.next Server.replies
  rcases hs : s.lookup url with _ | _ | ⟨r, _ | ⟨q, rest⟩⟩
  · simp [hs, replyAt]
  · simp [hs, replyAt]
  · simp [hs, replyAt]
  · simp [lookup_replaced hs, replyAt]

lemma get_replies (n : Network) (url : Text) :
    (n.get url).1 = replyAt (n.server.replies url) 0 ∧
      ∀ i, replyAt ((n.get url).2.server.replies url) i =
        replyAt (n.server.replies url) (i + 1) :=
  next_replies n.server url

/-- No reply for the URL leads on to another one. -/
def Direct (url : Text) (n : Network) : Prop :=
  ∀ i, (replyAt (n.server.replies url) i).target? = none

lemma attempt_of_direct (h : Direct url n) :
    attempt url n = ((replyAt (n.server.replies url) 0).verdict, (n.get url).2) := by
  have h0 := h 0
  rw [← (get_replies n url).1] at h0 ⊢
  rw [attempt, hopLimit, follow_succ, h0]

lemma Direct.wait (h : Direct url n) (w : Nat) : Direct url ((attempt url n).2.wait w) := by
  intro i
  rw [attempt_of_direct h]
  exact (congrArg Reply.target? ((get_replies n url).2 i)).trans (h (i + 1))

lemma before_of_direct (h : Direct url n) (waits : List Nat) :
    Direct url (before url waits n) ∧
      (∀ i, replyAt ((before url waits n).server.replies url) i =
        replyAt (n.server.replies url) (waits.length + i)) ∧
      (before url waits n).exchanges = n.exchanges ++ (List.range waits.length).map fun i =>
        ⟨url, Network.statusOf (replyAt (n.server.replies url) i)⟩ := by
  induction waits generalizing n with
  | nil => exact ⟨h, fun i => by rw [List.length_nil, Nat.zero_add]; rfl, by simp [before]⟩
  | cons w ws ih =>
    obtain ⟨hdirect, hreplies, hex⟩ := ih (h.wait w)
    have hnext : ∀ i, replyAt (((attempt url n).2.wait w).server.replies url) i =
        replyAt (n.server.replies url) (i + 1) := by
      intro i
      rw [attempt_of_direct h]
      exact (get_replies n url).2 i
    have hone : ((attempt url n).2.wait w).exchanges =
        n.exchanges ++ [⟨url, Network.statusOf (replyAt (n.server.replies url) 0)⟩] := by
      rw [attempt_of_direct h, ← (get_replies n url).1]
      exact exchanges_get n url
    refine ⟨hdirect, fun i => ?_, ?_⟩
    · rw [before, hreplies, hnext, List.length_cons]
      congr 1
      omega
    · rw [before, hex, hone, List.length_cons, List.range_succ_eq_map, List.map_cons, List.map_map,
        List.append_assoc, List.singleton_append]
      simp only [hnext, Function.comp_def]

/-- **Attempts follow the script of the server.** -/
theorem attemptAt_of_direct (h : Direct url n) {k : Nat} (h1 : 1 ≤ k) (h3 : k ≤ 3) :
    outcome url n k = (replyAt (n.server.replies url) (k - 1)).verdict ∧
      (after url n k).exchanges = n.exchanges ++ (List.range k).map fun i =>
        ⟨url, Network.statusOf (replyAt (n.server.replies url) i)⟩ := by
  obtain ⟨j, rfl⟩ : ∃ j, k = j + 1 := ⟨k - 1, by omega⟩
  obtain ⟨hdirect, hreplies, hex⟩ := before_of_direct h (retryWaits.take j)
  have hlen : (retryWaits.take j).length = j := by
    rw [List.length_take, Nat.min_eq_left]
    exact Nat.le_of_succ_le_succ h3
  rw [hlen] at hreplies hex
  have hreply := hreplies 0
  rw [Nat.add_zero] at hreply
  rw [outcome, after, attemptAt, Nat.add_sub_cancel, attempt_of_direct hdirect, hreply]
  refine ⟨rfl, ?_⟩
  rw [exchanges_get, hex, (get_replies _ _).1, hreply, List.range_succ, List.map_append,
    List.append_assoc]
  rfl

end LinkCleaner.Http
