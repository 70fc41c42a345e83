import Mathlib.Tactic.IntervalCases
import LinkCleaner.Proofs.Http.Attempts
import LinkCleaner.Proofs.Refresh.Step

/-!
How often a refresh asks. A text is asked for three times at most, and only a fault that may pass is
followed by another attempt; the digest is not asked for before the text of the rules is there.
-/

namespace LinkCleaner.Refresh

open Http Act

variable {settings : Settings} {client : Option Client} {url : Text} {s : Surroundings} {k l : Nat}

/-! ### Networks after a run -/

lemma transfer_network (settings : Settings) (s : Surroundings) :
    match Http.fetch settings.rulesUrl s.network with
    | (.error f, m) => ((transfer settings).run s).1 = .error (.fetch settings.rulesUrl f) ∧
        ((transfer settings).run s).2.network = m
    | (.ok _, m) => ((transfer settings).run s).2.network = (Http.fetch settings.hashUrl m).2 ∧
        ∀ f, (Http.fetch settings.hashUrl m).1 = .error f →
          ((transfer settings).run s).1 = .error (.fetch settings.hashUrl f) := by
  unfold transfer
  simp only [run_bind, run_fetch, run_ofExcept, run_get, run_onDisk, run_log, run_pure]
  rcases Http.fetch settings.rulesUrl s.network with ⟨f | document, m⟩
  · exact ⟨rfl, rfl⟩
  simp only [Except.mapError]
  rcases Http.fetch settings.hashUrl m with ⟨f | hash, m'⟩
  · exact ⟨rfl, fun g hg => by cases hg; rfl⟩
  simp only
  refine ⟨?_, fun f hf => by cases hf⟩
  rcases verify document hash with f | rules
  · rfl
  simp only
  rcases (Cache.save settings.rulesPath (entry rules document s.now) s.disk).1 with f | _ <;> rfl

lemma network_succeed (p : Path) (s : Surroundings) :
    ((succeed p).run s).2.network = s.network := by
  unfold succeed
  simp only [run_bind, run_onDisk, run_pure]
  rcases (Backoff.save p 0 s.disk).1 with f | _ <;> rfl

lemma network_fail (p : Path) (s : Surroundings) : ((fail p).run s).2.network = s.network := by
  unfold fail
  simp only [run_bind, run_get, run_log, run_onDisk, run_pure]
  rcases (Backoff.save p (Backoff.next (Backoff.load s.disk p)) s.disk).1 with f | _ <;> rfl

lemma network_refresh (settings : Settings) (client : Option Client) (s : Surroundings) :
    ((refresh settings client).run s).2.network =
      ((download settings client).run s).2.network := by
  rw [run_refresh]
  rcases (download settings client).run s with ⟨f | rules, t⟩
  · simp only
    split_ifs
    · have ht := network_fail settings.statePath
        { t with journal := t.journal ++ [.refreshFailed f.message] }
      simp only [run_bind, run_log]
      rcases hr : (fail settings.statePath).run
        { t with journal := t.journal ++ [.refreshFailed f.message] } with ⟨g | minutes, r⟩ <;>
        rwa [hr] at ht
    · rfl
  · have ht := network_succeed settings.statePath t
    simp only [run_bind]
    rcases hr : (succeed settings.statePath).run t with ⟨g | minutes, r⟩ <;> rwa [hr] at ht

/-! ### The law -/

/-- A text is fetched by so many attempts: by all up to the first that comes to something else than
a fault that may pass, and by three at most. Between them there is a wait of one second and then one
of two. The last one yields the text, or else the fault that is passed on; that is decided by the
last response. Where no reply leads on, each attempt is one request and comes to what the server has
for it. -/
structure FetchedBy (url : Text) (s : Surroundings) (k : Nat) : Prop where
  isLast : IsLast (outcome url s.network) k
  run : (fetch url).run s =
    ((outcome url s.network k).mapError (.fetch url), { s with network := after url s.network k })
  waits : (after url s.network k).waits = s.network.waits ++ [1, 2].take (k - 1)
  decided : ∃ earlier last, (after url s.network k).exchanges =
      (before url (retryWaits.take (k - 1)) s.network).exchanges ++ earlier ++ [last] ∧
    earlier.length < hopLimit ∧ Decides last.status (outcome url s.network k)
  scripted : Direct url s.network →
    (∀ i, 1 ≤ i → i ≤ 3 →
      outcome url s.network i = (replyAt (s.network.server.replies url) (i - 1)).verdict) ∧
    (after url s.network k).exchanges = s.network.exchanges ++ (List.range k).map fun i =>
      ⟨url, Network.statusOf (replyAt (s.network.server.replies url) i)⟩

lemma fetchedBy (url : Text) (s : Surroundings) : ∃ k, FetchedBy url s k := by
  obtain ⟨k, hlast, hfetch⟩ := fetch_eq url s.network
  obtain ⟨earlier, last, hex, hlen, hdec⟩ :=
    follow_decides 20 url (before url (retryWaits.take (k - 1)) s.network)
  refine ⟨k, hlast, by rw [run_fetch, hfetch], waits_after url s.network k,
    ⟨earlier, last, hex, Nat.lt_succ_of_le hlen, hdec⟩, fun hdirect => ⟨fun i h1 h3 => ?_, ?_⟩⟩
  · exact (attemptAt_of_direct hdirect h1 h3).1
  · exact (attemptAt_of_direct hdirect hlast.pos hlast.le).2

/-- A download from one network to another makes so many attempts for the text of the rules and so
many for that of their digest. These are made only if the first have come to a text, and a fault in
which either ends is the one that the download ends in. -/
structure AskedBy (settings : Settings) (n : Network) (r : Except Fault Json.Value) (m : Network)
    (k l : Nat) : Prop where
  rules : IsLast (outcome settings.rulesUrl n) k
  failed : ∀ f, outcome settings.rulesUrl n k = .error f →
    l = 0 ∧ m = after settings.rulesUrl n k ∧ r = .error (.fetch settings.rulesUrl f)
  obtained : ∀ document, outcome settings.rulesUrl n k = .ok document →
    IsLast (outcome settings.hashUrl (after settings.rulesUrl n k)) l ∧
      m = after settings.hashUrl (after settings.rulesUrl n k) l ∧
      ∀ f, outcome settings.hashUrl (after settings.rulesUrl n k) l = .error f →
        r = .error (.fetch settings.hashUrl f)

lemma AskedBy.le {r : Except Fault Json.Value} {n m : Network} (h : AskedBy settings n r m k l) :
    k + l ≤ 6 := by
  have hk := h.rules.le
  cases ho : outcome settings.rulesUrl n k with
  | error f =>
    have := (h.failed f ho).1
    omega
  | ok document =>
    have := (h.obtained document ho).1.le
    omega

lemma transfer_asked (settings : Settings) (s : Surroundings) :
    ∃ k l, AskedBy settings s.network ((transfer settings).run s).1
      ((transfer settings).run s).2.network k l := by
  obtain ⟨k, hk, hrules⟩ := fetch_eq settings.rulesUrl s.network
  have ht := transfer_network settings s
  rw [hrules] at ht
  rcases ho : attemptAt settings.rulesUrl s.network k with ⟨f | document, m⟩ <;> rw [ho] at ht
  · obtain ⟨hfault, hnet⟩ := ht
    refine ⟨k, 0, hk, fun g hg => ?_, fun document hd => ?_⟩
    · rw [outcome, ho, Except.error.injEq] at hg
      rw [after, ho, ← hg]
      exact ⟨rfl, hnet, hfault⟩
    · rw [outcome, ho] at hd
      cases hd
  · obtain ⟨l, hl, hhash⟩ := fetch_eq settings.hashUrl m
    obtain ⟨hnet, hfault⟩ := ht
    rw [hhash] at hnet hfault
    refine ⟨k, l, hk, fun g hg => ?_, fun d hd => ?_⟩
    · rw [outcome, ho] at hg
      cases hg
    · rw [after, ho]
      exact ⟨hl, hnet, hfault⟩

/-- **A refresh asks six times at most**, whatever the network does: three times for the text of the
rules, and then three times for that of their digest. Each of the texts is fetched by the attempts
that the script of the network leads to, and no other fault than that of a fetch comes of it. -/
theorem asked_six_times :
    (∀ url s, ∃ k, FetchedBy url s k) ∧
      ∀ settings client s, ∃ k l, k + l ≤ 6 ∧
        AskedBy settings s.network ((download settings client).run s).1
          ((download settings client).run s).2.network k l ∧
        ((refresh settings client).run s).2.network =
          ((download settings client).run s).2.network := by
  refine ⟨fetchedBy, fun settings client s => ?_⟩
  obtain ⟨t, hrun, -, hnet, -⟩ := run_download settings client s
  obtain ⟨k, l, h⟩ := transfer_asked settings t
  rw [← hrun, hnet] at h
  exact ⟨k, l, h.le, h, network_refresh settings client s⟩

/-- A server that is busy and then cannot be reached is asked for the third time; a digest that is
missing is asked for once. -/
theorem asked_six_times_busy :
    let settings : Settings := {}
    let busy : List Reply := [.response 503 [] none,
      .failure "ConnectError".toList "offline".toList, .response 200 "rules".toList none]
    let s : Surroundings := { network := { server := [(settings.rulesUrl, busy)] } }
    let t := ((refresh settings none).run s).2
    AskedBy settings s.network ((download settings none).run s).1 t.network 3 1 ∧
      t.network.waits = [1, 2] := by
  intro settings busy s t
  obtain ⟨k, l, -, hasked, hnet⟩ := asked_six_times.2 settings none s
  rw [← hnet] at hasked
  have h1 : outcome settings.rulesUrl s.network 1 = .error (.status 503) := by decide +kernel
  have h2 : outcome settings.rulesUrl s.network 2 =
      .error (.failed "ConnectError".toList "offline".toList) := by decide +kernel
  have h3 : outcome settings.rulesUrl s.network 3 = .ok "rules".toList := by decide +kernel
  have hmissing : outcome settings.hashUrl (after settings.rulesUrl s.network 3) 1 =
      .error (.status 404) := by decide +kernel
  -- neither of the first two attempts can have been the last
  have hk : k = 3 := by
    obtain ⟨hpos, hle, -, hlast⟩ := hasked.rules
    interval_cases k
    · rw [h1] at hlast
      exact absurd (Or.inr (by decide)) (hlast (by decide))
    · rw [h2] at hlast
      exact absurd (by decide : "ConnectError".toList ∉ FetchFault.lasting) (hlast (by decide))
    · rfl
  subst hk
  have hl : l = 1 := by
    obtain ⟨hpos, -, hearlier, -⟩ := (hasked.obtained _ h3).1
    by_contra hne
    have hpass := hearlier 1 (Nat.le_refl _) (by omega)
    rw [hmissing] at hpass
    exact absurd hpass (by simp [MayPass])
  subst hl
  exact ⟨hasked, by decide +kernel⟩

end LinkCleaner.Refresh
