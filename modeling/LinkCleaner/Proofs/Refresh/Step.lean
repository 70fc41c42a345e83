import LinkCleaner.Proofs.Disk
import LinkCleaner.Refresh

/-!
What one download and one refresh can do. Nothing is written before the text of the rules and that
of their digest have been fetched and verified; what is then written depends on these two texts and
the time alone.
-/

namespace LinkCleaner

open Text

lemma Disk.replaceValue_fault {dir : Path} {name : Text} {v : Json.Value} {d : Disk} {f : Fault}
    (hname : name ≠ ['.', '.']) (h : (d.replaceValue (dir.child name) v).1 = .error f) :
    f.concernsRules = false := by
  obtain ⟨m, -, ⟨g, he, hg, -⟩ | ⟨text, -, he, -⟩⟩ :=
    Disk.replace_cases hname dir (Disk.textOf? v) d
  · rw [Disk.replaceValue, he, Except.error.injEq] at h
    rwa [← h]
  · rw [Disk.replaceValue, he] at h
    cases h

namespace Refresh

open Act

/-! ### What is offered -/

/-- The text of the rules and that of their digest, as the network serves them one after the
other. -/
def Served (settings : Settings) (n : Http.Network) (document hash : Text) : Prop :=
  ∃ m, Http.fetch settings.rulesUrl n = (.ok document, m) ∧
    (Http.fetch settings.hashUrl m).1 = .ok hash

/-- What is to be kept of the rules that the network serves at a time: the digest that is published
is that of their text. -/
def Offered (settings : Settings) (n : Http.Network) (now : Nat) (e : Cache.Entry) : Prop :=
  ∃ document hash, Served settings n document hash ∧ lower (trim hash) = Sha256.hex document ∧
    Json.readDocument document = .ok e.rules ∧ e.time = now * 1000 ∧
    e.digest = Sha256.hex document

lemma Offered.unique {n : Http.Network} {now : Nat} {e k : Cache.Entry}
    (he : Offered settings n now e) (hk : Offered settings n now k) : e = k := by
  obtain ⟨document, hash, ⟨m, hd, -⟩, -, hr, ht, hx⟩ := he
  obtain ⟨document', hash', ⟨m', hd', -⟩, -, hr', ht', hx'⟩ := hk
  rw [hd, Prod.mk.injEq, Except.ok.injEq] at hd'
  obtain ⟨rfl, -⟩ := hd'
  rw [hr, Except.ok.injEq] at hr'
  cases e
  cases k
  simp only at hr' ht ht' hx hx'
  rw [hr', ht, ht', hx, hx']

/-! ### A download -/

lemma run_fetch (url : Text) (s : Surroundings) :
    (fetch url).run s = ((Http.fetch url s.network).1.mapError (.fetch url),
      { s with network := (Http.fetch url s.network).2 }) := rfl

/-- A download over a connection that is set up. -/
def transfer (settings : Settings) : Act Json.Value := do
  let document ← fetch settings.rulesUrl
  let hash ← fetch settings.hashUrl
  let rules ← Act.ofExcept (verify document hash)
  let s ← get
  let e := entry rules document s.now
  Act.onDisk (Cache.save settings.rulesPath e)
  Act.log (.rulesUpdated settings.rulesPath.toText e.digest)
  return rules

lemma run_download (settings : Settings) (client : Option Client) (s : Surroundings) :
    ∃ t, (download settings client).run s = (transfer settings).run t ∧
      t.disk = s.disk ∧ t.network = s.network ∧ t.now = s.now := by
  cases client with
  | none => exact ⟨{ s with clients := s.clients ++ [settings.client] }, rfl, rfl, rfl, rfl⟩
  | some c => exact ⟨s, rfl, rfl, rfl, rfl⟩

lemma verify_ok {document hash : Text} {rules : Json.Value} :
    verify document hash = .ok rules ↔
      lower (trim hash) = Sha256.hex document ∧ Json.readDocument document = .ok rules := by
  unfold verify published
  simp only [eq_comm (a := Sha256.hex document)]
  split_ifs with h
  · cases Json.readDocument document <;> simp [Except.mapError, h]
  · simp [h]

lemma verify_error {document hash : Text} {f : Fault} (h : verify document hash = .error f) :
    f.concernsRules := by
  unfold verify at h
  simp only at h
  split_ifs at h
  · cases hr : Json.readDocument document with
    | error e =>
      rw [hr] at h
      cases h
      rfl
    | ok v =>
      rw [hr] at h
      cases h
  · cases h
    rfl

lemma transfer_cases (settings : Settings) (s : Surroundings) :
    (∃ f t, (transfer settings).run s = (.error f, t) ∧ f.concernsRules ∧ t.disk = s.disk ∧
        ∀ e, ¬ Offered settings s.network s.now e) ∨
      ∃ e t, Offered settings s.network s.now e ∧
        (transfer settings).run s =
          ((Cache.save settings.rulesPath e s.disk).1.map fun _ => e.rules, t) ∧
        t.disk = (Cache.save settings.rulesPath e s.disk).2 := by
  unfold transfer
  simp only [run_bind, run_fetch, run_ofExcept, run_get, run_onDisk, run_log, run_pure]
  rcases hd : Http.fetch settings.rulesUrl s.network with ⟨x | document, n⟩
  · refine Or.inl ⟨_, _, rfl, rfl, rfl, ?_⟩
    rintro e ⟨document, hash, ⟨m, hm, -⟩, -⟩
    rw [hd] at hm
    cases hm
  simp only [Except.mapError]
  rcases hh : Http.fetch settings.hashUrl n with ⟨x | hash, m⟩
  · refine Or.inl ⟨_, _, rfl, rfl, rfl, ?_⟩
    rintro e ⟨document', hash, ⟨m', hm, hx⟩, -⟩
    rw [hd] at hm
    cases hm
    rw [hh] at hx
    cases hx
  simp only
  rcases hv : verify document hash with f | rules
  · refine Or.inl ⟨_, _, rfl, verify_error hv, rfl, ?_⟩
    rintro e ⟨document', hash', ⟨m', hm, hx⟩, hpub, hread, -, -⟩
    rw [hd] at hm
    cases hm
    rw [hh] at hx
    cases hx
    rw [verify_ok.mpr ⟨hpub, hread⟩] at hv
    cases hv
  -- all has been verified, so that the rest depends on the disk alone
  obtain ⟨hpub, hread⟩ := verify_ok.mp hv
  have hoffer : Offered settings s.network s.now (entry rules document s.now) :=
    ⟨document, hash, ⟨n, hd, by rw [hh]⟩, hpub, hread, rfl, rfl⟩
  simp only
  rcases hs : Cache.save settings.rulesPath (entry rules document s.now) s.disk with ⟨f | _, d⟩
  · exact Or.inr ⟨_, _, hoffer, by rw [hs]; rfl, by rw [hs]⟩
  · exact Or.inr ⟨_, _, hoffer, by rw [hs]; rfl, by rw [hs]⟩

/-- **How a download ends.** Either it fails before anything is written, as nothing is offered; or
what is offered is saved, and the download ends as that does. -/
theorem download_cases (settings : Settings) (client : Option Client) (s : Surroundings) :
    (∃ f t, (download settings client).run s = (.error f, t) ∧ f.concernsRules ∧
        t.disk = s.disk ∧ ∀ e, ¬ Offered settings s.network s.now e) ∨
      ∃ e t, Offered settings s.network s.now e ∧
        (download settings client).run s =
          ((Cache.save settings.rulesPath e s.disk).1.map fun _ => e.rules, t) ∧
        t.disk = (Cache.save settings.rulesPath e s.disk).2 := by
  obtain ⟨t, hrun, hdisk, hnet, hnow⟩ := run_download settings client s
  rw [hrun, ← hdisk, ← hnet, ← hnow]
  exact transfer_cases settings t

/-! ### A refresh -/

lemma run_succeed (p : Path) (s : Surroundings) :
    ∃ t, (succeed p).run s = ((Backoff.save p 0 s.disk).1.map fun _ => Backoff.daily, t) ∧
      t.disk = (Backoff.save p 0 s.disk).2 := by
  unfold succeed
  simp only [run_bind, run_onDisk, run_pure]
  rcases hs : Backoff.save p 0 s.disk with ⟨f | _, d⟩ <;> exact ⟨_, rfl, rfl⟩

lemma run_fail (p : Path) (s : Surroundings) :
    ∃ t, (fail p).run s =
        ((Backoff.save p (Backoff.next (Backoff.load s.disk p)) s.disk).1.map fun _ =>
          Backoff.delay (Backoff.load s.disk p), t) ∧
      t.disk = (Backoff.save p (Backoff.next (Backoff.load s.disk p)) s.disk).2 := by
  unfold fail
  simp only [run_bind, run_get, run_log, run_onDisk, run_pure]
  rcases hs : Backoff.save p (Backoff.next (Backoff.load s.disk p)) s.disk with ⟨f | _, d⟩ <;>
    exact ⟨_, rfl, rfl⟩

lemma run_refresh (settings : Settings) (client : Option Client) (s : Surroundings) :
    (refresh settings client).run s =
      match (download settings client).run s with
      | (.ok _, t) => (do return ⟨true, ← succeed settings.statePath⟩ : Act Outcome).run t
      | (.error f, t) =>
        if f.concernsRules then
          (do
            Act.log (.refreshFailed f.message)
            return ⟨false, ← fail settings.statePath⟩ : Act Outcome).run t
        else (.error f, t) := rfl

/-- **How a refresh ends.** If nothing is offered, the rules are left alone and a failure is
counted. Otherwise what is offered is saved; if that fails, so does the refresh, and else the
failures are forgotten. -/
theorem refresh_cases (settings : Settings) (client : Option Client) (s : Surroundings) :
    ((∀ e, ¬ Offered settings s.network s.now e) ∧
      let failures := Backoff.load s.disk settings.statePath
      let counted := Backoff.save settings.statePath (Backoff.next failures) s.disk
      ∃ t, (refresh settings client).run s =
          (counted.1.map fun _ => ⟨false, Backoff.delay failures⟩, t) ∧ t.disk = counted.2) ∨
    ∃ e, Offered settings s.network s.now e ∧
      let saved := Cache.save settings.rulesPath e s.disk
      let forgotten := Backoff.save settings.statePath 0 saved.2
      ((∃ f t, saved.1 = .error f ∧ (refresh settings client).run s = (.error f, t) ∧
          t.disk = saved.2) ∨
        (saved.1 = .ok () ∧ ∃ t, (refresh settings client).run s =
          (forgotten.1.map fun _ => ⟨true, Backoff.daily⟩, t) ∧ t.disk = forgotten.2)) := by
  rw [run_refresh]
  rcases download_cases settings client s with
    ⟨f, t, hrun, hrules, hdisk, hno⟩ | ⟨e, t, he, hrun, hdisk⟩
  · -- the fault of the download concerns the rules, and so it is counted
    refine Or.inl ⟨hno, ?_⟩
    obtain ⟨r, hr, hend⟩ := run_fail settings.statePath
      { t with journal := t.journal ++ [.refreshFailed f.message] }
    rw [hrun, ← hdisk]
    simp only [if_pos hrules, run_bind, run_log, hr, run_pure]
    refine ⟨r, ?_, hend⟩
    rcases (Backoff.save settings.statePath _ t.disk).1 with g | _ <;> rfl
  · refine Or.inr ⟨e, he, ?_⟩
    dsimp only
    rw [hrun, ← hdisk]
    rcases hs : (Cache.save settings.rulesPath e s.disk).1 with f | _
    · -- a fault of the disk does not, and it stops the refresh
      have hrules : ¬ f.concernsRules := by
        rw [Disk.replaceValue_fault (by decide) hs]
        decide
      refine Or.inl ⟨f, t, rfl, ?_, rfl⟩
      simp only [Except.map, if_neg hrules]
    · obtain ⟨r, hr, hend⟩ := run_succeed settings.statePath t
      refine Or.inr ⟨rfl, r, ?_, hend⟩
      simp only [Except.map, run_bind, hr, run_pure]
      rcases (Backoff.save settings.statePath 0 t.disk).1 with g | _ <;> rfl

lemma ok_of_map_const {α β : Type} {x : Except Fault α} {b o : β}
    (h : (x.map fun _ => b) = .ok o) : (∃ a, x = .ok a) ∧ b = o := by
  cases x with
  | error f => cases h
  | ok a => exact ⟨⟨a, rfl⟩, Except.ok.inj h⟩

end Refresh

end LinkCleaner
