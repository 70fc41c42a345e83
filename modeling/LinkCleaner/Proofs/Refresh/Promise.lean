import Mathlib.Tactic.IntervalCases
import LinkCleaner.Proofs.Refresh.Integrity

/-!
What a refresh promises: it ends with an outcome, and either the rules that are served are kept or a
failure is counted and the next try is put off. In a directory that can be written this holds but
for rules in which half a surrogate pair stands alone: these are verified and then cannot be
written, and no failure is counted for that.
-/

namespace LinkCleaner.Refresh

open Text Disk

variable {settings : Settings} {client : Option Client} {s : Surroundings} {d : Disk}

/-! ### Values that have bytes -/

lemma isText_entry (e : Cache.Entry) : e.toValue.isText = e.rules.isText := by
  simp [Cache.Entry.toValue, Json.Value.ofFields, Json.Value.isText, Json.Value.fieldsAreText,
    Json.Value.text]

lemma isText_failures (n : Nat) : (Backoff.toValue n).isText = true := by
  simp [Backoff.toValue, Json.Value.ofFields, Json.Value.isText, Json.Value.fieldsAreText]

/-! ### Files that are replaced -/

/-- The files that a refresh replaces. -/
def fileNames : List Text := ["rules.json".toList, "refresh_state.json".toList]

lemma save_entry_fst {names : List Text} (h : Writable (dataPath settings) names d)
    (e : Cache.Entry) (hname : "rules.json".toList ∈ names := by decide) :
    (Cache.save settings.rulesPath e d).1 =
      if e.rules.isText then .ok () else .error .unwritable := by
  rw [save_entry_eq, h.replace_fst hname, textOf?, isText_entry]
  cases e.rules.isText <;> rfl

lemma save_failures_fst (h : Writable (dataPath settings) fileNames d) (n : Nat) :
    (Backoff.save settings.statePath n d).1 = .ok () := by
  rw [save_failures_eq, h.replace_fst (by decide), textOf?, if_pos (isText_failures n)]
  rfl

lemma place_state :
    settings.statePath.place = (dataPath settings).place ++ ["refresh_state.json".toList] :=
  Path.place_child state_ne_dots _

lemma find_saved {n : Nat} (hok : (Backoff.save settings.statePath n d).1 = .ok ()) :
    (Backoff.save settings.statePath n d).2.find settings.statePath.place =
      .ok (.file (utf8 (Json.write .spaced (Backoff.toValue n)))) := by
  obtain ⟨m, -, ⟨f, he, -⟩ | ⟨text, ht, he, hfind⟩⟩ :=
    replace_cases state_ne_dots (dataPath settings) (textOf? (Backoff.toValue n)) d
  · rw [save_failures_eq, he] at hok
    cases hok
  · rw [place_state, save_failures_eq, he, hfind, textOf?_some ht]

lemma load_of_find {p : Path} {n : Nat} (hn : n ≤ Backoff.last)
    (h : d.find p.place = .ok (.file (utf8 (Json.write .spaced (Backoff.toValue n))))) :
    Backoff.load d p = n := by
  have hlast : Backoff.last = 4 := rfl
  rw [hlast] at hn
  rw [Backoff.load, readValue?, readText, Disk.read, h]
  interval_cases n <;> decide +kernel

/-! ### The promise -/

/-- A refresh ends with an outcome. It succeeds exactly if the file of rules holds what is served;
and else one more failure is counted, in the file too, and the next try is put off as is due. -/
def Promised (settings : Settings) (client : Option Client) (s : Surroundings) : Prop :=
  ∃ o t, (refresh settings client).run s = (.ok o, t) ∧
    (o.ok = true ↔ ∃ e, Offered settings s.network s.now e ∧
      t.disk.find settings.rulesPath.place = .ok (.file (payload e))) ∧
    (o.ok = false →
      let failures := Backoff.load s.disk settings.statePath
      o.minutes = Backoff.delay failures ∧
        t.disk.find settings.statePath.place =
          .ok (.file (utf8 (Json.write .spaced (Backoff.toValue (Backoff.next failures))))) ∧
        Backoff.load t.disk settings.statePath = Backoff.next failures)

/-- **A refresh keeps its promise exactly if what it is served can be written**: if no string in
rules that are verified holds half a surrogate pair. -/
theorem promised_iff (h : Writable (dataPath settings) fileNames s.disk) :
    Promised settings client s ↔
      ∀ e, Offered settings s.network s.now e → e.rules.isText = true := by
  rcases refresh_cases settings client s with ⟨hno, t, hrun, hdisk⟩ | ⟨e, he, hend⟩
  · -- nothing is served, so a failure is counted
    refine ⟨fun _ e he => absurd he (hno e), fun _ => ?_⟩
    rw [save_failures_fst h] at hrun
    refine ⟨_, t, hrun, ⟨fun hok => (by cases hok), fun ⟨e, he, _⟩ => absurd he (hno e)⟩, ?_⟩
    have hfind := find_saved
      (save_failures_fst h (Backoff.next (Backoff.load s.disk settings.statePath)))
    rw [← hdisk] at hfind
    exact fun _ => ⟨rfl, hfind, load_of_find (Backoff.next_le_last _) hfind⟩
  · have hsaved := save_entry_fst h e
    rcases hend with ⟨f, t, hs, hrun, -⟩ | ⟨hs, t, hrun, hdisk⟩
    · -- what is served is not written, and the refresh is stopped
      refine ⟨?_, fun hall => ?_⟩
      · rintro ⟨o, t', hok, -⟩
        rw [hrun] at hok
        cases hok
      · rw [hs, if_pos (hall e he)] at hsaved
        cases hsaved
    · have htext : e.rules.isText = true := by
        by_contra hbad
        rw [hs, if_neg hbad] at hsaved
        cases hsaved
      refine ⟨fun _ k hk => he.unique hk ▸ htext, fun _ => ?_⟩
      have hw : Writable (dataPath settings) fileNames
          (Cache.save settings.rulesPath e s.disk).2 :=
        h.replacing (replace_replacing rules_ne_dots _ _ s.disk)
      rw [save_failures_fst hw] at hrun
      refine ⟨_, t, hrun, ⟨fun _ => ⟨e, he, ?_⟩, fun _ => rfl⟩, fun hok => (by cases hok)⟩
      rw [hdisk, (alike_counting settings (save_counted settings _ _)).find_eq]
      rcases save_cases settings e s.disk with ⟨g, hbad, -⟩ | ⟨-, hfind⟩
      · rw [hbad] at hs
        cases hs
      · exact hfind

theorem promised_after_damage :
    let broken := "not JSON".toList
    let s : Surroundings :=
      { disk := ⟨[(["data".toList, "refresh_state.json".toList], .file (utf8 broken)),
          (["data".toList, "rules.json".toList], .file [0xFF])]⟩ }
    Writable (dataPath {}) fileNames s.disk ∧ (∀ e, ¬ Offered {} s.network s.now e) ∧
      Promised {} none s := by
  intro broken s
  have hw : Writable (dataPath {}) fileNames s.disk := ⟨by decide, by decide, by decide⟩
  have hno : ∀ e, ¬ Offered {} s.network s.now e := by
    rintro e ⟨document, hash, ⟨m, hm, -⟩, -⟩
    have hnone : (Http.fetch ({} : Settings).rulesUrl s.network).1 = .error (.status 404) := by
      decide
    rw [hm] at hnone
    cases hnone
  exact ⟨hw, hno, (promised_iff hw).mpr fun e he => absurd he (hno e)⟩

/-- Rules in which half a surrogate pair stands alone stop a refresh, and no failure is counted. -/
theorem half_pair_not_promised :
    let s : Surroundings :=
      { network := serving "\x7b\"a\": \"\\ud800\"\x7d".toList
          "f6ce88b5d0b4f17a625764062775db270c469f9cdc94f09e66828315f5c547a9".toList
        now := 3 }
    let r := (refresh {} none).run s
    Writable (dataPath {}) fileNames s.disk ∧ r.1 = .error .unwritable ∧
      r.2.disk = ⟨[(["data".toList], .dir),
        (["data".toList, "rules.json.tmp".toList], .file [])]⟩ ∧
      ¬ Promised {} none s := by
  intro s r
  have hfault : r.1 = .error .unwritable := by decide +kernel
  refine ⟨⟨by decide, by decide, by decide⟩, hfault, by decide +kernel, ?_⟩
  rintro ⟨o, t, hrun, -⟩
  have hok : r.1 = .ok o := congrArg Prod.fst hrun
  rw [hfault] at hok
  cases hok

end LinkCleaner.Refresh
