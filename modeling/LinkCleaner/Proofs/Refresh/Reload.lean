import LinkCleaner.Proofs.Json.RoundTrip
import LinkCleaner.Proofs.Refresh.Digest
import LinkCleaner.Proofs.Refresh.Promise
import LinkCleaner.Proofs.Text.Utf8

/-!
Rules that were downloaded are read again as they were served. The file that keeps them is read back
as the record that was written, so that loading its rules and compiling them gives what compiling
the document itself gives; a document that counts as false is not kept for one, and compiles to none
either way.
-/

namespace LinkCleaner

open Json

/-! ### The file of rules -/

namespace Cache

variable {d : Disk} {p : Path} {e : Entry}

lemma regular_entry (hr : Regular e.rules) (ht : e.time < 10 ^ digitLimit) :
    Regular e.toValue := by
  have hlimit : 0 < digitLimit := by decide
  have htime : (Text.ofNat (e.time : Int).natAbs).length ≤ digitLimit :=
    (Nat.length_toDigits_le_iff (by decide) hlimit).mpr ht
  refine .obj ?_ fun f hf => ?_
  · simp only [List.map_cons, List.map_nil]
    decide
  · simp only [List.map_cons, List.map_nil, List.mem_cons, List.not_mem_nil, or_false] at hf
    rcases hf with rfl | rfl | rfl
    · exact hr
    · exact .int htime
    · exact .str _

lemma readValue?_of_find (hfind : d.find p.place = .ok (.file (Refresh.payload e)))
    (hr : Regular e.rules) (htext : e.rules.isText) (ht : e.time < 10 ^ digitLimit) :
    d.readValue? p = some e.toValue := by
  have hread : readDocument (write .spaced e.toValue) = .ok e.toValue :=
    readDocument_write (regular_entry hr ht) (by rwa [Refresh.isText_entry])
  have hfile : d.readText p = .ok (write .spaced e.toValue) := by
    rw [Disk.readText, Disk.read, hfind, Refresh.payload]
    simp only [Text.ofUtf8?_utf8]
  simp only [Disk.readValue?, hfile, hread]
  rfl

lemma field_rules (h : d.readValue? p = some e.toValue) : field d p "rules" = e.rules := by
  rw [field, fields, h]
  rfl

end Cache

/-! ### Documents that count as false -/

namespace Rules

lemma specs?_of_not_truthy {v : Value} (h : v.truthy = false) : specs? v = none := by
  cases v with
  | obj fs =>
    have hfs : fs = [] := by simpa [Value.truthy] using h
    rw [hfs]
    rfl
  | _ => rfl

lemma compile_of_not_truthy {v : Value} (h : v.truthy = false) : compile v = .ok none := by
  rw [compile, specs?_of_not_truthy h]

end Rules

namespace Cache

variable {d : Disk} {p : Path} {v : Value}

lemma rules?_eq (h : field d p "rules" = v) : rules? d p = if v.truthy then some v else none := by
  rw [rules?, h]

lemma ruleset_eq (h : field d p "rules" = v) :
    ruleset d p = (Rules.compile v).mapError .pattern := by
  rw [ruleset, document, rules?_eq h]
  cases hv : v.truthy with
  | false =>
    rw [Rules.compile_of_not_truthy hv]
    rfl
  | true => rfl

end Cache

/-! ### Downloading and reading again -/

namespace Refresh

variable {settings : Settings} {s : Surroundings} {document hash : Text} {v : Value}

lemma offered_of_served (hserved : Served settings s.network document hash)
    (hhash : published hash = Sha256.hex document) (hread : readDocument document = .ok v) :
    Offered settings s.network s.now (entry v document s.now) :=
  ⟨document, hash, hserved, hhash, hread, rfl, rfl⟩

/-- **Rules reload as they were served.** Let the text of some rules be served with its digest, in
letters of either case and with blanks around it, at a time of no more digits than a number may
have; and let no string in the rules hold half a surrogate pair. Then a download gives the rules if
the directory can be written. And whenever it ends well it gives them, and what is loaded from the
file are the same rules, fields in the same order, unless they count as false; and compiling what is
loaded gives what compiling the rules gives. -/
theorem downloaded_reloads {before digest after : Text} (client : Option Client)
    (hserved : Served settings s.network document (before ++ digest ++ after))
    (hbefore : ∀ c ∈ before, Text.isBlank c) (hafter : ∀ c ∈ after, Text.isBlank c)
    (hdigest : Text.asciiLower digest = Sha256.hex document)
    (hread : readDocument document = .ok v) (htext : v.isText)
    (hnow : s.now * 1000 < 10 ^ digitLimit) :
    ∃ r t, (download settings client).run s = (r, t) ∧
      (Disk.Writable (dataPath settings) ["rules.json".toList] s.disk → r = .ok v) ∧
      ∀ w, r = .ok w → w = v ∧
        Cache.rules? t.disk settings.rulesPath = (if v.truthy then some v else none) ∧
        Cache.ruleset t.disk settings.rulesPath = (Rules.compile v).mapError .pattern := by
  have hoffer : Offered settings s.network s.now (entry v document s.now) :=
    offered_of_served hserved (published_around hbefore hafter hdigest) hread
  rcases download_cases settings client s with ⟨f, t, -, -, -, hno⟩ | ⟨e, t, he, hrun, hdisk⟩
  · exact absurd hoffer (hno _)
  obtain rfl : e = entry v document s.now := he.unique hoffer
  refine ⟨_, t, hrun, fun hw => ?_, fun w hw => ?_⟩
  · have hsaved : (Cache.save settings.rulesPath (entry v document s.now) s.disk).1 = .ok () :=
      (save_entry_fst hw _).trans (if_pos htext)
    rw [hsaved]
    rfl
  · rcases save_cases settings (entry v document s.now) s.disk with ⟨f, hs, -⟩ | ⟨hs, hfind⟩
    · rw [hs] at hw
      cases hw
    · rw [hs] at hw
      have hfield : Cache.field t.disk settings.rulesPath "rules" = v := by
        rw [← hdisk] at hfind
        exact Cache.field_rules (Cache.readValue?_of_find hfind (regular_of_readDocument hread)
          htext hnow)
      exact ⟨(Except.ok.inj hw).symm, Cache.rules?_eq hfield, Cache.ruleset_eq hfield⟩

theorem downloaded_reloads_infinity :
    let document := "\x7b\"n\":0,\"providers\":\x7b\"p\":".toList
      ++ "\x7b\"urlPattern\":\"a\"\x7d\x7d,\"n\":1E400\x7d".toList
    let written := "\x7b\"n\": Infinity, \"providers\": \x7b\"p\": ".toList
      ++ "\x7b\"urlPattern\": \"a\"\x7d\x7d\x7d".toList
    let digest := "3A950B19B8E011BF967E124AD6051E8F9177FAEAECC899B0D84E8C67A02E7FAB".toList
    let s : Surroundings := { network := serving document (' ' :: digest ++ ['\n']), now := 3 }
    Served {} s.network document ([' '] ++ digest ++ ['\n']) ∧
      Text.asciiLower digest = Sha256.hex document ∧ s.now * 1000 < 10 ^ digitLimit ∧
      ∃ v, readDocument document = .ok v ∧ v.isText ∧ write .spaced v = written ∧
        ∃ t, (download {} none).run s = (.ok v, t) ∧
          Cache.rules? t.disk ({} : Settings).rulesPath = (if v.truthy then some v else none) ∧
          Cache.ruleset t.disk ({} : Settings).rulesPath =
            (Rules.compile v).mapError .pattern := by
  intro document written digest s
  have hserved : Served {} s.network document ([' '] ++ digest ++ ['\n']) :=
    ⟨(Http.fetch ({} : Settings).rulesUrl s.network).2, Prod.ext (by decide +kernel) rfl,
      by decide +kernel⟩
  have hdigest : Text.asciiLower digest = Sha256.hex document := by decide +kernel
  have hnow : s.now * 1000 < 10 ^ digitLimit := by decide +kernel
  have hw : Disk.Writable (dataPath {}) ["rules.json".toList] s.disk :=
    ⟨by decide, by decide, by decide⟩
  have hvalue : (readDocument document).toOption.map (fun v => (v.isText, write .spaced v)) =
      some (true, written) := by decide +kernel
  have hread : ∀ x : Except Json.Fault Value,
      x.toOption.map (fun v => (v.isText, write .spaced v)) = some (true, written) →
        ∃ v, x = .ok v ∧ v.isText ∧ write .spaced v = written := by
    rintro (f | v) h
    · cases h
    · exact ⟨v, rfl, Prod.ext_iff.mp (Option.some.inj h)⟩
  obtain ⟨v, hread, htext, hwritten⟩ := hread _ hvalue
  obtain ⟨r, t, hrun, hok, hall⟩ := downloaded_reloads none hserved
    (List.forall_mem_singleton.mpr rfl) (List.forall_mem_singleton.mpr rfl) hdigest hread htext hnow
  obtain ⟨-, hrules, hset⟩ := hall v (hok hw)
  rw [hok hw] at hrun
  exact ⟨hserved, hdigest, hnow, v, hread, htext, hwritten, t, hrun, hrules, hset⟩

end Refresh

end LinkCleaner
