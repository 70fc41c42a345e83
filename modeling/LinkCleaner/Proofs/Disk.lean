import Mathlib.Tactic.Lemma
import Mathlib.Tactic.SplitIfs
import LinkCleaner.Files

/-!
Replacing a file. The new contents go to a file beside it, which is then moved over it: at every
moment, and wherever the work is stopped, the file is as it was or holds the new contents as a
whole, and no other file of the directory changes.
-/

namespace LinkCleaner

open Text

namespace Disk

variable {d e m : Disk} {p q : Place}

/-! ### What is at a place -/

lemma lookup_filter_of_ne (h : p ≠ q) (nodes : List (Place × FileNode)) :
    (nodes.filter fun x => x.1 != q).lookup p = nodes.lookup p := by
  induction nodes with
  | nil => rfl
  | cons x xs ih =>
    obtain ⟨r, n⟩ := x
    by_cases hr : r = q
    · have hpr : (p == r) = false := by simpa [hr] using h
      rw [List.filter_cons_of_neg (by simp [hr]), ih, List.lookup_cons, hpr]
    · rw [List.filter_cons_of_pos (by simp [hr]), List.lookup_cons, List.lookup_cons, ih]

lemma at?_remove_self (h : p ≠ []) (d : Disk) : (d.remove p).at? p = none := by
  rw [at?, if_neg h, remove, List.lookup_eq_none_iff]
  intro x hx
  have hne := (List.mem_filter.mp hx).2
  rwa [bne_comm] at hne

lemma at?_remove_of_ne (h : p ≠ q) (d : Disk) : (d.remove q).at? p = d.at? p := by
  rw [at?, at?, remove, lookup_filter_of_ne h]

lemma at?_put_of_ne (h : p ≠ q) (d : Disk) (n : FileNode) : (d.put q n).at? p = d.at? p := by
  have hpq : (p == q) = false := by simpa using h
  have hs : List.lookup p [(q, n)] = none := by
    rw [List.lookup_cons, hpq, List.lookup_nil]
  rw [at?, at?, put, List.lookup_append, hs, lookup_filter_of_ne h, Option.or_none]

/-- Whether a file is at a place. -/
def hasFile (d : Disk) (p : Place) : Bool :=
  match d.at? p with
  | some (.file _) => true
  | _ => false

lemma hasFile_congr (h : e.at? p = d.at? p) : e.hasFile p = d.hasFile p := by
  rw [hasFile, hasFile, h]

lemma isBlocked_iff : d.isBlocked p ↔ ∃ i < p.length, d.hasFile (p.take i) := by
  have h : d.isBlocked p = (List.range p.length).any fun i => d.hasFile (p.take i) := rfl
  rw [h, List.any_eq_true]
  simp only [List.mem_range]

lemma isBlocked_congr (h : ∀ i < p.length, e.hasFile (p.take i) = d.hasFile (p.take i)) :
    e.isBlocked p = d.isBlocked p := by
  rw [Bool.eq_iff_iff, isBlocked_iff, isBlocked_iff]
  constructor
  · rintro ⟨i, hi, hf⟩
    exact ⟨i, hi, by rwa [← h i hi]⟩
  · rintro ⟨i, hi, hf⟩
    exact ⟨i, hi, by rwa [h i hi]⟩

lemma isBlocked_append (d : Disk) (p : Place) (name : Text) :
    d.isBlocked (p ++ [name]) = (d.isBlocked p || d.hasFile p) := by
  have hpre : ∀ i, i ≤ p.length → (p ++ [name]).take i = p.take i :=
    fun i hi => List.take_append_of_le_length hi
  rw [Bool.eq_iff_iff, Bool.or_eq_true, isBlocked_iff, isBlocked_iff, List.length_append,
    List.length_singleton]
  constructor
  · rintro ⟨i, hi, hf⟩
    rw [hpre i (by omega)] at hf
    rcases Nat.lt_succ_iff_lt_or_eq.mp hi with hlt | rfl
    · exact Or.inl ⟨i, hlt, hf⟩
    · exact Or.inr (by rwa [List.take_length] at hf)
  · rintro (⟨i, hi, hf⟩ | hf)
    · exact ⟨i, by omega, by rwa [hpre i (by omega)]⟩
    · exact ⟨p.length, by omega, by rwa [hpre _ (Nat.le_refl _), List.take_length]⟩

/-! ### Disks that look alike from a place -/

/-- At a place, and on the way to it, one disk looks like the other. -/
structure Alike (p : Place) (d e : Disk) : Prop where
  at_eq : e.at? p = d.at? p
  blocked : e.isBlocked p = d.isBlocked p

namespace Alike

lemma refl (p : Place) (d : Disk) : Alike p d d := ⟨rfl, rfl⟩

lemma trans (h : Alike p d e) (k : Alike p e m) : Alike p d m :=
  ⟨k.at_eq.trans h.at_eq, k.blocked.trans h.blocked⟩

lemma find_eq (h : Alike p d e) : e.find p = d.find p := by
  rw [find, find, h.at_eq, h.blocked]

/-- What changes at one place is not seen from another that the way does not lead past. -/
lemma of_frame_apart (hq : ¬ q <+: p) (h : ∀ r, r ≠ q → e.at? r = d.at? r) : Alike p d e := by
  refine ⟨h p ?_, isBlocked_congr fun i _ => hasFile_congr (h _ ?_)⟩
  · rintro rfl
    exact hq List.prefix_rfl
  · intro he
    exact hq (he ▸ List.take_prefix i p)

lemma of_frame (hne : p ≠ q) (hlen : p.length ≤ q.length)
    (h : ∀ r, r ≠ q → e.at? r = d.at? r) : Alike p d e :=
  of_frame_apart (fun hq => hne (hq.eq_of_length_le hlen).symm) h

lemma put (hne : p ≠ q) (hlen : p.length ≤ q.length) (d : Disk) (n : FileNode) :
    Alike p d (d.put q n) :=
  of_frame hne hlen fun _ hr => at?_put_of_ne hr d n

lemma remove (hne : p ≠ q) (hlen : p.length ≤ q.length) (d : Disk) : Alike p d (d.remove q) :=
  of_frame hne hlen fun _ hr => at?_remove_of_ne hr d

end Alike

/-! ### Steps -/

/-- The disk when the first directories on the way to a place have been made. -/
def makeFirst (d : Disk) (p : Place) (k : Nat) : Disk :=
  (List.range k).foldl
    (fun d i =>
      let q := p.take (i + 1)
      if (d.at? q).isSome then d else d.put q .dir)
    d

lemma makeFirst_succ (d : Disk) (p : Place) (k : Nat) :
    d.makeFirst p (k + 1) =
      if ((d.makeFirst p k).at? (p.take (k + 1))).isSome then d.makeFirst p k
      else (d.makeFirst p k).put (p.take (k + 1)) .dir := by
  rw [makeFirst, List.range_succ, List.foldl_append]
  rfl

lemma makeDirs_ok (h : d.makeDirs p = .ok e) :
    d.isBlocked p = false ∧ d.hasFile p = false ∧ e = d.makeFirst p p.length := by
  unfold makeDirs at h
  split_ifs at h with hb
  rw [Bool.not_eq_true] at hb
  rw [hasFile]
  cases hf : d.at? p with
  | none =>
    rw [hf] at h
    cases h
    exact ⟨hb, rfl, rfl⟩
  | some n =>
    rw [hf] at h
    cases n with
    | dir =>
      cases h
      exact ⟨hb, rfl, rfl⟩
    | file bytes => cases h

lemma makeDirs_of_clear (hb : d.isBlocked p = false) (hf : d.hasFile p = false) :
    d.makeDirs p = .ok (d.makeFirst p p.length) := by
  unfold hasFile at hf
  unfold makeDirs
  rw [if_neg (by simp [hb])]
  cases hn : d.at? p with
  | none => rfl
  | some n =>
    cases n with
    | dir => rfl
    | file bytes =>
      rw [hn] at hf
      cases hf

lemma hasFile_makeFirst (d : Disk) (p q : Place) (k : Nat) :
    (d.makeFirst p k).hasFile q = d.hasFile q := by
  induction k with
  | zero => rfl
  | succ k ih =>
    rw [makeFirst_succ, ← ih]
    split_ifs with h
    · rfl
    · by_cases hq : q = p.take (k + 1)
      · have hne : q ≠ [] := by
          intro h0
          rw [← hq, h0, at?, if_pos rfl] at h
          exact h rfl
        rw [← hq] at h ⊢
        rw [Option.not_isSome_iff_eq_none] at h
        rw [hasFile, hasFile, at?_put_self hne, h]
      · exact hasFile_congr (at?_put_of_ne hq _ _)

lemma alike_makeFirst_of_apart (h : ¬ q <+: p) (d : Disk) (k : Nat) :
    Alike q d (d.makeFirst p k) := by
  refine ⟨?_, isBlocked_congr fun i _ => hasFile_makeFirst d p _ k⟩
  induction k with
  | zero => rfl
  | succ k ih =>
    rw [makeFirst_succ, ← ih]
    split_ifs
    · rfl
    · refine at?_put_of_ne (fun he => ?_) _ _
      exact h (he ▸ List.take_prefix _ p)

lemma alike_makeFirst (h : p.length < q.length) (d : Disk) (k : Nat) :
    Alike q d (d.makeFirst p k) :=
  alike_makeFirst_of_apart (fun hq => Nat.not_le_of_lt h hq.length_le) d k

lemma isSome_makeFirst (d : Disk) (p : Place) : ((d.makeFirst p p.length).at? p).isSome := by
  cases hl : p.length with
  | zero =>
    rw [List.length_eq_zero_iff.mp hl, at?, if_pos rfl]
    rfl
  | succ k =>
    have hp : p.take (k + 1) = p := List.take_of_length_le (Nat.le_of_eq hl)
    have hne : p ≠ [] := by
      rintro rfl
      cases hl
    rw [makeFirst_succ, hp]
    split_ifs with h
    · exact h
    · rw [at?_put_self hne]
      rfl

lemma write_ok {bytes : List UInt8} (h : d.write p bytes = .ok e) :
    d.isBlocked p = false ∧ e = d.put p (.file bytes) := by
  unfold write at h
  split_ifs at h with hb
  split at h
  · cases h
  · cases h
  · cases h
    exact ⟨by simpa using hb, rfl⟩

lemma move_ok (h : d.move p q = .ok e) :
    ∃ bytes, d.at? p = some (.file bytes) ∧ e = (d.remove p).put q (.file bytes) := by
  unfold move at h
  split at h
  · cases h
  · rename_i hp _
    cases h
    exact ⟨_, hp, rfl⟩
  · cases h

lemma write_of_clear {bytes : List UInt8} (hb : d.isBlocked p = false) (hp : d.at? p ≠ some .dir)
    (hd : (d.at? p.dropLast).isSome) : d.write p bytes = .ok (d.put p (.file bytes)) := by
  unfold write
  rw [if_neg (by simp [hb])]
  cases ha : d.at? p.dropLast with
  | none =>
    rw [ha] at hd
    cases hd
  | some n =>
    cases hf : d.at? p with
    | none => rfl
    | some old =>
      cases old with
      | dir => exact absurd hf hp
      | file old => rfl

lemma move_of_file {bytes : List UInt8} (hp : d.at? p = some (.file bytes))
    (hq : d.at? q ≠ some .dir) : d.move p q = .ok ((d.remove p).put q (.file bytes)) := by
  unfold move
  rw [hp]
  cases hn : d.at? q with
  | none => rfl
  | some n =>
    cases n with
    | dir => exact absurd hn hq
    | file old => rfl

end Disk

/-! ### Members of a directory -/

/-- The name of the file beside a file while that is replaced. -/
def temporaryName (name : Text) : Text := name ++ ".tmp".toList

lemma temporaryName_length (name : Text) : (temporaryName name).length = name.length + 4 :=
  List.length_append

lemma temporaryName_ne (name : Text) : temporaryName name ≠ name := by
  intro h
  have := congrArg List.length h
  rw [temporaryName_length] at this
  omega

namespace Path

variable {dir : Path} {name : Text}

lemma place_child (h : name ≠ ['.', '.']) (dir : Path) :
    (dir.child name).place = dir.place ++ [name] := by
  rw [place, place, child, List.foldl_append, List.foldl_cons, List.foldl_nil, if_neg h]

lemma parent_child (dir : Path) (name : Text) : (dir.child name).parent = dir := by
  rw [parent, child, List.dropLast_concat]

lemma temporary?_child (dir : Path) (name : Text) :
    (dir.child name).temporary? = some (dir.child (temporaryName name)) := by
  rw [temporary?, parent_child, child, List.getLast?_concat]
  rfl

lemma place_temporary (dir : Path) (name : Text) :
    (dir.child (temporaryName name)).place = dir.place ++ [temporaryName name] := by
  refine place_child (fun h => ?_) dir
  have := congrArg List.length h
  rw [temporaryName_length] at this
  simp at this

end Path

namespace Disk

variable {d m : Disk} {dir : Path} {name : Text} {contents : Option Text}

/-- What a disk may turn into while a file of a directory is replaced: some directories have been
made, or some of the contents have been written beside the file, or that has been moved over it. -/
inductive Replacing (dir : Path) (name : Text) (contents : Option Text) (d : Disk) : Disk → Prop
  | start : Replacing dir name contents d d
  | making {e : Disk} (hdirs : d.makeDirs dir.place = .ok e) (k : Nat) :
    Replacing dir name contents d (d.makeFirst dir.place k)
  | writing {e f : Disk} (hdirs : d.makeDirs dir.place = .ok e) (k : Nat)
    (hwrite : e.write (dir.place ++ [temporaryName name])
      ((utf8 (contents.getD [])).take k) = .ok f) :
    Replacing dir name contents d f
  | moved {e f g : Disk} {text : Text} (htext : contents = some text)
    (hdirs : d.makeDirs dir.place = .ok e)
    (hwrite : e.write (dir.place ++ [temporaryName name]) (utf8 text) = .ok f)
    (hmove : f.move (dir.place ++ [temporaryName name]) (dir.place ++ [name]) = .ok g) :
    Replacing dir name contents d g

lemma alike_making {e : Disk} (hdirs : d.makeDirs dir.place = .ok e) (name : Text) :
    Alike (dir.place ++ [name]) d e := by
  rw [(makeDirs_ok hdirs).2.2]
  exact alike_makeFirst (by simp) d _

lemma alike_writing {e f : Disk} {other : Text} {bytes : List UInt8} (h : other ≠ name)
    (hwrite : e.write (dir.place ++ [name]) bytes = .ok f) :
    Alike (dir.place ++ [other]) e f := by
  rw [(write_ok hwrite).2]
  exact .put (by simpa using h) (by simp) e _

lemma alike_moving {f g : Disk} {p : Place} {other : Text} (h : other ≠ name)
    (hp : dir.place ++ [other] ≠ p) (hlen : (dir.place ++ [other]).length ≤ p.length)
    (hmove : f.move p (dir.place ++ [name]) = .ok g) : Alike (dir.place ++ [other]) f g := by
  obtain ⟨bytes, -, rfl⟩ := move_ok hmove
  exact (Alike.remove hp hlen f).trans (.put (by simpa using h) (by simp) _ _)

/-- **Replacing a file leaves the others of the directory alone.** -/
theorem Replacing.alike {other : Text} (h : Replacing dir name contents d m) (hname : other ≠ name)
    (htemp : other ≠ temporaryName name) : Alike (dir.place ++ [other]) d m := by
  cases h with
  | start => exact .refl _ _
  | making hdirs k => exact alike_makeFirst (by simp) d k
  | writing hdirs k hwrite => exact (alike_making hdirs other).trans (alike_writing htemp hwrite)
  | moved htext hdirs hwrite hmove =>
    exact ((alike_making hdirs other).trans (alike_writing htemp hwrite)).trans
      (alike_moving hname (by simpa using htemp) (by simp) hmove)

lemma find_moved {e f g : Disk} {bytes : List UInt8}
    (hwrite : e.write (dir.place ++ [temporaryName name]) bytes = .ok f)
    (hmove : f.move (dir.place ++ [temporaryName name]) (dir.place ++ [name]) = .ok g) :
    g.find (dir.place ++ [name]) = .ok (.file bytes) := by
  have hne : dir.place ++ [name] ≠ dir.place ++ [temporaryName name] := by
    simpa using (temporaryName_ne name).symm
  obtain ⟨hb, rfl⟩ := write_ok hwrite
  obtain ⟨moved, hm, rfl⟩ := move_ok hmove
  rw [at?_put_self (by simp), Option.some.injEq, FileNode.file.injEq] at hm
  subst hm
  -- the way to the file is that to the file beside it, and neither step put anything on it
  have hclear : (e.put (dir.place ++ [temporaryName name]) (.file bytes)
      |>.remove (dir.place ++ [temporaryName name])
      |>.put (dir.place ++ [name]) (.file bytes)).isBlocked (dir.place ++ [name]) = false := by
    rw [isBlocked_append] at hb ⊢
    have hdir : ∀ other : Text, dir.place ≠ dir.place ++ [other] := by simp
    have halike := ((Alike.put (hdir (temporaryName name)) (by simp) e (.file bytes)).trans
      (.remove (hdir (temporaryName name)) (by simp) _)).trans
      (.put (hdir name) (by simp) _ (.file bytes))
    rw [halike.blocked, hasFile_congr halike.at_eq, hb]
  rw [find, hclear, if_neg (by decide), at?_put_self (by simp)]

/-- **A file that is replaced is at every moment as it was or holds the new contents.** -/
theorem Replacing.find_eq (h : Replacing dir name contents d m) :
    m.find (dir.place ++ [name]) = d.find (dir.place ++ [name]) ∨
      ∃ text, contents = some text ∧ m.find (dir.place ++ [name]) = .ok (.file (utf8 text)) := by
  have hne : name ≠ temporaryName name := (temporaryName_ne name).symm
  cases h with
  | start => exact Or.inl rfl
  | making hdirs k => exact Or.inl (alike_makeFirst (by simp) d k).find_eq
  | writing hdirs k hwrite =>
    exact Or.inl ((alike_making hdirs name).trans (alike_writing hne hwrite)).find_eq
  | moved htext hdirs hwrite hmove => exact Or.inr ⟨_, htext, find_moved hwrite hmove⟩

/-- How replacing a file ends: with a fault that leaves the file as it was, or with the new
contents in it. -/
lemma replace_cases (hname : name ≠ ['.', '.']) (dir : Path) (contents : Option Text) (d : Disk) :
    ∃ m, Replacing dir name contents d m ∧
      ((∃ f, d.replace (dir.child name) contents = (.error f, m) ∧ f.concernsRules = false ∧
          Alike (dir.place ++ [name]) d m) ∨
        ∃ text, contents = some text ∧ d.replace (dir.child name) contents = (.ok (), m) ∧
          m.find (dir.place ++ [name]) = .ok (.file (utf8 text))) := by
  have hne : name ≠ temporaryName name := (temporaryName_ne name).symm
  unfold replace
  rw [Path.parent_child, Path.temporary?_child, Path.place_child hname]
  simp only [Path.place_temporary]
  -- a step that fails leaves the file alike; only the last one puts the new contents there
  cases hdirs : d.makeDirs dir.place with
  | error e => exact ⟨d, .start, Or.inl ⟨_, rfl, rfl, .refl _ _⟩⟩
  | ok e =>
    have hmade := alike_making hdirs name
    simp only
    cases hwrite : e.write (dir.place ++ [temporaryName name]) (utf8 (contents.getD [])) with
    | error x =>
      refine ⟨e, ?_, Or.inl ⟨_, rfl, rfl, hmade⟩⟩
      rw [(makeDirs_ok hdirs).2.2]
      exact .making hdirs _
    | ok f =>
      have hwritten := hmade.trans (alike_writing hne hwrite)
      have hall : Replacing dir name contents d f :=
        .writing hdirs (utf8 (contents.getD [])).length (by rwa [List.take_length])
      cases contents with
      | none => exact ⟨f, hall, Or.inl ⟨_, rfl, rfl, hwritten⟩⟩
      | some text =>
        simp only
        cases hmove : f.move (dir.place ++ [temporaryName name]) (dir.place ++ [name]) with
        | error x => exact ⟨f, hall, Or.inl ⟨_, rfl, rfl, hwritten⟩⟩
        | ok g =>
          exact ⟨g, .moved rfl hdirs hwrite hmove,
            Or.inr ⟨text, rfl, rfl, find_moved hwrite hmove⟩⟩

lemma replace_replacing (hname : name ≠ ['.', '.']) (dir : Path) (contents : Option Text)
    (d : Disk) :
    Replacing dir name contents d (d.replace (dir.child name) contents).2 := by
  obtain ⟨m, hm, ⟨f, he, -⟩ | ⟨text, -, he, -⟩⟩ := replace_cases hname dir contents d
  · rwa [he]
  · rwa [he]

lemma textOf?_some {v : Json.Value} {text : Text} (h : textOf? v = some text) :
    text = Json.write .spaced v := by
  unfold textOf? at h
  split_ifs at h
  exact (Option.some.inj h).symm

/-! ### Directories in which files can be replaced -/

/-- A directory, there already or yet to be made, where files of these names can be replaced. -/
structure Writable (dir : Path) (names : List Text) (d : Disk) : Prop where
  clear : d.isBlocked dir.place = false
  noFile : d.hasFile dir.place = false
  free : ∀ name ∈ names, name ≠ ['.', '.'] ∧ d.at? (dir.place ++ [name]) ≠ some .dir ∧
    d.at? (dir.place ++ [temporaryName name]) ≠ some .dir

namespace Writable

variable {names : List Text}

lemma congr {e : Disk} (h : Writable dir names d) (hclear : e.isBlocked dir.place = false)
    (hfile : e.hasFile dir.place = false)
    (hdir : ∀ name, e.at? (dir.place ++ [name]) = some .dir →
      d.at? (dir.place ++ [name]) = some .dir) : Writable dir names e := by
  refine ⟨hclear, hfile, fun name hname => ?_⟩
  obtain ⟨hdots, h1, h2⟩ := h.free name hname
  exact ⟨hdots, fun he => h1 (hdir _ he), fun he => h2 (hdir _ he)⟩

lemma making (h : Writable dir names d) (k : Nat) :
    Writable dir names (d.makeFirst dir.place k) := by
  refine h.congr ?_ ?_ fun name he => ?_
  · rw [isBlocked_congr fun i _ => hasFile_makeFirst d dir.place _ k]
    exact h.clear
  · rw [hasFile_makeFirst]
    exact h.noFile
  · rwa [(alike_makeFirst (by simp) d k).at_eq] at he

lemma of_alike {e : Disk} (h : Writable dir names d) (halike : Alike dir.place d e)
    (hdir : ∀ name, e.at? (dir.place ++ [name]) = some .dir →
      d.at? (dir.place ++ [name]) = some .dir) : Writable dir names e :=
  h.congr (halike.blocked.trans h.clear) ((hasFile_congr halike.at_eq).trans h.noFile) hdir

lemma put (h : Writable dir names d) (name : Text) (bytes : List UInt8) :
    Writable dir names (d.put (dir.place ++ [name]) (.file bytes)) := by
  refine h.of_alike (.put (by simp) (by simp) d _) fun other he => ?_
  by_cases hn : other = name
  · rw [hn, at?_put_self (by simp)] at he
    cases he
  · rwa [at?_put_of_ne (by simpa using hn)] at he

lemma remove (h : Writable dir names d) (name : Text) :
    Writable dir names (d.remove (dir.place ++ [name])) := by
  refine h.of_alike (.remove (by simp) (by simp) d) fun other he => ?_
  by_cases hn : other = name
  · rw [hn, at?_remove_self (by simp)] at he
    cases he
  · rwa [at?_remove_of_ne (by simpa using hn)] at he

lemma made {e : Disk} (h : Writable dir names d) (hdirs : d.makeDirs dir.place = .ok e) :
    Writable dir names e := by
  rw [(makeDirs_ok hdirs).2.2]
  exact h.making _

/-- **The directory stays fit for it**, however far the replacement of a file gets. -/
theorem replacing (h : Writable dir names d) (hm : Replacing dir name contents d m) :
    Writable dir names m := by
  cases hm with
  | start => exact h
  | making hdirs k => exact h.making k
  | writing hdirs k hwrite =>
    rw [(write_ok hwrite).2]
    exact (h.made hdirs).put _ _
  | moved htext hdirs hwrite hmove =>
    obtain ⟨bytes, -, rfl⟩ := move_ok hmove
    rw [(write_ok hwrite).2]
    exact (((h.made hdirs).put _ _).remove _).put _ _

/-- **A file of the directory is replaced without fail**, if the new contents have bytes. -/
theorem replace_fst (h : Writable dir names d) (hname : name ∈ names) (contents : Option Text) :
    (d.replace (dir.child name) contents).1 =
      if contents.isSome then .ok () else .error .unwritable := by
  obtain ⟨hdots, hfile, htemp⟩ := h.free name hname
  have hhere := isSome_makeFirst d dir.place
  have hdirs := makeDirs_of_clear h.clear h.noFile
  have hmade := h.made hdirs
  generalize d.makeFirst dir.place dir.place.length = e at hhere hdirs hmade
  obtain ⟨-, hfile', htemp'⟩ := hmade.free name hname
  have hblocked : e.isBlocked (dir.place ++ [temporaryName name]) = false := by
    rw [isBlocked_append, hmade.clear, hmade.noFile]
    rfl
  have hwrite : e.write (dir.place ++ [temporaryName name]) (utf8 (contents.getD [])) =
      .ok (e.put (dir.place ++ [temporaryName name]) (.file (utf8 (contents.getD [])))) :=
    write_of_clear hblocked htemp' (by rwa [List.dropLast_concat])
  have hmove := move_of_file (q := dir.place ++ [name])
    (at?_put_self (d := e) (p := dir.place ++ [temporaryName name]) (by simp)
      (.file (utf8 (contents.getD []))))
    (by rwa [at?_put_of_ne (by simpa using (temporaryName_ne name).symm)])
  unfold replace
  rw [Path.parent_child, Path.temporary?_child, Path.place_child hdots, hdirs]
  simp only [Path.place_temporary, hwrite, hmove]
  cases contents <;> rfl

end Writable

end Disk

end LinkCleaner
