import AgentConsole.Proofs.Files.Disk

/-!
# Traces on a disk

Once the way to a directory has been made, making it again changes nothing
(`makeDirectories_again`). And what lies under names of its own makes no difference to a path that
goes through none of these names (`hasFile_without`), as long as every directory is in a directory
(`Rooted`). Nor do files that come and go make a difference to a path that leads to none of them
(`SameBut.hasFile`), whatever their names.
-/

namespace AgentConsole.Files.Disk

/-- The working directory is there, and so is what a directory is in. -/
structure Rooted (d : Disk) : Prop where
  cwd : d.isDirectoryAt d.cwd
  above : ∀ l, d.isDirectoryAt l → d.isDirectoryAt l.dropLast

/-- Leaves nothing at any of these locations. -/
def without (d : Disk) (ls : List Location) : Disk :=
  { d with entries := d.entries.filter fun p => !ls.contains p.1 }

variable {d d' d'' : Disk} {l p : Location} {ls ls' : List Location} {path : String}

section Again

theorem Keeps.find (h : d.Keeps d') (hs : d'.start path = d.start path)
    (hf : d.find path = .ok l) : d'.find path = .ok l := by
  obtain ⟨hc, hw, hd⟩ := find_eq_ok_iff.1 hf
  exact find_eq_ok_iff.2 ⟨hc, hs ▸ walk_of_keeps h hw, fun hslash => h.isDirectoryAt (hd hslash)⟩

theorem hasDirectory_iff : d.hasDirectory path ↔ ∃ l, d.find path = .ok l ∧ d.isDirectoryAt l := by
  unfold hasDirectory entry?
  cases d.find path with
  | error f => simp
  | ok l => simp [isDirectoryAt]

theorem Keeps.hasDirectory (h : d.Keeps d') (hs : d'.start path = d.start path)
    (hd : d.hasDirectory path) : d'.hasDirectory path := by
  obtain ⟨l, hf, hl⟩ := hasDirectory_iff.1 hd
  exact hasDirectory_iff.2 ⟨l, h.find hs hf, h.isDirectoryAt hl⟩

theorem hasDirectory_of_makeDirectory (h : d.makeDirectory path = .ok d') :
    d'.hasDirectory path := by
  obtain ⟨l, hp, hn, rfl⟩ := makeDirectory_eq_ok h
  refine hasDirectory_iff.2 ⟨l, find_put hp hn fun _ => rfl, ?_⟩
  rw [isDirectoryAt, at?_put d l l _ (ne_nil_of_at?_eq_none hn), if_pos rfl]
  rfl

theorem makeDirectory_of_hasDirectory (h : d.hasDirectory path) :
    d.makeDirectory path = .error .alreadyExists := by
  obtain ⟨l, hf, -⟩ := hasDirectory_iff.1 h
  obtain ⟨hc, hw, -⟩ := find_eq_ok_iff.1 hf
  unfold makeDirectory place
  rw [hc]
  cases hl : (segments path).getLast? with
  | none => rfl
  | some last =>
    rw [segments_eq_of_getLast? hl, walk_concat] at hw
    cases hfront : d.walk (d.start path) (segments path).dropLast with
    | error f =>
      rw [hfront] at hw
      cases hw
    | ok dir =>
      rw [hfront] at hw
      have he : d.enter dir last = .ok l := hw
      unfold enter at he
      split_ifs at he with hdir hdot hdots hsize hthere
      · simp [bind, Except.bind, hdir, hdot]
      · simp [bind, Except.bind, hdir, hdots]
      · have hle : ¬nameLimit < last.utf8ByteSize := hsize
        simp [bind, Except.bind, hdir, hdot, hdots, hle, hthere]

theorem makeDirectoriesTo_of_hasDirectory {path : Nat → String} {count : Nat}
    (h : d.hasDirectory (path (count + 1))) :
    makeDirectoriesTo path (count + 1) d = (d, .ok ()) := by
  unfold makeDirectoriesTo
  simp [makeDirectory_of_hasDirectory h, h]

theorem hasDirectory_of_makeDirectoriesTo {path : Nat → String} {count : Nat}
    (h : makeDirectoriesTo path (count + 1) d = (d', .ok ())) :
    d'.hasDirectory (path (count + 1)) := by
  unfold makeDirectoriesTo at h
  cases hm : d.makeDirectory (path (count + 1)) with
  | ok d₁ =>
    simp only [hm, Prod.mk.injEq, and_true] at h
    exact h ▸ hasDirectory_of_makeDirectory hm
  | error f =>
    cases f with
    | notFound =>
      rcases hr : makeDirectoriesTo path count d with ⟨d₁, e | _⟩
      · simp [hm, hr] at h
      · cases hm' : d₁.makeDirectory (path (count + 1)) with
        | ok d₂ =>
          simp only [hm, hr, hm', Prod.mk.injEq, and_true] at h
          exact h ▸ hasDirectory_of_makeDirectory hm'
        | error f =>
          simp only [hm, hr, hm', Prod.mk.injEq] at h
          obtain ⟨rfl, h⟩ := h
          split_ifs at h with hd
          exact hd
    | _ =>
      simp only [hm, Prod.mk.injEq] at h
      obtain ⟨rfl, h⟩ := h
      split_ifs at h with hd
      exact hd

/-- A directory that was made is there when it is to be made again, whatever has come since. -/
theorem makeDirectories_again (h : d.makeDirectories path = (d', .ok ())) (hk : d'.Keeps d'')
    (hc : d''.cwd = d'.cwd) : d''.makeDirectories path = (d'', .ok ()) := by
  unfold makeDirectories at h ⊢
  simp only at h ⊢
  by_cases hempty : path.isEmpty || (segments path).isEmpty && isAbsolute path
  · rw [if_pos hempty]
  · rw [if_neg hempty] at h ⊢
    cases hn : (segments path).length with
    | zero => rfl
    | succ count =>
      rw [hn] at h
      have hd := hasDirectory_of_makeDirectoriesTo h
      refine makeDirectoriesTo_of_hasDirectory (hk.hasDirectory ?_ hd)
      rw [start, start, hc]

end Again

section Rooted

theorem Rooted.makeDirectory (hr : d.Rooted) (h : d.makeDirectory path = .ok d') : d'.Rooted := by
  obtain ⟨l, hp, hn, rfl⟩ := makeDirectory_eq_ok h
  obtain ⟨dir, last, -, -, -, hdir, -, -, -, rfl⟩ := place_eq_ok hp
  have hk := keeps_put hn .directory
  refine ⟨hk.isDirectoryAt hr.cwd, fun l hl => ?_⟩
  by_cases hne : l = []
  · subst hne
    rfl
  rw [isDirectoryAt, at?_put d _ _ _ hne] at hl
  split at hl
  · subst l
    rw [List.dropLast_concat]
    exact hk.isDirectoryAt hdir
  · exact hk.isDirectoryAt (hr.above l hl)

theorem Rooted.makeDirectories (hr : d.Rooted) (path : String) :
    (d.makeDirectories path).1.Rooted :=
  makeDirectories_induct (fun hr hm => hr.makeDirectory hm) path hr

end Rooted

section Without

@[simp]
theorem without_nil (d : Disk) : d.without [] = d := by
  have hself : d.entries.filter (fun p => !([] : List Location).contains p.1) = d.entries :=
    List.filter_eq_self.2 fun _ _ => rfl
  rw [without, hself]

theorem erase_without (d : Disk) (l : Location) (ls : List Location) :
    (d.erase l).without ls = d.without (l :: ls) := by
  unfold without erase
  simp only [List.filter_filter, List.contains_cons, Bool.not_or]
  congr 1
  exact List.filter_congr fun p _ => Bool.and_comm _ _

theorem without_congr (d : Disk) (h : ∀ l, l ∈ ls ↔ l ∈ ls') : d.without ls = d.without ls' := by
  have hc (l : Location) : ls.contains l = ls'.contains l := by
    rw [Bool.eq_iff_iff, List.contains_iff_mem, List.contains_iff_mem, h]
  unfold without
  simp only [hc]

theorem at?_without (d : Disk) (ls : List Location) (hl : l ≠ []) :
    (d.without ls).at? l = if l ∈ ls then none else d.at? l := by
  induction ls generalizing d with
  | nil => simp
  | cons k ls ih =>
    rw [← erase_without, ih, at?_erase d k l hl]
    by_cases hk : l = k
    · simp [hk]
    · simp [hk]

theorem at?_without_of_not_mem (hl : l ∉ ls) : (d.without ls).at? l = d.at? l := by
  by_cases hn : l = []
  · subst hn
    rfl
  · rw [at?_without d ls hn, if_neg hl]

theorem without_keeps (d : Disk) (ls : List Location) : (d.without ls).Keeps d := by
  intro l e h
  by_cases hn : l = []
  · subst hn
    exact h
  · rw [at?_without d ls hn] at h
    split_ifs at h
    exact h

/-- These locations end in such names. -/
def Named (N : String → Prop) (ls : List Location) : Prop :=
  ∀ l ∈ ls, ∃ dir name, l = dir ++ [name] ∧ N name

variable {N : String → Prop}

theorem Named.not_mem (hn : Named N ls) (h : (d.without ls).isDirectoryAt l) : l ∉ ls := by
  intro hl
  obtain ⟨dir, name, he, -⟩ := hn l hl
  have hne : l ≠ [] := by simp [he]
  rw [isDirectoryAt, at?_without d ls hne, if_pos hl] at h
  cases h

/-- A step under another name leads past these locations. -/
theorem enter_without (hr : (d.without ls).Rooted) (hn : Named N ls) {segment : String}
    (hs : ¬N segment) (hp : p ∉ ls) : d.enter p segment = (d.without ls).enter p segment ∧
      ∀ l, d.enter p segment = .ok l → l ∉ ls := by
  have hnext : p ++ [segment] ∉ ls := by
    intro h
    obtain ⟨dir, name, he, hname⟩ := hn _ h
    obtain rfl : segment = name := List.singleton_inj.1 (List.append_inj' he rfl).2
    exact hs hname
  have hdir : (d.without ls).isDirectoryAt p = d.isDirectoryAt p := by
    rw [isDirectoryAt, at?_without_of_not_mem hp, isDirectoryAt]
  constructor
  · unfold enter
    rw [hdir, at?_without_of_not_mem hnext]
  · intro l h
    unfold enter at h
    split_ifs at h with hd
    · cases h
      exact hp
    · cases h
      rw [Bool.not_eq_true', Bool.not_eq_false, ← hdir] at hd
      exact hn.not_mem (hr.above p hd)
    · cases h
      exact hnext

theorem walk_without (hr : (d.without ls).Rooted) (hn : Named N ls) {segments : List String}
    (hs : ∀ segment ∈ segments, ¬N segment) (hp : p ∉ ls) :
    d.walk p segments = (d.without ls).walk p segments ∧
      ∀ l, d.walk p segments = .ok l → l ∉ ls := by
  induction segments generalizing p with
  | nil =>
    refine ⟨rfl, fun l h => ?_⟩
    cases h
    exact hp
  | cons segment segments ih =>
    obtain ⟨heq, hout⟩ := enter_without hr hn (hs segment List.mem_cons_self) hp
    unfold walk at ih ⊢
    rw [List.foldlM_cons, List.foldlM_cons, ← heq]
    cases he : d.enter p segment with
    | error f => exact ⟨rfl, fun l h => (by cases h)⟩
    | ok k => exact ih (fun segment' h => hs segment' (List.mem_cons_of_mem _ h)) (hout k he)

/-- A path that goes through none of these names leads to the same with and without them. -/
theorem hasFile_without (hr : (d.without ls).Rooted) (hn : Named N ls)
    (hs : ∀ segment ∈ segments path, ¬N segment) : (d.without ls).hasFile path = d.hasFile path := by
  have hstart : d.start path ∉ ls := by
    unfold start
    split_ifs
    · exact hn.not_mem (d := d) rfl
    · exact hn.not_mem hr.cwd
  obtain ⟨heq, hout⟩ := walk_without hr hn hs hstart
  have hfind : (d.without ls).find path = d.find path := by
    have hstart : (d.without ls).start path = d.start path := rfl
    unfold find
    rw [hstart, ← heq]
    cases checkPath path with
    | error f => rfl
    | ok u =>
      cases hw : d.walk (d.start path) (segments path) with
      | error f => rfl
      | ok l =>
        have hdir : (d.without ls).isDirectoryAt l = d.isDirectoryAt l := by
          rw [isDirectoryAt, at?_without_of_not_mem (hout l hw), isDirectoryAt]
        simp only [bind, Except.bind, hdir]
  unfold hasFile entry?
  rw [hfind]
  cases hf : d.find path with
  | error f => rfl
  | ok l =>
    simp only [at?_without_of_not_mem (hout l (find_eq_ok_iff.1 hf).2.1)]

end Without

section SameBut

/-- The disks hold the same but for these locations, and neither has a directory at one of them. -/
structure SameBut (P : Location → Prop) (d d' : Disk) : Prop where
  cwd : d'.cwd = d.cwd
  elsewhere : ∀ l, ¬P l → d'.at? l = d.at? l
  files : ∀ l, P l → d.isDirectoryAt l = false ∧ d'.isDirectoryAt l = false

variable {P : Location → Prop}

theorem SameBut.symm (h : SameBut P d d') : SameBut P d' d :=
  ⟨h.cwd.symm, fun l hl => (h.elsewhere l hl).symm, fun l hl => (h.files l hl).symm⟩

/-- A file that is added. -/
theorem sameBut_put (hl : d.at? l = none) (octets : List UInt8) (executable : Bool) :
    SameBut (· = l) d (d.put l (.file octets executable)) where
  cwd := rfl
  elsewhere := fun l' hne => by
    by_cases hn : l' = []
    · subst hn
      rfl
    · rw [at?_put d l l' _ hn, if_neg hne]
  files := by
    rintro l' rfl
    unfold isDirectoryAt
    rw [at?_put d l' l' _ (ne_nil_of_at?_eq_none hl), if_pos rfl, hl]
    exact ⟨rfl, rfl⟩

/-- A file that is removed. -/
theorem sameBut_erase (hl : d.isDirectoryAt l = false) : SameBut (· = l) d (d.erase l) := by
  have hne : l ≠ [] := by
    rintro rfl
    cases hl
  refine ⟨rfl, fun l' hl' => ?_, ?_⟩
  · by_cases hn : l' = []
    · subst hn
      rfl
    · rw [at?_erase d l l' hn, if_neg hl']
  · rintro l' rfl
    refine ⟨hl, ?_⟩
    unfold isDirectoryAt
    rw [at?_erase d l' l' hne, if_pos rfl]
    rfl

theorem SameBut.isDirectoryAt (h : SameBut P d d') (l : Location) :
    d'.isDirectoryAt l = d.isDirectoryAt l := by
  by_cases hl : P l
  · rw [(h.files l hl).1, (h.files l hl).2]
  · rw [Disk.isDirectoryAt, h.elsewhere l hl, Disk.isDirectoryAt]

theorem SameBut.enter (h : SameBut P d d') {segment : String} (he : d.enter l segment = .ok p)
    (hp : ¬P p) : d'.enter l segment = .ok p := by
  unfold Disk.enter at he ⊢
  rw [h.isDirectoryAt]
  split_ifs at he with hd hdot hdots hsize hs
  · rw [if_neg hd, if_pos hdot, he]
  · rw [if_neg hd, if_neg hdot, if_pos hdots, he]
  · cases he
    rw [if_neg hd, if_neg hdot, if_neg hdots, if_neg hsize, h.elsewhere _ hp, if_pos hs]

/-- A walk that does not end at one of these locations has not come by any of them: no step leads on
from there. -/
theorem SameBut.walk (h : SameBut P d d') {segments : List String}
    (hw : d.walk l segments = .ok p) (hp : ¬P p) : d'.walk l segments = .ok p := by
  induction segments generalizing l with
  | nil => exact hw
  | cons segment segments ih =>
    unfold Disk.walk at hw ih ⊢
    rw [List.foldlM_cons] at hw ⊢
    cases he : d.enter l segment with
    | error f =>
      rw [he] at hw
      cases hw
    | ok k =>
      rw [he] at hw
      have hk : ¬P k := fun hk => by
        cases segments with
        | nil =>
          cases hw
          exact hp hk
        | cons next segments =>
          have hstuck : d.enter k next = .error .notDirectory := by
            unfold Disk.enter
            rw [(h.files k hk).1]
            rfl
          have hfail : List.foldlM d.enter k (next :: segments) = .ok p := hw
          rw [List.foldlM_cons, hstuck] at hfail
          cases hfail
      rw [h.enter he hk]
      exact ih hw

theorem SameBut.find (h : SameBut P d d') (hf : d.find path = .ok p) (hp : ¬P p) :
    d'.find path = .ok p := by
  obtain ⟨hc, hw, hd⟩ := find_eq_ok_iff.1 hf
  have hstart : d'.start path = d.start path := by rw [start, start, h.cwd]
  refine find_eq_ok_iff.2 ⟨hc, hstart ▸ h.walk hw hp, fun hslash => ?_⟩
  rw [h.isDirectoryAt]
  exact hd hslash

/-- A path that leads to none of these locations leads to a file on both disks or on neither. -/
theorem SameBut.hasFile (h : SameBut P d d')
    (hpath : ∀ l, P l → d.find path ≠ .ok l ∧ d'.find path ≠ .ok l) :
    d'.hasFile path = d.hasFile path := by
  unfold Disk.hasFile entry?
  cases hf : d.find path with
  | ok p =>
    have hp : ¬P p := fun hp => (hpath p hp).1 hf
    rw [h.find hf hp]
    simp only [h.elsewhere p hp]
  | error f =>
    cases hf' : d'.find path with
    | error f' => rfl
    | ok p =>
      have hp : ¬P p := fun hp => (hpath p hp).2 hf'
      cases hf.symm.trans (h.symm.find hf' hp)

end SameBut

end AgentConsole.Files.Disk
