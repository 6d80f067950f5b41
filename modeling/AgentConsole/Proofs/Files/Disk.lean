import AgentConsole.Files.Disk
import Mathlib.Tactic.SplitIfs

/-!
# What disks keep

A disk that keeps what another holds (`Keeps`) is walked along in the same way as far as the other
is (`walk_of_keeps`). So what is put where nothing was is found by the path it was put at
(`find_put`). Making directories keeps all that is there and adds directories only
(`makeDirectories_grows`).
-/

namespace AgentConsole.Files.Disk

/-- Whatever the one disk holds the other holds too. -/
def Keeps (d d' : Disk) : Prop :=
  ∀ l e, d.at? l = some e → d'.at? l = some e

/-- The other disk holds some directories more. -/
structure Grows (d d' : Disk) : Prop where
  cwd : d'.cwd = d.cwd
  keeps : d.Keeps d'
  directories : ∀ l e, d'.at? l = some e → d.at? l = some e ∨ e = .directory

variable {d d' d'' : Disk} {l l' : Location} {e : Entry} {path : String}

theorem Keeps.refl (d : Disk) : d.Keeps d :=
  fun _ _ h => h

theorem Keeps.trans (h : d.Keeps d') (h' : d'.Keeps d'') : d.Keeps d'' :=
  fun l e hl => h' l e (h l e hl)

/-- Where nothing is, nothing was. -/
theorem Keeps.at?_eq_none (h : d.Keeps d') (hl : d'.at? l = none) : d.at? l = none := by
  cases he : d.at? l with
  | none => rfl
  | some e => cases hl.symm.trans (h l e he)

theorem Grows.refl (d : Disk) : d.Grows d :=
  ⟨rfl, .refl d, fun _ _ h => .inl h⟩

theorem Grows.trans (h : d.Grows d') (h' : d'.Grows d'') : d.Grows d'' := by
  refine ⟨h'.cwd.trans h.cwd, h.keeps.trans h'.keeps, fun l e hl => ?_⟩
  rcases h'.directories l e hl with hl | he
  · exact h.directories l e hl
  · exact .inr he

theorem ne_nil_of_at?_eq_none (h : d.at? l = none) : l ≠ [] := by
  rintro rfl
  cases h

/-- What is put where nothing was takes the place of nothing. -/
theorem keeps_put (h : d.at? l = none) (e : Entry) : d.Keeps (d.put l e) := by
  intro l' e' hl
  by_cases hn : l' = []
  · subst hn
    exact hl
  · rw [at?_put d l l' e hn, if_neg, hl]
    rintro rfl
    rw [h] at hl
    cases hl

theorem Keeps.isDirectoryAt (h : d.Keeps d') (hl : d.isDirectoryAt l) : d'.isDirectoryAt l := by
  rw [Disk.isDirectoryAt, beq_iff_eq] at hl ⊢
  exact h l _ hl

theorem enter_of_keeps (h : d.Keeps d') {segment : String} (he : d.enter l segment = .ok l') :
    d'.enter l segment = .ok l' := by
  unfold enter at he ⊢
  split_ifs at he with hd hdot hdots hsize hs
  all_goals
    have hd' : d'.isDirectoryAt l := h.isDirectoryAt (by simpa using hd)
  · simpa [hd', hdot] using he
  · simpa [hd', hdots] using he
  · obtain ⟨entry, hs⟩ := Option.isSome_iff_exists.1 hs
    simpa [hd', hdot, hdots, hsize, h _ _ hs] using he

/-- Erasing one location leaves the others as they are. -/
theorem at?_erase_of_ne (d : Disk) (h : l' ≠ l) : (d.erase l).at? l' = d.at? l' := by
  by_cases hn : l' = []
  · subst hn
    rfl
  · rw [at?_erase d l l' hn, if_neg h]

theorem erase_keeps (d : Disk) (l : Location) : (d.erase l).Keeps d := by
  intro l' e h
  by_cases hn : l' = []
  · subst hn
    exact h
  · rw [at?_erase d l l' hn] at h
    split_ifs at h
    exact h

/-- Erasing where nothing is changes nothing. -/
theorem erase_eq_self (h : d.at? l = none) : d.erase l = d := by
  have hne := ne_nil_of_at?_eq_none h
  rw [at?, if_neg (by simpa using hne), List.lookup_eq_none_iff] at h
  have hself : d.entries.filter (fun p => !(p.1 == l)) = d.entries := by
    refine List.filter_eq_self.2 fun p hp => ?_
    have hkey : l ≠ p.1 := by simpa using h p hp
    simpa using Ne.symm hkey
  rw [erase, hself]

/-- Erasing what was put where nothing was leaves the disk as it was. -/
theorem erase_put (h : d.at? l = none) (e : Entry) : (d.put l e).erase l = d := by
  rw [put, erase_eq_self h, erase, List.filter_cons_of_neg (by simp)]
  exact erase_eq_self h

/-- A walk leads to the same location where nothing on the way has changed. -/
theorem walk_of_keeps (h : d.Keeps d') {segments : List String}
    (hw : d.walk l segments = .ok l') : d'.walk l segments = .ok l' := by
  unfold walk at hw ⊢
  induction segments generalizing l with
  | nil => exact hw
  | cons segment segments ih =>
    rw [List.foldlM_cons] at hw ⊢
    cases he : d.enter l segment with
    | error f =>
      rw [he] at hw
      cases hw
    | ok l₁ =>
      rw [he] at hw
      rw [enter_of_keeps h he]
      exact ih hw

/-- A step leads to the same location on every disk on which it leads anywhere. -/
theorem enter_unique {segment : String} {l₁ l₂ : Location} (h : d.enter l segment = .ok l₁)
    (h' : d'.enter l segment = .ok l₂) : l₁ = l₂ := by
  unfold enter at h h'
  split_ifs at h h' <;> cases h <;> cases h' <;> rfl

theorem walk_unique {segments : List String} {l₁ l₂ : Location} (h : d.walk l segments = .ok l₁)
    (h' : d'.walk l segments = .ok l₂) : l₁ = l₂ := by
  unfold walk at h h'
  induction segments generalizing l with
  | nil =>
    cases h
    cases h'
    rfl
  | cons segment segments ih =>
    rw [List.foldlM_cons] at h h'
    cases he : d.enter l segment with
    | error f =>
      rw [he] at h
      cases h
    | ok k =>
      cases he' : d'.enter l segment with
      | error f =>
        rw [he'] at h'
        cases h'
      | ok k' =>
        obtain rfl := enter_unique he he'
        rw [he] at h
        rw [he'] at h'
        exact ih h h'

theorem walk_concat (d : Disk) (l : Location) (front : List String) (last : String) :
    d.walk l (front ++ [last]) = (d.walk l front).bind fun k => d.enter k last := by
  unfold walk
  rw [List.foldlM_append]
  cases List.foldlM d.enter l front with
  | error f => rfl
  | ok k =>
    change List.foldlM d.enter k [last] = d.enter k last
    rw [List.foldlM_cons]
    cases d.enter k last <;> rfl

/-- What it takes for a path to lead to a location. -/
theorem find_eq_ok_iff : d.find path = .ok l ↔ checkPath path = .ok () ∧
    d.walk (d.start path) (segments path) = .ok l ∧
    (path.toList.getLast? = some '/' → d.isDirectoryAt l) := by
  unfold find
  cases checkPath path with
  | error f => exact ⟨fun h => (by cases h), fun h => (by cases h.1)⟩
  | ok u =>
    cases d.walk (d.start path) (segments path) with
    | error f => exact ⟨fun h => (by cases h), fun h => (by cases h.2.1)⟩
    | ok k =>
      simp only [bind, Except.bind]
      split_ifs with hd
      · rw [Bool.and_eq_true, beq_iff_eq, Bool.not_eq_true'] at hd
        refine ⟨fun h => (by cases h), fun ⟨_, h, hs⟩ => ?_⟩
        cases h
        have hdir := hs hd.1
        rw [hd.2] at hdir
        cases hdir
      · rw [Bool.and_eq_true, beq_iff_eq, Bool.not_eq_true', not_and, Bool.not_eq_false] at hd
        refine ⟨fun h => ?_, fun h => h.2.1⟩
        cases h
        exact ⟨trivial, rfl, hd⟩

/-- A path that ends in a slash or in a dot leads to a directory, if it leads anywhere. -/
theorem isDirectoryAt_of_find (h : d.find path = .ok l)
    (he : path.toList.getLast? = some '/' ∨ (segments path).getLast? = some ".") :
    d.isDirectoryAt l := by
  obtain ⟨-, hw, hs⟩ := find_eq_ok_iff.1 h
  rcases he with he | he
  · exact hs he
  · obtain ⟨front, hfront⟩ := List.getLast?_eq_some_iff.1 he
    rw [hfront, walk_concat] at hw
    cases hk : d.walk (d.start path) front with
    | error f =>
      rw [hk] at hw
      cases hw
    | ok k =>
      rw [hk] at hw
      change d.enter k "." = .ok l at hw
      simp only [enter, if_true] at hw
      split_ifs at hw with hd
      cases hw
      simpa using hd

theorem hasProgram_eq_false
    (he : path.toList.getLast? = some '/' ∨ (segments path).getLast? = some ".") :
    d.hasProgram path = false := by
  unfold hasProgram entry?
  cases hf : d.find path with
  | error f => rfl
  | ok l =>
    have hdirectory : d.isDirectoryAt l := isDirectoryAt_of_find hf he
    have hd : d.at? l = some .directory := by simpa [isDirectoryAt] using hdirectory
    simp [hd]

/-- What it takes to place something. -/
theorem place_eq_ok (h : d.place path = .ok l) : ∃ dir last, checkPath path = .ok () ∧
    (segments path).getLast? = some last ∧
    d.walk (d.start path) (segments path).dropLast = .ok dir ∧ d.isDirectoryAt dir ∧
    last ≠ "." ∧ last ≠ ".." ∧ last.utf8ByteSize ≤ nameLimit ∧ l = dir ++ [last] := by
  unfold place at h
  cases hc : checkPath path with
  | error f =>
    rw [hc] at h
    cases h
  | ok u =>
    rw [hc] at h
    cases hl : (segments path).getLast? with
    | none =>
      rw [hl] at h
      cases h
    | some last =>
      rw [hl] at h
      cases hw : d.walk (d.start path) (segments path).dropLast with
      | error f =>
        rw [hw] at h
        cases h
      | ok dir =>
        rw [hw] at h
        simp only [bind, Except.bind] at h
        split_ifs at h with hd hdot hsize
        cases h
        simp at hdot
        exact ⟨dir, last, rfl, rfl, rfl, by simpa using hd, hdot.1, hdot.2, by omega, rfl⟩

theorem segments_eq_of_getLast? {last : String} (h : (segments path).getLast? = some last) :
    segments path = (segments path).dropLast ++ [last] := by
  obtain ⟨front, hf⟩ := List.getLast?_eq_some_iff.1 h
  rw [hf, List.dropLast_concat]

/-- What is put where nothing was is found by its path, unless that asks for a directory. -/
theorem find_put (h : d.place path = .ok l) (hn : d.at? l = none)
    (hs : path.toList.getLast? = some '/' → e = .directory) :
    (d.put l e).find path = .ok l := by
  obtain ⟨dir, last, hc, hl, hw, hd, hdot, hdots, hsize, rfl⟩ := place_eq_ok h
  have hk := keeps_put hn e
  have hthere : (d.put (dir ++ [last]) e).at? (dir ++ [last]) = some e := by
    rw [at?_put d _ _ e (by simp), if_pos rfl]
  refine find_eq_ok_iff.2 ⟨hc, ?_, fun hslash => ?_⟩
  · have hstart : (d.put (dir ++ [last]) e).start path = d.start path := rfl
    have hfront := walk_of_keeps hk hw
    rw [hstart, segments_eq_of_getLast? hl, walk_concat, hfront]
    simp [Except.bind, enter, hk.isDirectoryAt hd, hdot, hdots, Nat.not_lt.2 hsize, hthere]
  · rw [isDirectoryAt, hthere, hs hslash]
    rfl

/-- A path whose last name is in a directory leads to what is there under the name. -/
theorem find_of_walk {dir : Location} {front : List String} {last : String}
    (hc : checkPath path = .ok ()) (hs : path.toList.getLast? ≠ some '/')
    (hl : segments path = front ++ [last]) (hw : d.walk (d.start path) front = .ok dir)
    (hd : d.isDirectoryAt dir) (hdot : last ≠ ".") (hdots : last ≠ "..")
    (hsize : last.utf8ByteSize ≤ nameLimit) : d.find path =
      if (d.at? (dir ++ [last])).isSome then .ok (dir ++ [last]) else .error .notFound := by
  have he : d.enter dir last =
      if (d.at? (dir ++ [last])).isSome then .ok (dir ++ [last]) else .error .notFound := by
    simp [enter, hd, hdot, hdots, Nat.not_lt.2 hsize]
  have hslash : (path.toList.getLast? == some '/') = false := by simpa using hs
  unfold find
  rw [hc, hl, walk_concat, hw, hslash]
  simp only [bind, Except.bind, he]
  split_ifs <;> rfl

/-- Where something was placed, its path leads as long as there is something and what leads there
lasts. -/
theorem find_of_place (h : d.place path = .ok l) (hk : d.Keeps d')
    (hs : d'.start path = d.start path) (hslash : path.toList.getLast? ≠ some '/')
    (hthere : (d'.at? l).isSome) : d'.find path = .ok l := by
  obtain ⟨dir, last, hc, hl, hw, hd, hdot, hdots, hsize, rfl⟩ := place_eq_ok h
  rw [find_of_walk hc hslash (segments_eq_of_getLast? hl) (hs ▸ walk_of_keeps hk hw)
    (hk.isDirectoryAt hd) hdot hdots hsize, if_pos hthere]

/-- Where something was placed, its path leads to on every other disk, if it leads anywhere. -/
theorem find_unique (h : d.place path = .ok l) (hs : d'.start path = d.start path)
    (hf : d'.find path = .ok l') : l' = l := by
  obtain ⟨dir, last, -, hl, hw, -, hdot, hdots, hsize, rfl⟩ := place_eq_ok h
  obtain ⟨-, hwalk, -⟩ := find_eq_ok_iff.1 hf
  rw [hs, segments_eq_of_getLast? hl, walk_concat] at hwalk
  cases hw' : d'.walk (d.start path) (segments path).dropLast with
  | error f =>
    rw [hw'] at hwalk
    cases hwalk
  | ok dir' =>
    obtain rfl : dir' = dir := walk_unique hw' hw
    rw [hw'] at hwalk
    have he : d'.enter dir' last = .ok l' := hwalk
    unfold enter at he
    split_ifs at he
    cases he
    rfl

/-- The start of a path can be walked if the whole can, as far as its characters are concerned. -/
theorem checkPath_append {rest : String} (hn : path ≠ "")
    (h : checkPath (path ++ rest) = .ok ()) : checkPath path = .ok () := by
  unfold checkPath at h ⊢
  split_ifs at h with hz he hl
  rw [String.toList_append, List.contains_append, Bool.or_eq_true, not_or] at hz
  rw [String.utf8ByteSize_append] at hl
  rw [if_neg hz.1, if_neg (by simpa using hn), if_neg (by omega)]

theorem names_of_walk (hc : checkPath path = .ok ())
    (hw : d.walk (d.start path) (segments path) = .ok l) (hd : d.isDirectoryAt l) :
    d.names path = .ok (d.namesIn l) := by
  have hf : d.find path = .ok l := find_eq_ok_iff.2 ⟨hc, hw, fun _ => hd⟩
  unfold names
  rw [hf]
  simp [bind, Except.bind, hd]

theorem mem_namesIn {name : String} (h : d.at? (l ++ [name]) = some e) : name ∈ d.namesIn l := by
  rw [at?, if_neg (by simp), List.lookup_eq_some_iff] at h
  obtain ⟨before, after, he, -⟩ := h
  refine List.mem_filterMap.2 ⟨(l ++ [name], e), ?_, ?_⟩
  · rw [he]
    simp
  · simp

theorem makeDirectory_eq_ok (h : d.makeDirectory path = .ok d') :
    ∃ l, d.place path = .ok l ∧ d.at? l = none ∧ d' = d.put l .directory := by
  unfold makeDirectory at h
  cases hp : d.place path with
  | error f =>
    rw [hp] at h
    cases h
  | ok l =>
    rw [hp] at h
    simp only [bind, Except.bind] at h
    split_ifs at h with hn
    cases h
    exact ⟨l, rfl, by simpa using hn, rfl⟩

theorem makeDirectory_grows (h : d.makeDirectory path = .ok d') : d.Grows d' := by
  obtain ⟨l, -, hn, rfl⟩ := makeDirectory_eq_ok h
  refine ⟨rfl, keeps_put hn _, fun l' e hl => ?_⟩
  by_cases hl' : l' = []
  · subst hl'
    exact .inl hl
  · rw [at?_put d l l' _ hl'] at hl
    split at hl
    · cases hl
      exact .inr rfl
    · exact .inl hl

section Directories

variable {P : Disk → Prop}

theorem makeDirectoriesTo_induct (step : ∀ {d d' path}, P d → d.makeDirectory path = .ok d' → P d')
    (path : Nat → String) (count : Nat) (hd : P d) : P (makeDirectoriesTo path count d).1 := by
  induction count generalizing d with
  | zero => exact hd
  | succ count ih =>
    have hprev := ih hd
    unfold makeDirectoriesTo
    cases hm : d.makeDirectory (path (count + 1)) with
    | ok d₁ => simpa [hm] using step hd hm
    | error f =>
      cases f with
      | notFound =>
        rcases hr : makeDirectoriesTo path count d with ⟨d₁, _ | _⟩
        · simpa [hm, hr] using hprev
        · rw [hr] at hprev
          cases hm' : d₁.makeDirectory (path (count + 1)) with
          | ok d₂ => simpa [hm, hr, hm'] using step hprev hm'
          | error f => simpa [hm, hr, hm'] using hprev
      | _ => simpa [hm] using hd

/-- What making one directory keeps, making those on the way to one keeps too. -/
theorem makeDirectories_induct (step : ∀ {d d' path}, P d → d.makeDirectory path = .ok d' → P d')
    (path : String) (hd : P d) : P (d.makeDirectories path).1 := by
  unfold makeDirectories
  simp only
  split
  · exact hd
  · exact makeDirectoriesTo_induct step _ _ hd

/-- Making directories leaves alone what is there and adds directories only. -/
theorem makeDirectories_grows (d : Disk) (path : String) : d.Grows (d.makeDirectories path).1 :=
  makeDirectories_induct (fun hg hm => hg.trans (makeDirectory_grows hm)) path (.refl d)

end Directories

section File

/-- The file at a location, if it is one. -/
def file? (d : Disk) (l : Location) : Option (List UInt8 × Bool) :=
  match d.at? l with
  | some (.file octets executable) => some (octets, executable)
  | _ => none

theorem file?_congr (h : d'.at? l = d.at? l) : d'.file? l = d.file? l := by
  rw [file?, h, file?]

/-- No file comes or goes when directories are made. -/
theorem Grows.file? (h : d.Grows d') (l : Location) : d'.file? l = d.file? l := by
  cases he : d.at? l with
  | some e => exact file?_congr ((h.keeps l e he).trans he.symm)
  | none =>
    unfold Disk.file?
    rw [he]
    cases he' : d'.at? l with
    | none => rfl
    | some e =>
      rcases h.directories l e he' with hl | rfl
      · rw [he] at hl
        cases hl
      · rfl

theorem file?_put (d : Disk) (hl : l ≠ []) (octets : List UInt8) (executable : Bool)
    (l' : Location) : (d.put l (.file octets executable)).file? l' =
      if l' = l then some (octets, executable) else d.file? l' := by
  by_cases hn : l' = []
  · subst hn
    rw [if_neg hl.symm]
    rfl
  · unfold file?
    rw [at?_put d l l' _ hn]
    split_ifs <;> rfl

theorem file?_erase (d : Disk) (l l' : Location) :
    (d.erase l).file? l' = if l' = l then none else d.file? l' := by
  by_cases hn : l' = []
  · subst hn
    split_ifs <;> rfl
  · unfold file?
    rw [at?_erase d l l' hn]
    split_ifs <;> rfl

end File

end AgentConsole.Files.Disk
