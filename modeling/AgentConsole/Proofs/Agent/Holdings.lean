import AgentConsole.Agent.Holdings
import AgentConsole.Proofs.Agent.Prospect
import AgentConsole.Proofs.Files.Traces

/-!
# What is held is there

A request file has a name of its own in the directory it was asked to be made in, and its path leads
there as long as that directory lasts (`Filed`). Request files are made and given up, others remove
them, and time passes (`Holdings.Move`); those that are held and were not removed are deposits
(`Holdings.keep`). Whatever the disk holds was there from the start, is a directory or is the file
of a deposit (`Stored`), and this no move changes (`stored_move`).
-/

namespace AgentConsole.Agent

open AgentConsole.Files AgentConsole.Text

/-- The request file has the name with this number in the directory, and its path leads there. -/
structure Filed (d : Disk) (directory : String) (now number : Nat) (f : RequestFile) : Prop where
  path : f.path = requestPath d directory now number
  checked : Disk.checkPath f.path = .ok ()
  short : (requestFileName now number).utf8ByteSize ≤ Disk.nameLimit
  within : ∃ dir, d.find (join d.cwdPath directory) = .ok dir ∧ d.isDirectoryAt dir ∧
    f.location = dir ++ [requestFileName now number]

/-- A request file that was made in a directory, and the request that was written to it. -/
structure Deposit where
  number : Nat
  directory : String
  request : Request
  file : RequestFile

/-- What is held for a deposit. -/
def Deposit.held (x : Deposit) : Nat × RequestFile :=
  (x.number, x.file)

namespace Holdings

/-- What becomes of request files. -/
inductive Move where
  /-- One is made, unless the system refuses to take what is written to it. -/
  | make (directory : String) (r : Request) (refusal : Option IoError)
  | drop (number : Nat)
  | removeOutside (number : Nat)
  | elapse (now : Nat)

/-- Makes a move; removing what is not held changes nothing. -/
def move (h : Holdings) : Move → Holdings
  | .make directory r refusal => (h.make directory r refusal).1
  | .drop number => (h.drop number).1
  | .removeOutside number => ((h.removeOutside? number).map Prod.fst).getD h
  | .elapse now => { h with workspace := { h.workspace with now } }

/-- The deposits after a move. -/
def keep (h : Holdings) (live : List Deposit) : Move → List Deposit
  | .make directory r refusal =>
    match (h.make directory r refusal).2 with
    | .ok (number, file) => ⟨number, directory, r, file⟩ :: live
    | .error _ => live
  | .drop number | .removeOutside number => live.filter fun x => !(x.number == number)
  | .elapse _ => live

/-- Makes the moves one after the other. -/
def run (h : Holdings) (live : List Deposit) : List Move → Holdings × List Deposit
  | [] => (h, live)
  | m :: moves => (h.move m).run (h.keep live m) moves

/-- The file of a deposit is held and in its directory, and its path leads to what was written. -/
structure Intact (h : Holdings) (x : Deposit) : Prop where
  held : h.held.lookup x.number = some x.file
  within : ∃ dir name, h.workspace.disk.find (join h.workspace.disk.cwdPath x.directory) = .ok dir ∧
    x.file.path = join (join h.workspace.disk.cwdPath x.directory) name ∧
    x.file.location = dir ++ [name]
  find : h.workspace.disk.find x.file.path = .ok x.file.location
  text : h.workspace.disk.readText x.file.path = .ok x.request.fileText

end Holdings

section Filed

variable {w w' : Workspace} {d d' : Disk} {directory : String} {now number : Nat} {r : Request}
variable {f : RequestFile} {refusal : Option IoError}

theorem Filed.mono (hf : Filed d directory now number f) (hc : d'.cwd = d.cwd)
    (hfind : ∀ path dir, d.find path = .ok dir → d.isDirectoryAt dir →
      d'.find path = .ok dir ∧ d'.isDirectoryAt dir) : Filed d' directory now number f := by
  have hcwd : d'.cwdPath = d.cwdPath := by rw [Disk.cwdPath, hc, Disk.cwdPath]
  obtain ⟨dir, hdir, hd, hl⟩ := hf.within
  obtain ⟨hdir', hd'⟩ := hfind _ dir hdir hd
  exact ⟨by rw [hf.path, requestPath, requestPath, hcwd], hf.checked, hf.short, dir, hcwd ▸ hdir',
    hd', hl⟩

theorem Filed.keeps (hf : Filed d directory now number f) (hk : d.Keeps d') (hc : d'.cwd = d.cwd) :
    Filed d' directory now number f :=
  hf.mono hc fun path _ hdir hd =>
    ⟨hk.find (by rw [Disk.start, Disk.start, hc]) hdir, hk.isDirectoryAt hd⟩

theorem Filed.sameBut (hf : Filed d directory now number f) {P : Location → Prop}
    (hs : Disk.SameBut P d d') : Filed d' directory now number f :=
  hf.mono hs.cwd fun path dir hdir hd =>
    have hp : ¬P dir := fun hp => by
      rw [(hs.files dir hp).1] at hd
      cases hd
    ⟨hs.find hdir hp, (hs.isDirectoryAt dir).trans hd⟩

theorem filed_of_place (hf : f.path = requestPath d directory now number)
    (h : d.place f.path = .ok f.location) : Filed d directory now number f := by
  have ha := isAbsolute_cwd d directory
  have hb := ne_empty_of_isAbsolute ha
  have hs := slash_not_mem_requestFileName now number
  obtain ⟨-, last, hc, hlast, -, -, -, -, hsize, -⟩ := Disk.place_eq_ok h
  rw [hf, requestPath] at h hlast
  obtain ⟨dir, hd, hw, hl⟩ := walk_of_place_join ha h
  rw [segments_join hb (requestFileName_ne_empty now number) hs, List.getLast?_concat,
    Option.some.injEq] at hlast
  subst hlast
  obtain ⟨slash, hj⟩ := join_eq_append hb hs
  have hbase : Disk.checkPath (join d.cwdPath directory) = .ok () := by
    rw [hf, requestPath, hj, String.append_assoc] at hc
    exact Disk.checkPath_append hb hc
  exact ⟨hf, hc, hsize, dir, Disk.find_eq_ok_iff.2 ⟨hbase, hw, fun _ => hd⟩, hd, hl⟩

/-- The path of a request file leads to what is at its location. -/
theorem Filed.find (hf : Filed d directory now number f) : d.find f.path =
    if (d.at? f.location).isSome then .ok f.location else .error .notFound := by
  obtain ⟨dir, hdir, hd, hl⟩ := hf.within
  have ha := isAbsolute_cwd d directory
  have hb := ne_empty_of_isAbsolute ha
  have hslash : f.path.toList.getLast? ≠ some '/' := by
    rw [hf.path]
    exact getLast?_join_requestFileName hb now number
  have hseg : segments f.path =
      segments (join d.cwdPath directory) ++ [requestFileName now number] := by
    rw [hf.path]
    exact segments_join hb (requestFileName_ne_empty _ _) (slash_not_mem_requestFileName _ _)
  have hwalk : d.walk (d.start f.path) (segments (join d.cwdPath directory)) = .ok dir := by
    have hstart : d.start f.path = d.start (join d.cwdPath directory) := by
      rw [hf.path, requestPath, Disk.start, Disk.start, if_pos (isAbsolute_join ha _), if_pos ha]
    rw [hstart]
    exact (Disk.find_eq_ok_iff.1 hdir).2.1
  obtain ⟨hdot, hdots⟩ := requestFileName_ne_dots now number
  rw [hl]
  exact Disk.find_of_walk hf.checked hslash hseg hwalk hd hdot hdots hf.short

/-- Giving a request file up leaves nothing at its location, unless a directory was made there. -/
theorem Filed.giveUp_eq (hf : Filed d directory now number f) : f.giveUp d =
    if d.isDirectoryAt f.location then d else d.erase f.location := by
  unfold RequestFile.giveUp Disk.removeFile Disk.isDirectoryAt
  rw [hf.find]
  cases he : d.at? f.location with
  | none => exact (Disk.erase_eq_self he).symm
  | some e => cases e <;> simp [bind, Except.bind, he, Except.toOption]

/-- A request file is made where nothing was, and with a number not given before. -/
theorem create_ok (h : RequestFile.create w directory r refusal = (w', .ok f)) : ∃ d number,
    w.disk.Grows d ∧ w.minted ≤ number ∧ Filed d directory w.now number f ∧
    d.at? f.location = none ∧
    w' = { w with
      disk := d.put f.location (.file (Utf8.encode r.fileText) false)
      minted := number + 1 } := by
  rcases placing_cases w directory with ⟨d, e, hm⟩ | ⟨d, hm, ⟨e, hp⟩ | ⟨f₁, hf⟩⟩
  · cases (create_of_error hm).symm.trans h
  · cases (create_of_place_error hm rfl hp).symm.trans h
  · cases refusal with
    | some e => cases (create_of_refusal hf).symm.trans h
    | none =>
      cases (create_of_placed hf).symm.trans h
      exact ⟨d, _, hf.grows, hf.le, filed_of_place hf.path hf.place, hf.spec.2, rfl⟩

end Filed

namespace Holdings

variable {workspace w : Workspace} {d₀ : Disk} {h t : Holdings} {live : List Deposit}
variable {x : Deposit} {directory : String} {r : Request} {refusal : Option IoError}
variable {f : RequestFile} {number : Nat}

/-- What the disk holds was there from the start, is a directory or is the file of a deposit; and
what is held has names of its own, with numbers that are not given again. -/
structure Stored (d₀ : Disk) (h : Holdings) (live : List Deposit) : Prop where
  cwd : h.workspace.disk.cwd = d₀.cwd
  keeps : d₀.Keeps h.workspace.disk
  added : ∀ l e, h.workspace.disk.at? l = some e →
    d₀.at? l = some e ∨ e = .directory ∨ ∃ x ∈ live, x.file.location = l
  numbered : ∀ p ∈ h.held, p.1 < h.made
  single : (h.held.map Prod.fst).Nodup
  filed : ∀ p ∈ h.held, ∃ directory now number, number < h.workspace.minted ∧
    Filed h.workspace.disk directory now number p.2
  apart : (h.held.map fun p => p.2.location).Nodup
  fresh : ∀ p ∈ h.held, d₀.at? p.2.location = none
  held : (live.map Deposit.held).Sublist h.held
  there : ∀ x ∈ live, h.workspace.disk.at? x.file.location =
    some (.file (Utf8.encode x.request.fileText) false)
  within : ∀ x ∈ live, ∃ now number,
    Filed h.workspace.disk x.directory now number x.file

section Stored

theorem filter_eq_self (hn : ∀ x ∈ live, x.number ≠ number) :
    live.filter (fun x => !(x.number == number)) = live :=
  List.filter_eq_self.2 fun x hx => by simpa using hn x hx

theorem stored_new (workspace : Workspace) : Stored workspace.disk (new workspace) [] where
  cwd := rfl
  keeps := .refl _
  added := fun _ _ h => .inl h
  numbered := fun _ hp => by cases hp
  single := List.nodup_nil
  filed := fun _ hp => by cases hp
  apart := List.nodup_nil
  fresh := fun _ hp => by cases hp
  held := List.nil_sublist _
  there := fun _ hx => by cases hx
  within := fun _ hx => by cases hx

theorem Stored.mem_held (hs : Stored d₀ h live) (hx : x ∈ live) : (x.number, x.file) ∈ h.held :=
  hs.held.subset (List.mem_map.2 ⟨x, hx, rfl⟩)

/-- What is held under a number is what is found under it. -/
theorem Stored.lookup_iff (hs : Stored d₀ h live) :
    h.held.lookup number = some f ↔ (number, f) ∈ h.held := by
  constructor
  · intro hl
    obtain ⟨before, after, he, -⟩ := List.lookup_eq_some_iff.1 hl
    simp [he]
  · intro hp
    cases hl : h.held.lookup number with
    | none => simpa using List.lookup_eq_none_iff.1 hl _ hp
    | some g =>
      obtain ⟨before, after, he, -⟩ := List.lookup_eq_some_iff.1 hl
      have hg : (number, g) ∈ h.held := by simp [he]
      cases List.inj_on_of_nodup_map hs.single hp hg rfl
      rfl

/-- No deposit has a number nothing is held under. -/
theorem Stored.number_ne (hs : Stored d₀ h live) (hx : x ∈ live)
    (hl : h.held.lookup number = none) : x.number ≠ number := by
  rintro rfl
  simpa using List.lookup_eq_none_iff.1 hl _ (hs.mem_held hx)

/-- A deposit has the file held under its number. -/
theorem Stored.file_eq (hs : Stored d₀ h live) (hx : x ∈ live) (hp : (x.number, f) ∈ h.held) :
    x.file = f :=
  (Prod.ext_iff.1 (List.inj_on_of_nodup_map hs.single (hs.mem_held hx) hp rfl)).2

/-- A deposit has the number of what is held at its location. -/
theorem Stored.number_eq (hs : Stored d₀ h live) (hx : x ∈ live) (hp : (number, f) ∈ h.held)
    (hl : x.file.location = f.location) : x.number = number :=
  (Prod.ext_iff.1 (List.inj_on_of_nodup_map hs.apart (hs.mem_held hx) hp hl)).1

/-- There is a directory at most where something is held that was removed. -/
theorem Stored.eq_directory_of_removed (hs : Stored d₀ h live) (hp : (number, f) ∈ h.held)
    (hn : ∀ x ∈ live, x.number ≠ number) {e : Entry}
    (he : h.workspace.disk.at? f.location = some e) : e = .directory := by
  rcases hs.added _ e he with hl | hd | ⟨x, hx, hl⟩
  · rw [hs.fresh _ hp] at hl
    cases hl
  · exact hd
  · exact absurd (hs.number_eq hx hp hl) (hn x hx)

/-- A number not given before makes a name that nothing held has: the name tells the number. -/
theorem Stored.location_ne {d : Disk} {now : Nat} {p : Nat × RequestFile} (hs : Stored d₀ h live)
    (hn : h.workspace.minted ≤ number) (hf : Filed d directory now number f) (hp : p ∈ h.held) :
    p.2.location ≠ f.location := by
  intro he
  obtain ⟨_, now', number', hn', hf'⟩ := hs.filed p hp
  obtain ⟨dir, -, -, hl⟩ := hf.within
  obtain ⟨dir', -, -, hl'⟩ := hf'.within
  rw [hl, hl'] at he
  have hname := List.singleton_inj.1 (List.append_inj' he rfl).2
  have := requestFileName_inj hname
  omega

theorem Stored.not_isDirectoryAt (hs : Stored d₀ h live) (hx : x ∈ live) :
    h.workspace.disk.isDirectoryAt x.file.location = false := by
  rw [Disk.isDirectoryAt, hs.there x hx]
  rfl

/-- The disk may change in any way that leaves the files of the remaining deposits alone and what
the paths of request files lead through. -/
theorem Stored.change {live' : List Deposit} (hs : Stored d₀ h live) (hsub : live'.Sublist live)
    (hm : h.workspace.minted ≤ w.minted) (hc : w.disk.cwd = h.workspace.disk.cwd)
    (hfiled : ∀ {directory now number f}, Filed h.workspace.disk directory now number f →
      Filed w.disk directory now number f)
    (hkeeps : d₀.Keeps w.disk)
    (hadded : ∀ l e, w.disk.at? l = some e →
      d₀.at? l = some e ∨ e = .directory ∨ ∃ x ∈ live', x.file.location = l)
    (hthere : ∀ x ∈ live', w.disk.at? x.file.location =
      h.workspace.disk.at? x.file.location) : Stored d₀ { h with workspace := w } live' where
  cwd := hc.trans hs.cwd
  keeps := hkeeps
  added := hadded
  numbered := hs.numbered
  single := hs.single
  filed := fun p hp => by
    obtain ⟨directory, now, number, hn, hf⟩ := hs.filed p hp
    exact ⟨directory, now, number, Nat.lt_of_lt_of_le hn hm, hfiled hf⟩
  apart := hs.apart
  fresh := hs.fresh
  held := (hsub.map _).trans hs.held
  there := fun x hx => (hthere x hx).trans (hs.there x (hsub.subset hx))
  within := fun x hx => by
    obtain ⟨now, number, hf⟩ := hs.within x (hsub.subset hx)
    exact ⟨now, number, hfiled hf⟩

/-- Directories may be made, and time may pass. -/
theorem Stored.grows (hs : Stored d₀ h live) (hg : h.workspace.disk.Grows w.disk)
    (hm : h.workspace.minted ≤ w.minted) : Stored d₀ { h with workspace := w } live := by
  refine hs.change (List.Sublist.refl _) hm hg.cwd (fun hf => hf.keeps hg.keeps hg.cwd)
    (hs.keeps.trans hg.keeps) (fun l e he => ?_)
    fun x hx => (hg.keeps _ _ (hs.there x hx)).trans (hs.there x hx).symm
  rcases hg.directories l e he with he | he
  · exact hs.added l e he
  · exact .inr (.inl he)

/-- What is made where nothing is, is a deposit. -/
theorem Stored.make (hs : Stored d₀ h live)
    (hc : RequestFile.create h.workspace directory r refusal = (w, .ok f)) :
    Stored d₀ ⟨w, h.made + 1, (h.made, f) :: h.held⟩ (⟨h.made, directory, r, f⟩ :: live) := by
  obtain ⟨d, number, hg, hn, hf, hfree, rfl⟩ := create_ok hc
  replace hs := hs.grows (w := { h.workspace with disk := d }) hg (Nat.le_refl _)
  have hk := Disk.keeps_put hfree (.file (Utf8.encode r.fileText) false)
  have hput := Disk.sameBut_put hfree (Utf8.encode r.fileText) false
  constructor
  case cwd => exact hs.cwd
  case keeps => exact hs.keeps.trans hk
  case added =>
    intro l e he
    by_cases hl : l = f.location
    · exact .inr (.inr ⟨_, List.mem_cons_self, hl.symm⟩)
    · rcases hs.added l e ((hput.elsewhere l hl).symm.trans he) with he | he | ⟨x, hx, hl⟩
      · exact .inl he
      · exact .inr (.inl he)
      · exact .inr (.inr ⟨x, List.mem_cons_of_mem _ hx, hl⟩)
  case numbered =>
    exact List.forall_mem_cons.2
      ⟨Nat.lt_succ_self _, fun p hp => Nat.lt_succ_of_lt (hs.numbered p hp)⟩
  case single =>
    refine List.nodup_cons.2 ⟨fun hm => ?_, hs.single⟩
    obtain ⟨p, hp, he⟩ := List.mem_map.1 hm
    exact absurd (hs.numbered p hp) (by simp [he])
  case filed =>
    refine List.forall_mem_cons.2 ⟨?_, fun p hp => ?_⟩
    · exact ⟨_, _, number, Nat.lt_succ_self _, hf.keeps hk rfl⟩
    · obtain ⟨directory', now, number', hn', hf'⟩ := hs.filed p hp
      exact ⟨directory', now, number', by simp only at hn' ⊢; omega, hf'.keeps hk rfl⟩
  case apart =>
    refine List.nodup_cons.2 ⟨fun hm => ?_, hs.apart⟩
    obtain ⟨p, hp, he⟩ := List.mem_map.1 hm
    exact hs.location_ne hn hf hp he
  case fresh => exact List.forall_mem_cons.2 ⟨hs.keeps.at?_eq_none hfree, hs.fresh⟩
  case held => exact hs.held.cons_cons _
  case there =>
    refine List.forall_mem_cons.2 ⟨?_, fun x hx => hk _ _ (hs.there x hx)⟩
    rw [Disk.at?_put d _ _ _ (Disk.ne_nil_of_at?_eq_none hfree), if_pos rfl]
  case within =>
    refine List.forall_mem_cons.2 ⟨⟨_, number, hf.keeps hk rfl⟩, fun x hx => ?_⟩
    obtain ⟨now, number', hf'⟩ := hs.within x hx
    exact ⟨now, number', hf'.keeps hk rfl⟩

/-- When what is held is removed, it is no deposit any more. -/
theorem Stored.giveUp (hs : Stored d₀ h live) (hp : (number, f) ∈ h.held) :
    Stored d₀ { h with workspace := { h.workspace with disk := f.giveUp h.workspace.disk } }
      (live.filter fun x => !(x.number == number)) := by
  obtain ⟨_, _, _, -, hf⟩ := hs.filed _ hp
  rw [hf.giveUp_eq]
  split_ifs with hd
  · -- a directory has been made in its place, so it was removed before
    have hn : ∀ x ∈ live, x.number ≠ number := by
      rintro x hx rfl
      rw [← hs.file_eq hx hp, hs.not_isDirectoryAt hx] at hd
      cases hd
    rw [filter_eq_self hn]
    exact hs
  · have herase := Disk.sameBut_erase (Bool.eq_false_iff.2 hd)
    refine hs.change List.filter_sublist (Nat.le_refl _) rfl (fun hf => hf.sameBut herase) ?_ ?_ ?_
    · intro l e he
      refine (herase.elsewhere l ?_).trans (hs.keeps l e he)
      rintro rfl
      cases (hs.fresh _ hp).symm.trans he
    · intro l e he
      have hl : l ≠ f.location := by
        rintro rfl
        rw [Disk.at?_erase _ _ _ (Disk.ne_nil_of_at?_eq_none (hs.fresh _ hp)), if_pos rfl] at he
        cases he
      rcases hs.added l e ((herase.elsewhere l hl).symm.trans he) with he | he | ⟨x, hx, rfl⟩
      · exact .inl he
      · exact .inr (.inl he)
      · refine .inr (.inr ⟨x, List.mem_filter.2 ⟨hx, ?_⟩, rfl⟩)
        rw [Bool.not_eq_true', beq_eq_false_iff_ne]
        rintro rfl
        exact hl (congrArg _ (hs.file_eq hx hp))
    · intro x hx
      obtain ⟨hx, hn⟩ := List.mem_filter.1 hx
      refine herase.elsewhere _ fun hl => ?_
      simp [hs.number_eq hx hp hl] at hn

/-- What is no deposit any more need not be held. -/
theorem Stored.forget (hs : Stored d₀ h live) (hn : ∀ x ∈ live, x.number ≠ number) :
    Stored d₀ { h with held := h.held.filter fun p => !(p.1 == number) } live where
  cwd := hs.cwd
  keeps := hs.keeps
  added := hs.added
  numbered := fun p hp => hs.numbered p (List.mem_of_mem_filter hp)
  single := hs.single.sublist (List.filter_sublist.map _)
  filed := fun p hp => hs.filed p (List.mem_of_mem_filter hp)
  apart := hs.apart.sublist (List.filter_sublist.map _)
  fresh := fun p hp => hs.fresh p (List.mem_of_mem_filter hp)
  held := by
    have hself : (live.map Deposit.held).filter (fun p => !(p.1 == number)) =
        live.map Deposit.held := by
      refine List.filter_eq_self.2 fun p hp => ?_
      obtain ⟨x, hx, rfl⟩ := List.mem_map.1 hp
      simpa [Deposit.held] using hn x hx
    rw [← hself]
    exact hs.held.filter _
  there := hs.there
  within := hs.within

end Stored

section Moving

/-- Making a request file adds directories at most, unless it succeeds. -/
theorem make_cases (h : Holdings) (directory : String) (r : Request) (refusal : Option IoError) :
    (∃ w e, h.workspace.disk.Grows w.disk ∧ h.workspace.minted ≤ w.minted ∧
      h.make directory r refusal = ({ h with workspace := w }, .error e)) ∨
    ∃ w f, RequestFile.create h.workspace directory r refusal = (w, .ok f) ∧
      h.make directory r refusal = (⟨w, h.made + 1, (h.made, f) :: h.held⟩, .ok (h.made, f)) := by
  unfold make
  rcases create_cases h.workspace directory r refusal with ⟨d, minted, e, hg, hm, hc⟩ | ⟨f, w, hc, -⟩
  · rw [hc]
    exact .inl ⟨_, e, hg, hm, rfl⟩
  · rw [hc]
    exact .inr ⟨w, f, rfl, rfl⟩

/-- Others remove what is held in the way it is given up. -/
theorem removeOutside?_eq (h : Holdings) (number : Nat) : (h.removeOutside? number).map Prod.fst =
    (h.held.lookup number).map fun f =>
      { h with workspace := { h.workspace with disk := f.giveUp h.workspace.disk } } := by
  rw [removeOutside?, Option.map_map]
  congr 1
  funext f
  rw [Function.comp_apply, RequestFile.giveUp]
  cases h.workspace.disk.removeFile f.path <;> rfl

theorem drop_of_lookup (hl : h.held.lookup number = some f) : (h.drop number).1 =
    { h with
        workspace := { h.workspace with disk := f.giveUp h.workspace.disk }
        held := h.held.filter fun p => !(p.1 == number) } := by
  rw [drop, hl]

theorem drop_of_lookup_none (hl : h.held.lookup number = none) : (h.drop number).1 = h := by
  rw [drop, hl]

theorem stored_move (hs : Stored d₀ h live) (m : Move) :
    Stored d₀ (h.move m) (h.keep live m) := by
  cases m with
  | make directory r refusal =>
    simp only [move, keep]
    rcases make_cases h directory r refusal with ⟨w, e, hg, hm, he⟩ | ⟨w, f, hc, he⟩ <;> rw [he]
    · exact hs.grows hg hm
    · exact hs.make hc
  | drop number =>
    simp only [move, keep]
    cases hl : h.held.lookup number with
    | none =>
      rw [drop_of_lookup_none hl, filter_eq_self fun x hx => hs.number_ne hx hl]
      exact hs
    | some f =>
      rw [drop_of_lookup hl]
      refine (hs.giveUp (hs.lookup_iff.1 hl)).forget fun x hx => ?_
      simpa using (List.mem_filter.1 hx).2
  | removeOutside number =>
    simp only [move, keep, removeOutside?_eq]
    cases hl : h.held.lookup number with
    | none =>
      rw [filter_eq_self fun x hx => hs.number_ne hx hl]
      exact hs
    | some f => exact hs.giveUp (hs.lookup_iff.1 hl)
  | elapse now => exact hs.grows (.refl _) (Nat.le_refl _)

theorem stored_run (hs : Stored d₀ h live) (moves : List Move) :
    Stored d₀ (h.run live moves).1 (h.run live moves).2 := by
  induction moves generalizing h live with
  | nil => exact hs
  | cons m moves ih => exact ih (stored_move hs m)

end Moving

section Holding

theorem Stored.intact (hs : Stored d₀ h live) (hx : x ∈ live) : h.Intact x := by
  obtain ⟨now, number, hf⟩ := hs.within x hx
  obtain ⟨dir, hdir, -, hl⟩ := hf.within
  have hthere := hs.there x hx
  have hfind : h.workspace.disk.find x.file.path = .ok x.file.location := by
    rw [hf.find, hthere]
    rfl
  refine ⟨hs.lookup_iff.2 (hs.mem_held hx), ⟨dir, _, hdir, hf.path, hl⟩, hfind, ?_⟩
  unfold Disk.readText Disk.read
  rw [hfind]
  simp only [bind, Except.bind, hthere, Utf8.decode?_encode]

/-- The files are those of the deposits and those that were there from the start. -/
theorem Stored.file?_eq (hs : Stored d₀ h live) (l : Location) : h.workspace.disk.file? l =
    match live.find? fun x => x.file.location == l with
    | some x => some (Utf8.encode x.request.fileText, false)
    | none => d₀.file? l := by
  cases hfind : live.find? fun x => x.file.location == l with
  | some x =>
    obtain rfl : x.file.location = l := by simpa using List.find?_some hfind
    simp only [Disk.file?, hs.there x (List.mem_of_find?_eq_some hfind)]
  | none =>
    have hnot : ∀ x ∈ live, x.file.location ≠ l := by simpa using List.find?_eq_none.1 hfind
    simp only
    cases he₀ : d₀.at? l with
    | some e => exact Disk.file?_congr ((hs.keeps l e he₀).trans he₀.symm)
    | none =>
      cases he : h.workspace.disk.at? l with
      | none => exact Disk.file?_congr (he.trans he₀.symm)
      | some e =>
        rcases hs.added l e he with he' | rfl | ⟨x, hx, hl⟩
        · cases he₀.symm.trans he'
        · simp only [Disk.file?, he, he₀]
        · exact absurd hl (hnot x hx)

/-- Giving a request file up empties the location of its deposit only, if it still is one. -/
theorem Stored.at?_drop (hs : Stored d₀ h live) (number : Nat) (l : Location) :
    (h.drop number).1.workspace.disk.at? l =
      if ∃ x ∈ live, x.number = number ∧ x.file.location = l then none
      else h.workspace.disk.at? l := by
  cases hlookup : h.held.lookup number with
  | none =>
    rw [drop_of_lookup_none hlookup, if_neg]
    rintro ⟨x, hx, hn, -⟩
    exact hs.number_ne hx hlookup hn
  | some f =>
    have hp := hs.lookup_iff.1 hlookup
    obtain ⟨_, _, _, -, hf⟩ := hs.filed _ hp
    -- nothing was at the location at the start, so it is not the root
    have hne := Disk.ne_nil_of_at?_eq_none (hs.fresh _ hp)
    rw [drop_of_lookup hlookup]
    simp only [hf.giveUp_eq]
    by_cases hl : ∃ x ∈ live, x.number = number ∧ x.file.location = l
    · rw [if_pos hl]
      obtain ⟨x, hx, rfl, rfl⟩ := hl
      obtain rfl := hs.file_eq hx hp
      rw [hs.not_isDirectoryAt hx]
      exact (Disk.at?_erase _ _ _ hne).trans (if_pos rfl)
    · rw [if_neg hl]
      split_ifs with hd
      · rfl
      by_cases heq : l = f.location
      · subst heq
        rw [Disk.at?_erase _ _ _ hne, if_pos rfl]
        cases he : h.workspace.disk.at? f.location with
        | none => rfl
        | some e =>
          have hgone : ∀ x ∈ live, x.number ≠ number := by
            rintro x hx rfl
            exact hl ⟨x, hx, rfl, congrArg _ (hs.file_eq hx hp)⟩
          rw [hs.eq_directory_of_removed hp hgone he] at he
          simp [Disk.isDirectoryAt, he] at hd
      · exact (Disk.sameBut_erase (Bool.eq_false_iff.2 hd)).elsewhere l heq

/-- Whatever request files were made and given up, removed by others and refused by the system,
those that are held and were not removed are intact, each at a location of its own where nothing was
at the start; and there are no other files but those that were there at the start. Giving one up
empties the location it still has, and no other. Where none can be made, none is left and those
there are stay as they are. -/
theorem files_as_held {moves : List Move} (hr : (new workspace).run [] moves = (h, live)) :
    (∀ x ∈ live, h.Intact x ∧ workspace.disk.at? x.file.location = none) ∧
    (live.map fun x => x.file.location).Nodup ∧
    workspace.disk.Keeps h.workspace.disk ∧
    (∀ l, h.workspace.disk.file? l =
      match live.find? fun x => x.file.location == l with
      | some x => some (Utf8.encode x.request.fileText, false)
      | none => workspace.disk.file? l) ∧
    (∀ number,
      (∀ l, (h.drop number).1.workspace.disk.at? l =
        if ∃ x ∈ live, x.number = number ∧ x.file.location = l then none
        else h.workspace.disk.at? l) ∧
      ∀ x ∈ live, x.number ≠ number → (h.drop number).1.Intact x) ∧
    ∀ directory r refusal t e, h.make directory r refusal = (t, .error e) →
      t.held = h.held ∧ h.workspace.disk.Grows t.workspace.disk ∧ ∀ x ∈ live, t.Intact x := by
  have hs : Stored workspace.disk h live := by
    have := stored_run (stored_new workspace) moves
    rwa [hr] at this
  refine ⟨fun x hx => ⟨hs.intact hx, hs.fresh _ (hs.mem_held hx)⟩, ?_, hs.keeps, hs.file?_eq,
    fun number => ⟨hs.at?_drop number, fun x hx hn => ?_⟩, fun directory r refusal t e he => ?_⟩
  · have hsub := hs.held.map fun p => p.2.location
    rw [List.map_map] at hsub
    exact hs.apart.sublist hsub
  · refine (stored_move hs (.drop number)).intact ?_
    exact List.mem_filter.2 ⟨hx, by simpa using hn⟩
  · rcases make_cases h directory r refusal with ⟨w, e', hg, hm, he'⟩ | ⟨w, f, -, he'⟩
    · cases he.symm.trans he'
      exact ⟨rfl, hg, fun x hx => (hs.grows hg hm).intact hx⟩
    · cases he.symm.trans he'

/-- A directory with notes in it. -/
def notesWorkspace : Workspace :=
  .new ⟨[(["work"], .directory), (["work", "notes"], .file [104, 105] false)], ["work"]⟩

/-- A request file in a directory that is named as another one that was removed, and two that cannot
be made. -/
def nestedMoves : List Move :=
  let r : Request := ⟨"explain", .explain, "x = 1", "a.py"⟩
  [.make "in" r none, .make "notes" r none, .elapse 5, .removeOutside 0,
    .make "in/request_0_000000.json" r none,
    .make "in" r (some (.reported "No space left on device"))]

theorem files_as_held_sample : ∃ h live, (new notesWorkspace).run [] nestedMoves = (h, live) ∧
    h.held.map Prod.fst = [1, 0] ∧ live.map Deposit.number = [1] ∧ (∀ x ∈ live, h.Intact x) ∧
    ∀ l, (h.drop 0).1.workspace.disk.at? l = h.workspace.disk.at? l := by
  have hnumbers : (fun p : Holdings × List Deposit => (p.1.held.map Prod.fst,
      p.2.map Deposit.number)) ((new notesWorkspace).run [] nestedMoves) = ([1, 0], [1]) := by
    decide +kernel
  rcases hr : (new notesWorkspace).run [] nestedMoves with ⟨h, live⟩
  rw [hr, Prod.mk.injEq] at hnumbers
  obtain ⟨hheld, hlive⟩ := hnumbers
  obtain ⟨hintact, -, -, -, hdrop, -⟩ := files_as_held hr
  refine ⟨h, live, rfl, hheld, hlive, fun x hx => (hintact x hx).1, fun l => ?_⟩
  rw [(hdrop 0).1 l, if_neg]
  rintro ⟨x, hx, hn, -⟩
  have hmem : x.number ∈ live.map Deposit.number := List.mem_map.2 ⟨x, hx, rfl⟩
  rw [hlive, hn] at hmem
  simp at hmem

end Holding

end Holdings

end AgentConsole.Agent
