import AgentConsole.Agent.RequestFile
import AgentConsole.Proofs.Files.Disk
import AgentConsole.Proofs.Files.Path
import AgentConsole.Proofs.Text.Numeral
import AgentConsole.Proofs.Text.Utf8
import Mathlib.Data.List.Nodup
import Mathlib.Data.List.Perm.Subperm

/-!
# What making a request file does

The name of a request file tells its number (`requestFileName_inj`), so a number whose name is free
is found among one more than there are names (`freeNumber_free`). A request file is therefore made
where nothing was, and apart from it only directories are (`create_cases`). Until something else
happens to it, its path leads to what was written (`Made.readText`).

A request file is given up by its path. That never leads to anything but its location (`Steady`),
but it may lead nowhere, and then the file stays (`giveUp_of_find`, `Steady.giveUp_of_find_ne`).
-/

namespace AgentConsole.Agent

open AgentConsole.Files AgentConsole.Text

section Names

theorem toList_requestFileName (now number : Nat) : (requestFileName now number).toList =
    "request_".toList ++ (Nat.toDigits 10 now ++ '_' ::
      ((padded 6 number).toList ++ ".json".toList)) := by
  simp [requestFileName]

/-- Request files of one name have one number. -/
theorem requestFileName_inj {now now' number number' : Nat}
    (h : requestFileName now number = requestFileName now' number') : number = number' := by
  have hl := congrArg String.toList h
  rw [toList_requestFileName, toList_requestFileName, List.append_right_inj,
    List.append_cons_inj_of_notMem Nat.underscore_not_in_toDigits] at hl
  · have hp := (List.append_left_inj _).1 hl.2.2
    rw [← ofDigitChars_padded 6 number, hp, ofDigitChars_padded]
  · simp [underscore_not_mem_padded]

theorem slash_not_mem_requestFileName (now number : Nat) :
    '/' ∉ (requestFileName now number).toList := by
  have hdigits (n : Nat) : '/' ∉ Nat.toDigits 10 n := fun h =>
    absurd (Nat.isDigit_of_mem_toDigits (by decide) (by decide) h) (by decide)
  simp [toList_requestFileName, padded, hdigits]

theorem requestFileName_ne_empty (now number : Nat) : requestFileName now number ≠ "" := by
  intro h
  have hl := congrArg String.toList h
  simp [toList_requestFileName] at hl

theorem getLast?_requestFileName (now number : Nat) :
    (requestFileName now number).toList.getLast? = some 'n' := by
  rw [toList_requestFileName, ← List.cons_append, ← List.append_assoc, ← List.append_assoc,
    List.getLast?_append]
  rfl

theorem getLast?_join_requestFileName {base : String} (hb : base ≠ "") (now number : Nat) :
    (join base (requestFileName now number)).toList.getLast? ≠ some '/' := by
  obtain ⟨slash, hj⟩ := join_eq_append hb (slash_not_mem_requestFileName now number)
  rw [hj, String.toList_append, List.getLast?_append, getLast?_requestFileName]
  simp

theorem isAbsolute_cwd (d : Disk) (directory : String) : isAbsolute (join d.cwdPath directory) :=
  isAbsolute_join (isAbsolute_append rfl _) directory

/-- Either the name is free, or as many are taken as were looked at. -/
theorem freeNumber_spec (taken : List String) (now tries number : Nat) :
    number ≤ freeNumber taken now tries number ∧
      (requestFileName now (freeNumber taken now tries number) ∉ taken ∨
        freeNumber taken now tries number = number + tries ∧
          ∀ k < tries, requestFileName now (number + k) ∈ taken) := by
  induction tries generalizing number with
  | zero => simp [freeNumber]
  | succ tries ih =>
    obtain ⟨hle, hfree⟩ := ih (number + 1)
    unfold freeNumber
    split
    · rename_i hc
      refine ⟨by omega, hfree.imp id fun ⟨heq, hall⟩ => ⟨by omega, fun k hk => ?_⟩⟩
      cases k with
      | zero => simpa using hc
      | succ k =>
        rw [Nat.add_comm k, ← Nat.add_assoc]
        exact hall k (by omega)
    · rename_i hc
      exact ⟨Nat.le_refl _, .inl (by simpa using hc)⟩

/-- The names before the first free one are taken. -/
theorem mem_of_lt_freeNumber {taken : List String} {now tries number k : Nat} (hle : number ≤ k)
    (hlt : k < freeNumber taken now tries number) : requestFileName now k ∈ taken := by
  induction tries generalizing number with
  | zero => exact absurd hlt (Nat.not_lt.2 hle)
  | succ tries ih =>
    unfold freeNumber at hlt
    split at hlt
    · rename_i hc
      rcases Nat.lt_or_eq_of_le hle with hle | rfl
      · exact ih hle hlt
      · simpa using hc
    · exact absurd hlt (Nat.not_lt.2 hle)

/-- Among one number more than there are names there is one whose name is free. -/
theorem freeNumber_free (taken : List String) (now number : Nat) :
    requestFileName now (freeNumber taken now taken.length number) ∉ taken := by
  rcases (freeNumber_spec taken now taken.length number).2 with h | ⟨heq, hall⟩
  · exact h
  · intro hmem
    have hsub : (List.range (taken.length + 1)).map (fun k => requestFileName now (number + k)) ⊆
        taken := by
      intro name hname
      obtain ⟨k, hk, rfl⟩ := List.mem_map.1 hname
      rcases Nat.lt_succ_iff_lt_or_eq.1 (List.mem_range.1 hk) with hk | rfl
      · exact hall k hk
      · exact heq ▸ hmem
    have hnodup : ((List.range (taken.length + 1)).map
        fun k => requestFileName now (number + k)).Nodup :=
      List.nodup_range.map fun k k' hk => Nat.add_left_cancel (requestFileName_inj hk)
    have hle := (List.subperm_of_subset hnodup hsub).length_le
    simp at hle

theorem le_nextNumber (w : Workspace) (d : Disk) (directory : String) :
    w.minted ≤ nextNumber w d directory :=
  (freeNumber_spec _ _ _ _).1

theorem nextNumber_free (w : Workspace) (d : Disk) (directory : String) :
    requestFileName w.now (nextNumber w d directory) ∉
      (d.names (join d.cwdPath directory)).toOption.getD [] :=
  freeNumber_free _ _ _

end Names

section GivingUp

/-- Wherever the path of a request file leads to anything, it leads to its location. -/
def RequestFile.Steady (f : RequestFile) : Prop :=
  ∀ (d : Disk) l, d.find f.path = .ok l → l = f.location

variable {d : Disk} {l : Location} {e : Entry} {f : RequestFile}

theorem steady_of_place (ha : isAbsolute f.path) (hp : d.place f.path = .ok f.location) :
    f.Steady :=
  fun _ _ h => Disk.find_unique hp (by rw [Disk.start, Disk.start, if_pos ha, if_pos ha]) h

/-- Giving up a request file that its path leads to leaves nothing at its location, unless a
directory was made there. -/
theorem giveUp_of_find (h : d.find f.path = .ok f.location) : f.giveUp d =
    if d.isDirectoryAt f.location then d else d.erase f.location := by
  unfold RequestFile.giveUp Disk.removeFile Disk.isDirectoryAt
  rw [h]
  cases he : d.at? f.location with
  | none => simp [bind, Except.bind, he, Except.toOption, Disk.erase_eq_self he]
  | some e => cases e <;> simp [bind, Except.bind, he, Except.toOption]

/-- Giving up a request file that its path does not lead to changes nothing. -/
theorem RequestFile.Steady.giveUp_of_find_ne (hf : f.Steady)
    (h : d.find f.path ≠ .ok f.location) : f.giveUp d = d := by
  unfold giveUp Disk.removeFile
  cases he : d.find f.path with
  | error e => rfl
  | ok l => exact absurd (hf d l he ▸ he) h

/-- Giving a request file up does nothing to the rest of the disk. -/
theorem RequestFile.Steady.giveUp_cases (hf : f.Steady) (d : Disk) :
    f.giveUp d = d ∨ f.giveUp d = d.erase f.location := by
  by_cases h : d.find f.path = .ok f.location
  · rw [giveUp_of_find h]
    split_ifs
    · exact .inl rfl
    · exact .inr rfl
  · exact .inl (hf.giveUp_of_find_ne h)

/-- Giving up a request file that its path leads to, if anything is there, leaves nothing at its
location, unless a directory was made there. -/
theorem RequestFile.Steady.giveUp_eq (hf : f.Steady)
    (h : (d.at? f.location).isSome → d.find f.path = .ok f.location) : f.giveUp d =
      if d.isDirectoryAt f.location then d else d.erase f.location := by
  by_cases hfind : d.find f.path = .ok f.location
  · exact giveUp_of_find hfind
  · have hnone : d.at? f.location = none := by simpa using mt h hfind
    rw [hf.giveUp_of_find_ne hfind, Disk.isDirectoryAt, hnone, Disk.erase_eq_self hnone]
    rfl

theorem RequestFile.Steady.at?_giveUp (hf : f.Steady) (d : Disk) (hl : l ≠ f.location) :
    (f.giveUp d).at? l = d.at? l := by
  rcases hf.giveUp_cases d with h | h <;> rw [h]
  exact d.at?_erase_of_ne hl

/-- Once a request file is given up, its path leads to nothing but a directory made in its place. -/
theorem RequestFile.Steady.entry?_giveUp (hf : f.Steady) (d : Disk)
    (h : Disk.entry? (f.giveUp d) f.path = some e) : e = .directory := by
  unfold Disk.entry? at h
  cases hfind : (f.giveUp d).find f.path with
  | error e' =>
    rw [hfind] at h
    cases h
  | ok l =>
    rw [hfind] at h
    obtain rfl := hf _ _ hfind
    by_cases hd : d.find f.path = .ok f.location
    · rw [giveUp_of_find hd] at h
      split_ifs at h with hdir
      · rw [Disk.isDirectoryAt, beq_iff_eq] at hdir
        exact Option.some.inj (h.symm.trans hdir)
      · have hne : f.location ≠ [] := fun hn => hdir (by rw [hn]; rfl)
        simp only [Disk.at?_erase _ _ _ hne, if_true] at h
        cases h
    · rw [hf.giveUp_of_find_ne hd] at hfind
      exact absurd hfind hd

/-- The path of a request file leads to it, if the file is there. -/
def RequestFile.isReached (f : RequestFile) (d : Disk) : Bool :=
  match d.find f.path with
  | .ok l => l == f.location
  | .error _ => (d.file? f.location).isNone

/-- Giving up a request file that its path leads to, if it is there, leaves no file there. -/
theorem RequestFile.Steady.file?_giveUp (hf : f.Steady) (hr : f.isReached d) (l : Location) :
    (f.giveUp d).file? l = if l = f.location then none else d.file? l := by
  split_ifs with hl
  · subst hl
    cases hfind : d.find f.path with
    | error e =>
      rw [hf.giveUp_of_find_ne (by simp [hfind])]
      simpa [isReached, hfind] using hr
    | ok l =>
      obtain rfl := hf _ _ hfind
      rw [giveUp_of_find hfind]
      split_ifs with hdir
      · rw [Disk.isDirectoryAt, beq_iff_eq] at hdir
        simp [Disk.file?, hdir]
      · rw [Disk.file?_erase, if_pos rfl]
  · exact Disk.file?_congr (hf.at?_giveUp d hl)

end GivingUp

section Making

variable {w w' : Workspace} {directory : String} {r : Request} {f : RequestFile}
variable {d : Disk} {number : Nat} {refusal : Option IoError} {e : IoError}

/-- There is a place for the next request file, when its directory has been made. -/
structure Placed (w : Workspace) (directory : String) (d : Disk) (number : Nat)
    (f : RequestFile) : Prop where
  made : w.disk.makeDirectories directory = (d, .ok ())
  next : number = nextNumber w d directory
  path : f.path = requestPath d directory w.now number
  place : d.place f.path = .ok f.location

/-- A request file that was made where there was a place for it, and holds the request. -/
inductive Made (w : Workspace) (r : Request) (f : RequestFile) : Workspace → Prop
  | intro {directory : String} {d : Disk} {number : Nat} (h : Placed w directory d number f) :
    Made w r f { w with
      disk := d.put f.location (.file (Utf8.encode r.fileText) false)
      minted := number + 1 }

/-- What is placed in a directory under a name the directory does not have is placed where nothing
is. -/
theorem at?_place_join {base name : String} {l : Location} (ha : isAbsolute base)
    (hn : name ≠ "") (hs : '/' ∉ name.toList) (h : d.place (join base name) = .ok l)
    (hfree : name ∉ (d.names base).toOption.getD []) :
    (∃ dir, l = dir ++ [name]) ∧ d.at? l = none := by
  have hb := ne_empty_of_isAbsolute ha
  obtain ⟨dir, last, hc, hl, hw, hd, -, -, -, rfl⟩ := Disk.place_eq_ok h
  have hstart : d.start (join base name) = d.start base := by
    rw [Disk.start, Disk.start, if_pos (isAbsolute_join ha name), if_pos ha]
  rw [segments_join hb hn hs, List.getLast?_concat, Option.some.injEq] at hl
  subst hl
  rw [segments_join hb hn hs, List.dropLast_concat, hstart] at hw
  obtain ⟨slash, hj⟩ := join_eq_append hb hs
  rw [hj, String.append_assoc] at hc
  rw [Disk.names_of_walk (Disk.checkPath_append hb hc) hw hd] at hfree
  refine ⟨⟨dir, rfl⟩, ?_⟩
  cases he : d.at? (dir ++ [name]) with
  | none => rfl
  | some e => exact absurd (Disk.mem_namesIn he) hfree

theorem isAbsolute_requestPath (d : Disk) (directory : String) (now number : Nat) :
    isAbsolute (requestPath d directory now number) :=
  isAbsolute_join (isAbsolute_cwd d directory) _

theorem getLast?_requestPath (d : Disk) (directory : String) (now number : Nat) :
    (requestPath d directory now number).toList.getLast? ≠ some '/' :=
  getLast?_join_requestFileName (ne_empty_of_isAbsolute (isAbsolute_cwd d directory)) _ _

namespace Placed

theorem grows (h : Placed w directory d number f) : w.disk.Grows d := by
  have hg := w.disk.makeDirectories_grows directory
  rwa [h.made] at hg

theorem le (h : Placed w directory d number f) : w.minted ≤ number :=
  h.next ▸ le_nextNumber w d directory

theorem slash (h : Placed w directory d number f) : f.path.toList.getLast? ≠ some '/' := by
  rw [h.path]
  exact getLast?_requestPath _ _ _ _

theorem steady (h : Placed w directory d number f) : f.Steady :=
  steady_of_place (h.path ▸ isAbsolute_requestPath _ _ _ _) h.place

theorem spec (h : Placed w directory d number f) :
    (∃ dir, f.location = dir ++ [requestFileName w.now number]) ∧ d.at? f.location = none := by
  have hp := h.place
  rw [h.path, requestPath] at hp
  exact at?_place_join (isAbsolute_cwd d directory) (requestFileName_ne_empty _ _)
    (slash_not_mem_requestFileName _ _) hp (h.next ▸ nextNumber_free w d directory)

/-- The path leads to what is put there. -/
theorem find (h : Placed w directory d number f) (octets : List UInt8) (executable : Bool) :
    (d.put f.location (.file octets executable)).find f.path = .ok f.location :=
  Disk.find_put h.place h.spec.2 fun hs => absurd hs h.slash

/-- Giving up the file that was just put there leaves the disk as it was before. -/
theorem giveUp_put (h : Placed w directory d number f) (octets : List UInt8) (executable : Bool) :
    f.giveUp (d.put f.location (.file octets executable)) = d := by
  have hfree := h.spec.2
  rw [giveUp_of_find (h.find octets executable), Disk.isDirectoryAt,
    Disk.at?_put _ _ _ _ (Disk.ne_nil_of_at?_eq_none hfree), if_pos rfl]
  exact Disk.erase_put hfree _

end Placed

theorem create_of_error (h : w.disk.makeDirectories directory = (d, .error e)) :
    RequestFile.create w directory r refusal =
      ({ w with disk := d }, .error (.requestFile directory e)) := by
  rw [RequestFile.create, h]

theorem create_of_place_error {path : String} (h : w.disk.makeDirectories directory = (d, .ok ()))
    (hpath : path = requestPath d directory w.now (nextNumber w d directory))
    (hp : d.place path = .error e) : RequestFile.create w directory r refusal =
      ({ w with disk := d }, .error (.requestFile directory (atPath e path))) := by
  rw [RequestFile.create, h]
  simp only [← hpath, hp]

/-- What is refused leaves nothing but directories. -/
theorem create_of_refusal (h : Placed w directory d number f) :
    RequestFile.create w directory r (some e) = ({ w with disk := d, minted := number + 1 },
      .error (.requestFile directory (atPath e f.path))) := by
  rw [RequestFile.create, h.made]
  simp only [← h.next, ← h.path, h.place]
  rw [h.giveUp_put]

theorem create_of_placed (h : Placed w directory d number f) :
    RequestFile.create w directory r none = ({ w with
      disk := d.put f.location (.file (Utf8.encode r.fileText) false)
      minted := number + 1 }, .ok f) := by
  rw [RequestFile.create, h.made]
  simp only [← h.next, ← h.path, h.place]

/-- Either the directory cannot be made, or there is no place in it, or there is one. -/
theorem placing_cases (w : Workspace) (directory : String) :
    (∃ d e, w.disk.makeDirectories directory = (d, .error e)) ∨
    ∃ d, w.disk.makeDirectories directory = (d, .ok ()) ∧
      ((∃ e, d.place (requestPath d directory w.now (nextNumber w d directory)) = .error e) ∨
        ∃ f, Placed w directory d (nextNumber w d directory) f) := by
  rcases hm : w.disk.makeDirectories directory with ⟨d, e | ⟨⟩⟩
  · exact .inl ⟨d, e, rfl⟩
  · refine .inr ⟨d, rfl, ?_⟩
    cases hp : d.place (requestPath d directory w.now (nextNumber w d directory)) with
    | error e => exact .inl ⟨e, rfl⟩
    | ok l => exact .inr ⟨⟨_, l⟩, hm, rfl, rfl, hp⟩

/-- Either nothing was made but directories, or a request file. -/
theorem create_cases (w : Workspace) (directory : String) (r : Request)
    (refusal : Option IoError) :
    (∃ d minted e, w.disk.Grows d ∧ w.minted ≤ minted ∧
      RequestFile.create w directory r refusal = ({ w with disk := d, minted }, .error e)) ∨
    ∃ f w', RequestFile.create w directory r refusal = (w', .ok f) ∧ Made w r f w' := by
  have hgrows := w.disk.makeDirectories_grows directory
  rcases placing_cases w directory with ⟨d, e, hm⟩ | ⟨d, hm, ⟨e, hp⟩ | ⟨f, hf⟩⟩ <;>
    rw [hm] at hgrows
  · exact .inl ⟨d, w.minted, _, hgrows, Nat.le_refl _, create_of_error hm⟩
  · exact .inl ⟨d, w.minted, _, hgrows, Nat.le_refl _, create_of_place_error hm rfl hp⟩
  · cases refusal with
    | some e => exact .inl ⟨d, _, _, hgrows, Nat.le_succ_of_le hf.le, create_of_refusal hf⟩
    | none => exact .inr ⟨f, _, create_of_placed hf, .intro hf⟩

/-- What was made, and what had been before. -/
theorem Made.spec (h : Made w r f w') : ∃ d number, w.disk.Grows d ∧ w.minted ≤ number ∧
    w'.minted = number + 1 ∧ (∃ dir, f.location = dir ++ [requestFileName w.now number]) ∧
    d.at? f.location = none ∧
    w'.disk = d.put f.location (.file (Utf8.encode r.fileText) false) := by
  cases h with
  | @intro directory d number h => exact ⟨d, number, h.grows, h.le, rfl, h.spec.1, h.spec.2, rfl⟩

/-- A request file holds the request as it was written. -/
theorem Made.at? (h : Made w r f w') :
    w'.disk.at? f.location = some (.file (Utf8.encode r.fileText) false) := by
  obtain ⟨d, number, -, -, -, -, hfree, he⟩ := h.spec
  rw [he, Disk.at?_put d _ _ _ (Disk.ne_nil_of_at?_eq_none hfree), if_pos rfl]

theorem Made.find (h : Made w r f w') : w'.disk.find f.path = .ok f.location := by
  cases h with
  | intro h => exact h.find _ _

theorem Made.steady (h : Made w r f w') : f.Steady := by
  cases h with
  | intro h => exact h.steady

/-- The path of a request file leads to the request as it was written. -/
theorem Made.readText (h : Made w r f w') : w'.disk.readText f.path = .ok r.fileText := by
  unfold Disk.readText Disk.read
  rw [h.find]
  simp only [bind, Except.bind, h.at?, Utf8.decode?_encode]

end Making

end AgentConsole.Agent
