import AgentConsole.Proofs.Agent.Run

/-!
# What starting a request finds

Starting a request finds no script, or cannot make the directory of request files or the file in it,
or calls the runner (`Prospect`). Which of these it is depends on the settings, the disk, the path
of the request file and what the system says when the request is written to it (`begun_of_start`),
and of the path only on its directory and on what room there is for its name (`place_join`).
-/

namespace AgentConsole.Agent

open AgentConsole.Files AgentConsole.Setup AgentConsole.Text

/-- Where the script is found on a disk. -/
def Host.program (h : Host) (d : Disk) : Resolution :=
  resolve d h.settings.roots h.settings.installDirectory h.settings.script

/-- The path that the next request file is to have. -/
def nextPath (w : Workspace) (directory : String) : String :=
  let disk := (w.disk.makeDirectories directory).1
  requestPath disk directory w.now (nextNumber w disk directory)

/-- Whether a path is short enough, and whether its last name is. -/
def room (path : String) : Bool × Bool :=
  (decide (path.utf8ByteSize < Disk.pathLimit),
    (segments path).getLast?.all fun name => decide (name.utf8ByteSize ≤ Disk.nameLimit))

/-- What stands in the way of a request, or the script it is run with. -/
inductive Prospect where
  /-- There is no script. -/
  | missing (script : String)
  /-- The directory of request files cannot be made. -/
  | blocked (e : IoError)
  /-- The request file cannot be made. -/
  | refused (e : IoError)
  | clear (script : String)

/-- Why a request file cannot be made at this path, if it cannot. -/
def hindrance? (d : Disk) (path : String) (refusal : Option IoError) : Option IoError :=
  match d.place path with
  | .error e => some e
  | .ok _ => refusal

/-- What a request finds that is to be run with a request file at this path. -/
def prospect (s : Settings) (d : Disk) (path : String) (refusal : Option IoError) : Prospect :=
  match resolve d s.roots s.installDirectory s.script with
  | .missing script => .missing script
  | .found script =>
    match d.makeDirectories s.requestDirectory with
    | (_, .error e) => .blocked e
    | (d, .ok ()) =>
      match hindrance? d path refusal with
      | some e => .refused e
      | none => .clear script

/-- What starting a request comes to. -/
inductive Begun (h : Host) (w : Workspace) (r : Request) :
    Prospect → Workspace → Started → Prop
  | missing {script : String} (hs : h.program w.disk = .missing script) :
    Begun h w r (.missing script) w (.done (.ok (missingScriptMessage h.settings script)))
  | blocked {script : String} {d : Disk} {e : IoError} (hs : h.program w.disk = .found script)
      (hd : w.disk.makeDirectories h.settings.requestDirectory = (d, .error e)) :
    Begun h w r (.blocked e) { w with disk := d }
      (.done (.error (.requestFile h.settings.requestDirectory e)))
  | refused {script path : String} {d : Disk} {e : IoError} {minted : Nat}
      (hs : h.program w.disk = .found script)
      (hd : w.disk.makeDirectories h.settings.requestDirectory = (d, .ok ()))
      (hn : nextPath w h.settings.requestDirectory = path)
      (ho : hindrance? d path (w.refusal w.minted r) = some e) :
    Begun h w r (.refused e) { w with disk := d, minted }
      (.done (.error (.requestFile h.settings.requestDirectory (atPath e path))))
  | called {script : String} {d : Disk} {number : Nat} {f : RequestFile} {w' : Workspace}
      {call : Call} (hs : h.program w.disk = .found script)
      (hf : Placed w h.settings.requestDirectory d number f)
      (hn : nextPath w h.settings.requestDirectory = f.path)
      (ho : hindrance? d f.path (w.refusal w.minted r) = none)
      (hc : h.call { w with
        disk := d.put f.location (.file (Utf8.encode r.fileText) false)
        minted := number + 1 } script f = (w', call)) :
    Begun h w r (.clear script) w' (.called call)

variable {host : Host} {w w' : Workspace} {r : Request}

section Placing

variable {d : Disk} {directory base path path' : String} {now number now' number' : Nat}
variable {e e' : IoError} {l : Location}

theorem nul_not_mem_requestFileName (now number : Nat) :
    Char.ofNat 0 ∉ (requestFileName now number).toList := by
  have hdigits (n : Nat) : Char.ofNat 0 ∉ Nat.toDigits 10 n := fun h =>
    absurd (Nat.isDigit_of_mem_toDigits (by decide) (by decide) h) (by decide)
  simp [toList_requestFileName, padded, hdigits]

theorem contains_nul_join (hb : isAbsolute base) (now number : Nat) :
    (join base (requestFileName now number)).toList.contains (Char.ofNat 0) =
      base.toList.contains (Char.ofNat 0) := by
  have hn := nul_not_mem_requestFileName now number
  rw [join_of_not_mem (ne_empty_of_isAbsolute hb) (slash_not_mem_requestFileName now number)]
  split <;> simp [hn]

theorem requestFileName_ne_dots (now number : Nat) :
    requestFileName now number ≠ "." ∧ requestFileName now number ≠ ".." := by
  have hl := getLast?_requestFileName now number
  constructor <;> intro h <;> rw [h] at hl <;> revert hl <;> decide

/-- Where a request file is placed depends on its directory, and on its name as far as there is
room. -/
theorem place_join (d : Disk) (hb : isAbsolute base) (now number : Nat) :
    d.place (join base (requestFileName now number)) =
      if base.toList.contains (Char.ofNat 0) then .error .nulInName
      else if !(room (join base (requestFileName now number))).1 then .error .nameTooLong
      else (d.walk (d.start base) (segments base)).bind fun l =>
        if !d.isDirectoryAt l then .error .notDirectory
        else if !(room (join base (requestFileName now number))).2 then .error .nameTooLong
        else .ok (l ++ [requestFileName now number]) := by
  have hseg := segments_join (ne_empty_of_isAbsolute hb) (requestFileName_ne_empty now number)
    (slash_not_mem_requestFileName now number)
  have hstart : d.start (join base (requestFileName now number)) = d.start base := by
    rw [Disk.start, Disk.start, if_pos (isAbsolute_join hb _), if_pos hb]
  have hempty : (join base (requestFileName now number)).isEmpty = false := by
    simpa using ne_empty_of_isAbsolute (isAbsolute_join hb _)
  obtain ⟨hdot, hdots⟩ := requestFileName_ne_dots now number
  have hroom : room (join base (requestFileName now number)) =
      (decide ((join base (requestFileName now number)).utf8ByteSize < Disk.pathLimit),
        decide ((requestFileName now number).utf8ByteSize ≤ Disk.nameLimit)) := by
    rw [room, hseg, List.getLast?_concat, Option.all_some]
  unfold Disk.place Disk.checkPath
  rw [contains_nul_join hb, hempty, hseg, hstart, List.getLast?_concat, List.dropLast_concat, hroom]
  generalize base.toList.contains (Char.ofNat 0) = nul
  cases nul with
  | true => simp [bind, Except.bind]
  | false =>
    by_cases hl : (join base (requestFileName now number)).utf8ByteSize < Disk.pathLimit
    · have hge : ¬ (join base (requestFileName now number)).utf8ByteSize ≥ Disk.pathLimit := by
        omega
      cases hw : d.walk (d.start base) (segments base) with
      | error e => simp [hl, hge, bind, Except.bind]
      | ok l => simp [hl, hge, hdot, hdots, bind, Except.bind]
    · have hge : (join base (requestFileName now number)).utf8ByteSize ≥ Disk.pathLimit := by omega
      simp [hl, hge, bind, Except.bind]

theorem walk_of_place_join (hb : isAbsolute base)
    (h : d.place (join base (requestFileName now number)) = .ok l) :
    ∃ dir, d.isDirectoryAt dir ∧ d.walk (d.start base) (segments base) = .ok dir ∧
      l = dir ++ [requestFileName now number] := by
  rw [place_join d hb] at h
  cases hw : d.walk (d.start base) (segments base) with
  | error e =>
    rw [hw] at h
    simp only [Except.bind] at h
    split_ifs at h
  | ok dir =>
    rw [hw] at h
    simp only [Except.bind] at h
    split_ifs at h with _ _ hdir
    cases h
    exact ⟨dir, by simpa using hdir, rfl, rfl⟩

/-- Two request files that have the same room are placed in one directory or refused alike. -/
theorem place_cases (d : Disk) (hb : isAbsolute base)
    (hr : room (join base (requestFileName now number)) =
      room (join base (requestFileName now' number'))) :
    (∃ l l', d.place (join base (requestFileName now number)) = .ok l ∧
      d.place (join base (requestFileName now' number')) = .ok l') ∨
    ∃ e, d.place (join base (requestFileName now number)) = .error e ∧
      d.place (join base (requestFileName now' number')) = .error e := by
  rw [place_join d hb, place_join d hb, hr]
  generalize room (join base (requestFileName now' number')) = b
  by_cases hz : base.toList.contains (Char.ofNat 0)
  · rw [if_pos hz, if_pos hz]
    exact .inr ⟨_, rfl, rfl⟩
  rw [if_neg hz, if_neg hz]
  by_cases h₁ : !b.1
  · rw [if_pos h₁, if_pos h₁]
    exact .inr ⟨_, rfl, rfl⟩
  rw [if_neg h₁, if_neg h₁]
  cases d.walk (d.start base) (segments base) with
  | error e => exact .inr ⟨e, rfl, rfl⟩
  | ok l =>
    simp only [Except.bind]
    by_cases hd : !d.isDirectoryAt l
    · rw [if_pos hd, if_pos hd]
      exact .inr ⟨_, rfl, rfl⟩
    rw [if_neg hd, if_neg hd]
    by_cases h₂ : !b.2
    · rw [if_pos h₂, if_pos h₂]
      exact .inr ⟨_, rfl, rfl⟩
    · rw [if_neg h₂, if_neg h₂]
      exact .inl ⟨_, _, rfl, rfl⟩

/-- What stands in the way of two request files that have the same room is the same. -/
theorem hindrance?_congr (hn : path = requestPath d directory now number)
    (hn' : path' = requestPath d directory now' number') (hr : room path = room path')
    (refusal : Option IoError) : hindrance? d path refusal = hindrance? d path' refusal := by
  rw [hn, hn'] at hr
  unfold hindrance?
  rw [hn, hn', requestPath, requestPath]
  rcases place_cases d (isAbsolute_cwd d directory) hr with ⟨l, l', hl, hl'⟩ | ⟨e, he, he'⟩
  · rw [hl, hl']
  · rw [he, he']

end Placing

section Starting

variable {directory : String} {d : Disk} {number : Nat} {f : RequestFile}

theorem nextPath_of_makeDirectories (h : (w.disk.makeDirectories directory).1 = d) :
    nextPath w directory = requestPath d directory w.now (nextNumber w d directory) := by
  rw [nextPath, h]

theorem Placed.nextPath (h : Placed w directory d number f) : nextPath w directory = f.path := by
  rw [nextPath_of_makeDirectories (congrArg Prod.fst h.made), h.path, h.next]

theorem begun_of_start {started : Started} (h : host.start w r = (w', started)) :
    Begun host w r (prospect host.settings w.disk (nextPath w host.settings.requestDirectory)
      (w.refusal w.minted r)) w' started := by
  unfold Host.start at h
  unfold prospect
  cases hs : resolve w.disk host.settings.roots host.settings.installDirectory
    host.settings.script with
  | missing script =>
    rw [hs] at h
    cases h
    exact .missing hs
  | found script =>
    rw [hs] at h
    rcases placing_cases w host.settings.requestDirectory with
      ⟨d, e, hd⟩ | ⟨d, hd, ⟨e, hp⟩ | ⟨f, hf⟩⟩
    · rw [create_of_error hd] at h
      cases h
      rw [hd]
      exact .blocked hs hd
    · have hn := nextPath_of_makeDirectories (congrArg Prod.fst hd)
      rw [← hn] at hp
      rw [create_of_place_error hd hn hp] at h
      cases h
      have ho : hindrance? d (nextPath w host.settings.requestDirectory)
          (w.refusal w.minted r) = some e := by rw [hindrance?, hp]
      rw [hd]
      simp only [ho]
      exact .refused hs hd rfl ho
    · have hn := hf.nextPath
      have ho : hindrance? d f.path (w.refusal w.minted r) = w.refusal w.minted r := by
        rw [hindrance?, hf.place]
      rw [hn, hd]
      simp only [ho]
      cases hr : w.refusal w.minted r with
      | some e =>
        rw [hr, create_of_refusal hf] at h
        cases h
        exact .refused hs hd hn (ho.trans hr)
      | none =>
        rw [hr, create_of_placed hf] at h
        rcases hcall : host.call { w with
          disk := d.put f.location (.file (Utf8.encode r.fileText) false)
          minted := nextNumber w d host.settings.requestDirectory + 1 } script f with ⟨v, call⟩
        simp only [hcall] at h
        cases h
        exact .called hs hf hn (ho.trans hr) hcall

end Starting

end AgentConsole.Agent
