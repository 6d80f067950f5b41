import AgentConsole.Proofs.Agent.Prospect
import Mathlib.Data.List.Forall2

/-!
# Runs one after the other

A request that is run to its end, with no other run beside it, leaves the disk as it found it apart
from directories. What it comes to depends on the disk, on how many runs there were before and on
the request; of the time it takes up only the name of the request file, which shows in the words of
some errors (`Tried.alike`). So requests that are run one after the other come to the same, at
whatever times they are run (`Course.alike`).
-/

namespace AgentConsole.Agent

open AgentConsole.Files AgentConsole.Setup AgentConsole.Text

/-- What becomes of a run depends only on how many there were before it, and of the disk the runner
changes nothing but the request file, in whose place it makes no directory. -/
structure Predictable (host : Host) : Prop where
  answer : ∀ n i d i' d', (host.runner n i d).2 = (host.runner n i' d').2
  disk : ∀ n i d l, d.find i.inputFile = .ok l → (host.runner n i d).1.erase l = d.erase l
  file : ∀ n i d l, d.find i.inputFile = .ok l → d.isDirectoryAt l = false →
    (host.runner n i d).1.isDirectoryAt l = false

/-- Of the disk the runner changes nothing but the request file. -/
def Tactful (host : Host) : Prop :=
  ∀ n i d l, d.find i.inputFile = .ok l → (host.runner n i d).1.erase l = d.erase l

/-- The outcomes are the same, but for the name of the request file in the words of an error. -/
inductive Alike : Except AgentError String → Except AgentError String → Prop
  | refl (outcome : Except AgentError String) : Alike outcome outcome
  | spawn (i : Invocation) (d : Disk) (directory : String) (cause : IoError)
      (now number now' number' : Nat) :
    Alike (.error (.spawn { i with inputFile := requestPath d directory now number }.line cause))
      (.error (.spawn { i with inputFile := requestPath d directory now' number' }.line cause))
  | requestFile (d : Disk) (directory : String) (e : IoError) (now number now' number' : Nat) :
    Alike (.error (.requestFile directory (atPath e (requestPath d directory now number))))
      (.error (.requestFile directory (atPath e (requestPath d directory now' number'))))

/-- What runs find and leave: the disk, what the request files held so far, and why the system does
not take a request that is written to one, if it does not. -/
structure Ground where
  disk : Disk
  bodies : List String
  refusal : Request → Option IoError

def Workspace.ground (w : Workspace) : Ground :=
  ⟨w.disk, w.runs.map Prod.snd, w.refusal 0⟩

/-- What a run amounts to with this answer; none if the runner breaks down. -/
def Answer.verdict? (a : Answer) (s : Settings) (i : Invocation) :
    Option (Except AgentError String) :=
  if a.delay.any (decide <| · ≤ s.timeout) then
    match a.ending with
    | .panic => none
    | .failure cause => some (.error (.spawn i.line cause))
    | .exit outcome => some outcome.reply
  else some (.error (.timeout s.timeout))

/-- What a request comes to when it is run to its end, and what it leaves. Of the path of the
request file it is only known what room there is. -/
inductive Tried (host : Host) (b : Bool × Bool) (g : Ground) (r : Request) :
    Except AgentError String → Ground → Prop
  | missing {script : String} (hs : host.program g.disk = .missing script) :
    Tried host b g r (.ok (missingScriptMessage host.settings script)) g
  | blocked {script : String} {d : Disk} {e : IoError} (hs : host.program g.disk = .found script)
      (hd : g.disk.makeDirectories host.settings.requestDirectory = (d, .error e)) :
    Tried host b g r (.error (.requestFile host.settings.requestDirectory e)) { g with disk := d }
  | refused {script path : String} {d : Disk} {e : IoError} {now number : Nat}
      (hs : host.program g.disk = .found script)
      (hd : g.disk.makeDirectories host.settings.requestDirectory = (d, .ok ()))
      (hn : path = requestPath d host.settings.requestDirectory now number)
      (hb : room path = b) (ho : hindrance? d path (g.refusal r) = some e) :
    Tried host b g r (.error (.requestFile host.settings.requestDirectory (atPath e path)))
      { g with disk := d }
  | run {script path : String} {d d' : Disk} {now number : Nat} {i : Invocation}
      {outcome : Except AgentError String}
      (hs : host.program g.disk = .found script)
      (hd : g.disk.makeDirectories host.settings.requestDirectory = (d, .ok ()))
      (hn : path = requestPath d host.settings.requestDirectory now number)
      (hb : room path = b) (ho : hindrance? d path (g.refusal r) = none)
      (hi : i = ⟨host.settings.interpreter, script, path, host.settings.extraArguments⟩)
      (hv : (host.runner g.bodies.length i d').2.verdict? host.settings i = some outcome) :
    Tried host b g r outcome { g with disk := d, bodies := r.fileText :: g.bodies }

/-- Whatever comes of what was started, the request was tried. -/
def Started.Tries (host : Host) (b : Bool × Bool) (g : Ground) (r : Request) (w : Workspace) :
    Started → Prop
  | .done o => Tried host b g r o w.ground
  | .called call => ∀ o, call.result? host = some o →
    Tried host b g r o (call.release w).ground

/-- A request with what it came to. -/
abbrev Trial := Request × Except AgentError String

/-- These requests were run one after the other, each on what the one before it left. -/
inductive Course (host : Host) (b : Bool × Bool) (g : Ground) : List Trial → Ground → Prop
  | nil : Course host b g [] g
  | snoc {trials : List Trial} {g' g'' : Ground} {r : Request} {o : Except AgentError String}
      (hc : Course host b g trials g') (ht : Tried host b g' r o g'') :
    Course host b g (trials ++ [(r, o)]) g''

variable {host : Host} {w w' : Workspace} {r : Request} {call : Call} {b : Bool × Bool}
variable {g g₁ g₂ : Ground} {o o₁ o₂ : Except AgentError String}

section Trying

variable {script directory : String} {f : RequestFile} {d : Disk} {number : Nat} {v : Workspace}

/-- What a call amounts to does not depend on when it was made. -/
theorem result?_eq {now : Nat} (hdue : call.due = call.answer.delay.map (now + ·))
    (hdeadline : call.deadline = now + host.settings.timeout) :
    call.result? host = call.answer.verdict? host.settings call.invocation := by
  unfold Call.result? Call.answersAt? Answer.verdict?
  rw [hdue, hdeadline]
  cases call.answer.delay with
  | none => rfl
  | some delay =>
    by_cases hle : delay ≤ host.settings.timeout
    · cases call.answer.ending <;> simp [Option.filter, hle]
    · simp [Option.filter, hle]

theorem times_of_call (h : host.call w script f = (w', call)) :
    call.due = call.answer.delay.map (w.now + ·) ∧
      call.deadline = w.now + host.settings.timeout := by
  cases h
  exact ⟨rfl, rfl⟩

/-- What the run of a call amounts to does not depend on the time. -/
theorem verdict_of_call (h : host.call w script f = (w', call)) :
    call.result? host = (host.runner w.runs.length call.invocation w.disk).2.verdict?
      host.settings call.invocation := by
  obtain ⟨hdue, hdeadline⟩ := times_of_call h
  rw [result?_eq hdue hdeadline]
  cases h
  rfl

theorem invocation_of_call (h : host.call w script f = (w', call)) : call.invocation =
    ⟨host.settings.interpreter, script, f.path, host.settings.extraArguments⟩ := by
  cases h
  rfl

theorem file_of_call (h : host.call w script f = (w', call)) : call.file = f := by
  cases h
  rfl

/-- A run leaves what was there before its request file was made, but for the file. -/
theorem disk_of_call (ht : Tactful host) (hf : Placed v directory d number f)
    (hw : w.disk = d.put f.location (.file (Utf8.encode r.fileText) false))
    (h : host.call w script f = (w', call)) : w'.disk.erase f.location = d := by
  have hfind : w.disk.find f.path = .ok f.location := hw ▸ hf.find _ _
  have hdisk : (host.call w script f).1.disk.erase f.location = w.disk.erase f.location :=
    ht _ _ _ _ hfind
  rw [h, hw, Disk.erase_put hf.spec.2] at hdisk
  exact hdisk

/-- A run leaves the disk as it was before its request file was made, once the file is given up. -/
theorem giveUp_of_call (hp : Predictable host) (hf : Placed v directory d number f)
    (hw : w.disk = d.put f.location (.file (Utf8.encode r.fileText) false))
    (h : host.call w script f = (w', call)) : f.giveUp w'.disk = d := by
  have herase := disk_of_call hp.disk hf hw h
  have hkeeps : d.Keeps w'.disk := herase ▸ Disk.erase_keeps _ _
  have hstart : w'.disk.start f.path = d.start f.path := by
    rw [← herase]
    rfl
  have hfind : w.disk.find f.path = .ok f.location := hw ▸ hf.find _ _
  have hfile : w.disk.isDirectoryAt f.location = false := by
    rw [hw, Disk.isDirectoryAt, Disk.at?_put _ _ _ _ (Disk.ne_nil_of_at?_eq_none hf.spec.2),
      if_pos rfl]
    rfl
  have hleft : (host.call w script f).1.disk.isDirectoryAt f.location = false :=
    hp.file _ _ _ _ hfind hfile
  rw [h] at hleft
  rw [hf.steady.giveUp_eq fun hthere => Disk.find_of_place hf.place hkeeps hstart hf.slash hthere,
    if_neg (Bool.eq_false_iff.1 hleft), herase]

/-- A run that is over leaves the disk as it was before its request file was made. -/
theorem ground_of_call (hp : Predictable host) (hf : Placed v directory d number f)
    (hw : w.disk = d.put f.location (.file (Utf8.encode r.fileText) false))
    (h : host.call w script f = (w', call)) :
    (call.release w').ground = ⟨d, r.fileText :: w.runs.map Prod.snd, w.refusal 0⟩ := by
  have hthere : w.disk.at? f.location = some (.file (Utf8.encode r.fileText) false) := by
    rw [hw, Disk.at?_put _ _ _ _ (Disk.ne_nil_of_at?_eq_none hf.spec.2), if_pos rfl]
  have hruns : (host.call w script f).1.runs.map Prod.snd =
      r.fileText :: w.runs.map Prod.snd := by
    simp only [Host.call, hthere, Utf8.decodeLossy_encode, List.map_cons]
  have hrefusal : w'.refusal = w.refusal := by
    cases h
    rfl
  rw [h] at hruns
  rw [Workspace.ground, Call.release, file_of_call h]
  simp only [giveUp_of_call hp hf hw h, hruns, hrefusal]

/-- What starting a request comes to, now or when its run has come to something, is one of the ways
it can be tried. -/
theorem tried_of_start (hp : Predictable host) (he : w.Evenhanded) {started : Started}
    (h : host.start w r = (w', started)) :
    started.Tries host (room (nextPath w host.settings.requestDirectory)) w.ground r w' := by
  obtain ⟨p, hb⟩ : ∃ p, Begun host w r p w' started := ⟨_, begun_of_start h⟩
  have hrefusal : w.refusal w.minted r = w.ground.refusal r := he _ _ _
  cases hb with
  | missing hs => exact .missing hs
  | blocked hs hd => exact .blocked hs hd
  | refused hs hd hn ho =>
    rw [hrefusal] at ho
    rw [nextPath_of_makeDirectories (congrArg Prod.fst hd)] at hn ⊢
    exact .refused hs hd hn.symm (congrArg room hn.symm) ho
  | called hs hf hn hfree hcall =>
    rw [hrefusal] at hfree
    intro o ho
    have hcount : w.ground.bodies.length = w.runs.length := List.length_map _
    rw [verdict_of_call hcall, invocation_of_call hcall] at ho
    rw [ground_of_call hp hf rfl hcall, hn]
    exact .run hs hf.made hf.path rfl hfree rfl (hcount ▸ ho)

end Trying

section Comparing

theorem alike_verdict {a : Answer} {s : Settings} {i : Invocation} {d : Disk} {directory : String}
    {now number now' number' : Nat}
    (h₁ : a.verdict? s { i with inputFile := requestPath d directory now number } = some o₁)
    (h₂ : a.verdict? s { i with inputFile := requestPath d directory now' number' } = some o₂) :
    Alike o₁ o₂ := by
  unfold Answer.verdict? at h₁ h₂
  split at h₁
  · rename_i hd
    rw [if_pos hd] at h₂
    cases he : a.ending with
    | panic =>
      rw [he] at h₁
      cases h₁
    | failure cause =>
      rw [he] at h₁ h₂
      cases h₁
      cases h₂
      exact .spawn i d directory cause now number now' number'
    | exit outcome =>
      rw [he] at h₁ h₂
      cases h₁
      cases h₂
      exact .refl _
  · rename_i hd
    rw [if_neg hd] at h₂
    cases h₁
    cases h₂
    exact .refl _

/-- However often a request is tried from the same, it comes to the same. -/
theorem Tried.alike (hp : Predictable host) (h₁ : Tried host b g r o₁ g₁)
    (h₂ : Tried host b g r o₂ g₂) : Alike o₁ o₂ ∧ g₁ = g₂ := by
  cases h₁ with
  | missing hs =>
    cases h₂ with
    | missing hs' =>
      cases hs.symm.trans hs'
      exact ⟨.refl _, rfl⟩
    | blocked hs' | refused hs' | run hs' => cases hs.symm.trans hs'
  | blocked hs hd =>
    cases h₂ with
    | missing hs' => cases hs.symm.trans hs'
    | blocked hs' hd' =>
      cases hd.symm.trans hd'
      exact ⟨.refl _, rfl⟩
    | refused hs' hd' | run hs' hd' => cases hd.symm.trans hd'
  | refused hs hd hn hb hwhy =>
    cases h₂ with
    | missing hs' => cases hs.symm.trans hs'
    | blocked hs' hd' => cases hd.symm.trans hd'
    | refused hs' hd' hn' hb' hwhy' =>
      cases hd.symm.trans hd'
      rw [hindrance?_congr hn hn' (hb.trans hb'.symm)] at hwhy
      cases hwhy.symm.trans hwhy'
      rw [hn, hn']
      exact ⟨.requestFile _ _ _ _ _ _ _, rfl⟩
    | run hs' hd' hn' hb' hwhy' =>
      cases hd.symm.trans hd'
      rw [hindrance?_congr hn hn' (hb.trans hb'.symm)] at hwhy
      cases hwhy.symm.trans hwhy'
  | @run _ _ _ d₁ _ _ i₁ _ hs hd hn hb hwhy hi ho =>
    cases h₂ with
    | missing hs' => cases hs.symm.trans hs'
    | blocked hs' hd' => cases hd.symm.trans hd'
    | refused hs' hd' hn' hb' hwhy' =>
      cases hd.symm.trans hd'
      rw [hindrance?_congr hn hn' (hb.trans hb'.symm)] at hwhy
      cases hwhy.symm.trans hwhy'
    | @run _ _ _ d₂ _ _ i₂ _ hs' hd' hn' hb' hwhy' hi' ho' =>
      cases hs.symm.trans hs'
      cases hd.symm.trans hd'
      rw [hp.answer _ i₂ d₂ i₁ d₁] at ho'
      generalize (host.runner g.bodies.length i₁ d₁).2 = answer at ho ho'
      rw [hi, hn] at ho
      rw [hi', hn'] at ho'
      exact ⟨alike_verdict (i := ⟨host.settings.interpreter, _, "", host.settings.extraArguments⟩)
        ho ho', rfl⟩

theorem Course.alike (hp : Predictable host) {trials₁ trials₂ : List Trial}
    (h₁ : Course host b g trials₁ g₁) (h₂ : Course host b g trials₂ g₂)
    (hr : trials₁.map Prod.fst = trials₂.map Prod.fst) :
    List.Forall₂ Alike (trials₁.map Prod.snd) (trials₂.map Prod.snd) ∧ g₁ = g₂ := by
  induction h₁ generalizing trials₂ g₂ with
  | nil =>
    cases h₂ with
    | nil => exact ⟨.nil, rfl⟩
    | snoc => simp at hr
  | @snoc trials g' g'' r o hc ht ih =>
    cases h₂ with
    | nil => simp at hr
    | @snoc trials' h' h'' r' o' hc' ht' =>
      rw [List.map_append, List.map_append] at hr
      obtain ⟨hinit, hlast⟩ := List.append_inj' hr rfl
      obtain ⟨halike, rfl⟩ := ih hc' hinit
      obtain rfl : r = r' := by simpa using hlast
      obtain ⟨ho, rfl⟩ := ht.alike hp ht'
      rw [List.map_append, List.map_append]
      exact ⟨List.rel_append halike (.cons ho .nil), rfl⟩

end Comparing

end AgentConsole.Agent
