import AgentConsole.Proofs.Agent.Ending
import AgentConsole.Proofs.Files.Traces

/-!
# Which script runs

The search for the script goes along the candidates and ends at the first that is a file
(`resolve_eq_found_iff`), or behind the last (`resolve_eq_missing_iff`). It has looked at no other
path by then (`consulted`), so nothing else on the disk decides which script runs
(`resolve_congr`): neither what the later candidates lead to, nor the files that come and go at
places to which none of the paths it looked at leads (`resolve_elsewhere`).
-/

namespace AgentConsole.Agent

open AgentConsole.Files AgentConsole.Setup

/-- The paths that the search for a file looks at: those up to the first that leads to one, or all of
them. -/
def consulted (d : Disk) : List String → List String
  | [] => []
  | path :: paths => if d.hasFile path then [path] else path :: consulted d paths

variable {d d' : Disk} {roots paths : List String} {installDirectory script path text : String}

theorem consulted_eq {before after : List String} (hp : paths = before ++ path :: after)
    (hb : ∀ p ∈ before, d.hasFile p = false) (hf : d.hasFile path = true) :
    consulted d paths = before ++ [path] := by
  subst hp
  induction before with
  | nil => simp [consulted, hf]
  | cons p before ih =>
    have hfirst := hb p List.mem_cons_self
    have hrest := ih fun q hq => hb q (List.mem_cons_of_mem p hq)
    simp [consulted, hfirst, hrest]

/-- Two disks with the same files among the paths that are looked at on the one have the same first
file. -/
theorem find?_hasFile_congr (h : ∀ p ∈ consulted d paths, d'.hasFile p = d.hasFile p) :
    paths.find? d'.hasFile = paths.find? d.hasFile := by
  induction paths with
  | nil => rfl
  | cons p paths ih =>
    unfold consulted at h
    cases hp : d.hasFile p with
    | true =>
      have hsame : d'.hasFile p = true := by simpa [hp] using h
      rw [List.find?_cons_of_pos hsame, List.find?_cons_of_pos hp]
    | false =>
      simp only [hp, Bool.false_eq_true, if_false, List.forall_mem_cons] at h
      have hsame : ¬d'.hasFile p = true := by simp [h.1]
      rw [List.find?_cons_of_neg hsame, List.find?_cons_of_neg (by simp [hp]), ih h.2]

theorem resolve_eq_found_iff : resolve d roots installDirectory script = .found path ↔
    IsFirstFile d (candidates roots installDirectory script) path := by
  rw [isFirstFile_iff, resolve]
  split <;> rename_i hf <;> simp [hf]

theorem resolve_eq_missing_iff : resolve d roots installDirectory script = .missing text ↔
    text = script ∧ ∀ p ∈ candidates roots installDirectory script, d.hasFile p = false := by
  constructor
  · intro h
    unfold resolve at h
    split at h
    · cases h
    · next hf =>
      cases h
      exact ⟨rfl, fun p hp => by simpa using List.find?_eq_none.1 hf p hp⟩
  · rintro ⟨rfl, h⟩
    exact resolve_of_forall h

/-- Only the candidates that are looked at decide which script runs. -/
theorem resolve_congr
    (h : ∀ p ∈ consulted d (candidates roots installDirectory script), d'.hasFile p = d.hasFile p) :
    resolve d' roots installDirectory script = resolve d roots installDirectory script := by
  rw [resolve, find?_hasFile_congr h, resolve]

/-- Files that come and go where none of the candidates leads that are looked at do not change which
script runs. -/
theorem resolve_elsewhere {P : Location → Prop} (hd : d.SameBut P d')
    (h : ∀ p ∈ consulted d (candidates roots installDirectory script), ∀ l, P l →
      d.find p ≠ .ok l ∧ d'.find p ≠ .ok l) :
    resolve d' roots installDirectory script = resolve d roots installDirectory script :=
  resolve_congr fun p hp => hd.hasFile (h p hp)

/-- The search for a script takes the first of the candidates that is a file. These are the script
itself if its path is absolute, and else the script in each root in turn and then among the scripts
that were installed. The search comes to the script as it was asked for just when none of them is a
file. Two disks with the same files among the candidates up to the one that is found lead to the same
script, so whatever is added or removed at a place to which none of these leads makes no
difference. -/
theorem first_script_runs (roots : List String) (installDirectory script : String) :
    candidates roots installDirectory script = (if isAbsolute script then [script]
      else roots.map (join · script) ++ [join (join installDirectory "scripts") script]) ∧
    (∀ d path, resolve d roots installDirectory script = .found path ↔
      IsFirstFile d (candidates roots installDirectory script) path) ∧
    (∀ d text, resolve d roots installDirectory script = .missing text ↔
      text = script ∧ ∀ p ∈ candidates roots installDirectory script, d.hasFile p = false) ∧
    (∀ d d', (∀ p ∈ consulted d (candidates roots installDirectory script),
        d'.hasFile p = d.hasFile p) →
      resolve d' roots installDirectory script = resolve d roots installDirectory script) ∧
    ∀ (d d' : Disk) (P : Location → Prop), d.SameBut P d' →
      (∀ p ∈ consulted d (candidates roots installDirectory script), ∀ l, P l →
        d.find p ≠ .ok l ∧ d'.find p ≠ .ok l) →
      resolve d' roots installDirectory script = resolve d roots installDirectory script :=
  ⟨rfl, fun _ _ => resolve_eq_found_iff, fun _ _ => resolve_eq_missing_iff,
    fun _ _ => resolve_congr, fun _ _ _ => resolve_elsewhere⟩

/-- A disk with a directory for the script in one root, and the script in another. -/
def scriptDisk : Disk :=
  ⟨[(["a"], .directory), (["a", "run"], .directory), (["b"], .directory),
    (["b", "run"], .file [] false), (["c"], .directory)], []⟩

/-- The script in a third root comes too late, and so does what is said there instead. -/
theorem first_script_runs_sample :
    resolve scriptDisk ["/a", "/b", "/c"] "/" "run" = .found "/b/run" ∧
    resolve (scriptDisk.put ["c", "run"] (.file [] false)) ["/a", "/b", "/c"] "/" "run" =
      .found "/b/run" := by
  have hfirst : scriptDisk.hasFile "/a/run" = false := by decide +kernel
  have hfound : scriptDisk.hasFile "/b/run" = true := by decide +kernel
  have hpaths : candidates ["/a", "/b", "/c"] "/" "run" =
      ["/a/run"] ++ "/b/run" :: ["/c/run", "/scripts/run"] := by decide +kernel
  have hnone : scriptDisk.at? ["c", "run"] = none := by decide +kernel
  obtain ⟨-, hresolve, -, -, helsewhere⟩ := first_script_runs ["/a", "/b", "/c"] "/" "run"
  have hbefore : ∀ p ∈ ["/a/run"], scriptDisk.hasFile p = false := by simpa using hfirst
  have hscript := (hresolve scriptDisk "/b/run").2 ⟨_, _, hpaths, hbefore, hfound⟩
  refine ⟨hscript, (helsewhere _ _ _ (Disk.sameBut_put hnone [] false) ?_).trans hscript⟩
  rw [consulted_eq hpaths hbefore hfound]
  rintro p hp l rfl
  simp only [List.cons_append, List.nil_append, List.mem_cons, List.not_mem_nil, or_false] at hp
  rcases hp with rfl | rfl
  · decide +kernel
  · decide +kernel

end AgentConsole.Agent
