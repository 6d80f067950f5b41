import AgentConsole.Agent.Script
import AgentConsole.Proofs.Files.Disk
import AgentConsole.Proofs.Files.Path
import AgentConsole.Proofs.Setup.Lists

/-!
# Which interpreter runs

An interpreter with a slash in it stays as it is (`resolveInterpreter_of_mem`). Most of them are
paths of several steps; what is left ends in a slash or in a dot, and though it is looked for along
the search path, no program is ever found there. A name without a slash is in the first directory
of the search path that has a program of this name (`resolveInterpreter_eq_iff`).
-/

namespace AgentConsole.Agent

open AgentConsole.Files AgentConsole.Setup

variable {d : Disk} {env : Environment} {name program entry home path : String}

theorem not_hasProgram_join (directory : String) (ha : isAbsolute name = false)
    (hl : (components name).length ≤ 1) (hs : '/' ∈ name.toList) :
    d.hasProgram (join directory name) = false := by
  have hn : name ≠ "" := by
    rintro rfl
    simp at hs
  apply Disk.hasProgram_eq_false
  rw [getLast?_join directory hn]
  by_cases hd : directory = ""
  · have hjoin : join directory name = name := by simp [join, hd]
    rw [hjoin]
    exact ends_of_length_components ha hl hs
  · rw [segments_join_of_relative hd ha,
      List.getLast?_append_of_ne_nil _ (segments_ne_nil hn ha)]
    exact ends_of_length_components ha hl hs

theorem resolveInterpreter_of_mem (hs : '/' ∈ name.toList) :
    resolveInterpreter d env name = name := by
  unfold resolveInterpreter
  split_ifs with hb
  · rw [isBareName, Bool.and_eq_true, Bool.not_eq_true', decide_eq_true_eq] at hb
    have hnone : ((searchPath env).map (join · name)).find? d.hasProgram = none := by
      rw [List.find?_eq_none]
      intro p hp
      obtain ⟨directory, -, rfl⟩ := List.mem_map.1 hp
      simp [not_hasProgram_join directory hb.1 hb.2 hs]
    rw [hnone, Option.getD_none]
  · rfl

/-- A name without a slash is no more than one step. -/
theorem isBareName_of_not_mem (hs : '/' ∉ name.toList) : isBareName name = true := by
  have ha := isAbsolute_of_not_mem hs
  rw [isBareName, ha, Bool.not_false, Bool.true_and, decide_eq_true_eq]
  by_cases hn : name = ""
  · subst hn
    decide
  · rw [length_components ha (segments_of_not_mem hn hs)]
    simp

/-- The first of the directories that has a program of this name. -/
def IsFirstWith (d : Disk) (name : String) (directories : List String) (directory : String) :
    Prop :=
  ∃ before after, directories = before ++ directory :: after ∧
    (∀ other ∈ before, d.hasProgram (join other name) = false) ∧
    d.hasProgram (join directory name) = true

theorem find?_join_eq_some_iff {directories : List String} :
    (directories.map (join · name)).find? d.hasProgram = some program ↔
      ∃ directory, IsFirstWith d name directories directory ∧ program = join directory name := by
  rw [List.find?_map, Option.map_eq_some_iff]
  refine exists_congr fun directory => ?_
  rw [List.find?_eq_some_iff_append, IsFirstWith]
  constructor
  · rintro ⟨⟨hp, before, after, rfl, hb⟩, rfl⟩
    exact ⟨⟨before, after, rfl, fun other ho => by simpa using hb other ho, hp⟩, rfl⟩
  · rintro ⟨⟨before, after, rfl, hb, hp⟩, rfl⟩
    exact ⟨⟨hp, before, after, rfl, fun other ho => by simpa using hb other ho⟩, rfl⟩

theorem resolveInterpreter_eq_iff (hs : '/' ∉ name.toList) :
    resolveInterpreter d env name = program ↔
      (∃ directory, IsFirstWith d name (searchPath env) directory ∧ program = join directory name) ∨
      program = name ∧
        ∀ directory ∈ searchPath env, d.hasProgram (join directory name) = false := by
  rw [resolveInterpreter, if_pos (isBareName_of_not_mem hs), ← find?_join_eq_some_iff]
  rcases hf : ((searchPath env).map (join · name)).find? d.hasProgram with _ | found
  · have hnone : ∀ directory ∈ searchPath env, d.hasProgram (join directory name) = false := by
      simpa using hf
    constructor
    · rintro rfl
      exact .inr ⟨rfl, hnone⟩
    · rintro (h | ⟨rfl, -⟩)
      · cases h
      · rfl
  · have hsome : ¬∀ directory ∈ searchPath env, d.hasProgram (join directory name) = false := by
      intro hnone
      have hp := List.find?_some hf
      obtain ⟨directory, hd, rfl⟩ := List.mem_map.1 (List.mem_of_find?_eq_some hf)
      rw [hnone directory hd] at hp
      cases hp
    simp [hsome]

section Tilde

theorem searchEntry_of_homeless (h : env.homeVariable? = none) (entry : String) :
    searchEntry env entry = entry := by
  unfold searchEntry
  rw [h]
  split <;> simp_all

theorem foldl_join_steps (steps : List String) (home : String) :
    (steps.filterMap step?).foldl (fun path step => join path step.text) home =
      (steps.filter (· ≠ ".")).foldl join home := by
  induction steps generalizing home with
  | nil => rfl
  | cons step steps ih =>
    by_cases hdot : step = "."
    · simpa [step?, hdot] using ih home
    · obtain ⟨c, hc, ht⟩ : ∃ c, step? step = some c ∧ c.text = step := by
        by_cases hdots : step = ".." <;> simp [step?, hdot, hdots, Component.text]
      rw [List.filterMap_cons_some hc, List.foldl_cons, ht, ih, List.filter_cons_of_pos (by simpa),
        List.foldl_cons]

/-- A tilde and a slash lead home, and what is behind them from there. -/
theorem searchEntry_tilde (h : env.homeVariable? = some home) (rest : String) :
    searchEntry env ("~/" ++ rest) = ((segments rest).filter (· ≠ ".")).foldl join home := by
  have hsegments : segments ("~/" ++ rest) = "~" :: segments rest := by
    have htilde : segments "~" = ["~"] := by decide
    rw [show ("~/" : String) = "~" ++ "/" from rfl, segments_append, htilde, List.singleton_append]
  have hcomponents : components ("~/" ++ rest) =
      .normal "~" :: (segments rest).filterMap step? := by
    have ha : isAbsolute ("~/" ++ rest) = false := by simp [isAbsolute]
    rw [components, ha, hsegments]
    simp [step?]
  rw [searchEntry, hcomponents, h]
  exact foldl_join_steps _ home

/-- An entry that does not start with a tilde and a slash stands for itself. -/
theorem searchEntry_of_plain (hn : entry ≠ "~") (ht : ¬['~', '/'] <+: entry.toList) :
    searchEntry env entry = entry := by
  unfold searchEntry
  split
  · rename_i hc _
    exact ((eq_or_prefix_of_components hc).elim hn ht).elim
  · rfl

end Tilde

theorem searchPath_eq (h : env.get? "PATH" = some path) :
    searchPath env = (path.toList.splitOn ':').map fun entry =>
      searchEntry env (String.ofList entry) := by
  rw [searchPath, h]
  simp only [betweenColons_eq_splitOn]

theorem searchPath_of_unset (h : env.get? "PATH" = none) : searchPath env = [] := by
  rw [searchPath, h]

/-- An interpreter with a slash in it stays as it is. Any other is what comes of joining it to the
first directory of the search path that has a program of this name, and stays as it is if there is
none. The directories are what stands between the colons of `PATH`, in order, but for a tilde that
is a first step: it leads to the directory that `HOME` names, if it names any. -/
theorem interpreter_of_name (d : Disk) (env : Environment) (name : String) :
    ('/' ∈ name.toList → resolveInterpreter d env name = name) ∧
    ('/' ∉ name.toList → ∀ program, resolveInterpreter d env name = program ↔
      (∃ directory, IsFirstWith d name (searchPath env) directory ∧ program = join directory name) ∨
      program = name ∧ ∀ directory ∈ searchPath env, d.hasProgram (join directory name) = false) ∧
    (env.get? "PATH" = none → searchPath env = []) ∧
    (∀ path, env.get? "PATH" = some path → searchPath env =
      (path.toList.splitOn ':').map fun entry => searchEntry env (String.ofList entry)) ∧
    (∀ entry, entry ≠ "~" → ¬['~', '/'] <+: entry.toList → searchEntry env entry = entry) ∧
    (env.homeVariable? = none → ∀ entry, searchEntry env entry = entry) ∧
    ∀ home, env.homeVariable? = some home → searchEntry env "~" = home ∧
      ∀ rest, searchEntry env ("~/" ++ rest) =
        ((segments rest).filter (· ≠ ".")).foldl join home := by
  refine ⟨resolveInterpreter_of_mem, fun hs _ => resolveInterpreter_eq_iff hs, searchPath_of_unset,
    fun _ h => searchPath_eq h, fun _ => searchEntry_of_plain, searchEntry_of_homeless,
    fun home h => ⟨?_, searchEntry_tilde h⟩⟩
  have hcomponents : components "~" = [.normal "~"] := by decide
  rw [searchEntry, hcomponents, h]
  rfl

/-- Two programs of one name, one of them below a directory that is called like a tilde. -/
def tildeDisk : Disk :=
  ⟨[(["h"], .directory), (["h", "b"], .directory), (["h", "b", "run"], .file [] true),
    (["~"], .directory), (["~", "b"], .directory), (["~", "b", "run"], .file [] true)], []⟩

theorem interpreter_of_name_sample :
    resolveInterpreter tildeDisk ⟨[("PATH", "x:h/b:~/b")], "/"⟩ "run/." = "run/." ∧
    resolveInterpreter tildeDisk ⟨[("PATH", "x:h/b:~/b")], "/"⟩ "run" = "h/b/run" ∧
    resolveInterpreter tildeDisk ⟨[("PATH", "~/./b"), ("HOME", "h")], "/"⟩ "run" = "h/b/run" ∧
    resolveInterpreter tildeDisk ⟨[], "/"⟩ "run" = "run" := by
  have hslash : '/' ∉ "run".toList := by decide +kernel
  have hx : tildeDisk.hasProgram (join "x" "run") = false := by decide +kernel
  have hfound : tildeDisk.hasProgram (join "h/b" "run") = true := by decide +kernel
  refine ⟨?_, ?_, ?_, ?_⟩
  · exact (interpreter_of_name _ _ "run/.").1 (by decide +kernel)
  · obtain ⟨-, hname, -, hpath, -, hself, -⟩ :=
      interpreter_of_name tildeDisk ⟨[("PATH", "x:h/b:~/b")], "/"⟩ "run"
    have hentries := hpath "x:h/b:~/b" (by decide +kernel)
    simp only [hself (by decide +kernel)] at hentries
    rw [show ("x:h/b:~/b".toList.splitOn ':').map String.ofList = ["x"] ++ "h/b" :: ["~/b"] by
      decide +kernel] at hentries
    exact (hname hslash "h/b/run").2
      (.inl ⟨"h/b", ⟨_, _, hentries, by simpa using hx, hfound⟩, by decide +kernel⟩)
  · obtain ⟨-, hname, -, hpath, -, -, hhome⟩ :=
      interpreter_of_name tildeDisk ⟨[("PATH", "~/./b"), ("HOME", "h")], "/"⟩ "run"
    have hentries := hpath "~/./b" (by decide +kernel)
    have hentry := (hhome "h" (by decide +kernel)).2 "./b"
    rw [show ((segments "./b").filter (· ≠ ".")).foldl join "h" = "h/b" by decide +kernel] at hentry
    rw [show ("~/./b".toList.splitOn ':') = [("~/" ++ "./b").toList] by decide +kernel,
      List.map_singleton, String.ofList_toList, hentry] at hentries
    exact (hname hslash "h/b/run").2
      (.inl ⟨"h/b", ⟨[], [], hentries, by simp, hfound⟩, by decide +kernel⟩)
  · obtain ⟨-, hname, hunset, -⟩ := interpreter_of_name tildeDisk ⟨[], "/"⟩ "run"
    have hnone := hunset (by decide +kernel)
    exact (hname hslash "run").2 (.inr ⟨rfl, by simp [hnone]⟩)

/-- An entry with a tilde in front is not where the program is looked for, even if one is there. -/
theorem tilde_entry_leads_home :
    tildeDisk.hasProgram (join "~/b" "run") = true ∧
    resolveInterpreter tildeDisk ⟨[("PATH", "~/b"), ("HOME", "h")], "/"⟩ "run" = "h/b/run" ∧
    join "~/b" "run" ≠ "h/b/run" := by
  decide +kernel

end AgentConsole.Agent
