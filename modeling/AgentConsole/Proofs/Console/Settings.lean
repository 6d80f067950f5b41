import AgentConsole.Console.CommandLine
import AgentConsole.Proofs.Console.Arguments
import AgentConsole.Proofs.Setup.Expansion
import AgentConsole.Proofs.Setup.Lists

/-!
# Where settings come from

A setting is read from its option, else from its variable, else it is the default
(`settings_of_layers`), and its text is read once, though the variable is looked at twice
(`getD_layers`). It depends on nothing but its text and what that refers to (`separate`), and an
option in front of others gives a value to its own parameter only (`readCommandLine_front`).
-/

namespace AgentConsole.Console

open AgentConsole.Text AgentConsole.Setup

variable {args : List String} {c c' : CommandLine} {env other : Environment} {given : Given}

/-! ## Options in front -/

section Front

theorem not_any_of_values {name : String} (h : given.values name = []) :
    ¬given.any (·.1 == name) := by
  rw [Given.values, List.map_eq_nil_iff, List.filter_eq_nil_iff] at h
  rw [List.any_eq_true]
  rintro ⟨e, he, hname⟩
  exact h e he hname

theorem values_of_value? {name : String} (h : given.value? name = none) :
    given.values name = [] := by
  simpa [Given.value?, List.head?_eq_none_iff] using h

/-- The command line that comes of what was given. -/
def lineOf (given : Given) (task : Option Task) : CommandLine where
  verbosity := min (given.values "verbose").length 255
  script := given.value? "script"
  interpreter := given.value? "interpreter"
  extraArguments := given.value? "args"
  roots := given.values "workspace"
  task

/-- The task of a subcommand, if there is one. -/
def taskFrom : Option (String × List String) → Except UsageError (Option Task)
  | none => .ok none
  | some (name, rest) =>
    if name = "help" then .error (helpFor rest) else some <$> readTask name rest

theorem readCommandLine_eq (args : List String) :
    readCommandLine args = readArguments mainGrammar .start args >>= fun r =>
      taskFrom r.2 >>= fun task =>
        r.1.finish mainGrammar >>= fun given => .ok (lineOf given task) := by
  unfold readCommandLine
  refine congrArg _ (funext fun r => ?_)
  rcases r with ⟨s, _ | ⟨name, rest⟩⟩
  · rfl
  · by_cases hname : name = "help" <;> simp only [taskFrom, hname, if_true, if_false] <;> rfl

theorem find?_name_of_mem : ∀ p ∈ mainGrammar.options,
    mainGrammar.options.find? (·.name == p.name) = some p := by
  decide +kernel

/-- A value of an option in front of accepted arguments is given besides what they give. -/
theorem readCommandLine_front {name value : String} {p : Parameter} {kind : ValueKind}
    (hname : '=' ∉ name.toList) (hp : mainGrammar.options.find? (·.name == name) = some p)
    (ha : p.action = .single kind ∨ p.action = .every kind) (hcheck : kind.check value = .ok ())
    (h : readCommandLine args = .ok c) :
    ∃ given, c = lineOf given c.task ∧ (p.action = .every kind ∨ given.values name = [] →
      readCommandLine (("--" ++ name ++ "=" ++ value) :: args) =
        .ok (lineOf ([(name, value)] ++ given) c.task)) := by
  rw [readCommandLine_eq] at h
  obtain ⟨⟨s, subcommand⟩, hread, h⟩ := bind_eq_ok h
  obtain ⟨task, htask, h⟩ := bind_eq_ok h
  obtain ⟨given, hfinish, h⟩ := bind_eq_ok h
  obtain rfl := Except.ok.inj h
  refine ⟨given, rfl, fun hfree => ?_⟩
  have hpname : p.name = name := by simpa using List.find?_some hp
  have hstore : store [] p [value] = .ok [(name, value)] := by
    rcases ha with ha | ha <;>
      simp [store, ha, hcheck, hpname, bind, Except.bind, pure, Except.pure]
  have htakes : p.action.takesValue := by rcases ha with ha | ha <;> simp [ha, Action.takesValue]
  have hfirst := readArgument_attached hname hp htakes hstore
  have hapart : Apart mainGrammar [(name, value)] given := by
    intro q hq kind' hsingle hqname
    obtain rfl : name = q.name := by simpa using hqname
    have hsome := find?_name_of_mem q (by simpa [mainGrammar] using hq)
    obtain rfl : p = q := Option.some.inj (hp.symm.trans hsome)
    rcases hfree with hevery | hvalues
    · rw [hsingle] at hevery
      cases hevery
    · exact not_any_of_values hvalues
  obtain ⟨hw, -, hagain⟩ := readArguments_behind [(name, value)]
    (show Progress.start.Within mainGrammar by simp [Progress.Within, Progress.start]) hread
  obtain ⟨hgrows, hfinally⟩ := finish_behind [(name, value)] hw hfinish
  have hstart : ({ Progress.start with given := [(name, value)] } : Progress) =
      Progress.start.behind [(name, value)] := rfl
  have hnone : "--" ++ name ++ "=" ++ value ∉ mainGrammar.subcommands := by
    intro hmem
    have hdash : ∀ word ∈ mainGrammar.subcommands, word.toList.head? ≠ some '-' := by decide +kernel
    exact hdash _ hmem (by simp)
  rw [readCommandLine_eq, readArguments, if_neg (by simp [hnone]), hfirst, hstart]
  simp only [hagain (hapart.of_prefix hgrows), htask, hfinally hapart, bind, Except.bind]
  rfl

theorem readCommandLine_single {name : String} {p : Parameter} (hname : '=' ∉ name.toList)
    (hp : mainGrammar.options.find? (·.name == name) = some p) (ha : p.action = .single .text)
    (h : readCommandLine args = .ok c) (value : String) :
    ∃ given, c = lineOf given c.task ∧ (given.value? name = none →
      readCommandLine (("--" ++ name ++ "=" ++ value) :: args) =
        .ok (lineOf ((name, value) :: given) c.task)) := by
  obtain ⟨given, hline, hfront⟩ := readCommandLine_front hname hp (.inl ha)
    (rfl : ValueKind.text.check value = .ok ()) h
  exact ⟨given, hline, fun hfree => hfront (.inr (values_of_value? hfree))⟩

theorem accepts_script (h : readCommandLine args = .ok c) (hc : c.script = none) (value : String) :
    readCommandLine (("--script=" ++ value) :: args) = .ok { c with script := some value } := by
  obtain ⟨given, hline, hfront⟩ :=
    readCommandLine_single (by decide : '=' ∉ "script".toList) rfl rfl h value
  rw [hline] at hc ⊢
  simpa [lineOf, Given.value?, Given.values] using hfront hc

theorem accepts_interpreter (h : readCommandLine args = .ok c) (hc : c.interpreter = none)
    (value : String) : readCommandLine (("--interpreter=" ++ value) :: args) =
      .ok { c with interpreter := some value } := by
  obtain ⟨given, hline, hfront⟩ :=
    readCommandLine_single (by decide : '=' ∉ "interpreter".toList) rfl rfl h value
  rw [hline] at hc ⊢
  simpa [lineOf, Given.value?, Given.values] using hfront hc

theorem accepts_arguments (h : readCommandLine args = .ok c) (hc : c.extraArguments = none)
    (value : String) : readCommandLine (("--args=" ++ value) :: args) =
      .ok { c with extraArguments := some value } := by
  obtain ⟨given, hline, hfront⟩ :=
    readCommandLine_single (by decide : '=' ∉ "args".toList) rfl rfl h value
  rw [hline] at hc ⊢
  simpa [lineOf, Given.value?, Given.values] using hfront hc

theorem accepts_root (h : readCommandLine args = .ok c) {value : String} (hv : value ≠ "") :
    readCommandLine (("--workspace=" ++ value) :: args) =
      .ok { c with roots := value :: c.roots } := by
  have hcheck : ValueKind.path.check value = .ok () := by simp [ValueKind.check, hv]
  obtain ⟨given, hline, hfront⟩ := readCommandLine_front (by decide : '=' ∉ "workspace".toList) rfl
    (.inr rfl) hcheck h
  rw [hline]
  simpa [lineOf, Given.value?, Given.values] using hfront (.inl rfl)

end Front

/-! ## Layers -/

/-- A setting that an option, a variable or neither gives a text for. -/
inductive Layered {β : Type} (read : String → β) (default : β) :
    Option String → Option String → β → Prop
  | option (text : String) (value : Option String) :
      Layered read default (some text) value (read text)
  | value (text : String) : Layered read default none (some text) (read text)
  | default : Layered read default none none default

/-- The roots that options, a variable or neither give. -/
inductive LayeredRoots (env : Environment) (cwd : String) :
    List String → Option String → List String → Prop
  | options {roots : List String} (list : Option String) : roots ≠ [] →
      LayeredRoots env cwd roots list (roots.map (expandPath env))
  | value {list : String} : entries list ≠ [] →
      LayeredRoots env cwd [] (some list) ((entries list).map (expandPath env))
  | default {list : Option String} : (∀ text ∈ list, entries text = []) →
      LayeredRoots env cwd [] list [cwd]

/-- The texts that the roots are read from. -/
def rootTexts (c : CommandLine) (env : Environment) : List String :=
  if c.roots = [] then ((env.get? "DEVAGENT_WORKSPACE").map entries).getD [] else c.roots

/-- The environments have the same home and the same values for what the text refers to. -/
def AgreeOn (env other : Environment) (text : String) : Prop :=
  env.home = other.home ∧ ∀ name, RefersTo text name → env.get? name = other.get? name

section Layers

variable (c env)
variable (installDirectory cwd : String)

theorem layered {β : Type} (read : String → β) (default : β) (option value : Option String) :
    Layered read default option value (((option.or value).map read).getD default) := by
  rcases option with _ | text
  · rcases value with _ | text
    · exact .default
    · exact .value text
  · exact .option text value

/-- The value of the variable is read a second time only where it was read already. -/
theorem getD_layers {β : Type} (read : String → β) (default : β) (option value : Option String) :
    ((option.or value).map read).getD ((value.map read).getD default) =
      ((option.or value).map read).getD default := by
  rcases option with _ | text
  · rcases value with _ | text <;> rfl
  · rfl

theorem script_eq : (c.settings env installDirectory cwd).script =
    ((c.script.or (env.get? "DEVAGENT_SCRIPT_PATH")).map (expandPath env)).getD "agent.py" :=
  getD_layers _ _ _ _

theorem interpreter_eq : (c.settings env installDirectory cwd).interpreter =
    ((c.interpreter.or (env.get? "DEVAGENT_INTERPRETER")).map (expandPath env)).getD "python" :=
  getD_layers _ _ _ _

theorem extraArguments_eq : (c.settings env installDirectory cwd).extraArguments =
    ((c.extraArguments.or (env.get? "DEVAGENT_ADDITIONAL_ARGS")).map words).getD [] :=
  getD_layers _ _ _ _

theorem roots_eq :
    (c.settings env installDirectory cwd).roots =
      if rootTexts c env = [] then [cwd] else (rootTexts c env).map (expandPath env) := by
  have hbase : (Settings.ofEnvironment env installDirectory).roots =
      (((env.get? "DEVAGENT_WORKSPACE").map entries).getD []).map (expandPath env) := by
    rcases hw : env.get? "DEVAGENT_WORKSPACE" with _ | list <;>
      simp [Settings.ofEnvironment, Settings.default, hw, parseRoots_eq]
  rw [CommandLine.settings, hbase, rootTexts]
  by_cases hc : c.roots = []
  · simp [hc]
  · simp [hc]

theorem roots_of_layers :
    LayeredRoots env cwd c.roots (env.get? "DEVAGENT_WORKSPACE")
      (c.settings env installDirectory cwd).roots := by
  rw [roots_eq, rootTexts]
  by_cases hc : c.roots = []
  · rw [hc, if_pos rfl]
    rcases hw : env.get? "DEVAGENT_WORKSPACE" with _ | list
    · exact .default (by simp)
    · by_cases he : entries list = []
      · simpa [he] using .default (by simpa using he)
      · simpa [he] using .value he
  · simpa [hc] using .options _ hc

variable {c env installDirectory cwd}

theorem map_expandPath_congr {texts : List String} (h : ∀ text ∈ texts, AgreeOn env other text) :
    texts.map (expandPath env) = texts.map (expandPath other) :=
  List.map_congr_left fun text ht => expandPath_congr (h text ht).1 (h text ht).2

theorem option_map_expandPath_congr {text : Option String}
    (h : ∀ t ∈ text, AgreeOn env other t) :
    text.map (expandPath env) = text.map (expandPath other) := by
  rcases text with _ | t
  · rfl
  · exact congrArg some (expandPath_congr (h t rfl).1 (h t rfl).2)

theorem roots_ne_nil : (c.settings env installDirectory cwd).roots ≠ [] := by
  rw [roots_eq]
  split_ifs with h <;> simp [h]

end Layers

/-- Settings that come of a command line and an environment, each by its own layers. -/
structure LayeredSettings (c : CommandLine) (env : Environment) (installDirectory cwd : String)
    (s : Settings) : Prop where
  script : Layered (expandPath env) "agent.py" c.script (env.get? "DEVAGENT_SCRIPT_PATH") s.script
  interpreter : Layered (expandPath env) "python" c.interpreter (env.get? "DEVAGENT_INTERPRETER")
    s.interpreter
  extraArguments : Layered
    (fun text => ((text.toList.splitOnP isBlank).filter (!·.isEmpty)).map String.ofList) []
    c.extraArguments (env.get? "DEVAGENT_ADDITIONAL_ARGS") s.extraArguments
  roots : LayeredRoots env cwd c.roots (env.get? "DEVAGENT_WORKSPACE") s.roots
  some_root : s.roots ≠ []
  timeout : s.timeout = 30000
  installDirectory : s.installDirectory = installDirectory
  requestDirectory : s.requestDirectory = defaultRequestDirectory env

theorem settings_of_layers (c : CommandLine) (env : Environment) (installDirectory cwd : String) :
    LayeredSettings c env installDirectory cwd (c.settings env installDirectory cwd) where
  script := by
    rw [script_eq]
    exact layered ..
  interpreter := by
    rw [interpreter_eq]
    exact layered ..
  extraArguments := by
    rw [extraArguments_eq]
    simp only [funext words_eq]
    exact layered ..
  roots := roots_of_layers ..
  some_root := roots_ne_nil
  timeout := rfl
  installDirectory := rfl
  requestDirectory := rfl

/-- Each setting is the same under another command line and environment if its own text is, and the
variables that text refers to. -/
structure Separate (c c' : CommandLine) (env other : Environment) (s s' : Settings) : Prop where
  script : c'.script.or (other.get? "DEVAGENT_SCRIPT_PATH") =
      c.script.or (env.get? "DEVAGENT_SCRIPT_PATH") →
    (∀ text ∈ c.script.or (env.get? "DEVAGENT_SCRIPT_PATH"), AgreeOn env other text) →
    s'.script = s.script
  interpreter : c'.interpreter.or (other.get? "DEVAGENT_INTERPRETER") =
      c.interpreter.or (env.get? "DEVAGENT_INTERPRETER") →
    (∀ text ∈ c.interpreter.or (env.get? "DEVAGENT_INTERPRETER"), AgreeOn env other text) →
    s'.interpreter = s.interpreter
  extraArguments : c'.extraArguments.or (other.get? "DEVAGENT_ADDITIONAL_ARGS") =
      c.extraArguments.or (env.get? "DEVAGENT_ADDITIONAL_ARGS") →
    s'.extraArguments = s.extraArguments
  roots : rootTexts c' other = rootTexts c env →
    (∀ text ∈ rootTexts c env, AgreeOn env other text) → s'.roots = s.roots

theorem separate (c c' : CommandLine) (env other : Environment) (installDirectory cwd : String) :
    Separate c c' env other (c.settings env installDirectory cwd)
      (c'.settings other installDirectory cwd) where
  script := fun hsame hagree => by
    rw [script_eq, script_eq, hsame, option_map_expandPath_congr hagree]
  interpreter := fun hsame hagree => by
    rw [interpreter_eq, interpreter_eq, hsame, option_map_expandPath_congr hagree]
  extraArguments := fun hsame => by rw [extraArguments_eq, extraArguments_eq, hsame]
  roots := fun hsame hagree => by rw [roots_eq, roots_eq, hsame, map_expandPath_congr hagree]

/-- Options in front of arguments give a value to their own parameter and no other. -/
structure Extensible (args : List String) (c : CommandLine) : Prop where
  script : c.script = none → ∀ value,
    readCommandLine (("--script=" ++ value) :: args) = .ok { c with script := some value }
  interpreter : c.interpreter = none → ∀ value,
    readCommandLine (("--interpreter=" ++ value) :: args) = .ok { c with interpreter := some value }
  extraArguments : c.extraArguments = none → ∀ value,
    readCommandLine (("--args=" ++ value) :: args) = .ok { c with extraArguments := some value }
  roots : ∀ value, value ≠ "" →
    readCommandLine (("--workspace=" ++ value) :: args) = .ok { c with roots := value :: c.roots }

/-- Each setting is read from its option, else from its variable, else it is the default, and its
text is expanded or cut into words once. It depends on nothing but that text and the variables that
the text refers to, and an option in front of accepted arguments is accepted for its own setting
and no other. -/
theorem settings_layered (h : readCommandLine args = .ok c) (env : Environment)
    (installDirectory cwd : String) :
    LayeredSettings c env installDirectory cwd (c.settings env installDirectory cwd) ∧
    (∀ c' other, Separate c c' env other (c.settings env installDirectory cwd)
      (c'.settings other installDirectory cwd)) ∧
    Extensible args c := by
  refine ⟨settings_of_layers .., fun c' other => separate .., ?_⟩
  exact ⟨accepts_script h, accepts_interpreter h, accepts_arguments h, fun _ => accepts_root h⟩

/-- Variables for every setting, two of them with references. -/
def layeredEnvironment : Environment :=
  ⟨[("DEVAGENT_SCRIPT_PATH", "s.py"), ("DEVAGENT_INTERPRETER", "$A"), ("A", "$B"),
    ("DEVAGENT_WORKSPACE", ":$A::~")], "/h"⟩

/-- Two roots and a script, without a task. -/
def layeredLine : CommandLine :=
  ⟨1, some "$A/x", none, none, ["~", "a:b"], none⟩

theorem settings_layered_sample :
    readCommandLine ["-vw", "~", "--script", "$A/x", "-wa:b"] = .ok layeredLine ∧
    readCommandLine ["--workspace=c", "-vw", "~", "--script", "$A/x", "-wa:b"] =
      .ok { layeredLine with roots := ["c", "~", "a:b"] } ∧
    ({ layeredLine with roots := [] }.settings layeredEnvironment "/i" "/w").roots = ["$B", "/h"] ∧
    layeredLine.settings layeredEnvironment "/i" "/w" =
      ⟨"$B/x", "$B", [], 30000, ["/h", "a:b"], "/i", "/tmp/dev-agent"⟩ := by
  have hread : readCommandLine ["-vw", "~", "--script", "$A/x", "-wa:b"] = .ok layeredLine := by
    decide +kernel
  obtain ⟨-, -, hfront⟩ := settings_layered hread layeredEnvironment "/i" "/w"
  exact ⟨hread, hfront.roots "c" (by decide), by decide +kernel, by decide +kernel⟩

end AgentConsole.Console
