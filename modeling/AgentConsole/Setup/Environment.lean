/-!
# The environment

The variables a program is started with, and the home directory its account has when none of them
says otherwise.
-/

namespace AgentConsole.Setup

/-- The variables of a program and the home directory of its account. -/
structure Environment where
  bindings : List (String × String)
  accountHome : String
  deriving Repr

namespace Environment

/-- No variable can have this name. -/
def isImpossible (name : String) : Bool :=
  name.isEmpty || name.toList.any fun c => c = '=' || c = Char.ofNat 0

/-- The value of a variable that is set, to the empty text perhaps. -/
def get? (env : Environment) (name : String) : Option String :=
  if isImpossible name then none else env.bindings.lookup name

/-- Sets a variable. -/
def set (env : Environment) (name value : String) : Environment :=
  { env with bindings := (name, value) :: env.bindings.filter (·.1 ≠ name) }

/-- The variables of a block of them, in which every one ends in the character NUL. -/
def ofBlock (accountHome block : String) : Environment :=
  let entries := (block.split (· = Char.ofNat 0)).toList.map (·.toString.toList)
  let named := entries.filterMap fun cs =>
    let name := cs.takeWhile (· ≠ '=')
    match cs.drop name.length with
    | [] => none
    | _ :: value => some (String.ofList name, String.ofList value)
  ⟨named, accountHome⟩

/-- The value of `HOME`, if it is set to something. -/
def homeVariable? (env : Environment) : Option String :=
  (env.get? "HOME").filter (!·.isEmpty)

/-- The home directory. -/
def home (env : Environment) : String :=
  (env.homeVariable?).getD env.accountHome

end Environment

end AgentConsole.Setup
