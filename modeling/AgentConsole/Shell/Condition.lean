import AgentConsole.Files.Disk
import AgentConsole.Shell.Integer
import AgentConsole.Shell.OctetText

/-!
# Conditions

What `test` says of its arguments: comparisons of texts and numbers, questions about files, and
these joined by signs for not, and, and or and by parentheses. The arguments are gone through from
left to right; what each of them is depends on those behind it (`lexeme`).
-/

namespace AgentConsole.Shell

open AgentConsole.Files

/-- What an argument of a condition is. -/
inductive Lexeme where
  | ending
  | operand
  /-- A question about the argument after it. -/
  | unary
  /-- A comparison of the arguments around it. -/
  | binary
  | negation
  | both
  | either
  | opening
  | closing
  deriving DecidableEq, Repr

/-- What an argument is by itself. -/
def lexemeOf (a : String) : Lexeme :=
  if ["-r", "-w", "-x", "-e", "-f", "-d", "-c", "-b", "-p", "-u", "-g", "-k", "-s", "-t", "-z",
      "-n", "-h", "-O", "-G", "-L", "-S"].contains a then .unary
  else if ["=", "!=", "<", ">", "-eq", "-ne", "-ge", "-gt", "-le", "-lt", "-nt", "-ot",
      "-ef"].contains a then .binary
  else
    match a with
    | "!" => .negation
    | "-a" => .both
    | "-o" => .either
    | "(" => .opening
    | ")" => .closing
    | _ => .operand

/-- What the first argument is before those behind it: a question without an argument, or before a
comparison, is a text. -/
def lexeme (arguments : List String) : Lexeme :=
  match arguments with
  | [] => .ending
  | a :: rest =>
    match lexemeOf a, rest with
    | .unary, [] => .operand
    | .unary, b :: _ :: _ => if lexemeOf b = .binary then .operand else .unary
    | .opening, [] => .operand
    | l, _ => l

/-- A number among the arguments. -/
def numberArgument (a : String) : Except String Int :=
  match integer? false a with
  | some n => .ok n
  | none => .error ("Illegal number: " ++ a)

/-- Compares two arguments by the sign between them. -/
def compareBy (d : Disk) (a sign b : String) : Except String Bool :=
  let numbers (f : Int → Int → Bool) : Except String Bool := do
    return f (← numberArgument a) (← numberArgument b)
  match sign with
  | "=" => .ok (a = b)
  | "!=" => .ok (a ≠ b)
  | "<" => .ok (a < b)
  | ">" => .ok (b < a)
  | "-eq" => numbers fun m n => m = n
  | "-ne" => numbers fun m n => m ≠ n
  | "-lt" => numbers fun m n => m < n
  | "-le" => numbers fun m n => m ≤ n
  | "-gt" => numbers fun m n => m > n
  | "-ge" => numbers fun m n => m ≥ n
  | "-ef" =>
    match d.find (unspell a), d.find (unspell b) with
    | .ok l, .ok l' => .ok (l = l')
    | _, _ => .ok false
  | _ => .ok false

/-- Answers a question about an argument. -/
def answer (d : Disk) (sign a : String) : Except String Bool :=
  let path := unspell a
  match sign with
  | "-n" => .ok (!a.isEmpty)
  | "-z" => .ok a.isEmpty
  | "-e" | "-r" | "-w" | "-O" | "-G" => .ok (d.has path)
  | "-f" => .ok (d.hasFile path)
  | "-d" => .ok (d.hasDirectory path)
  | "-x" => .ok (d.hasProgram path || d.hasDirectory path)
  | "-s" =>
    .ok (match d.entry? path with
      | some (.file octets _) => !octets.isEmpty
      | some .directory => true
      | _ => false)
  | "-c" => .ok (d.entry? path == some .sink)
  | "-t" => (numberArgument a).map fun _ => false
  | _ => .ok false

/-- Asking, over the arguments from the one under way on, up to a complaint. -/
abbrev Ask := StateT (List String) (Except String)

/-- What the argument after so many others is. -/
def lexemeAfter (count : Nat) : Ask Lexeme :=
  return lexeme ((← get).drop count)

/-- Goes on by so many arguments. -/
def goOn (count : Nat) : Ask Unit :=
  modify (·.drop count)

/-- Stops with a complaint about a sign. -/
def noSense {α : Type} (sign words : String) : Ask α :=
  throw (if sign.isEmpty then words else sign ++ ": " ++ words)

mutual

/-- Terms joined by `-o`; each is left at its last argument. -/
def anyOf (d : Disk) : Nat → Ask Bool
  | 0 => return false
  | fuel + 1 => do
    let first ← allOf d fuel
    if (← lexemeAfter 1) = .either then
      goOn 2
      return (← anyOf d fuel) || first
    else return first

/-- Terms joined by `-a`. -/
def allOf (d : Disk) : Nat → Ask Bool
  | 0 => return false
  | fuel + 1 => do
    let first ← oneOf d fuel (← lexemeAfter 0)
    if (← lexemeAfter 1) = .both then
      goOn 2
      return (← allOf d fuel) && first
    else return first

/-- One term, whose first argument is known. -/
def oneOf (d : Disk) : Nat → Lexeme → Ask Bool
  | 0, _ => return false
  | fuel + 1, l => do
    match l with
    | .ending => return false
    | .negation =>
      let next ← lexemeAfter 1
      if next ≠ .ending then goOn 1
      return !(← oneOf d fuel next)
    | .opening =>
      goOn 1
      if (← lexemeAfter 0) = .closing then return false
      else
        let inside ← anyOf d fuel
        goOn 1
        if (← lexemeAfter 0) = .closing then return inside
        else noSense "" "closing paren expected"
    | .unary =>
      match ← get with
      | sign :: a :: rest =>
        set (a :: rest)
        answer d sign a
      | arguments => noSense (arguments.headD "") "argument expected"
    | _ =>
      match ← get with
      | a :: sign :: rest =>
        if (← lexemeAfter 1) = .binary then
          match rest with
          | b :: _ =>
            set rest
            compareBy d a sign b
          | [] => noSense sign "argument expected"
        else return !a.isEmpty
      | arguments => return arguments.any (!·.isEmpty)

end

/-- Whether a condition holds; `found` is what comes out if the arguments hold. -/
def holdsAs (d : Disk) : Nat → Bool → List String → Except String Bool
  | 0, _, _ => .ok false
  | fuel + 1, found, arguments =>
    let isBinary := arguments.length = 3 &&
      (arguments[1]?).any fun sign => lexemeOf sign = .binary
    let few := arguments.length = 3 || arguments.length = 4
    if arguments.isEmpty then .ok (!found)
    else if few && !isBinary && arguments.head? = some "(" && arguments.getLast? = some ")" then
      holdsAs d fuel found (arguments.tail.dropLast)
    else if few && !isBinary && arguments.head? = some "!" then
      holdsAs d fuel false arguments.tail
    else do
      let first := if isBinary then Lexeme.operand else lexeme arguments
      let fuel := 4 * arguments.length + 4
      let whole : Ask Bool := do
        let one ← oneOf d fuel first
        let all ←
          if (← lexemeAfter 1) = .both then do
            goOn 2
            pure ((← allOf d fuel) && one)
          else pure one
        if (← lexemeAfter 1) = .either then do
          goOn 2
          return (← anyOf d fuel) || all
        else return all
      let (answer, rest) ← whole.run arguments
      match rest with
      | sign :: _ :: _ => throw (if sign.isEmpty then "unexpected operator"
          else sign ++ ": unexpected operator")
      | _ => return answer == found

/-- Whether a condition holds. -/
def holds (d : Disk) (arguments : List String) : Except String Bool :=
  holdsAs d (arguments.length + 1) true arguments

end AgentConsole.Shell
