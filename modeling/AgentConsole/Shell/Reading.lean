import AgentConsole.Shell.WordReading

/-!
# Reading scripts

A script is read one complete line at a time (`nextLine`), since a line is carried out before the
next one is looked at. The functions that call each other count down from a number that no script
reaches.
-/

namespace AgentConsole.Shell

/-- What is looked at beyond the tokens themselves. -/
structure Outlook where
  /-- The ends of lines are passed over. -/
  newlines : Bool := false
  keywords : Bool := false
  aliases : Bool := false

/-- Where a command can start. -/
def Outlook.command : Outlook :=
  { keywords := true, aliases := true }

/-- Where a command can start, in this line or in one of the next. -/
def Outlook.anyLine : Outlook :=
  { newlines := true, keywords := true, aliases := true }

/-- The signs that connect descriptors, longer ones first. -/
def redirectSigns : List String :=
  ["<<-", "<<", "<&", "<>", "<", ">>", ">&", ">|", ">"]

/-- Passes over a sign, whose characters may be on continued lines. -/
def acceptSign (sign : String) : Read Bool := do
  let start ← get
  let found ← sign.toList.allM accept
  if !found then set start
  return found

/-- Puts a token back. -/
def putBack (token : Token) : Read Unit :=
  modify fun c => { c with pushed := some token }

/-- The start of a redirection, if one comes next. -/
def redirectStart? : Read (Option Token) := do
  let start ← get
  let digits ← passWhile Char.isDigit 1 []
  match ← redirectSigns.findM? acceptSign with
  | some sign =>
    let usual := if sign.startsWith "<" then 0 else 1
    return some (.redirect (digits.foldl (fun _ c => c.toNat - '0'.toNat) usual) sign)
  | none =>
    set start
    return none

/-- The next token as it is written. -/
def scanToken (nested : Read Command) (fuel : Nat) : Read Token := do
  skipBlanks ((← left).length + 1)
  match ← ["&&", "||", ";;", "&", "|", ";", "(", ")"].findM? acceptSign with
  | some sign => return .operator sign
  | none =>
    match ← left with
    | [] => return .ending
    | '\n' :: _ =>
      pass 1
      return .newline
    | _ =>
      match ← redirectStart? with
      | some token => return token
      | none =>
        return .word (← readParts nested fuel { place := .word, quoted := false } 0 [])

/-- The next token. -/
def readToken (nested : Read Command) (outlook : Outlook) : Nat → Read Token
  | 0 => tooDeep
  | fuel + 1 => do
    modify fun c => { c with aliasNext := false }
    let token ←
      match (← get).pushed with
      | some token =>
        modify fun c => { c with pushed := none }
        pure token
      | none => scanToken nested fuel
    match token with
    | .newline =>
      if outlook.newlines then
        readDocuments nested fuel
        readToken nested outlook fuel
      else return token
    | .word w =>
      match plainText? w with
      | none => return token
      | some text =>
        let c ← get
        if outlook.keywords && reserved.contains text then return .reserved text
        else if !(outlook.aliases || c.aliasNext) then return token
        else
          match c.aliases.lookup text with
          | none => return token
          | some value =>
            if c.underWay.any (·.1 = text) then return token
            else
              if !value.isEmpty then
                let goesOn := value.endsWith " " || value.endsWith "\t"
                set { c with
                  rest := value.toList ++ aliasEnd :: c.rest
                  underWay := (text, goesOn) :: c.underWay }
              readToken nested outlook fuel
    | _ => return token

/-- Stops unless the next token is a certain one, which is passed over. -/
def expectToken (nested : Read Command) (fuel : Nat) (outlook : Outlook)
    (isRight : Token → Bool) (label : String) : Read Unit := do
  let token ← readToken nested outlook fuel
  if isRight token then return () else unexpected token label

/-- The token is a reserved word. -/
def Token.isReserved (word : String) : Token → Bool
  | .reserved w => w = word
  | _ => false

/-- The token is an operator. -/
def Token.isOperator (sign : String) : Token → Bool
  | .operator s => s = sign
  | _ => false

/-- The token ends a list of commands where one is nested in another. -/
def Token.endsList : Token → Bool
  | .ending => true
  | .operator sign => sign = ")" || sign = ";;"
  | .reserved w => ["\x7d", "do", "done", "elif", "else", "esac", "fi", "then"].contains w
  | _ => false

/-- Reads what a redirection connects to, after its sign. -/
def readTarget (nested : Read Command) (fuel descriptor : Nat) (sign : String) :
    Read Redirect := do
  let make (kind : RedirectKind) : Read Redirect := do
    match ← readToken nested {} fuel with
    | .word w => return .mk descriptor kind w
    | token => unexpected token
  match sign with
  | "<" => make .read
  | ">" => make .write
  | ">|" => make .overwrite
  | ">>" => make .append
  | "<>" => make .update
  | "<&" | ">&" => make .duplicate
  | _ =>
    skipBlanks ((← left).length + 1)
    match ← left with
    | [] => unexpected .ending
    | '\n' :: _ => unexpected .newline
    | c :: _ =>
      if isMeta c then unexpected (← scanToken nested fuel)
      let w ← readParts nested fuel { place := .word, quoted := false, literal := true } 0 []
      let (mark, verbatim) := literalText w
      let number := (← get).fresh
      modify fun c =>
        { c with
          fresh := number + 1
          awaited := c.awaited ++ [⟨number, mark, verbatim, sign = "<<-"⟩] }
      return .mk descriptor (.document number) []

/-- Reads the redirections that follow a command. -/
def readRedirects (nested : Read Command) : Nat → List Redirect → Read (List Redirect)
  | 0, _ => tooDeep
  | fuel + 1, done => do
    match ← readToken nested .command fuel with
    | .redirect descriptor sign =>
      let r ← readTarget nested fuel descriptor sign
      readRedirects nested fuel (r :: done)
    | token =>
      putBack token
      return done.reverse

/-- The words up to another token, and that. -/
def readWords (nested : Read Command) : Nat → List Word → Read (List Word × Token)
  | 0, _ => tooDeep
  | fuel + 1, done => do
    match ← readToken nested {} fuel with
    | .word w => readWords nested fuel (w :: done)
    | token => return (done.reverse, token)

/-- The patterns of a case, up to its parenthesis. -/
def readPatterns (nested : Read Command) : Nat → Token → List Word → Read (List Word)
  | 0, _, _ => tooDeep
  | fuel + 1, first, done => do
    let pattern : Word :=
      match first with
      | .word w => w
      | .reserved word => [.text word.toList false]
      | _ => []
    match ← readToken nested {} fuel with
    | .operator "|" =>
      let next ← readToken nested {} fuel
      readPatterns nested fuel next (pattern :: done)
    | .operator ")" => return (pattern :: done).reverse
    | token => unexpected token "\")\""

/-- The names of built-in commands that no function can have. -/
def specialBuiltins : List String :=
  [":", "break", "continue", "eval", "exec", "exit", "export", "readonly", "return", "set",
    "shift", "times", "trap", "unset", ".", "local"]

/-- How far a list of commands goes. -/
inductive Extent where
  /-- To the end of the line. -/
  | line
  /-- To what ends it, which has to be there; it has at least one command. -/
  | body
  /-- To what ends it, and it may be empty. -/
  | rest
  deriving DecidableEq, Repr

mutual

/-- Reads a list of commands; the token that ends it is put back, but for the end of a line. None
if there is nothing left of the script. -/
def readList : Nat → Extent → List Command → Read (Option Command)
  | 0, _, _ => tooDeep
  | fuel + 1, extent, done => do
    let nested : Read Command := do
      return (← readList fuel .rest []).getD (.sequence [])
    let whole : Command := .sequence done.reverse
    let outlook := if extent = .line then Outlook.command else Outlook.anyLine
    let token ← readToken nested outlook fuel
    match token with
    | .newline =>
      readDocuments nested fuel
      return some whole
    | .ending =>
      readDocuments nested fuel
      putBack .ending
      return if extent = .line && done.isEmpty then none else some whole
    | _ =>
      putBack token
      let mayEnd := extent = .rest || (extent = .body && !done.isEmpty)
      if mayEnd && token.endsList then return some whole
      else
        let c ← readAndOr fuel
        match ← readToken nested {} fuel with
        | .operator "&" => readList fuel extent (.background c :: done)
        | .operator ";" => readList fuel extent (c :: done)
        | .newline =>
          putBack .newline
          readList fuel extent (c :: done)
        | .ending =>
          readDocuments nested fuel
          putBack .ending
          return some (.sequence (c :: done).reverse)
        | token =>
          if extent = .line then unexpected token
          else
            putBack token
            return some (.sequence (c :: done).reverse)

/-- Reads pipelines with `&&` and `||` between them. -/
def readAndOr : Nat → Read Command
  | 0 => tooDeep
  | fuel + 1 => do
    let first ← readPipeline fuel {}
    readAndOrRest fuel first

/-- Reads what follows a pipeline. -/
def readAndOrRest : Nat → Command → Read Command
  | 0, _ => tooDeep
  | fuel + 1, first => do
    let nested : Read Command := do
      return (← readList fuel .rest []).getD (.sequence [])
    match ← readToken nested {} fuel with
    | .operator "&&" => readAndOrRest fuel (.both first (← readPipeline fuel .anyLine))
    | .operator "||" => readAndOrRest fuel (.either first (← readPipeline fuel .anyLine))
    | token =>
      putBack token
      return first

/-- Reads commands with pipes between them. -/
def readPipeline : Nat → Outlook → Read Command
  | 0, _ => tooDeep
  | fuel + 1, outlook => do
    let nested : Read Command := do
      return (← readList fuel .rest []).getD (.sequence [])
    let token ← readToken nested outlook fuel
    let negated := token.isReserved "!"
    if !negated then putBack token
    let first ← readCommand fuel (if negated then .command else {})
    let stages ← readStages fuel [first]
    let whole : Command :=
      match stages with
      | [c] => c
      | _ => .pipeline stages
    return if negated then .negation whole else whole

/-- Reads the commands after pipes. -/
def readStages : Nat → List Command → Read (List Command)
  | 0, _ => tooDeep
  | fuel + 1, done => do
    let nested : Read Command := do
      return (← readList fuel .rest []).getD (.sequence [])
    match ← readToken nested {} fuel with
    | .operator "|" => readStages fuel ((← readCommand fuel .anyLine) :: done)
    | token =>
      putBack token
      return done.reverse

/-- Reads one command with its redirections. -/
def readCommand : Nat → Outlook → Read Command
  | 0, _ => tooDeep
  | fuel + 1, outlook => do
    let nested : Read Command := do
      return (← readList fuel .rest []).getD (.sequence [])
    let body : Read Command := do
      return (← readList fuel .body []).getD (.sequence [])
    let expect (word : String) : Read Unit :=
      expectToken nested fuel {} (Token.isReserved word) ("\"" ++ word ++ "\"")
    let line := (← get).line
    let redirected (make : List Redirect → Command) : Read Command :=
      return make (← readRedirects nested fuel [])
    let grouped (c : Command) : Read Command :=
      redirected fun redirects => if redirects.isEmpty then c else .grouped line c redirects
    match ← readToken nested outlook fuel with
    | .reserved "if" =>
      let c ← readBranch fuel
      grouped c
    | .reserved "while" =>
      let condition ← body
      expect "do"
      let c := Command.loop false condition (← body)
      expect "done"
      grouped c
    | .reserved "until" =>
      let condition ← body
      expect "do"
      let c := Command.loop true condition (← body)
      expect "done"
      grouped c
    | .reserved "for" =>
      let name ←
        match ← readToken nested {} fuel with
        | .word w => pure ((plainText? w).filter isVariableName)
        | _ => pure none
      match name with
      | none => complain "Syntax error: Bad for loop variable"
      | some name =>
        let words ←
          match ← readToken nested .anyLine fuel with
          | .reserved "in" =>
            let (words, token) ← readWords nested fuel []
            match token with
            | .newline | .operator ";" => pure (some words)
            | _ => unexpected token
          | .operator ";" => pure none
          | token =>
            putBack token
            pure none
        expectToken nested fuel .anyLine (Token.isReserved "do") "\"do\""
        let c := Command.each line name words (← body)
        expect "done"
        grouped c
    | .reserved "case" =>
      match ← readToken nested {} fuel with
      | .word w =>
        expectToken nested fuel .anyLine (Token.isReserved "in") "\"in\""
        let cases ← readCases fuel []
        grouped (.choose line w cases)
      | token => unexpected token "word"
    | .operator "(" =>
      let c ← body
      expectToken nested fuel {} (Token.isOperator ")") "\")\""
      redirected (.subshell line c)
    | .reserved "\x7b" =>
      let c ← body
      expect "\x7d"
      grouped c
    | .word w =>
      putBack (.word w)
      readSimple fuel (← get).line [] [] []
    | .redirect descriptor sign =>
      putBack (.redirect descriptor sign)
      readSimple fuel (← get).line [] [] []
    | token => unexpected token

/-- Reads the words and redirections of a simple command, which started in the line, or the body of
a function, if that is what comes. -/
def readSimple : Nat → Nat → List (String × Word) → List Word → List Redirect → Read Command
  | 0, _, _, _, _ => tooDeep
  | fuel + 1, line, assignments, words, redirects => do
    let nested : Read Command := do
      return (← readList fuel .rest []).getD (.sequence [])
    match ← readToken nested { aliases := words.isEmpty } fuel with
    | .word w =>
      match words, assignment? w with
      | [], some a => readSimple fuel line (a :: assignments) words redirects
      | _, _ => readSimple fuel line assignments (w :: words) redirects
    | .redirect descriptor sign =>
      let r ← readTarget nested fuel descriptor sign
      readSimple fuel line assignments words (r :: redirects)
    | token =>
      match token, assignments, words, redirects with
      | .operator "(", [], [w], [] =>
        expectToken nested fuel {} (Token.isOperator ")") "\")\""
        match plainText? w with
        | some name =>
          if !isVariableName name || specialBuiltins.contains name then
            complain "Syntax error: Bad function name"
          let line := (← get).line
          return .define line name (← readCommand fuel .anyLine)
        | none => complain "Syntax error: Bad function name"
      | _, _, _, _ =>
        putBack token
        return .simple line assignments.reverse words.reverse redirects.reverse

/-- Reads a condition and what depends on it, after `if` or `elif`. -/
def readBranch : Nat → Read Command
  | 0 => tooDeep
  | fuel + 1 => do
    let nested : Read Command := do
      return (← readList fuel .rest []).getD (.sequence [])
    let body : Read Command := do
      return (← readList fuel .body []).getD (.sequence [])
    let condition ← body
    expectToken nested fuel {} (Token.isReserved "then") "\"then\""
    let yes ← body
    match ← readToken nested {} fuel with
    | .reserved "elif" => return .branch condition yes (← readBranch fuel)
    | .reserved "else" =>
      let no ← body
      expectToken nested fuel {} (Token.isReserved "fi") "\"fi\""
      return .branch condition yes no
    | .reserved "fi" => return .branch condition yes (.sequence [])
    | token => unexpected token "\"fi\""

/-- Reads the cases of a choice, up to its last word. -/
def readCases : Nat → List (List Word × Command) → Read (List (List Word × Command))
  | 0, _ => tooDeep
  | fuel + 1, done => do
    let nested : Read Command := do
      return (← readList fuel .rest []).getD (.sequence [])
    let outlook : Outlook := { newlines := true, keywords := true }
    match ← readToken nested outlook fuel with
    | .reserved "esac" => return done.reverse
    | token =>
      let first ← if token.isOperator "(" then readToken nested {} fuel else pure token
      let patterns ← readPatterns nested fuel first []
      let body ← nested
      let done := (patterns, body) :: done
      match ← readToken nested outlook fuel with
      | .operator ";;" => readCases fuel done
      | .reserved "esac" => return done.reverse
      | token => unexpected token "\";;\""

end

/-- The next line of a script, and where it goes on; none at its end. -/
def nextLine (fuel : Nat) (c : Cursor) : Except Trouble (Option (Command × Cursor)) :=
  match (readList fuel .line []).run { c with pushed := none, awaited := [] } with
  | .error t => .error t
  | .ok (none, _) => .ok none
  | .ok (some command, c) => .ok (some (command, c))

end AgentConsole.Shell
