import CommandShell.Unix.Tokens

/-!
# The statements of a shell script

## Main definitions

* `Redirection` — where a stream is led.
* `Statement` — a statement.
* `readScript` — the statement that a script is.
-/

namespace CommandShell.Unix

/-- Where a stream is led. -/
structure Redirection where
  /-- The number of the stream. -/
  stream : Nat
  /-- The sign. -/
  kind : Text
  /-- The file, or the number of another stream. -/
  target : ScriptWord
  deriving DecidableEq, Repr

/-- A statement of a script. -/
inductive Statement where
  /-- Nothing. -/
  | nothing
  /-- A command with assignments before it. -/
  | simple (words : List ScriptWord) (redirections : List Redirection)
  /-- One statement, then another. -/
  | seq (first second : Statement)
  /-- One statement and, if it succeeds, another. -/
  | both (first second : Statement)
  /-- One statement and, if it fails, another. -/
  | either (first second : Statement)
  /-- Two statements, the second of which reads what the first writes. -/
  | pipe (first second : Statement)
  /-- The opposite status. -/
  | negated (inner : Statement)
  /-- A statement for the case that another succeeds, and one for the case that it fails. -/
  | branch (condition yes no : Statement)
  /-- A statement repeated while another succeeds, or until it does. -/
  | loop (condition body : Statement) (isUntil : Bool)
  /-- A statement for each word of a row. -/
  | each (name : Text) (words : List ScriptWord) (body : Statement)
  /-- A statement in braces. -/
  | group (inner : Statement) (redirections : List Redirection)
  /-- A statement in parentheses, whose changes stay inside. -/
  | inside (inner : Statement) (redirections : List Redirection)
  deriving DecidableEq, Repr

/-- What reading a statement leaves. -/
abbrev StatementReader := List Token → Option (Statement × List Token)

/-- The word that a token is, if it is plain. -/
def plainWord? : Token → Option Text
  | .word [.plain t] => some t
  | _ => none

/-- The token is a given plain word. -/
def isWord (t : Token) (word : String) : Bool := plainWord? t = some word.toList

/-- The words that end a statement in a larger one. -/
def closingWords : List String := ["then", "else", "elif", "fi", "do", "done", "\x7d"]

/-- The token ends a list of statements. -/
def isCloser (t : Token) : Bool :=
  t = .operator [')'] || t = .operator [';', ';'] || closingWords.any (isWord t)

/-- Line ends taken off. -/
def skipLines : List Token → List Token
  | .operator ['\n'] :: rest => skipLines rest
  | tokens => tokens

/-- A given word taken off. -/
def expectWord (word : String) : List Token → Option (List Token)
  | t :: rest => if isWord t word then some rest else none
  | [] => none

/-- The redirections at the front, and what follows them. -/
def redirectionsOf : List Token → List Redirection × List Token
  | .redirect stream kind :: .word target :: rest =>
      match redirectionsOf rest with
      | (more, rest) => (⟨stream, kind, target⟩ :: more, rest)
  | tokens => ([], tokens)

/-- The words and redirections of a command, and what follows them. -/
def commandOf : List Token → List ScriptWord × List Redirection × List Token
  | .word w :: rest =>
      match commandOf rest with
      | (words, redirections, rest) => (w :: words, redirections, rest)
  | .redirect stream kind :: .word target :: rest =>
      match commandOf rest with
      | (words, redirections, rest) => (words, ⟨stream, kind, target⟩ :: redirections, rest)
  | tokens => ([], [], tokens)

/-- The words of a loop over words, up to a separator. -/
def loopWords : List Token → List ScriptWord × List Token
  | .word w :: rest =>
      match loopWords rest with
      | (words, rest) => (w :: words, rest)
  | tokens => ([], tokens)

/-- A separator taken off, if there is one, and line ends after it. -/
def skipSeparator : List Token → List Token
  | .operator [';'] :: rest => skipLines rest
  | tokens => skipLines tokens

mutual

/-- Statements up to one that ends them. -/
def readList : Nat → StatementReader
  | 0, _ => none
  | fuel + 1, tokens =>
      match skipLines tokens with
      | [] => some (.nothing, [])
      | t :: rest =>
          if isCloser t then some (.nothing, t :: rest)
          else do
            let (first, rest) ← readAndOr fuel (t :: rest)
            match rest with
            | .operator [';'] :: rest | .operator ['\n'] :: rest | .operator ['&'] :: rest =>
                let (second, rest) ← readList fuel rest
                return (.seq first second, rest)
            | _ => return (first, rest)

/-- Pipelines joined by the conditions on their statuses. -/
def readAndOr : Nat → StatementReader
  | 0, _ => none
  | fuel + 1, tokens => do
      let (first, rest) ← readPipe fuel tokens
      readAndOrRest fuel first rest

/-- Further pipelines behind a statement. -/
def readAndOrRest : Nat → Statement → StatementReader
  | 0, _, _ => none
  | fuel + 1, first, tokens =>
      match tokens with
      | .operator ['&', '&'] :: rest => do
          let (second, rest) ← readPipe fuel (skipLines rest)
          readAndOrRest fuel (.both first second) rest
      | .operator ['|', '|'] :: rest => do
          let (second, rest) ← readPipe fuel (skipLines rest)
          readAndOrRest fuel (.either first second) rest
      | _ => some (first, tokens)

/-- A pipeline. -/
def readPipe : Nat → StatementReader
  | 0, _ => none
  | fuel + 1, tokens =>
      match tokens with
      | t :: rest =>
          if isWord t "!" then do
            let (inner, rest) ← readPipe fuel rest
            return (.negated inner, rest)
          else do
            let (first, rest) ← readCommand fuel (t :: rest)
            match rest with
            | .operator ['|'] :: rest =>
                let (second, rest) ← readPipe fuel (skipLines rest)
                return (.pipe first second, rest)
            | _ => return (first, rest)
      | [] => none

/-- The rest of a conditional statement, from its condition on. -/
def readBranch : Nat → StatementReader
  | 0, _ => none
  | fuel + 1, tokens => do
      let (condition, rest) ← readList fuel tokens
      let (yes, rest) ← readList fuel (← expectWord "then" rest)
      match rest with
      | t :: rest =>
          if isWord t "elif" then
            let (no, rest) ← readBranch fuel rest
            return (.branch condition yes no, rest)
          else if isWord t "else" then
            let (no, rest) ← readList fuel rest
            return (.branch condition yes no, ← expectWord "fi" rest)
          else if isWord t "fi" then return (.branch condition yes .nothing, rest)
          else none
      | [] => none

/-- A simple or compound command. -/
def readCommand : Nat → StatementReader
  | 0, _ => none
  | fuel + 1, tokens =>
      match tokens with
      | .operator ['('] :: rest => do
          let (inner, rest) ← readList fuel rest
          match rest with
          | .operator [')'] :: rest =>
              let (redirections, rest) := redirectionsOf rest
              return (.inside inner redirections, rest)
          | _ => none
      | t :: rest =>
          if isWord t "\x7b" then do
            let (inner, rest) ← readList fuel rest
            let (redirections, rest) := redirectionsOf (← expectWord "\x7d" rest)
            return (.group inner redirections, rest)
          else if isWord t "if" then do
            let (inner, rest) ← readBranch fuel rest
            let (redirections, rest) := redirectionsOf rest
            return (.group inner redirections, rest)
          else if isWord t "while" || isWord t "until" then do
            let (condition, rest) ← readList fuel rest
            let (body, rest) ← readList fuel (← expectWord "do" rest)
            let (redirections, rest) := redirectionsOf (← expectWord "done" rest)
            return (.group (.loop condition body (isWord t "until")) redirections, rest)
          else if isWord t "for" then
            match rest with
            | name :: rest => do
                let name ← plainWord? name
                let (words, rest) := match skipLines rest with
                  | t :: rest =>
                      if isWord t "in" then loopWords rest
                      else ([[.value ['@'] true]], t :: rest)
                  | [] => ([], [])
                let (body, rest) ← readList fuel (← expectWord "do" (skipSeparator rest))
                let (redirections, rest) := redirectionsOf (← expectWord "done" rest)
                return (.group (.each name words body) redirections, rest)
            | [] => none
          else
            match commandOf (t :: rest) with
            | ([], [], _) => none
            | (words, redirections, rest) => some (.simple words redirections, rest)
      | [] => none

end

/-- The statement that a script is, `none` if it is not well formed. -/
def readScript (script : Text) : Option Statement := do
  let tokens ← scriptTokens script
  match ← readList (8 * tokens.length + 8) tokens with
  | (statement, []) => return statement
  | _ => none

end CommandShell.Unix
