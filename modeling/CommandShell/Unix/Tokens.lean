import CommandShell.Variables

/-!
# The words of a shell script

The modelled host has a small script language: that of the usual shell, without patterns and
arithmetic.  Scripts are read as bytes; each byte is a character below 256 here.

## Main definitions

* `WordPart`, `ScriptWord` — words with their quoting and substitutions.
* `Token` — a word, an operator or a redirection.
* `scriptTokens` — the tokens of a script.
-/

namespace CommandShell.Unix

/-- A part of a word. -/
inductive WordPart where
  /-- Text as it stands. -/
  | plain (text : Text)
  /-- Text in quotes or behind a backslash. -/
  | quoted (text : Text)
  /-- The value of a parameter, in double quotes or not. -/
  | value (name : Text) (inQuotes : Bool)
  /-- The output of a script, in double quotes or not. -/
  | output (script : Text) (inQuotes : Bool)
  deriving DecidableEq, Repr

/-- A word of a script. -/
abbrev ScriptWord := List WordPart

/-- A token of a script. -/
inductive Token where
  /-- A word. -/
  | word (w : ScriptWord)
  /-- An operator; a line end is one. -/
  | operator (text : Text)
  /-- A redirection of a stream by its number. -/
  | redirect (stream : Nat) (kind : Text)
  deriving DecidableEq, Repr

/-- A blank within a line. -/
def isGap (c : Char) : Bool := c == ' ' || c == '\t'

/-- A character that ends a word outside quotes. -/
def endsWord (c : Char) : Bool :=
  isGap c || c == '\n' || c == ';' || c == '&' || c == '|' || c == '(' || c == ')' || c == '<' ||
    c == '>'

/-- The backquote. -/
def isBackquote (c : Char) : Bool := c.toNat == 0x60

/-- What stands before the parenthesis that closes a substitution, at a depth of open ones, and
what follows it.  Quotes hide parentheses. -/
def untilClose : Nat → Option Char → Text → Option (Text × Text)
  | _, _, [] => none
  | depth, some quote, c :: rest =>
      (untilClose depth (if c = quote then none else some quote) rest).map
        fun (inner, rest) => (c :: inner, rest)
  | depth, none, c :: rest =>
      if c = ')' then
        match depth with
        | 0 => some ([], rest)
        | depth + 1 => (untilClose depth none rest).map fun (inner, rest) => (c :: inner, rest)
      else
        let depth' := if c = '(' then depth + 1 else depth
        let quote := if c = '\'' ∨ c = '"' then some c else none
        (untilClose depth' quote rest).map fun (inner, rest) => (c :: inner, rest)

/-- What a dollar sign starts, and what follows it. -/
def dollar (inQuotes : Bool) : Text → Option (WordPart × Text)
  | '(' :: rest =>
      (untilClose 0 none rest).map fun (script, rest) => (.output script inQuotes, rest)
  | '\x7b' :: rest =>
      match cutAt '\x7d' rest with
      | some (name, rest) => some (.value name inQuotes, rest)
      | none => none
  | c :: rest =>
      if isNameStart c then
        some (.value (c :: rest.takeWhile isNameChar) inQuotes, rest.dropWhile isNameChar)
      else if ('0' ≤ c && c ≤ '9') || "#*@?$!-".toList.contains c then
        some (.value [c] inQuotes, rest)
      else some (.plain ['$'], c :: rest)
  | [] => some (.plain ['$'], [])

/-- The parts of a text in double quotes and what follows it; the fuel bounds the parts. -/
def doubleQuoted : Nat → Text → Option (ScriptWord × Text)
  | 0, _ => none
  | _, [] => none
  | fuel + 1, c :: rest =>
      let onward (part : WordPart) (rest : Text) : Option (ScriptWord × Text) :=
        (doubleQuoted fuel rest).map fun (parts, rest) => (part :: parts, rest)
      if c = '"' then some ([], rest)
      else if c = '\\' then
        match rest with
        | '\n' :: rest => doubleQuoted fuel rest
        | d :: rest =>
            if d = '$' ∨ isBackquote d ∨ d = '"' ∨ d = '\\' then onward (.quoted [d]) rest
            else onward (.quoted ['\\', d]) rest
        | [] => none
      else if c = '$' then
        match dollar true rest with
        | some (.plain t, rest) => onward (.quoted t) rest
        | some (part, rest) => onward part rest
        | none => none
      else if isBackquote c then
        match cutAt c rest with
        | some (script, rest) => onward (.output script true) rest
        | none => none
      else onward (.quoted [c]) rest

/-- The parts of a word and what follows it; the fuel bounds the parts. -/
def wordParts : Nat → Text → Option (ScriptWord × Text)
  | 0, _ => none
  | _, [] => some ([], [])
  | fuel + 1, c :: rest =>
      let onward (parts : ScriptWord) (rest : Text) : Option (ScriptWord × Text) :=
        (wordParts fuel rest).map fun (more, rest) => (parts ++ more, rest)
      if endsWord c then some ([], c :: rest)
      else if c = '\'' then
        match cutAt '\'' rest with
        | some (text, rest) => onward [.quoted text] rest
        | none => none
      else if c = '"' then
        match doubleQuoted (rest.length + 1) rest with
        | some (parts, rest) => onward (.quoted [] :: parts) rest
        | none => none
      else if c = '\\' then
        match rest with
        | '\n' :: rest => onward [] rest
        | d :: rest => onward [.quoted [d]] rest
        | [] => onward [.quoted ['\\']] []
      else if c = '$' then
        match dollar false rest with
        | some (part, rest) => onward [part] rest
        | none => none
      else if isBackquote c then
        match cutAt c rest with
        | some (script, rest) => onward [.output script false] rest
        | none => none
      else onward [.plain [c]] rest

/-- Neighbouring parts of plain text joined. -/
def joinPlain : ScriptWord → ScriptWord
  | .plain s :: rest =>
      match joinPlain rest with
      | .plain t :: more => .plain (s ++ t) :: more
      | more => .plain s :: more
  | part :: rest => part :: joinPlain rest
  | [] => []

/-- An operator and what follows it. -/
def operatorToken : Text → Option (Text × Text)
  | '&' :: '&' :: rest => some (['&', '&'], rest)
  | '|' :: '|' :: rest => some (['|', '|'], rest)
  | ';' :: ';' :: rest => some ([';', ';'], rest)
  | c :: rest => if c = '\n' ∨ "&|;()".toList.contains c then some ([c], rest) else none
  | [] => none

/-- The kind of a redirection and what follows it. -/
def redirectKind : Text → Option (Text × Text)
  | '>' :: '>' :: rest => some (['>', '>'], rest)
  | '>' :: '&' :: rest => some (['>', '&'], rest)
  | '<' :: '&' :: rest => some (['<', '&'], rest)
  | '>' :: rest => some (['>'], rest)
  | '<' :: rest => some (['<'], rest)
  | _ => none

/-- A redirection and what follows it: the number of the stream may stand before the sign. -/
def redirectToken (t : Text) : Option (Token × Text) :=
  match t with
  | c :: rest =>
      if '0' ≤ c && c ≤ '9' then
        (redirectKind rest).map fun (kind, rest) => (.redirect (c.toNat - '0'.toNat) kind, rest)
      else
        (redirectKind t).map fun (kind, rest) =>
          (.redirect (if kind.head? = some '<' then 0 else 1) kind, rest)
  | [] => none

/-- The tokens of a script, `none` if a quote or a substitution is not closed; the fuel bounds
the tokens. -/
def tokensFrom : Nat → Text → Option (List Token)
  | 0, _ => none
  | _, [] => some []
  | fuel + 1, c :: rest =>
      if isGap c then tokensFrom fuel rest
      else if c = '#' then tokensFrom fuel (rest.dropWhile (· ≠ '\n'))
      else match redirectToken (c :: rest) with
        | some (token, rest) => (tokensFrom fuel rest).map (token :: ·)
        | none =>
            match operatorToken (c :: rest) with
            | some (text, rest) => (tokensFrom fuel rest).map (.operator text :: ·)
            | none =>
                match wordParts (rest.length + 2) (c :: rest) with
                | some (parts, rest) => (tokensFrom fuel rest).map (.word (joinPlain parts) :: ·)
                | none => none

/-- The tokens of a script. -/
def scriptTokens (script : Text) : Option (List Token) :=
  tokensFrom (script.length + 1) script

end CommandShell.Unix
