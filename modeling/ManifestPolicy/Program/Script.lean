/-!
# Shell scripts

A script is a list of pipelines, each of which may depend on how the one before it
ended. The words of a command keep apart what is quoted and what is not, because
only the latter is cut at blanks once variables have been put in.
-/

namespace ManifestPolicy

/-- A part of a word. -/
inductive WordPart
  /-- Characters that stand for themselves. -/
  | literal (text : List Char)
  /-- The value of a variable; unless it is quoted it is cut at blanks. -/
  | variable (name : String) (isQuoted : Bool)
  deriving DecidableEq, Repr, Inhabited

/-- A word as it is written. -/
abbrev Word := List WordPart

/-- What is done to a descriptor. -/
inductive Redirection
  /-- It is made another name for a second one. -/
  | duplicate
  /-- It is connected to a file. -/
  | toFile
  deriving DecidableEq, Repr, Inhabited

/-- What stands between commands. -/
inductive Separator
  | sequence
  | background
  | ifDone
  | ifFailed
  | pipe
  deriving DecidableEq, Repr, Inhabited

/-- The spelling of a separator. -/
def Separator.spelling : Separator → String
  | .sequence => ";"
  | .background => "&"
  | .ifDone => "&&"
  | .ifFailed => "||"
  | .pipe => "|"

/-- A token of a script. -/
inductive ScriptToken
  | word (word : Word)
  | redirection (descriptor : Nat) (kind : Redirection)
  | separator (separator : Separator)
  | newline
  deriving DecidableEq, Repr, Inhabited

/-- Why a script cannot be read. -/
inductive ScriptFault
  | unterminatedQuote
  | unexpected (spelling : String)
  | endOfFile
  | badSubstitution
  deriving DecidableEq, Repr

/-- The wording of a fault. -/
def ScriptFault.message : ScriptFault → String
  | .unterminatedQuote => "Syntax error: Unterminated quoted string"
  | .unexpected spelling => "Syntax error: " ++ spelling ++ " unexpected"
  | .endOfFile => "Syntax error: end of file unexpected"
  | .badSubstitution => "Bad substitution"

namespace Script

/-- Whether a character may stand in the name of a variable. -/
def isNameCharacter (character : Char) : Bool := character.isAlphanum || character == '_'

/-- Whether a character ends a word. -/
def endsWord (character : Char) : Bool :=
  [' ', '\t', '\n', ';', '&', '|', '<', '>', '(', ')'].contains character

/-- Put a part in front of a word. -/
def attach (part : WordPart) : Word → Word
  | .literal text :: rest =>
      match part with
      | .literal start => .literal (start ++ text) :: rest
      | _ => part :: .literal text :: rest
  | parts => part :: parts

/-- Read what follows a dollar sign: a part of a word, and the number of its
characters. -/
def expansion (isQuoted : Bool) (text : List Char) : Except ScriptFault (WordPart × Nat) :=
  match text with
  | '{' :: rest =>
      let name := rest.takeWhile (· != '}')
      if name.length = rest.length then .error .unterminatedQuote
      else if name ≠ [] ∧ (name.all isNameCharacter ∨ name.length = 1) then
        .ok (.variable (String.ofList name) isQuoted, name.length + 2)
      else .error .badSubstitution
  | first :: rest =>
      if first.isAlpha || first == '_' then
        let name := first :: rest.takeWhile isNameCharacter
        .ok (.variable (String.ofList name) isQuoted, name.length)
      else if first.isDigit || ['$', '?', '#', '!', '@', '*', '-'].contains first then
        .ok (.variable (String.singleton first) isQuoted, 1)
      else .ok (.literal ['$'], 0)
  | [] => .ok (.literal ['$'], 0)

/-- Read the rest of a text in double quotes: its parts, and the number of its
characters with the closing quote. -/
def doubleQuoted (text : List Char) : Except ScriptFault (Word × Nat) :=
  match text with
  | [] => .error .unterminatedQuote
  | '"' :: _ => .ok ([.literal []], 1)
  | '\\' :: character :: rest => do
      let (parts, length) ← doubleQuoted rest
      let shown :=
        if ['$', '\x60', '"', '\\'].contains character then [character]
        else if character = '\n' then []
        else ['\\', character]
      return (attach (.literal shown) parts, length + 2)
  | '$' :: rest => do
      let (part, taken) ← expansion true rest
      let (parts, length) ← doubleQuoted (rest.drop taken)
      return (attach part parts, length + taken + 1)
  | character :: rest => do
      let (parts, length) ← doubleQuoted rest
      return (attach (.literal [character]) parts, length + 1)
termination_by text.length
decreasing_by
  all_goals simp only [List.length_drop, List.length_cons]; omega

/-- Read a word: its parts, and the number of its characters. -/
def readWord (text : List Char) : Except ScriptFault (Word × Nat) :=
  match text with
  | [] => .ok ([], 0)
  | '\'' :: rest => do
      let quoted := rest.takeWhile (· != '\'')
      if quoted.length = rest.length then throw .unterminatedQuote
      let (parts, length) ← readWord (rest.drop (quoted.length + 1))
      return (attach (.literal quoted) parts, length + quoted.length + 2)
  | '"' :: rest => do
      let (quoted, taken) ← doubleQuoted rest
      let (parts, length) ← readWord (rest.drop taken)
      return (quoted.foldr attach parts, length + taken + 1)
  | '\\' :: character :: rest => do
      let (parts, length) ← readWord rest
      return (attach (.literal [character]) parts, length + 2)
  | '$' :: rest => do
      let (part, taken) ← expansion false rest
      let (parts, length) ← readWord (rest.drop taken)
      return (attach part parts, length + taken + 1)
  | character :: rest =>
      if endsWord character then .ok ([], 0)
      else do
        let (parts, length) ← readWord rest
        return (attach (.literal [character]) parts, length + 1)
termination_by text.length
decreasing_by
  all_goals simp only [List.length_drop, List.length_cons]; omega

/-- Read the sign of a redirection: what it does, and the number of its characters. -/
def redirection? : List Char → Option (Redirection × Nat)
  | '>' :: '&' :: _ => some (.duplicate, 2)
  | '<' :: '&' :: _ => some (.duplicate, 2)
  | '>' :: '>' :: _ => some (.toFile, 2)
  | '>' :: '|' :: _ => some (.toFile, 2)
  | '>' :: _ => some (.toFile, 1)
  | '<' :: _ => some (.toFile, 1)
  | _ => none

/-- Read a separator and the number of its characters. -/
def separator? : List Char → Option (Separator × Nat)
  | '&' :: '&' :: _ => some (.ifDone, 2)
  | '|' :: '|' :: _ => some (.ifFailed, 2)
  | '&' :: _ => some (.background, 1)
  | '|' :: _ => some (.pipe, 1)
  | ';' :: _ => some (.sequence, 1)
  | _ => none

/-- The descriptor that a redirection is about when it names none. -/
def standardDescriptor (text : List Char) : Nat := if text.head? == some '<' then 0 else 1

/-- Read the tokens of a script. -/
def tokens (text : List Char) : Except ScriptFault (List ScriptToken) :=
  match text with
  | [] => .ok []
  | first :: rest =>
      if first = ' ' ∨ first = '\t' then tokens rest
      else if first = '\n' then return ScriptToken.newline :: (← tokens rest)
      else if first = ';' ∧ rest.head? = some ';' then .error (.unexpected "\";;\"")
      else if first = '#' then tokens (rest.dropWhile (· != '\n'))
      else
        let digits := text.takeWhile Char.isDigit
        match redirection? (text.drop digits.length), separator? text with
        | some (kind, length), _ => do
            let descriptor :=
              if digits = [] then standardDescriptor text
              else digits.foldl (fun total digit => total * 10 + (digit.toNat - '0'.toNat)) 0
            let later ← tokens (rest.drop (digits.length + length - 1))
            return ScriptToken.redirection descriptor kind :: later
        | none, some (kind, length) => do
            return ScriptToken.separator kind :: (← tokens (rest.drop (length - 1)))
        | none, none => do
            let (parts, length) ← readWord text
            if length = 0 then throw (.unexpected ("\"" ++ String.singleton first ++ "\""))
            return ScriptToken.word parts :: (← tokens (rest.drop (length - 1)))
termination_by text.length
decreasing_by
  all_goals simp only [List.length_drop, List.length_cons]
  all_goals first
    | omega
    | exact Nat.lt_succ_of_le (List.dropWhile_sublist _).length_le

end Script

/-- How a token is named in a complaint. -/
def ScriptToken.spelling : ScriptToken → String
  | .word _ => "word"
  | .redirection _ _ => "redirection"
  | .separator kind => "\"" ++ kind.spelling ++ "\""
  | .newline => "newline"

/-- A command: its words, and what it does to which descriptor with which target. -/
structure ScriptCommand where
  words : List Word := []
  redirections : List (Nat × Redirection × Word) := []
  deriving Repr, Inhabited

/-- A pipeline, and what stands between it and the one before. -/
structure ScriptPipeline where
  after : Separator
  commands : List ScriptCommand
  deriving Repr, Inhabited

/-- A script. -/
abbrev Script := List ScriptPipeline

namespace Script

/-- Read the tokens of one command, and what follows it. -/
def command : List ScriptToken → Except ScriptFault (ScriptCommand × List ScriptToken)
  | .word word :: rest => do
      let (command, rest) ← command rest
      return ({ command with words := word :: command.words }, rest)
  | .redirection descriptor kind :: .word target :: rest => do
      let (command, rest) ← command rest
      let redirections := (descriptor, kind, target) :: command.redirections
      return ({ command with redirections }, rest)
  | .redirection _ _ :: token :: _ => .error (.unexpected token.spelling)
  | .redirection _ _ :: [] => .error .endOfFile
  | rest => .ok ({}, rest)

/-- Whether a command says nothing at all. -/
def isEmpty (command : ScriptCommand) : Bool :=
  command.words.isEmpty && command.redirections.isEmpty

/-- Put a command in front of the pipelines that follow it. -/
def prepend (command : ScriptCommand) (after : Separator) : Script → Script
  | ⟨.pipe, commands⟩ :: rest => ⟨after, command :: commands⟩ :: rest
  | rest => ⟨after, [command]⟩ :: rest

/-- Read the pipelines after a separator. Only a newline may stand where a command is
expected, and only `;`, `&` and a newline may end a script. -/
def pipelines (fuel : Nat) (after : Separator) (tokens : List ScriptToken) :
    Except ScriptFault Script :=
  match fuel with
  | 0 => .ok []
  | fuel + 1 => do
      let (first, rest) ← command tokens
      if isEmpty first then
        match rest with
        | .newline :: rest => pipelines fuel after rest
        | token :: _ => throw (.unexpected token.spelling)
        | [] =>
            if after = .sequence ∨ after = .background then return []
            else throw .endOfFile
      else
        match rest with
        | .newline :: rest => return prepend first after (← pipelines fuel .sequence rest)
        | .separator next :: rest => return prepend first after (← pipelines fuel next rest)
        | _ => return [⟨after, [first]⟩]

/-- Read a script. -/
def read (text : String) : Except ScriptFault Script := do
  let tokens ← tokens text.toList
  pipelines (tokens.length + 1) .sequence tokens

end Script

end ManifestPolicy
