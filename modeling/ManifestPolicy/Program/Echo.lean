import ManifestPolicy.Program.Escape
import ManifestPolicy.Program.Outcome

/-!
# Echo

The program that prints its arguments with a space between them. As a program of
its own it knows escapes when it is asked to; within the shell it always does.
-/

namespace ManifestPolicy
namespace Echo

/-- The escapes of the program. -/
def programEscapes : EscapeStyle :=
  { leadingZero := true, hexadecimal := true, escapeLetter := true }

/-- The escapes of the shell. -/
def shellEscapes : EscapeStyle := { leadingZero := true }

/-- How arguments are printed. -/
structure Mode where
  newline : Bool := true
  escapes : Bool := false

/-- Whether an argument consists of options. -/
def isOption (argument : String) : Bool :=
  match argument.toList with
  | '-' :: first :: rest => (first :: rest).all fun letter => ['n', 'e', 'E'].contains letter
  | _ => false

/-- Take in an option. -/
def Mode.apply (mode : Mode) (letter : Char) : Mode :=
  if letter = 'n' then { mode with newline := false }
  else if letter = 'e' then { mode with escapes := true }
  else if letter = 'E' then { mode with escapes := false }
  else mode

/-- The arguments as one text. -/
def joined (arguments : List String) : String := " ".intercalate arguments

/-- The bytes of a text with its escapes; an escape that ends the text leaves off
the line's end as well. -/
def withEscapes (style : EscapeStyle) (newline : Bool) (text : String) : List UInt8 :=
  match style.expand text.toList with
  | (bytes, true) => bytes
  | (bytes, false) => if newline then bytes ++ [0x0A] else bytes

/-- The program. -/
def program : Program := fun arguments =>
  let options := arguments.takeWhile isOption
  let mode := (options.flatMap String.toList).foldl Mode.apply {}
  let text := joined (arguments.drop options.length)
  if mode.escapes then { output := withEscapes programEscapes mode.newline text }
  else { output := text.toUTF8.toList ++ if mode.newline then [0x0A] else [] }

/-- The command of the shell. -/
def inShell : Program
  | "-n" :: arguments => { output := withEscapes shellEscapes false (joined arguments) }
  | arguments => { output := withEscapes shellEscapes true (joined arguments) }

end Echo
end ManifestPolicy
