import ManifestPolicy.Program.Escape
import ManifestPolicy.Program.Outcome

/-!
# Printf

The program that prints its arguments in a format. A format is a list of pieces:
bytes that are printed as they are, and conversions, each of which takes an
argument. The format is used again as long as arguments are left.
-/

namespace ManifestPolicy
namespace Printf

/-- How a conversion shows its argument. -/
inductive Kind
  | text
  | escapedText
  | character
  | signed
  | unsigned (base : Nat) (capital : Bool)
  deriving DecidableEq, Repr

/-- A conversion, with its flags, its width and its precision. -/
structure Conversion where
  kind : Kind
  flags : List Char := []
  width : Nat := 0
  precision : Option Nat := none
  deriving DecidableEq, Repr

/-- A piece of a format. -/
inductive Piece
  | literal (bytes : List UInt8)
  | conversion (conversion : Conversion)
  /-- An escape that ends the output. -/
  | ending
  /-- A conversion that is none, as it is written. -/
  | invalid (text : String)
  deriving DecidableEq, Repr

/-- The words in which a program complains, and its escapes. -/
structure Dialect where
  name : String
  escapes : EscapeStyle
  quote : String → String
  notNumeric : String
  leftOver : String
  invalidConversion : String
  /-- Whether it says so when arguments are left over. -/
  warnsOfExcess : Bool

/-- A byte as it is shown between quotes. -/
def shownByte (byte : UInt8) : List Char :=
  let code := byte.toNat
  if code = 0x5C then ['\\', '\\']
  else if code = 0x27 then ['\\', '\'']
  else if 0x20 ≤ code ∧ code < 0x7F then [Char.ofNat code]
  else
    match ["\\a", "\\b", "\\t", "\\n", "\\v", "\\f", "\\r"][code - 7]? with
    | some escape =>
        if 7 ≤ code then escape.toList else '\\' :: (Nat.toDigits 8 (code + 512)).drop 1
    | none => '\\' :: (Nat.toDigits 8 (code + 512)).drop 1

/-- The dialect of the program. -/
def programDialect : Dialect where
  name := "printf"
  escapes := { hexadecimal := true, escapeLetter := true, quote := true }
  quote text := "'" ++ String.ofList (text.toUTF8.toList.flatMap shownByte) ++ "'"
  notNumeric := "expected a numeric value"
  leftOver := "value not completely converted"
  invalidConversion := "invalid conversion specification"
  warnsOfExcess := true

/-- The dialect of the shell. -/
def shellDialect (shell : String) : Dialect where
  name := shell ++ ": 1: printf"
  escapes := { ending := false }
  quote text := text
  notNumeric := "expected numeric value"
  leftOver := "not completely converted"
  invalidConversion := "invalid directive"
  warnsOfExcess := false

/-- The kind of a conversion by its letter. -/
def kind? : Char → Option Kind
  | 's' => some .text
  | 'b' => some .escapedText
  | 'c' => some .character
  | 'd' | 'i' => some .signed
  | 'u' => some (.unsigned 10 false)
  | 'o' => some (.unsigned 8 false)
  | 'x' => some (.unsigned 16 false)
  | 'X' => some (.unsigned 16 true)
  | _ => none

/-- The number written by decimal digits. -/
def number (digits : List Char) : Nat :=
  digits.foldl (fun total digit => total * 10 + (digit.toNat - '0'.toNat)) 0

/-- Read what follows a percent sign, and the number of characters it has. -/
def conversion (text : List Char) : Piece × Nat :=
  let flags := text.takeWhile fun letter => ['-', '+', ' ', '#', '0'].contains letter
  let sized := text.drop flags.length
  let width := sized.takeWhile Char.isDigit
  let rest := sized.drop width.length
  let places :=
    match rest with
    | '.' :: digits => some (digits.takeWhile Char.isDigit)
    | _ => none
  let read := flags.length + width.length + places.elim 0 fun digits => digits.length + 1
  match (text.drop read).head? with
  | none => (.invalid (String.ofList ('%' :: text)), read)
  | some letter =>
      match kind? letter with
      | some kind => (.conversion ⟨kind, flags, number width, places.map number⟩, read + 1)
      | none => (.invalid (String.ofList ('%' :: text.take (read + 1))), read + 1)

/-- The pieces of a format. -/
def pieces (escapes : EscapeStyle) (format : List Char) : List Piece :=
  match format with
  | [] => []
  | '%' :: '%' :: rest => .literal [0x25] :: pieces escapes rest
  | '%' :: rest =>
      let (piece, length) := conversion rest
      piece :: pieces escapes (rest.drop length)
  | '\\' :: rest =>
      let reading := escapes.read rest
      if reading.ends then [.ending]
      else .literal reading.bytes :: pieces escapes (rest.drop reading.length)
  | character :: rest =>
      .literal (String.singleton character).toUTF8.toList :: pieces escapes rest
termination_by format.length
decreasing_by
  all_goals simp only [List.length_drop, List.length_cons]; omega

/-- Fill up to a width, on the left unless the flags say otherwise. -/
def padded (conversion : Conversion) (bytes : List UInt8) : List UInt8 :=
  let filling := List.replicate (conversion.width - bytes.length) 0x20
  if conversion.flags.contains '-' then bytes ++ filling else filling ++ bytes

/-- The digits of a number, with a sign in front, up to a width. -/
def numeral (conversion : Conversion) (sign digits : List Char) : List UInt8 :=
  let shown :=
    match conversion.precision with
    | some least => List.replicate (least - digits.length) '0' ++ digits
    | none =>
        if conversion.flags.contains '0' && !conversion.flags.contains '-' then
          List.replicate (conversion.width - sign.length - digits.length) '0' ++ digits
        else digits
  padded conversion (String.ofList (sign ++ shown)).toUTF8.toList

/-- The digits at the start of a text, in the base that it names, and how many
characters they take. -/
def leadingNumber (text : List Char) : Nat × Nat :=
  let measure (base skipped : Nat) (digit? : Char → Option Nat) : Nat × Nat :=
    let digits := ((text.drop skipped).map digit?).takeWhile Option.isSome |>.filterMap id
    (digits.foldl (fun total digit => total * base + digit) 0,
      if digits.isEmpty then 0 else skipped + digits.length)
  match text with
  | '0' :: 'x' :: digit :: _ =>
      if (EscapeStyle.hexDigit? digit).isSome then measure 16 2 EscapeStyle.hexDigit?
      else (0, 1)
  | '0' :: _ => measure 8 0 EscapeStyle.octalDigit?
  | _ => measure 10 0 fun digit =>
      if digit.isDigit then some (digit.toNat - '0'.toNat) else none

/-- The value of an argument, and what is wrong with it. -/
def value (dialect : Dialect) (argument : String) : Int × Option String :=
  match argument.toList with
  | [] => (0, none)
  | '\'' :: character :: _ | '"' :: character :: _ => (character.toNat, none)
  | text =>
      let negative := text.head? == some '-'
      let signs := if negative || text.head? == some '+' then 1 else 0
      let (size, length) := leadingNumber (text.drop signs)
      let signed : Int := if negative then -size else size
      let complaint (reason : String) : Option String :=
        some (dialect.name ++ ": " ++ dialect.quote argument ++ ": " ++ reason)
      if length = 0 then (0, complaint dialect.notNumeric)
      else if text.length = signs + length then (signed, none)
      else (signed, complaint dialect.leftOver)

/-- How far printing has come. -/
structure Printing where
  output : List UInt8 := []
  complaints : List String := []
  arguments : List String
  ended : Bool := false

/-- Show an argument. -/
def present (dialect : Dialect) (conversion : Conversion) (argument : String) :
    List UInt8 × Option String × Bool :=
  let limited (bytes : List UInt8) : List UInt8 :=
    padded conversion (conversion.precision.elim bytes bytes.take)
  match conversion.kind with
  | .text => (limited argument.toUTF8.toList, none, false)
  | .escapedText =>
      let escapes := { dialect.escapes with leadingZero := true, ending := true }
      let (bytes, ended) := escapes.expand argument.toList
      (limited bytes, none, ended)
  | .character => (padded conversion (argument.toUTF8.toList.headD 0 :: []), none, false)
  | .signed =>
      let (value, complaint) := value dialect argument
      let sign :=
        if value < 0 then ['-']
        else if conversion.flags.contains '+' then ['+']
        else if conversion.flags.contains ' ' then [' ']
        else []
      (numeral conversion sign (Nat.toDigits 10 value.natAbs), complaint, false)
  | .unsigned base capital =>
      let (value, complaint) := value dialect argument
      let digits := Nat.toDigits base (value % Int.pow 2 64).toNat
      let shown := if capital then digits.map Char.toUpper else digits
      let base :=
        if !conversion.flags.contains '#' || value == 0 then []
        else if base = 8 then ['0']
        else if base = 16 then ['0', if capital then 'X' else 'x']
        else []
      (numeral conversion base shown, complaint, false)

/-- Print a piece. -/
def step (dialect : Dialect) (printing : Printing) (piece : Piece) : Printing :=
  if printing.ended then printing
  else
    match piece with
    | .literal bytes => { printing with output := printing.output ++ bytes }
    | .ending => { printing with ended := true }
    | .invalid text =>
        { printing with
          complaints := printing.complaints
            ++ [dialect.name ++ ": " ++ text ++ ": " ++ dialect.invalidConversion]
          ended := true }
    | .conversion conversion =>
        let (bytes, complaint, ended) :=
          present dialect conversion (printing.arguments.headD "")
        { output := printing.output ++ bytes
          complaints := printing.complaints ++ complaint.toList
          arguments := printing.arguments.tail
          ended }

/-- Print the pieces of a format once. -/
def printOnce (dialect : Dialect) (format : List Piece) (printing : Printing) : Printing :=
  format.foldl (step dialect) printing

/-- Print arguments in a format, again as long as it takes any. -/
def print (dialect : Dialect) (format : List Piece) (printing : Printing) : Printing :=
  let after := printOnce dialect format printing
  if after.ended = false ∧ after.arguments ≠ []
      ∧ after.arguments.length < printing.arguments.length
  then print dialect format after
  else after
termination_by printing.arguments.length
decreasing_by
  rename_i remaining
  exact remaining.2.2

/-- What a program in a dialect comes to. -/
def run (dialect : Dialect) (format : String) (arguments : List String) : ProgramOutcome :=
  let printing := print dialect (pieces dialect.escapes format.toList) { arguments }
  let warnings :=
    match printing.ended, printing.arguments with
    | false, first :: _ =>
        if dialect.warnsOfExcess then
          [dialect.name ++ ": warning: ignoring excess arguments, starting with "
            ++ dialect.quote first]
        else []
    | _, _ => []
  { output := printing.output
    errors := (printing.complaints ++ warnings).flatMap fun line =>
      line.toUTF8.toList ++ [0x0A]
    status := .exited (if printing.complaints.isEmpty then 0 else 1) }

/-- The program. -/
def program : Program := fun arguments =>
  let operands := if arguments.head? == some "--" then arguments.tail else arguments
  match operands with
  | [] =>
      .complaint "printf: missing operand\nTry 'printf --help' for more information." 1
  | format :: arguments => run programDialect format arguments

/-- The command of a shell that is called by a name. -/
def inShell (shell : String) : Program := fun arguments =>
  let operands := if arguments.head? == some "--" then arguments.tail else arguments
  match arguments.head?.map String.toList, operands with
  | some ('-' :: letter :: _), _ :: _ =>
      if letter = '-' then run (shellDialect shell) (operands.headD "") operands.tail
      else
        .complaint (shell ++ ": 1: printf: Illegal option -" ++ String.singleton letter) 2
  | _, [] => .complaint (shell ++ ": 1: printf: usage: printf format [arg ...]") 2
  | _, format :: arguments => run (shellDialect shell) format arguments

end Printf
end ManifestPolicy
