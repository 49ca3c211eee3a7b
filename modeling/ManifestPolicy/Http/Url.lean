import ManifestPolicy.Text.Utf8

/-!
# URLs

The URLs of resources on the web, read by the rules of the URL standard: what may
be written more freely than it is sent is brought into the form that is sent. A
slash may be written as a backslash, dots that name directories are resolved, tabs
and line ends are dropped, and characters that must not be sent are written by
their bytes.
-/

namespace ManifestPolicy

/-- An absolute URL of the web. The segments of its path, its query and its fragment
are encoded. -/
structure Url where
  isSecure : Bool
  host : String
  port : Option Nat := none
  path : List String := [""]
  query : Option String := none
  fragment : Option String := none
  deriving DecidableEq, Repr, Inhabited

/-- Why a text is no URL of the web. -/
inductive UrlFault
  /-- It names no scheme. -/
  | relative
  /-- It names no host. -/
  | emptyHost
  /-- A character that no host name has. -/
  | badHost
  /-- An address in brackets that is none. -/
  | badAddress
  /-- A port that is no number of 16 bits. -/
  | badPort
  /-- A scheme that is not of the web. -/
  | otherScheme (text : String)
  deriving DecidableEq, Repr

/-- The wording of a fault. -/
def UrlFault.message : UrlFault → String
  | .relative => "relative URL without a base"
  | .emptyHost => "empty host"
  | .badHost => "invalid domain character"
  | .badAddress => "invalid IPv6 address"
  | .badPort => "invalid port number"
  | .otherScheme _ => "URL scheme is not allowed"

namespace Url

/-- Write a byte by its number. -/
def percentByte (byte : UInt8) : List Char :=
  '%' :: ((Nat.toDigits 16 (byte.toNat + 256)).drop 1).map Char.toUpper

/-- Write a character by its bytes if it belongs to a set or is no visible ASCII
character. -/
def encodeChar (reserved : List Char) (character : Char) : List Char :=
  if character.toNat < 0x20 || 0x7F ≤ character.toNat || reserved.contains character then
    (Utf8.encode (String.singleton character)).flatMap percentByte
  else [character]

/-- Write a text with its reserved characters encoded. -/
def encode (reserved text : List Char) : String :=
  String.ofList (text.flatMap (encodeChar reserved))

/-- The characters reserved in fragments. -/
def fragmentReserved : List Char := [' ', '"', '<', '>', '\x60']

/-- The characters reserved in paths. -/
def pathReserved : List Char := fragmentReserved ++ ['#', '?', '{', '}']

/-- The characters reserved in queries. -/
def queryReserved : List Char := [' ', '"', '#', '<', '>', '\'']

/-- The characters that cannot stand in the name of a host. -/
def hostForbidden : List Char :=
  [' ', '#', '/', ':', '<', '>', '?', '@', '[', '\\', ']', '^', '|', '%']

/-- Whether a segment names the directory that it stands in. -/
def isHere (segment : List Char) : Bool :=
  [".", "%2e"].contains (String.ofList (segment.map Char.toLower))

/-- Whether a segment names the directory above. -/
def isUp (segment : List Char) : Bool :=
  ["..", ".%2e", "%2e.", "%2e%2e"].contains (String.ofList (segment.map Char.toLower))

/-- Add a segment to those before it, latest first. The last segment of a path leaves
an empty one when it names a directory. -/
def addSegment (before : List String) (segment : List Char) (isLast : Bool) : List String :=
  let directory (segments : List String) : List String :=
    if isLast then "" :: segments else segments
  if isUp segment then directory before.tail
  else if isHere segment then directory before
  else encode pathReserved segment :: before

/-- Resolve the segments of a path after those before it, latest first. -/
def resolve (before : List String) : List (List Char) → List String
  | [] => before
  | [segment] => addSegment before segment true
  | segment :: rest => resolve (addSegment before segment false) rest

/-- Whether a character separates segments. -/
def isSlash (character : Char) : Bool := character == '/' || character == '\\'

/-- Read a path, which is empty or starts with a slash. -/
def readPath (text : List Char) : List String :=
  (resolve [] ((text.drop 1).splitOnP isSlash)).reverse

/-- Remove what does not count: blanks and control characters around a text, and
tabs and line ends within it. -/
def clean (text : List Char) : List Char :=
  let counts (character : Char) : Bool := 0x20 < character.toNat
  let trimmed := ((text.dropWhile (!counts ·)).reverse.dropWhile (!counts ·)).reverse
  trimmed.filter fun character => !(['\t', '\n', '\r'].contains character)

/-- Cut a text before the first character with a property. -/
def cut (stops : Char → Bool) (text : List Char) : List Char × List Char :=
  text.span fun character => !stops character

/-- The scheme of a URL in lower case, and what follows its colon. -/
def scheme? (text : List Char) : Option (String × List Char) :=
  let name := text.takeWhile fun character =>
    character.isAlphanum || ['+', '-', '.'].contains character
  match name, text.drop name.length with
  | first :: _, ':' :: rest =>
      if first.isAlpha then some (String.ofList (name.map Char.toLower), rest) else none
  | _, _ => none

/-- Read a port; the usual one of the scheme is left out. -/
def readPort (usual : Nat) (text : List Char) : Except UrlFault (Option Nat) :=
  match text with
  | [] => .ok none
  | _ :: digits =>
      let number := digits.foldl (fun total digit => total * 10 + (digit.toNat - '0'.toNat)) 0
      if !digits.all Char.isDigit || 65535 < number then .error .badPort
      else if digits.isEmpty || number == usual then .ok none
      else .ok (some number)

/-- Read a host and what follows it. -/
def readHost (text : List Char) : Except UrlFault (String × List Char) :=
  match text with
  | '[' :: rest =>
      let address := rest.takeWhile (· != ']')
      match rest.drop address.length with
      | _ :: after =>
          if address.all fun digit => digit.isDigit || digit == ':' || digit == '.'
              || ('a' ≤ digit.toLower && digit.toLower ≤ 'f') then
            .ok (String.ofList ('[' :: address.map Char.toLower ++ [']']), after)
          else .error .badAddress
      | [] => .error .badAddress
  | _ =>
      let (name, after) := cut (· == ':') text
      if name.isEmpty then .error .emptyHost
      else if name.any fun character =>
          character.toNat < 0x20 || character.toNat == 0x7F
            || hostForbidden.contains character then
        .error .badHost
      else .ok (String.ofList (name.map Char.toLower), after)

/-- What follows the last at sign of an authority. -/
def withoutUser (authority : List Char) : List Char :=
  (authority.reverse.takeWhile (· != '@')).reverse

/-- Read what follows the scheme of a URL of the web. -/
def readRest (isSecure : Bool) (text : List Char) : Except UrlFault Url := do
  let (authority, rest) :=
    cut (fun character => isSlash character || character == '?' || character == '#')
      (text.dropWhile isSlash)
  let (host, after) ← readHost (withoutUser authority)
  let port ← readPort (if isSecure then 443 else 80) after
  let (path, rest) := cut (fun character => character == '?' || character == '#') rest
  let (query, rest) := cut (· == '#') rest
  return {
    isSecure
    host
    port
    path := readPath path
    query := if query.isEmpty then none else some (encode queryReserved (query.drop 1))
    fragment := if rest.isEmpty then none else some (encode fragmentReserved (rest.drop 1)) }

/-- Read an absolute URL of the web. -/
def parse (text : String) : Except UrlFault Url :=
  let cleaned := clean text.toList
  match scheme? cleaned with
  | none => .error .relative
  | some ("http", rest) => readRest false rest
  | some ("https", rest) => readRest true rest
  | some _ => .error (.otherScheme (String.ofList cleaned))

/-- The path and the query, as a request names them. -/
def target (url : Url) : String :=
  "/" ++ "/".intercalate url.path ++ url.query.elim "" ("?" ++ ·)

/-- The text of a URL. -/
def toText (url : Url) : String :=
  (if url.isSecure then "https://" else "http://") ++ url.host
    ++ url.port.elim "" (fun port => ":" ++ toString port)
    ++ url.target ++ url.fragment.elim "" ("#" ++ ·)

end Url

end ManifestPolicy
