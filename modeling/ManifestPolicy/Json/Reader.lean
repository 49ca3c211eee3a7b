import ManifestPolicy.Json.Token

/-!
# Drafts from tokens

Brackets are matched with a stack of open containers, one token at a time. At
the first token out of place every open container is cut off there. A container
that would be the 128th one open is too deep for a reader, who meets that at its
opening bracket; one who passes over it does not mind.
-/

namespace ManifestPolicy
namespace Json

/-- The greatest number of containers a reader has open at once. -/
def depthLimit : Nat := 127

/-- A container under way, its items or members latest first. -/
inductive Frame
  | array (items : List Draft)
  | object (members : List (Except Flaw String × Draft))
  | member (members : List (Except Flaw String × Draft)) (name : Except Flaw String)

/-- What may come next. -/
inductive Expecting
  | value
  | firstItem
  | firstName
  | name
  | colon
  | separator
  deriving DecidableEq

/-- A container that has come to its end `depth` containers deep. -/
def settle (depth : Nat) (container : Draft) (fault : Option TextFault) : Draft :=
  if depthLimit < depth then .flawed ⟨.malformed, fault⟩ else container

/-- Put a value into the innermost container and close it as cut off. -/
def Frame.cutWith (fault : TextFault) (value : Draft) : Frame → Draft
  | .array items => .array (value :: items).reverse (.cut fault)
  | .object members => .object members.reverse (.cut fault)
  | .member members name => .object ((name, value) :: members).reverse (.cut fault)

/-- Close every open container around a value in which the text ends. -/
def unwind (fault : TextFault) : List Frame → Draft → Draft
  | [], value => value
  | frame :: outer, value =>
      unwind fault outer
        (settle (outer.length + 1) (frame.cutWith fault value) (some fault))

/-- The whole draft when a flaw stands where a value was expected. -/
def brokenValue (frames : List Frame) (flaw : Flaw) : Draft :=
  unwind (flaw.skipped.getD .malformed) frames (.flawed flaw)

/-- The whole draft when the innermost container is cut off between values. -/
def brokenContainer (frames : List Frame) (fault : TextFault) : Draft :=
  match frames with
  | [] => .flawed (.hard fault)
  | .array items :: outer =>
      unwind fault outer
        (settle (outer.length + 1) (.array items.reverse (.cut fault)) (some fault))
  | .object members :: outer | .member members _ :: outer =>
      unwind fault outer
        (settle (outer.length + 1) (.object members.reverse (.cut fault)) (some fault))

/-- The whole draft when a member's name is a flaw that no reader gets past. -/
def brokenName
    (members : List (Except Flaw String × Draft))
    (outer : List Frame)
    (flaw : Flaw) : Draft :=
  let fault := flaw.skipped.getD .malformed
  let object := Draft.object ((.error flaw, .null) :: members).reverse (.cut fault)
  unwind fault outer (settle (outer.length + 1) object (some fault))

/-- A text that has been read: its value, and whether anything follows it. -/
structure Document where
  root : Draft
  trailing : Bool
  deriving Repr

/-- How far a text has been read. -/
inductive Progress
  /-- Something more has to come, inside open containers. -/
  | running (expecting : Expecting) (frames : List Frame)
  /-- The value of the text is complete. -/
  | complete (root : Draft)
  /-- The text is at fault, and nothing after the fault counts. -/
  | broken (root : Draft)

/-- Progress when a value has just been completed. -/
def afterValue (value : Draft) : List Frame → Progress
  | [] => .complete value
  | .array items :: outer => .running .separator (.array (value :: items) :: outer)
  | .object members :: outer => .running .separator (.object members :: outer)
  | .member members name :: outer =>
      .running .separator (.object ((name, value) :: members) :: outer)

/-- Progress when the innermost container has just been closed. -/
def afterClose : List Frame → Progress
  | [] => .broken (.flawed (.hard .malformed))
  | .array items :: outer =>
      afterValue (settle (outer.length + 1) (.array items.reverse .closed) none) outer
  | .object members :: outer | .member members _ :: outer =>
      afterValue (settle (outer.length + 1) (.object members.reverse .closed) none) outer

/-- Progress when a value is due. -/
def takeValue (frames : List Frame) : Token → Progress
  | .openArray => .running .firstItem (.array [] :: frames)
  | .openObject => .running .firstName (.object [] :: frames)
  | .text (.ok value) => afterValue (.text value) frames
  | .text (.error flaw) | .scalar (.flawed flaw) =>
      if flaw.skipped.isSome then .broken (brokenValue frames flaw)
      else afterValue (.flawed flaw) frames
  | .scalar value => afterValue value frames
  | _ => .broken (brokenValue frames (.hard .malformed))

/-- Progress when the name of a member is due. -/
def takeName (frames : List Frame) (token : Token) : Progress :=
  match token, frames with
  | .text (.ok name), .object members :: outer =>
      .running .colon (.member members (.ok name) :: outer)
  | .text (.error flaw), .object members :: outer =>
      if flaw.skipped.isSome then .broken (brokenName members outer flaw)
      else .running .colon (.member members (.error flaw) :: outer)
  | _, _ => .broken (brokenContainer frames .malformed)

/-- Progress when a container may go on or end. -/
def takeSeparator (frames : List Frame) (token : Token) : Progress :=
  match token, frames with
  | .comma, .array _ :: _ => .running .value frames
  | .comma, .object _ :: _ => .running .name frames
  | .closeArray, .array _ :: _ => afterClose frames
  | .closeObject, .object _ :: _ => afterClose frames
  | _, _ => .broken (brokenContainer frames .malformed)

/-- Take in a token. -/
def takeToken (expecting : Expecting) (frames : List Frame) (token : Token) : Progress :=
  match expecting, token with
  | .value, _ => takeValue frames token
  | .firstItem, .closeArray => afterClose frames
  | .firstItem, _ => takeValue frames token
  | .firstName, .closeObject => afterClose frames
  | .firstName, _ => takeName frames token
  | .name, _ => takeName frames token
  | .colon, .colon => .running .value frames
  | .colon, _ => .broken (brokenValue frames (.hard .malformed))
  | .separator, _ => takeSeparator frames token

/-- The draft of a text that ends too early. -/
def endsEarly (expecting : Expecting) (frames : List Frame) : Draft :=
  match expecting with
  | .value | .colon => brokenValue frames (.hard .truncated)
  | _ => brokenContainer frames .truncated

/-- Read the rest of a text. -/
def readRest : Progress → List Token → Document
  | .broken root, _ => ⟨root, false⟩
  | .complete root, rest => ⟨root, !rest.isEmpty⟩
  | .running expecting frames, [] => ⟨endsEarly expecting frames, false⟩
  | .running expecting frames, token :: rest =>
      readRest (takeToken expecting frames token) rest

/-- Match the brackets of a text. -/
def document (bytes : List UInt8) : Document := readRest (.running .value []) (tokens bytes)

/-- The value a text stands for. -/
def parse (bytes : List UInt8) : Except TextFault Json :=
  let text := document bytes
  match text.root.toJson with
  | .error fault => .error fault
  | .ok value => if text.trailing then .error .malformed else .ok value

end Json
end ManifestPolicy
