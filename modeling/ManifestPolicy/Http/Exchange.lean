import ManifestPolicy.Http.Status
import ManifestPolicy.Http.Url

/-!
# Exchanges

A request that is sent to a server, and what comes back: a response, or nothing.
-/

namespace ManifestPolicy

/-- What a request asks for. -/
inductive Method
  | get
  | post
  deriving DecidableEq, Repr, Inhabited

/-- The name of a method. -/
def Method.name : Method → String
  | .get => "GET"
  | .post => "POST"

/-- A request to a server. -/
structure HttpRequest where
  method : Method
  url : Url
  headers : List (String × String) := []
  body : String := ""
  deriving DecidableEq, Repr, Inhabited

/-- The value of a header. -/
def HttpRequest.header? (request : HttpRequest) (name : String) : Option String :=
  request.headers.lookup name

/-- The response of a server. -/
structure HttpResponse where
  status : StatusCode := ⟨200⟩
  body : List UInt8 := []
  deriving DecidableEq, Repr, Inhabited

/-- Why nothing comes back. -/
inductive Interruption
  /-- The server has ended the connection. -/
  | closed
  /-- The server does not answer. -/
  | silent
  /-- There is no server. -/
  | unreachable
  deriving DecidableEq, Repr

/-- What comes of a request, and after how many milliseconds. -/
structure Exchange where
  response : Except Interruption HttpResponse
  delay : Nat := 0

/-- An exchange that is given up after a time. A response that takes longer is not
waited for, and one that is not final leaves the connection without an answer. -/
def Exchange.within (exchange : Exchange) (timeout : Nat) : Exchange :=
  if timeout < exchange.delay then ⟨.error .silent, timeout⟩
  else
    match exchange.response with
    | .error .silent => ⟨.error .silent, timeout⟩
    | .error interruption => ⟨.error interruption, exchange.delay⟩
    | .ok response =>
        if response.status.isFinal then exchange else ⟨.error .closed, exchange.delay⟩

/-- Why a request is not made, or not answered. -/
inductive TransportFault
  /-- The address is no URL of the web. -/
  | badUrl (fault : UrlFault)
  /-- A header has a character that cannot be sent. -/
  | badHeader
  /-- The request has been made in vain. -/
  | interrupted (url : Url) (interruption : Interruption)
  deriving DecidableEq, Repr

/-- The wording of a fault and of its causes. -/
def TransportFault.texts : TransportFault → String × List String
  | .badUrl (.otherScheme text) =>
      ("builder error for url (" ++ text ++ ")", [(UrlFault.otherScheme text).message])
  | .badUrl fault => ("builder error", [fault.message])
  | .badHeader => ("builder error", ["failed to parse header value"])
  | .interrupted url interruption =>
      let causes :=
        match interruption with
        | .closed => ["client error (SendRequest)", "connection closed before message completed"]
        | .silent => ["operation timed out"]
        | .unreachable => ["client error (Connect)"]
      ("error sending request for url (" ++ url.toText ++ ")", causes)

/-- Whether a header can be sent: it has no control characters but the tab. -/
def isHeaderValue (value : String) : Bool :=
  value.toList.all fun character =>
    character == '\t' || (0x20 ≤ character.toNat && character.toNat != 0x7F)

end ManifestPolicy
