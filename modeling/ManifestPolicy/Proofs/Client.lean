import ManifestPolicy.Client
import ManifestPolicy.Proofs.Json.Quoted
import ManifestPolicy.Proofs.Json.Value
import ManifestPolicy.Proofs.Validation.Calls
import Mathlib.Data.List.TakeWhile

/-!
# The requests of a client

Each call of the service goes to an address that is told by the endpoint, and by the name of the
operation that is fetched. The request that is made for a call carries the token and the project
in its headers, and in its body what is submitted. There is such a request exactly if the address
is a URL and both can stand in headers.
-/

namespace ManifestPolicy

/-! ## What a request should be -/

/-- A text without the slashes at its end. -/
def IsBase (text base : String) : Prop :=
  ∃ slashes, text.toList = base.toList ++ List.replicate slashes '/'
    ∧ base.toList.getLast? ≠ some '/'

/-- A text without the slashes at its start. -/
def IsTail (text tail : String) : Prop :=
  ∃ slashes, text.toList = List.replicate slashes '/' ++ tail.toList
    ∧ tail.toList.head? ≠ some '/'

/-- The address that a call goes to. -/
inductive Addressed (endpoint : String) : ServiceCall → String → Prop
  | submission
      {base : String}
      (isBase : IsBase endpoint base)
      (content : Content) :
      Addressed endpoint (.submit content) (base ++ "/v1:validateResources")
  | operation
      {base name tail : String}
      (isBase : IsBase endpoint base)
      (isTail : IsTail name tail) :
      Addressed endpoint (.fetch name) (base ++ "/v1/" ++ tail)

/-- The values of a header of a request, in order. -/
def HttpRequest.values (request : HttpRequest) (name : String) : List String :=
  (request.headers.filter (·.1 = name)).map Prod.snd

/-- What a request asks for and what it has in its body. -/
inductive Asks : ServiceCall → HttpRequest → Prop
  | submission
      {request : HttpRequest}
      {content : Content}
      (isPost : request.method = .post)
      (isJson : request.values "content-type" = ["application/json"])
      (body : Json.parse (Utf8.encode request.body) =
        .ok (.object [("resources", .object [
          ("contentType", .text content.contentType), ("data", .text content.data)])])) :
      Asks (.submit content) request
  | operation
      {request : HttpRequest}
      {name : String}
      (isGet : request.method = .get)
      (noBody : request.body = "") :
      Asks (.fetch name) request

/-- The request of a call with a token. -/
structure IsRequest
    (endpoint project token : String)
    (call : ServiceCall)
    (request : HttpRequest) : Prop where
  addressed : ∃ address, Addressed endpoint call address ∧ Url.parse address = .ok request.url
  asks : Asks call request
  authorization : request.values "authorization" = ["Bearer " ++ token]
  project : request.values "x-goog-user-project" = [project]

/-- A call can be sent with a token: its address is a URL, and the token and the project can be
sent in headers. -/
structure Sendable (endpoint project token : String) (call : ServiceCall) : Prop where
  isUrl : ∃ address url, Addressed endpoint call address ∧ Url.parse address = .ok url
  isToken : isHeaderValue token = true
  isProject : isHeaderValue project = true

/-! ## Addresses -/

theorem replicate_slashes (text : List Char) :
    text.takeWhile (· == '/') = List.replicate (text.takeWhile (· == '/')).length '/' := by
  apply List.eq_replicate_of_mem
  intro character present
  simpa using List.mem_takeWhile_imp present

theorem head?_dropWhile_slashes (text : List Char) :
    (text.dropWhile (· == '/')).head? ≠ some '/' := by
  intro isFirst
  have stops := List.head?_dropWhile_not (· == '/') text
  rw [isFirst] at stops
  contradiction

theorem dropWhile_slashes
    {text : List Char}
    (noSlash : text.head? ≠ some '/')
    (slashes : Nat) :
    (List.replicate slashes '/' ++ text).dropWhile (· == '/') = text := by
  rw [List.dropWhile_append_of_pos (by simp)]
  cases text with
  | nil => rfl
  | cons first rest => exact List.dropWhile_cons_of_neg (by simpa using noSlash)

/-- The base of a text is what is left of it without the slashes at its end. -/
theorem isBase_iff
    {text base : String} :
    IsBase text base ↔
      base = String.ofList (text.toList.reverse.dropWhile (· == '/')).reverse := by
  constructor
  · rintro ⟨slashes, whole, ends⟩
    have noSlash : base.toList.reverse.head? ≠ some '/' := by rwa [List.head?_reverse]
    rw [whole, List.reverse_append, List.reverse_replicate, dropWhile_slashes noSlash,
      List.reverse_reverse, String.ofList_toList]
  · rintro rfl
    refine ⟨(text.toList.reverse.takeWhile (· == '/')).length, ?_, ?_⟩
    · rw [String.toList_ofList, ← List.reverse_replicate, ← replicate_slashes,
        ← List.reverse_append, List.takeWhile_append_dropWhile, List.reverse_reverse]
    · rw [String.toList_ofList, List.getLast?_reverse]
      exact head?_dropWhile_slashes _

/-- The tail of a text is what is left of it without the slashes at its start. -/
theorem isTail_iff
    {text tail : String} :
    IsTail text tail ↔ tail = String.ofList (text.toList.dropWhile (· == '/')) := by
  constructor
  · rintro ⟨slashes, whole, starts⟩
    rw [whole, dropWhile_slashes starts, String.ofList_toList]
  · rintro rfl
    refine ⟨(text.toList.takeWhile (· == '/')).length, ?_, ?_⟩
    · rw [String.toList_ofList, ← replicate_slashes, List.takeWhile_append_dropWhile]
    · rw [String.toList_ofList]
      exact head?_dropWhile_slashes _

namespace ServiceCall

/-- The method that a call is made with. -/
def method : ServiceCall → Method
  | .submit _ => .post
  | .fetch _ => .get

/-- The body that a call is made with. -/
def body? : ServiceCall → Option String
  | .submit content => some (Client.submissionBody content)
  | .fetch _ => none

end ServiceCall

namespace Client

/-- The address that a client makes a call to. -/
def addressOf (client : Client) : ServiceCall → String
  | .submit _ => client.submissionAddress
  | .fetch name => client.operationAddress name

/-- The address that a call should have is the one that the client gives it. -/
theorem addressed_iff
    {endpoint address : String}
    {call : ServiceCall}
    (project : String)
    (timeout : Duration) :
    Addressed endpoint call address ↔
      address = (ofEndpoint endpoint project timeout).addressOf call := by
  constructor
  · intro addressed
    cases addressed with
    | submission isBase content =>
        rw [isBase_iff.1 isBase]
        rfl
    | operation isBase isTail =>
        rw [isBase_iff.1 isBase, isTail_iff.1 isTail]
        rfl
  · rintro rfl
    cases call with
    | submit content => exact .submission (isBase_iff.2 rfl) content
    | fetch name => exact .operation (isBase_iff.2 rfl) (isTail_iff.2 rfl)

/-! ## Requests -/

/-- What stands before a token does not keep it from being a header value. -/
theorem isHeaderValue_bearer (token : String) :
    isHeaderValue ("Bearer " ++ token) = isHeaderValue token := by
  rw [isHeaderValue, String.toList_append, List.all_append]
  rfl

/-- The tokens of a submission. -/
theorem tokens_submissionBody (content : Content) :
    Json.tokens (Utf8.encode (submissionBody content)) =
      [.openObject, .text (.ok "resources"), .colon, .openObject, .text (.ok "contentType"),
        .colon, .text (.ok content.contentType), .comma, .text (.ok "data"), .colon,
        .text (.ok content.data), .closeObject, .closeObject] := by
  have named (name : String) := (Json.lexes_quote name).append Json.lexes_colon
  have member (name text : String) := (named name).append (Json.lexes_quote text)
  have members := ((member "contentType" content.contentType).append Json.lexes_comma).append
    (member "data" content.data)
  have resources := (Json.lexes_openObject.append members).append Json.lexes_closeObject
  have whole := (Json.lexes_openObject.append ((named "resources").append resources)).append
    Json.lexes_closeObject
  simp only [← Utf8.encode_append] at whole
  exact Json.tokens_of_lexes whole

/-- The body of a submission is read as an object with the content as its only member. -/
theorem parse_submissionBody (content : Content) :
    Json.parse (Utf8.encode (submissionBody content)) =
      .ok (.object [("resources", .object [
        ("contentType", .text content.contentType), ("data", .text content.data)])]) := by
  have document : Json.document (Utf8.encode (submissionBody content)) =
      ⟨.object [(.ok "resources", .object [(.ok "contentType", .text content.contentType),
        (.ok "data", .text content.data)] .closed)] .closed, false⟩ := by
    rw [Json.document, tokens_submissionBody]
    rfl
  have namesOrdered : compare "contentType" "data" = .lt := by decide +kernel
  apply Json.parse_of_document document rfl
  simp [Json.Ordered, Json.OrderedMembers, namesOrdered]

/-- A call can be sent if its address is a URL and its token and project are header values. -/
theorem sendable_iff
    {endpoint project token : String}
    {call : ServiceCall}
    (timeout : Duration) :
    Sendable endpoint project token call ↔
      (∃ url, Url.parse ((ofEndpoint endpoint project timeout).addressOf call) = .ok url)
        ∧ isHeaderValue token = true ∧ isHeaderValue project = true := by
  constructor
  · rintro ⟨⟨address, url, addressed, isUrl⟩, isToken, isProject⟩
    rw [(addressed_iff project timeout).1 addressed] at isUrl
    exact ⟨⟨url, isUrl⟩, isToken, isProject⟩
  · rintro ⟨⟨url, isUrl⟩, isToken, isProject⟩
    exact ⟨⟨_, url, (addressed_iff project timeout).2 rfl, isUrl⟩, isToken, isProject⟩

/-- The request that is made for a call. -/
def requestTo (project token : String) (call : ServiceCall) (url : Url) : HttpRequest where
  method := call.method
  url
  headers :=
    (call.body?.toList.map fun _ => ("content-type", "application/json"))
      ++ [("authorization", "Bearer " ++ token), (projectHeader, project)]
  body := call.body?.getD ""

theorem request_of_sendable
    {client : Client}
    {token : String}
    {call : ServiceCall}
    {url : Url}
    (isUrl : Url.parse (client.addressOf call) = .ok url)
    (isToken : isHeaderValue token = true)
    (isProject : isHeaderValue client.project = true) :
    client.request call.method (client.addressOf call) call.body? token =
      .ok (requestTo client.project token call url) := by
  rw [request, isUrl, isHeaderValue_bearer, isToken, isProject]
  rfl

/-- The request of a call asks for what the call is for, with its content as the body. -/
theorem asks_requestTo
    (project token : String)
    (call : ServiceCall)
    (url : Url) :
    Asks call (requestTo project token call url) := by
  cases call with
  | submit content =>
      have isJson : (requestTo project token (.submit content) url).values "content-type" =
          ["application/json"] := by
        simp [requestTo, ServiceCall.body?, HttpRequest.values, projectHeader]
      exact .submission rfl isJson (parse_submissionBody content)
  | fetch name => exact .operation rfl rfl

theorem values_requestTo
    (project token : String)
    (call : ServiceCall)
    (url : Url) :
    (requestTo project token call url).values "authorization" = ["Bearer " ++ token]
      ∧ (requestTo project token call url).values "x-goog-user-project" = [project] := by
  cases call <;> simp [requestTo, ServiceCall.body?, HttpRequest.values, projectHeader]

/-- A call that can be sent has a request. -/
theorem exists_request
    {endpoint project token : String}
    {call : ServiceCall}
    (timeout : Duration)
    (sendable : Sendable endpoint project token call) :
    let client := ofEndpoint endpoint project timeout
    ∃ request, client.request call.method (client.addressOf call) call.body? token = .ok request
      ∧ IsRequest endpoint project token call request := by
  intro client
  obtain ⟨⟨url, isUrl⟩, isToken, isProject⟩ := (sendable_iff timeout).1 sendable
  obtain ⟨authorization, billed⟩ := values_requestTo project token call url
  exact ⟨_, request_of_sendable isUrl isToken isProject,
    ⟨_, (addressed_iff project timeout).2 rfl, isUrl⟩, asks_requestTo project token call url,
    authorization, billed⟩

/-- A call that cannot be sent has no request. -/
theorem exists_fault
    {endpoint project token : String}
    {call : ServiceCall}
    (timeout : Duration)
    (notSendable : ¬ Sendable endpoint project token call) :
    let client := ofEndpoint endpoint project timeout
    ∃ fault, client.request call.method (client.addressOf call) call.body? token =
      .error fault := by
  intro client
  rw [sendable_iff timeout] at notSendable
  rw [request]
  cases parsed : Url.parse (client.addressOf call) with
  | error fault => exact ⟨.badUrl fault, rfl⟩
  | ok url =>
      have invalid : ¬ (isHeaderValue token && isHeaderValue client.project) = true :=
        fun valid => notSendable ⟨⟨url, parsed⟩, Bool.and_eq_true_iff.1 valid⟩
      refine ⟨.badHeader, ?_⟩
      rw [isHeaderValue_bearer]
      exact if_pos (Bool.not_eq_true' _ ▸ Bool.eq_false_of_not_eq_true invalid)

end Client
end ManifestPolicy
