import ManifestPolicy.Duration
import ManifestPolicy.Http.Exchange
import ManifestPolicy.Json.Printer
import ManifestPolicy.Service
import ManifestPolicy.Text.Quoted

/-!
# The client

Calls the service over the web. Each call asks for a token of its own before
anything else, and makes at most one request. Nothing is kept from one call to the
next.
-/

namespace ManifestPolicy

/-- Where the service is, the project that calls are billed to, and how long a
response is waited for. The endpoint has no slash at its end. -/
structure Client where
  endpoint : String
  project : String
  timeout : Duration
  deriving DecidableEq, Repr, Inhabited

/-- Why a call fails. -/
inductive ClientError
  /-- There is no token. -/
  | credentials (failure : Failure)
  /-- No response has come. -/
  | transport (fault : TransportFault)
  /-- The response does not say that the call has been met. -/
  | status (code : StatusCode) (body : String)
  /-- The response is no operation. -/
  | decode (error : DecodeError)
  deriving DecidableEq, Repr

namespace ClientError

/-- The wording of an error. -/
def message : ClientError → String
  | .credentials failure => "failed to obtain an access token: " ++ failure.message
  | .transport fault => "failed to call the validation service: " ++ fault.texts.1
  | .status code body =>
      "expected a successful response, but got " ++ code.describe ++ ": " ++ body
  | .decode error =>
      "failed to decode the validation service response: " ++ error.message

/-- An error with its causes. That of missing credentials tells them itself. -/
def toFailure (error : ClientError) : Failure :=
  let causes :=
    match error with
    | .credentials _ | .status _ _ => []
    | .transport fault => (fault.texts.1 :: fault.texts.2).map Cause.reason
    | .decode error => [.json error]
  ⟨.reason error.message, causes⟩

end ClientError

/-- What a client asks of the outside, in states of a given type: tokens, and answers
to its requests. -/
structure Gateway (σ : Type) where
  token : σ → Except Failure String × σ
  send : HttpRequest → σ → Exchange × σ

/-- What a call comes to, and how many milliseconds it takes. -/
structure CallResult where
  outcome : Except ClientError Operation
  delay : Nat := 0

/-- A call as a reply of the service. -/
def CallResult.reply (result : CallResult) : Reply :=
  ⟨result.outcome.mapError ClientError.toFailure, result.delay⟩

namespace Client

/-- The client of an endpoint, from which slashes at the end are removed. -/
def ofEndpoint (endpoint project : String) (timeout : Duration) : Client :=
  ⟨String.ofList (endpoint.toList.reverse.dropWhile (· == '/')).reverse, project, timeout⟩

/-- The text in which a client is shown. -/
def describe (client : Client) : String :=
  "ValidationClient \x7b endpoint: " ++ quoted client.endpoint ++ ", project: "
    ++ quoted client.project ++ ", .. \x7d"

/-- The name of the header for the project. -/
def projectHeader : String := "x-goog-user-project"

/-- The address that takes submissions. -/
def submissionAddress (client : Client) : String :=
  client.endpoint ++ "/v1:validateResources"

/-- The address of an operation, from whose name slashes at the start are removed. -/
def operationAddress (client : Client) (name : String) : String :=
  client.endpoint ++ "/v1/" ++ String.ofList (name.toList.dropWhile (· == '/'))

/-- The body of a submission. -/
def submissionBody (content : Content) : String :=
  (Json.object [("resources", content.toJson)]).compact

/-- The request of a call to an address. A body is sent as JSON. -/
def request
    (client : Client)
    (method : Method)
    (address : String)
    (body : Option String)
    (token : String) : Except TransportFault HttpRequest :=
  let authorization := "Bearer " ++ token
  match Url.parse address with
  | .error fault => .error (.badUrl fault)
  | .ok url =>
      if !(isHeaderValue authorization && isHeaderValue client.project) then
        .error .badHeader
      else
        .ok {
          method
          url
          headers :=
            (body.toList.map fun _ => ("content-type", "application/json"))
              ++ [("authorization", authorization), (projectHeader, client.project)]
          body := body.getD "" }

/-- The operation in a response, if it says that the call has been met. -/
def readResponse (response : HttpResponse) : Except ClientError Operation :=
  let body := if response.status.hasBody then response.body else []
  if response.status.isSuccess then
    (decodeText Operation.shape.read body).mapError .decode
  else .error (.status response.status (Utf8.lossy body))

/-- Make a call. -/
def call
    (client : Client)
    (gateway : Gateway σ)
    (method : Method)
    (address : String)
    (body : Option String)
    (state : σ) : CallResult × σ :=
  let (token, state) := gateway.token state
  match token with
  | .error failure => (⟨.error (.credentials failure), 0⟩, state)
  | .ok token =>
      match client.request method address body token with
      | .error fault => (⟨.error (.transport fault), 0⟩, state)
      | .ok request =>
          let (exchange, state) := gateway.send request state
          let exchange := exchange.within client.timeout.milliseconds
          match exchange.response with
          | .error interruption =>
              (⟨.error (.transport (.interrupted request.url interruption)),
                exchange.delay⟩, state)
          | .ok response => (⟨readResponse response, exchange.delay⟩, state)

/-- Submit an encoded manifest. -/
def submit (client : Client) (gateway : Gateway σ) (content : Content) :
    σ → CallResult × σ :=
  client.call gateway .post client.submissionAddress (some (submissionBody content))

/-- Fetch an operation. -/
def fetch (client : Client) (gateway : Gateway σ) (name : String) : σ → CallResult × σ :=
  client.call gateway .get (client.operationAddress name) none

/-- The service that a client calls. -/
def service (client : Client) (gateway : Gateway σ) : Service σ where
  submit content state :=
    let (result, state) := client.submit gateway content state
    (result.reply, state)
  fetch name state :=
    let (result, state) := client.fetch gateway name state
    (result.reply, state)

end Client

end ManifestPolicy
