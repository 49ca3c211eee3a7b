import ManifestPolicy.Proofs.Client

/-!
# The session of a client

What a client does can be listed as the outside sees it: the tokens that it asks for and the
requests that it makes. Whatever the outside answers, the list is cut into the calls. Each call
starts with a token, makes at most one request, and this carries the token of the same call; what
comes of the call is told by the token and by the response alone.
-/

namespace ManifestPolicy

/-- What a client does. -/
inductive ClientEvent
  /-- It asks for a token. -/
  | asked (answer : Except Failure String)
  /-- It makes a request. -/
  | sent (request : HttpRequest) (exchange : Exchange)

/-- A gateway that also lists what a client does, in order. -/
def Gateway.recording (gateway : Gateway σ) : Gateway (σ × List ClientEvent) where
  token := fun (state, events) =>
    let (answer, next) := gateway.token state
    (answer, next, events ++ [.asked answer])
  send request := fun (state, events) =>
    let (exchange, next) := gateway.send request state
    (exchange, next, events ++ [.sent request exchange])

/-! ## What should come of a call -/

/-- A response comes back in time. -/
def Exchange.Delivers (exchange : Exchange) (timeout : Nat) (response : HttpResponse) : Prop :=
  exchange.response = .ok response ∧ exchange.delay ≤ timeout
    ∧ response.status.isFinal = true

/-- What is received of the body of a response. -/
def HttpResponse.received (response : HttpResponse) : List UInt8 :=
  if response.status.hasBody then response.body else []

/-- A response says that a request has been met. -/
def HttpResponse.IsSuccess (response : HttpResponse) : Prop :=
  200 ≤ response.status.number ∧ response.status.number < 300

/-- What comes of an exchange. The status is looked at before the body. -/
structure Classified
    (timeout : Nat)
    (exchange : Exchange)
    (outcome : Except ClientError Operation) : Prop where
  /-- An operation is one that a successful response tells of. -/
  met :
    ∀ operation, outcome = .ok operation ↔
      ∃ response, exchange.Delivers timeout response ∧ response.IsSuccess
        ∧ decodeText Operation.shape.read response.received = .ok operation
  /-- A response without success is handed on, whatever its body would tell. -/
  refused :
    ∀ code body, outcome = .error (.status code body) ↔
      ∃ response, exchange.Delivers timeout response ∧ ¬ response.IsSuccess
        ∧ response.status = code ∧ Utf8.lossy response.received = body
  /-- A successful response may tell of no operation. -/
  undecoded :
    ∀ error, outcome = .error (.decode error) ↔
      ∃ response, exchange.Delivers timeout response ∧ response.IsSuccess
        ∧ decodeText Operation.shape.read response.received = .error error
  /-- There may be no response. -/
  interrupted :
    (∃ fault, outcome = .error (.transport fault)) ↔
      ¬ ∃ response, exchange.Delivers timeout response
  /-- A request is never made without a token. -/
  authenticated : ∀ failure, outcome ≠ .error (.credentials failure)

/-- What a call does, and what comes of it. -/
inductive Conducted
    (endpoint project : String)
    (timeout : Nat)
    (call : ServiceCall) : List ClientEvent → Except ClientError Operation → Prop
  /-- There is no token, and nothing is sent. -/
  | unauthenticated
      (failure : Failure) :
      Conducted endpoint project timeout call [.asked (.error failure)]
        (.error (.credentials failure))
  /-- The call cannot be sent. -/
  | unsendable
      {token : String}
      (notSendable : ¬ Sendable endpoint project token call)
      (fault : TransportFault) :
      Conducted endpoint project timeout call [.asked (.ok token)] (.error (.transport fault))
  /-- One request is made, with the token that was asked for. -/
  | exchanged
      {token : String}
      {request : HttpRequest}
      {exchange : Exchange}
      {outcome : Except ClientError Operation}
      (sendable : Sendable endpoint project token call)
      (isRequest : IsRequest endpoint project token call request)
      (classified : Classified timeout exchange outcome) :
      Conducted endpoint project timeout call [.asked (.ok token), .sent request exchange] outcome

/-- Calls that are made one after the other, what they do and what comes of them. -/
inductive Session (endpoint project : String) (timeout : Nat) :
    List ServiceCall → List ClientEvent → List (Except ClientError Operation) → Prop
  | nil : Session endpoint project timeout [] [] []
  | cons
      {call : ServiceCall}
      {events later : List ClientEvent}
      {outcome : Except ClientError Operation}
      {calls : List ServiceCall}
      {outcomes : List (Except ClientError Operation)}
      (conducted : Conducted endpoint project timeout call events outcome)
      (rest : Session endpoint project timeout calls later outcomes) :
      Session endpoint project timeout (call :: calls) (events ++ later) (outcome :: outcomes)

/-! ## Responses -/

/-- An exchange delivers one response at most. -/
theorem Exchange.Delivers.exists_and_iff
    {exchange : Exchange}
    {timeout : Nat}
    {response : HttpResponse}
    (delivers : exchange.Delivers timeout response)
    {property : HttpResponse → Prop} :
    (∃ other, exchange.Delivers timeout other ∧ property other) ↔ property response := by
  constructor
  · rintro ⟨other, otherDelivers, holds⟩
    obtain rfl : response = other :=
      Except.ok.inj (delivers.1.symm.trans otherDelivers.1)
    exact holds
  · exact fun holds => ⟨response, delivers, holds⟩

/-- A response is waited for exactly if it comes back in time. -/
theorem Exchange.within_eq_ok_iff
    {exchange : Exchange}
    {timeout : Nat}
    {response : HttpResponse} :
    (exchange.within timeout).response = .ok response ↔ exchange.Delivers timeout response := by
  obtain ⟨answer, delay⟩ := exchange
  unfold within Delivers
  by_cases late : timeout < delay
  · simp [late]
  · have inTime : delay ≤ timeout := Nat.not_lt.1 late
    rw [if_neg late]
    match answer with
    | .error .silent | .error .closed | .error .unreachable => simp
    | .ok other =>
        by_cases same : other = response
        · subst same
          cases final : other.status.isFinal <;> simp [final, inTime]
        · cases final : other.status.isFinal <;> simp [final, same]

namespace Client

variable {σ : Type}

/-- A response that tells of success is read as an operation. -/
theorem readResponse_of_success
    {response : HttpResponse}
    (success : response.IsSuccess) :
    readResponse response =
      (decodeText Operation.shape.read response.received).mapError .decode :=
  if_pos (by simpa [StatusCode.isSuccess, HttpResponse.IsSuccess] using success)

/-- Any other response is an error with its status and its text, decodable or not. -/
theorem readResponse_of_not_success
    {response : HttpResponse}
    (noSuccess : ¬ response.IsSuccess) :
    readResponse response =
      .error (.status response.status (Utf8.lossy response.received)) :=
  if_neg (by simpa [StatusCode.isSuccess, HttpResponse.IsSuccess] using noSuccess)

/-- What was delivered is classified by its status, and then by whether it can be decoded. -/
theorem classified_of_delivers
    {exchange : Exchange}
    {timeout : Nat}
    {response : HttpResponse}
    (delivers : exchange.Delivers timeout response) :
    Classified timeout exchange (readResponse response) := by
  have answered : ∃ response, exchange.Delivers timeout response := ⟨response, delivers⟩
  by_cases success : response.IsSuccess
  · rw [readResponse_of_success success]
    constructor <;> cases decoded : decodeText Operation.shape.read response.received <;>
      simp [delivers.exists_and_iff, decoded, success, answered, Except.mapError]
  · rw [readResponse_of_not_success success]
    constructor <;> simp [delivers.exists_and_iff, success, answered]

/-- What was not delivered in time is a fault of the transport. -/
theorem classified_of_interrupted
    {exchange : Exchange}
    {timeout : Nat}
    (interrupted : ¬ ∃ response, exchange.Delivers timeout response)
    (fault : TransportFault) :
    Classified timeout exchange (.error (.transport fault)) := by
  have never (response : HttpResponse) : ¬ exchange.Delivers timeout response :=
    fun delivers => interrupted ⟨response, delivers⟩
  constructor <;> simp [never]

/-! ## Calls -/

/-- What a call comes to whose request was made to a URL. -/
def resultOf (timeout : Nat) (url : Url) (exchange : Exchange) : CallResult :=
  match (exchange.within timeout).response with
  | .error interruption =>
      ⟨.error (.transport (.interrupted url interruption)), (exchange.within timeout).delay⟩
  | .ok response => ⟨readResponse response, (exchange.within timeout).delay⟩

/-- What becomes of an exchange is classified by what it delivers within the time limit. -/
theorem classified_resultOf
    (timeout : Nat)
    (url : Url)
    (exchange : Exchange) :
    Classified timeout exchange (resultOf timeout url exchange).outcome := by
  unfold resultOf
  cases answer : (exchange.within timeout).response with
  | error interruption =>
      apply classified_of_interrupted
      rintro ⟨response, delivers⟩
      rw [Exchange.within_eq_ok_iff.2 delivers] at answer
      contradiction
  | ok response => exact classified_of_delivers (Exchange.within_eq_ok_iff.1 answer)

section

variable
  {client : Client}
  {gateway : Gateway σ}
  {method : Method}
  {address : String}
  {body : Option String}
  {state next : σ}

/-- Without a token nothing is sent. -/
theorem call_of_refusal
    {failure : Failure}
    (asked : gateway.token state = (.error failure, next)) :
    client.call gateway method address body state =
      (⟨.error (.credentials failure), 0⟩, next) := by
  simp only [call, asked]

/-- A call that cannot be made into a request is not sent, though its token has been asked for. -/
theorem call_of_fault
    {token : String}
    {fault : TransportFault}
    (asked : gateway.token state = (.ok token, next))
    (unmade : client.request method address body token = .error fault) :
    client.call gateway method address body state =
      (⟨.error (.transport fault), 0⟩, next) := by
  simp only [call, asked, unmade]

/-- A request is sent once, and its exchange decides what the call comes to. -/
theorem call_of_request
    {token : String}
    {request : HttpRequest}
    {exchange : Exchange}
    {after : σ}
    (asked : gateway.token state = (.ok token, next))
    (made : client.request method address body token = .ok request)
    (sent : gateway.send request next = (exchange, after)) :
    client.call gateway method address body state =
      (resultOf client.timeout.milliseconds request.url exchange, after) := by
  simp only [call, asked, made, sent, resultOf]
  cases (exchange.within client.timeout.milliseconds).response <;> rfl

end

/-- Make a call of the service. -/
def perform (client : Client) (gateway : Gateway σ) : ServiceCall → σ → CallResult × σ
  | .submit content => client.submit gateway content
  | .fetch name => client.fetch gateway name

theorem perform_eq
    (client : Client)
    (gateway : Gateway σ)
    (call : ServiceCall) :
    client.perform gateway call =
      client.call gateway call.method (client.addressOf call) call.body? := by
  cases call <;> rfl

/-- A call does the same whether or not it is listed, and what it does is listed. -/
theorem perform_recording
    (endpoint project : String)
    (timeout : Duration)
    (gateway : Gateway σ)
    (call : ServiceCall)
    (state : σ)
    (events : List ClientEvent) :
    let client := ofEndpoint endpoint project timeout
    let plain := client.perform gateway call state
    ∃ done, client.perform gateway.recording call (state, events) =
        (plain.1, plain.2, events ++ done)
      ∧ Conducted endpoint project timeout.milliseconds call done plain.1.outcome := by
  intro client plain
  simp only [plain, perform_eq]
  rcases asked : gateway.token state with ⟨failure | token, next⟩
  case error =>
    have listed : gateway.recording.token (state, events) =
        (.error failure, next, events ++ [.asked (.error failure)]) := by
      simp only [Gateway.recording, asked]
    rw [call_of_refusal asked, call_of_refusal listed]
    exact ⟨_, rfl, .unauthenticated failure⟩
  case ok =>
    have listed : gateway.recording.token (state, events) =
        (.ok token, next, events ++ [.asked (.ok token)]) := by
      simp only [Gateway.recording, asked]
    by_cases sendable : Sendable endpoint project token call
    · obtain ⟨request, made, isRequest⟩ := exists_request timeout sendable
      rcases sent : gateway.send request next with ⟨exchange, after⟩
      have listedToo : gateway.recording.send request (next, events ++ [.asked (.ok token)]) =
          (exchange, after, events ++ [.asked (.ok token)] ++ [.sent request exchange]) := by
        simp only [Gateway.recording, sent]
      rw [call_of_request asked made sent, call_of_request listed made listedToo]
      exact ⟨[.asked (.ok token), .sent request exchange], by rw [List.append_assoc]; rfl,
        .exchanged sendable isRequest (classified_resultOf _ _ _)⟩
    · obtain ⟨fault, unmade⟩ := exists_fault timeout sendable
      rw [call_of_fault asked unmade, call_of_fault listed unmade]
      exact ⟨_, rfl, .unsendable sendable fault⟩

/-! ## Sessions -/

/-- Make calls one after the other. -/
def performAll (client : Client) (gateway : Gateway σ) :
    List ServiceCall → σ → List CallResult × σ
  | [], state => ([], state)
  | call :: rest, state =>
      let (result, state) := client.perform gateway call state
      let (results, state) := performAll client gateway rest state
      (result :: results, state)

/-- The events of a gateway that lists them are those of the calls, one after the other. -/
theorem performAll_recording
    (endpoint project : String)
    (timeout : Duration)
    (gateway : Gateway σ)
    (calls : List ServiceCall)
    (state : σ)
    (events : List ClientEvent) :
    let client := ofEndpoint endpoint project timeout
    let plain := client.performAll gateway calls state
    ∃ done, client.performAll gateway.recording calls (state, events) =
        (plain.1, plain.2, events ++ done)
      ∧ Session endpoint project timeout.milliseconds calls done
        (plain.1.map CallResult.outcome) := by
  induction calls generalizing state events with
  | nil => exact ⟨[], by rw [List.append_nil]; rfl, .nil⟩
  | cons call rest restListed =>
      obtain ⟨done, listed, conducted⟩ :=
        perform_recording endpoint project timeout gateway call state events
      obtain ⟨later, laterListed, session⟩ :=
        restListed ((ofEndpoint endpoint project timeout).perform gateway call state).2
          (events ++ done)
      refine ⟨done ++ later, ?_, .cons conducted session⟩
      simp only [performAll, listed, laterListed, List.append_assoc]

/-- Whatever the outside answers, what a client does is cut into its calls: each asks for a
token first and makes at most one request, which carries this token, and its outcome is told by
the token and the response. Being listed changes no result. -/
theorem conducts_calls_afresh
    (endpoint project : String)
    (timeout : Duration)
    (gateway : Gateway σ)
    (calls : List ServiceCall)
    (state : σ) :
    let client := ofEndpoint endpoint project timeout
    let plain := client.performAll gateway calls state
    let listed := client.performAll gateway.recording calls (state, [])
    Session endpoint project timeout.milliseconds calls listed.2.2
        (listed.1.map CallResult.outcome)
      ∧ listed.1 = plain.1 ∧ listed.2.1 = plain.2 := by
  intro client plain listed
  obtain ⟨done, isListed, session⟩ :=
    performAll_recording endpoint project timeout gateway calls state []
  simp only [listed, client, isListed]
  exact ⟨session, rfl, rfl⟩

/-- A project on two lines cannot stand in a header, and nothing is sent, although the address is
a URL and there is a token that can be sent. -/
theorem project_on_two_lines_unsent :
    let client := ofEndpoint "http://localhost" "a\nb" ⟨5000⟩
    let gateway : Gateway Unit :=
      ⟨fun _ => (.ok "t", ()), fun _ _ => (⟨.ok {}, 0⟩, ())⟩
    let listed := client.performAll gateway.recording [.fetch "operations/1"] ((), [])
    (∃ url, Url.parse (client.operationAddress "operations/1") = .ok url)
      ∧ isHeaderValue "t" = true
      ∧ ¬ ∃ request exchange, listed.2.2 = [.asked (.ok "t"), .sent request exchange] := by
  intro client gateway listed
  have isUrl : Url.parse (client.operationAddress "operations/1") =
      .ok ⟨false, "localhost", none, ["v1", "operations", "1"], none, none⟩ := by
    decide +kernel
  have unmade : client.request .get (client.operationAddress "operations/1") none "t" =
      .error .badHeader := by
    rw [request, isUrl]
    exact if_pos (by decide)
  have isListed : client.fetch gateway.recording "operations/1" ((), []) =
      (⟨.error (.transport .badHeader), 0⟩, (), [.asked (.ok "t")]) :=
    call_of_fault rfl unmade
  refine ⟨⟨_, isUrl⟩, by decide, ?_⟩
  rintro ⟨request, exchange, sent⟩
  simp [listed, performAll, perform, isListed] at sent

end Client
end ManifestPolicy
