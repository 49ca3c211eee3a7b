import ManifestPolicy.Proofs.Submission
import ManifestPolicy.Proofs.Validation.Calls

/-!
# What is sent

A service is sent the contents of the requests in order, up to the first that it refuses. What
it answers to them is told apart from the submission, as the answers to contents that are sent
whatever is answered; the pending operations, the failure and the notices are then those of the
answers, place by place.
-/

namespace ManifestPolicy

namespace Service

variable {σ : Type}

/-- Later contents are answered from the state that earlier ones leave. -/
theorem answers_append
    (service : Service σ)
    (contents later : List Content)
    (state : σ) :
    service.answers (contents ++ later) state =
      service.answers contents state
        ++ service.answers later (service.stateAfter contents state) := by
  induction contents generalizing state with
  | nil => rfl
  | cons content rest answersRest => exact congrArg _ (answersRest _)

end Service

namespace Delivery

/-- What was sent are requests that were accepted, each with the operation it was accepted
with. -/
inductive AcceptedAs : List Delivery → List Request → List Operation → Prop
  | nil : AcceptedAs [] [] []
  | cons
      {delivery : Delivery}
      {operation : Operation}
      {deliveries : List Delivery}
      {requests : List Request}
      {operations : List Operation}
      (accepted : delivery.reply.outcome = .ok operation)
      (later : AcceptedAs deliveries requests operations) :
      AcceptedAs (delivery :: deliveries) (delivery.request :: requests)
        (operation :: operations)

/-- The pending operations of requests, given the operations that they were accepted with. -/
def entriesOf (requests : List Request) (operations : List Operation) : List Pending :=
  List.zipWith (fun request operation => ⟨operation.name, request.resource⟩) requests operations

/-- The notices of requests, given the operations that they were accepted with. -/
def noticesOf (requests : List Request) (operations : List Operation) : List Notice :=
  List.zipWith (fun request operation => .submitted request.resource operation.name)
    requests operations

namespace AcceptedAs

variable {deliveries : List Delivery} {requests : List Request} {operations : List Operation}

theorem map_request
    (accepted : AcceptedAs deliveries requests operations) :
    deliveries.map Delivery.request = requests := by
  induction accepted with
  | nil => rfl
  | cons _ _ mapLater => rw [List.map_cons, mapLater]

theorem length_eq
    (accepted : AcceptedAs deliveries requests operations) :
    operations.length = requests.length := by
  induction accepted with
  | nil => rfl
  | cons _ _ lengthLater => rw [List.length_cons, List.length_cons, lengthLater]

/-- What is sent after requests that were accepted decides whether there are pending
operations. -/
theorem pending_append
    (accepted : AcceptedAs deliveries requests operations)
    (later : List Delivery) :
    pending (deliveries ++ later) = (pending later).map (entriesOf requests operations ++ ·) := by
  induction accepted with
  | nil => cases isPending : pending later <;> simp [isPending, Except.map, entriesOf]
  | cons isAccepted _ pendingLater =>
      rw [List.cons_append, pending_cons_of_ok isAccepted, pendingLater]
      cases pending later <;> rfl

/-- Accepted requests are told of before anything later is. -/
theorem notices_append
    (accepted : AcceptedAs deliveries requests operations)
    (later : List Delivery) :
    notices (deliveries ++ later) = noticesOf requests operations ++ notices later := by
  rw [notices, notices, List.filterMap_append]
  congr 1
  induction accepted with
  | nil => rfl
  | cons isAccepted _ noticesLater =>
      rw [List.filterMap_cons, notice?, isAccepted, noticesLater]
      rfl

end AcceptedAs
end Delivery

namespace Service

variable {σ : Type}

/-- After an accepted request the rest are delivered. -/
theorem deliver_cons_of_ok
    {service : Service σ}
    {request : Request}
    {state : σ}
    {operation : Operation}
    (accepted : (service.submit request.content state).1.outcome = .ok operation)
    (rest : List Request) :
    (service.deliver (request :: rest) state).1 =
      ⟨request, (service.submit request.content state).1⟩
        :: (service.deliver rest (service.submit request.content state).2).1 := by
  simp only [deliver, accepted]

/-- After a refused request nothing is delivered. -/
theorem deliver_cons_of_error
    {service : Service σ}
    {request : Request}
    {state : σ}
    {failure : Failure}
    (refused : (service.submit request.content state).1.outcome = .error failure)
    (rest : List Request) :
    (service.deliver (request :: rest) state).1 =
      [⟨request, (service.submit request.content state).1⟩] := by
  simp only [deliver, refused]

/-- Requests that are accepted are sent, and the submission goes on with those after them. -/
theorem exists_deliver_append
    {service : Service σ}
    {requests : List Request}
    {state : σ}
    {operations : List Operation}
    (answered : service.answers (requests.map Request.content) state = operations.map .ok) :
    ∃ deliveries, Delivery.AcceptedAs deliveries requests operations
      ∧ ∀ later, (service.deliver (requests ++ later) state).1 =
        deliveries ++ (service.deliver later
          (service.stateAfter (requests.map Request.content) state)).1 := by
  -- The induction is on the requests, from any state: the answers to those that are left are
  -- given in the state in which the first of them leaves the service.
  induction requests generalizing state operations with
  | nil =>
      obtain rfl : operations = [] := by simpa [answers] using answered.symm
      exact ⟨[], .nil, fun _ => rfl⟩
  | cons request rest deliverRest =>
      obtain ⟨operation, operations, rfl, accepted, answeredRest⟩ :=
        List.map_eq_cons_iff.1 answered.symm
      obtain ⟨deliveries, areAccepted, delivers⟩ := deliverRest answeredRest.symm
      refine ⟨⟨request, (service.submit request.content state).1⟩ :: deliveries,
        .cons accepted.symm areAccepted, ?_⟩
      intro later
      rw [List.cons_append, deliver_cons_of_ok accepted.symm, delivers]
      rfl

/-- A submission whose requests are all accepted. -/
theorem deliver_of_accepted
    {service : Service σ}
    {requests : List Request}
    {state : σ}
    {operations : List Operation}
    (answered : service.answers (requests.map Request.content) state = operations.map .ok) :
    Delivery.AcceptedAs (service.deliver requests state).1 requests operations := by
  obtain ⟨deliveries, accepted, delivers⟩ := exists_deliver_append answered
  have whole := delivers []
  rw [List.append_nil, deliver, List.append_nil] at whole
  rwa [whole]

/-- A submission that ends with the first request that is refused. -/
theorem deliver_of_refused
    {service : Service σ}
    {before : List Request}
    {request : Request}
    {state : σ}
    {operations : List Operation}
    {failure : Failure}
    (answered : service.answers ((before ++ [request]).map Request.content) state =
      operations.map .ok ++ [.error failure])
    (after : List Request) :
    ∃ deliveries last,
      (service.deliver (before ++ request :: after) state).1 = deliveries ++ [last]
        ∧ Delivery.AcceptedAs deliveries before operations
        ∧ last.request = request
        ∧ last.reply.outcome = .error failure := by
  rw [List.map_append, answers_append] at answered
  obtain ⟨answeredBefore, answeredLast⟩ := List.append_inj' answered rfl
  obtain ⟨deliveries, accepted, delivers⟩ := exists_deliver_append answeredBefore
  have refused := (List.cons_eq_cons.1 answeredLast).1
  refine ⟨deliveries, ⟨request, _⟩, ?_, accepted, rfl, refused⟩
  rw [delivers, deliver_cons_of_error refused]

/-- The calls of a submission are those of the requests that were sent. -/
theorem deliver_calls
    (service : Service σ)
    (requests : List Request)
    (state : σ) :
    (service.recording.deliver requests (state, [])).2.2 =
      ((service.deliver requests state).1.map Delivery.request).map
        fun request => .submit request.content := by
  rw [deliver_recording, List.nil_append, Delivery.calls, List.map_map]
  rfl

theorem deliver_recording_fst
    (service : Service σ)
    (requests : List Request)
    (state : σ) :
    (service.recording.deliver requests (state, [])).1 = (service.deliver requests state).1 := by
  rw [deliver_recording]

/-- A service is sent the contents of requests in order, as a prefix of them. When it refuses
one, having accepted those before, it is sent the contents up to that one, the submission fails
with its failure under the name of that request, and as many requests are told of as were
accepted. When it accepts all, it is sent all contents, and at each place the resource of the
request is paired with the name of the operation that was answered to it. -/
theorem sends_until_refused
    (service : Service σ)
    (requests : List Request)
    (state : σ) :
    let submission := service.recording.deliver requests (state, [])
    let sent := submission.2.2
    let pending := Delivery.pending submission.1
    let notices := Delivery.notices submission.1
    (∃ reached, reached <+: requests
        ∧ sent = reached.map fun request => .submit request.content)
      ∧ (∀ (before after : List Request) (request : Request) (operations : List Operation)
          (failure : Failure),
        requests = before ++ request :: after →
        service.answers ((before ++ [request]).map Request.content) state =
          operations.map .ok ++ [.error failure] →
        sent = (before ++ [request]).map (fun request => .submit request.content)
          ∧ pending = .error (failure.within ("failed to submit " ++ request.resource))
          ∧ notices = Delivery.noticesOf before operations
          ∧ notices.length = before.length)
      ∧ ∀ operations : List Operation,
        service.answers (requests.map Request.content) state = operations.map .ok →
        sent = requests.map (fun request => .submit request.content)
          ∧ ∃ entries, pending = .ok entries
            ∧ entries.length = requests.length
            ∧ ∀ (place : Nat) (request : Request) (operation : Operation),
              requests[place]? = some request → operations[place]? = some operation →
              entries[place]? = some ⟨operation.name, request.resource⟩ := by
  intro submission sent pending notices
  have sentRequests : sent = _ := service.deliver_calls requests state
  have delivered : submission.1 = _ := service.deliver_recording_fst requests state
  refine ⟨⟨_, (service.deliver_requests requests state).1, sentRequests⟩, ?refused, ?accepted⟩
  case refused =>
    rintro before after request operations failure rfl answered
    obtain ⟨deliveries, last, delivers, accepted, rfl, refused⟩ :=
      deliver_of_refused answered after
    have told : notices = Delivery.noticesOf before operations := by
      have toldLast : Delivery.notices [last] = [] := by
        simp [Delivery.notices, Delivery.notice?, refused]
      change Delivery.notices submission.1 = _
      rw [delivered, delivers, accepted.notices_append, toldLast, List.append_nil]
    refine ⟨?_, ?_, told, ?_⟩
    · rw [sentRequests, delivers, List.map_append, accepted.map_request]
      rfl
    · change Delivery.pending submission.1 = _
      rw [delivered, delivers, accepted.pending_append, Delivery.pending_cons_of_error refused]
      rfl
    · rw [told, Delivery.noticesOf, List.length_zipWith, accepted.length_eq, Nat.min_self]
  case accepted =>
    intro operations answered
    have accepted := deliver_of_accepted answered
    have isPending : pending = .ok (Delivery.entriesOf requests operations) := by
      have whole := accepted.pending_append []
      rw [List.append_nil, ← delivered] at whole
      refine whole.trans ?_
      rw [Delivery.pending]
      exact congrArg _ (List.append_nil _)
    refine ⟨by rw [sentRequests, accepted.map_request], _, isPending, ?_, ?_⟩
    · rw [Delivery.entriesOf, List.length_zipWith, accepted.length_eq, Nat.min_self]
    · intro place request operation isRequest isOperation
      rw [Delivery.entriesOf, List.getElem?_zipWith, isRequest, isOperation]

/-! ## A refused request

All accepted requests have operations of one name, and two of them have the same resource. -/

/-- A service that accepts two requests. -/
def twice : Service Nat where
  submit _ count :=
    if count < 2 then (⟨.ok { name := "operations/7" }, 0⟩, count + 1)
    else (⟨.error (.because "quota exceeded"), 0⟩, count + 1)
  fetch _ count := (⟨.error (.because "gone"), 0⟩, count)

/-- A request for the manifest of a resource. -/
def requestFor (resource data : String) : Request := ⟨resource, ⟨Content.yamlType, data⟩⟩

theorem third_request_refused :
    let before := [requestFor "web" "YTogMQ==", requestFor "web" "YjogMg=="]
    let refused := requestFor "db" "YzogMw=="
    let submission := twice.recording.deliver
      (before ++ [refused, requestFor "api" "ZDogNA=="]) (0, [])
    submission.2.2 = (before ++ [refused]).map (fun request => .submit request.content)
      ∧ Delivery.pending submission.1 =
        .error ((Failure.because "quota exceeded").within "failed to submit db")
      ∧ (Delivery.notices submission.1).length = 2 := by
  intro before refused submission
  obtain ⟨sent, fails, _, told⟩ :=
    (sends_until_refused twice (before ++ [refused, requestFor "api" "ZDogNA=="]) 0).2.1
      before [requestFor "api" "ZDogNA=="] refused
      [{ name := "operations/7" }, { name := "operations/7" }] (.because "quota exceeded") rfl rfl
  exact ⟨sent, fails, told⟩

end Service
end ManifestPolicy
