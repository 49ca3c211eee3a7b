import ManifestPolicy.Submission

/-!
# What submission leaves

Either every request is accepted, and the pending operations are those of the
requests in order, or the record ends with the one request that was refused, whose
failure is the failure of the submission. What the record has of each request is what
the service has answered to its contents.
-/

namespace ManifestPolicy
namespace Delivery

/-- The pending operation of a request that was accepted. -/
def entry? (delivery : Delivery) : Option Pending :=
  match delivery.reply.outcome with
  | .ok operation => some ⟨operation.name, delivery.request.resource⟩
  | .error _ => none

/-- The request was accepted. -/
def Accepted (delivery : Delivery) : Prop :=
  ∃ operation, delivery.reply.outcome = .ok operation

/-- An accepted request is pending before all that come after it. -/
theorem pending_cons_of_ok
    {delivery : Delivery}
    {operation : Operation}
    (accepted : delivery.reply.outcome = .ok operation)
    (later : List Delivery) :
    pending (delivery :: later) =
      (pending later).map (⟨operation.name, delivery.request.resource⟩ :: ·) := by
  rw [pending, accepted]
  cases pending later <;> rfl

/-- A refused request ends the submission with its failure. -/
theorem pending_cons_of_error
    {delivery : Delivery}
    {failure : Failure}
    (refused : delivery.reply.outcome = .error failure)
    (later : List Delivery) :
    pending (delivery :: later) =
      .error (failure.within ("failed to submit " ++ delivery.request.resource)) := by
  rw [pending, refused]
  rfl

/-- When all requests were accepted, their operations are pending in order. -/
theorem pending_of_accepted
    {deliveries : List Delivery}
    (accepted : ∀ delivery ∈ deliveries, delivery.Accepted) :
    ∃ entries, pending deliveries = .ok entries
      ∧ entries.map some = deliveries.map entry? := by
  induction deliveries with
  | nil => exact ⟨[], rfl, rfl⟩
  | cons delivery later pendingLater =>
      obtain ⟨⟨operation, headAccepted⟩, laterAccepted⟩ := List.forall_mem_cons.1 accepted
      obtain ⟨entries, laterPending, sameEntries⟩ := pendingLater laterAccepted
      refine ⟨⟨operation.name, delivery.request.resource⟩ :: entries, ?_, ?_⟩
      · rw [pending_cons_of_ok headAccepted, laterPending]
        rfl
      · rw [List.map_cons, List.map_cons, sameEntries, entry?, headAccepted]

/-- Operations are pending only when all requests were accepted. -/
theorem accepted_of_pending
    {deliveries : List Delivery}
    {entries : List Pending}
    (submitted : pending deliveries = .ok entries) :
    ∀ delivery ∈ deliveries, delivery.Accepted := by
  induction deliveries generalizing entries with
  | nil => simp
  | cons delivery later acceptedLater =>
      cases answer : delivery.reply.outcome with
      | error failure =>
          rw [pending_cons_of_error answer] at submitted
          contradiction
      | ok operation =>
          rw [pending_cons_of_ok answer] at submitted
          cases laterPending : pending later with
          | error failure => simp [laterPending, Except.map] at submitted
          | ok laterEntries =>
              exact List.forall_mem_cons.2 ⟨⟨operation, answer⟩, acceptedLater laterPending⟩

theorem resource_of_entry?
    {delivery : Delivery}
    {entry : Pending}
    (isEntry : delivery.entry? = some entry) :
    entry.resource = delivery.request.resource := by
  unfold entry? at isEntry
  split at isEntry
  · simp only [Option.some.injEq] at isEntry
    rw [← isEntry]
  · contradiction

/-- The resources of the pending operations are those of the requests. -/
theorem resource_of_entries
    {deliveries : List Delivery}
    {entries : List Pending}
    (sameEntries : entries.map some = deliveries.map entry?) :
    entries.map Pending.resource =
      deliveries.map fun delivery => delivery.request.resource := by
  induction deliveries generalizing entries with
  | nil => simpa using sameEntries
  | cons delivery later resourcesLater =>
      cases entries with
      | nil => simp at sameEntries
      | cons entry rest =>
          obtain ⟨headEntry, restEntries⟩ := List.cons_eq_cons.1 sameEntries
          rw [List.map_cons, List.map_cons, resourcesLater restEntries,
            resource_of_entry? headEntry.symm]

/-- After a submission that was not refused, every delivery has an entry. -/
theorem entries_of_pending
    {deliveries : List Delivery}
    {entries : List Pending}
    (submitted : pending deliveries = .ok entries) :
    entries.map some = deliveries.map entry? := by
  obtain ⟨others, alsoSubmitted, sameEntries⟩ :=
    pending_of_accepted (accepted_of_pending submitted)
  rwa [Except.ok.inj (submitted.symm.trans alsoSubmitted)]

theorem resource_of_pending
    {deliveries : List Delivery}
    {entries : List Pending}
    (submitted : pending deliveries = .ok entries) :
    entries.map Pending.resource =
      deliveries.map fun delivery => delivery.request.resource :=
  resource_of_entries (entries_of_pending submitted)

end Delivery

namespace Service

variable {σ : Type}

/-- What a service answers to contents that are sent one after the other, whatever it
answers. -/
def answers (service : Service σ) : List Content → σ → List (Except Failure Operation)
  | [], _ => []
  | content :: rest, state =>
      (service.submit content state).1.outcome
        :: answers service rest (service.submit content state).2

/-- The state of a service after contents were sent to it, whatever it answered. -/
def stateAfter (service : Service σ) (contents : List Content) (state : σ) : σ :=
  contents.foldl (fun state content => (service.submit content state).2) state

/-- What is sent is a prefix of the requests, and all of them when none is refused. -/
theorem deliver_requests
    (service : Service σ)
    (requests : List Request)
    (state : σ) :
    let deliveries := (service.deliver requests state).1
    deliveries.map Delivery.request <+: requests
      ∧ ((∀ delivery ∈ deliveries, delivery.Accepted) →
        deliveries.map Delivery.request = requests) := by
  fun_induction deliver service requests state with
  | case1 => simp
  | case2 request rest state reply next _ failure refused =>
      refine ⟨⟨rest, rfl⟩, ?_⟩
      intro accepted
      obtain ⟨operation, accepted⟩ := accepted _ (List.mem_singleton_self _)
      simp [refused] at accepted
  | case3 request rest state reply next _ operation accepted later last continued sent =>
      rw [continued] at sent
      obtain ⟨isPrefix, complete⟩ := sent
      refine ⟨by simpa using isPrefix, ?_⟩
      intro allAccepted
      rw [List.map_cons, complete (List.forall_mem_cons.1 allAccepted).2]

/-- When none is refused, a submission shows of its requests what they show of themselves. -/
theorem map_deliver_of_accepted
    {service : Service σ}
    {requests : List Request}
    {state : σ}
    (accepted : ∀ delivery ∈ (service.deliver requests state).1, delivery.Accepted)
    (observe : Request → α) :
    (service.deliver requests state).1.map (fun delivery => observe delivery.request) =
      requests.map observe := by
  have complete := (service.deliver_requests requests state).2 accepted
  have observed := congrArg (List.map observe) complete
  rwa [List.map_map] at observed

/-- A request that was refused ends the submission with its failure. -/
theorem pending_deliver_of_error
    (service : Service σ)
    (requests : List Request)
    (state : σ)
    {delivery : Delivery}
    {failure : Failure}
    (sent : delivery ∈ (service.deliver requests state).1)
    (refused : delivery.reply.outcome = .error failure) :
    Delivery.pending (service.deliver requests state).1 =
      .error (failure.within ("failed to submit " ++ delivery.request.resource)) := by
  fun_induction deliver service requests state with
  | case1 => simp at sent
  | case2 request rest state reply next _ other alsoRefused =>
      obtain rfl : delivery = ⟨request, reply⟩ := by simpa using sent
      exact Delivery.pending_cons_of_error refused []
  | case3 request rest state reply next _ operation accepted later last continued ends =>
      rw [continued] at ends
      rcases List.mem_cons.1 sent with rfl | sentLater
      · simp [accepted] at refused
      · rw [Delivery.pending_cons_of_ok accepted, ends sentLater]
        rfl

/-- What is on record of a submission is what the service answers to the contents that were
sent, and the submission leaves the service as they do. -/
theorem deliver_answers
    (service : Service σ)
    (requests : List Request)
    (state : σ) :
    let submission := service.deliver requests state
    let sent := submission.1.map fun delivery => delivery.request.content
    service.answers sent state = submission.1.map (fun delivery => delivery.reply.outcome)
      ∧ service.stateAfter sent state = submission.2 := by
  fun_induction deliver service requests state with
  | case1 => exact ⟨rfl, rfl⟩
  | case2 request rest state reply next answered failure refused =>
      simp [answers, stateAfter, answered]
  | case3 request rest state reply next answered operation accepted later last continued
      answersLater =>
      rw [continued] at answersLater
      simpa [answers, stateAfter, answered] using answersLater

end Service
end ManifestPolicy
