import ManifestPolicy.Polling

/-!
# A validation run

Manifests are prepared, submitted, polled and reviewed. Preparing and submitting
end the run when they fail, and so does being called off; otherwise the results
there are get reviewed, and the failure policy decides whether operations
without results fail the run as well.
-/

namespace ManifestPolicy

/-- Which operations without results fail a run. -/
structure FailurePolicy where
  failOnOperationError : Bool := false
  failOnUnresolved : Bool := false
  deriving DecidableEq, Repr, Inhabited

/-- The requests a source prepares, or why it cannot, and what it tells. -/
structure Preparation where
  outcome : Except Failure (List Request)
  notices : List Notice := []

/-- How a run is carried out. -/
structure Validator where
  poller : Poller
  reviewer : Reviewer
  policy : FailurePolicy := {}

/-- The record of a run. -/
structure Validation where
  verdict : Except Failure Unit
  deliveries : List Delivery := []
  polling : Option Polling := none
  /-- The reviews that were handed out, if there were any. -/
  reviews : Option (List Review) := none
  notices : List Notice := []
  /-- The time at the end. -/
  finish : Nat := 0

namespace Validation

/-- What a run that was polled to an end tells after polling. -/
def closingNotices (polling : Polling) : List Notice :=
  (if polling.completion = .deadlineElapsed then [.partialResults polling.unresolved] else [])
    ++ (if polling.failed.isEmpty then [] else [.someFailed polling.failed.length])

/-- The resources whose operations failed, if they fail the run. -/
def countedFailures (policy : FailurePolicy) (polling : Polling) : List String :=
  if policy.failOnOperationError then polling.failed.map FailedOperation.resource else []

/-- The resources that did not resolve, if they fail the run. -/
def countedUnresolved (policy : FailurePolicy) (polling : Polling) : List String :=
  if policy.failOnUnresolved then polling.unresolved else []

/-- The verdict on a run of which the results were reviewed. -/
def verdictOf
    (policy : FailurePolicy)
    (polling : Polling)
    (reviewed : Except Failure Unit) : Except Failure Unit :=
  let reviewed := reviewed.mapError (·.within "failed to handle validation results")
  let failed := countedFailures policy polling
  let unresolved := countedUnresolved policy polling
  if failed.isEmpty && unresolved.isEmpty then reviewed
  else
    let cause := Cause.incomplete failed unresolved
    match reviewed with
    | .ok _ => .error { outermost := cause }
    | .error failure => .error (failure.under cause)

end Validation

namespace Validator

/-- Carry out a run that was prepared. It begins at time zero. -/
def validate
    (validator : Validator)
    (service : Service σ)
    (shutdown : Option Nat)
    (preparation : Preparation)
    (state : σ) : Validation × σ :=
  match preparation.outcome with
  | .error failure =>
      ({ verdict := .error (failure.within "failed to prepare manifests for validation")
         notices := preparation.notices }, state)
  | .ok requests =>
      let (deliveries, state) := service.deliver requests state
      let opening := preparation.notices ++ [.submitting requests.length]
        ++ Delivery.notices deliveries
      let submitted := Delivery.duration deliveries
      match Delivery.pending deliveries with
      | .error failure =>
          ({ verdict := .error (failure.within "failed to submit manifests for validation")
             deliveries
             notices := opening
             finish := submitted }, state)
      | .ok pending =>
          let (polling, state) :=
            validator.poller.poll service shutdown submitted pending state
          let polled := opening ++ validator.poller.notices polling
          match polling.completion with
          | .cancelled =>
              ({ verdict := .error { outermost := .cancelled polling.unresolved }
                 deliveries
                 polling := some polling
                 notices := polled
                 finish := polling.finish }, state)
          | _ =>
              let reviews := validator.reviewer.reviewAll polling.results
              ({ verdict :=
                   Validation.verdictOf validator.policy polling (Review.verdict reviews)
                 deliveries
                 polling := some polling
                 reviews := some reviews
                 notices :=
                   polled ++ Validation.closingNotices polling ++ Review.notices reviews
                 finish := polling.finish }, state)

end Validator

end ManifestPolicy
