import ManifestPolicy.Proofs.Polling.Passes
import ManifestPolicy.Proofs.Review
import ManifestPolicy.Proofs.Submission.Prefix

/-!
# The verdict of a run

A run that cannot be prepared or submitted fails with the failure of that step and
makes no later call. One that is called off fails as such, and its results are not
reviewed. Any other run is reviewed once, and its verdict follows from the number of
violations that were reported and from the resources without results that its policy
counts.
-/

namespace ManifestPolicy

namespace Validation

/-- The record of a run of which polling was called off. -/
structure CalledOff (run : Validation) (polling : Polling) : Prop where
  not_reviewed : run.reviews = none
  /-- The verdict tells of the unresolved resources and of nothing else. -/
  verdict : ∃ failure, run.verdict = .error failure
    ∧ (∀ unresolved, .cancelled unresolved ∈ failure.chain ↔ unresolved = polling.unresolved)
    ∧ (∀ failed unresolved, .incomplete failed unresolved ∉ failure.chain)
    ∧ ∀ count, .newViolations count ∉ failure.chain

/-- The record of a run whose results were reviewed. `failed` and `unresolved` are the
resources without results that count against it. -/
structure Judged
    (run : Validation)
    (reviews : List Review)
    (failed unresolved : List String) : Prop where
  reviewed : run.reviews = some reviews
  passes_iff :
    run.verdict = .ok ()
      ↔ (reviews.map fun review => review.reported.length).sum = 0
        ∧ failed = [] ∧ unresolved = []
  incomplete_iff :
    ∀ failure, run.verdict = .error failure → ∀ others more,
      .incomplete others more ∈ failure.chain
        ↔ others = failed ∧ more = unresolved ∧ (failed ≠ [] ∨ unresolved ≠ [])
  newViolations_iff :
    ∀ failure, run.verdict = .error failure → ∀ count,
      .newViolations count ∈ failure.chain
        ↔ count = (reviews.map fun review => review.reported.length).sum ∧ 0 < count
  not_cancelled :
    ∀ failure, run.verdict = .error failure → ∀ resources,
      .cancelled resources ∉ failure.chain

/-- The causes that the verdict on reviewed results tells of, outermost first. -/
def causesOf (count : Nat) (failed unresolved : List String) : List Cause :=
  (if failed.isEmpty && unresolved.isEmpty then [] else [.incomplete failed unresolved])
    ++ if count = 0 then []
      else [.reason "failed to handle validation results", .newViolations count]

@[simp] theorem mapError_ok
    {α β γ : Type}
    (told : α → β)
    (value : γ) :
    (Except.ok value).mapError told = .ok value :=
  rfl

@[simp] theorem mapError_error
    {α β γ : Type}
    (told : α → β)
    (error : α) :
    (Except.error error : Except α γ).mapError told = .error (told error) :=
  rfl

/-- The verdict passes when there are no causes, and otherwise is their chain. -/
theorem verdictOf_review
    (policy : FailurePolicy)
    (polling : Polling)
    (reviews : List Review) :
    verdictOf policy polling (Review.verdict reviews) =
      match causesOf (Review.reportedCount reviews) (countedFailures policy polling)
        (countedUnresolved policy polling) with
      | [] => .ok ()
      | outermost :: causes => .error ⟨outermost, causes⟩ := by
  unfold verdictOf Review.verdict causesOf
  by_cases none : Review.reportedCount reviews = 0
  · by_cases complete : (countedFailures policy polling).isEmpty
        && (countedUnresolved policy polling).isEmpty
    · simp [none, complete]
    · simp [none, complete]
  · by_cases complete : (countedFailures policy polling).isEmpty
        && (countedUnresolved policy polling).isEmpty
    · simp [none, complete, Failure.within, Failure.under]
    · simp [none, complete, Failure.within, Failure.under]

/-- There is nothing to blame if and only if all went well. -/
@[simp] theorem causesOf_eq_nil_iff
    {count : Nat}
    {failed unresolved : List String} :
    causesOf count failed unresolved = [] ↔ count = 0 ∧ failed = [] ∧ unresolved = [] := by
  by_cases none : count = 0 <;> simp [causesOf, none]

@[simp] theorem incomplete_mem_causesOf
    {count : Nat}
    {failed unresolved others more : List String} :
    .incomplete others more ∈ causesOf count failed unresolved
      ↔ others = failed ∧ more = unresolved ∧ (failed ≠ [] ∨ unresolved ≠ []) := by
  by_cases none : count = 0 <;>
    by_cases complete : failed = [] ∧ unresolved = [] <;>
    simp [causesOf, none] <;> grind

@[simp] theorem newViolations_mem_causesOf
    {count number : Nat}
    {failed unresolved : List String} :
    .newViolations number ∈ causesOf count failed unresolved ↔ number = count ∧ 0 < count := by
  by_cases none : count = 0
  · simp [causesOf, none]
  · simp [causesOf, none, Nat.pos_of_ne_zero none]

@[simp] theorem cancelled_notMem_causesOf
    {count : Nat}
    {failed unresolved resources : List String} :
    .cancelled resources ∉ causesOf count failed unresolved := by
  by_cases none : count = 0 <;> simp [causesOf, none]

/-- A run whose verdict is the one on its reviews is judged by what its policy
counts. -/
theorem judged_of_verdict
    {run : Validation}
    {policy : FailurePolicy}
    {polling : Polling}
    {reviews : List Review}
    (reviewed : run.reviews = some reviews)
    (verdict : run.verdict = verdictOf policy polling (Review.verdict reviews)) :
    run.Judged reviews (countedFailures policy polling) (countedUnresolved policy polling) := by
  rw [verdictOf_review, Review.reportedCount_eq_sum] at verdict
  cases causes : causesOf (reviews.map fun review => review.reported.length).sum
      (countedFailures policy polling) (countedUnresolved policy polling) with
  | nil =>
      rw [causes] at verdict
      have passes : run.verdict = .ok () := verdict
      refine ⟨reviewed, by simpa [passes] using causesOf_eq_nil_iff.1 causes, ?_, ?_, ?_⟩
      all_goals simp [passes]
  | cons outermost others =>
      rw [causes] at verdict
      have fails : run.verdict = .error ⟨outermost, others⟩ := verdict
      have chain : ∀ failure, run.verdict = .error failure →
          failure.chain = causesOf (reviews.map fun review => review.reported.length).sum
            (countedFailures policy polling) (countedUnresolved policy polling) := by
        intro failure failed
        rw [fails] at failed
        obtain rfl : Failure.mk outermost others = failure := by injection failed
        exact causes.symm
      refine ⟨reviewed, ?_, ?_, ?_, ?_⟩
      · rw [← causesOf_eq_nil_iff, causes]
        simp [fails]
      · intro failure failed
        simp [chain failure failed]
      · intro failure failed count
        rw [chain failure failed, newViolations_mem_causesOf]
        exact and_congr_right fun isCount => by rw [isCount]
      · intro failure failed
        simp [chain failure failed]

end Validation

namespace Validator

variable {σ : Type}

/-- Without manifests nothing is submitted. -/
theorem validate_of_unprepared
    {preparation : Preparation}
    {failure : Failure}
    (unprepared : preparation.outcome = .error failure)
    (validator : Validator)
    (service : Service σ)
    (shutdown : Option Nat)
    (state : σ) :
    validator.validate service shutdown preparation state =
      ({ verdict := .error (failure.within "failed to prepare manifests for validation")
         notices := preparation.notices }, state) := by
  unfold validate
  rw [unprepared]

section Prepared

variable {preparation : Preparation} {requests : List Request}

/-- What is delivered does not depend on what becomes of it. -/
theorem validate_deliveries
    (prepared : preparation.outcome = .ok requests)
    (validator : Validator)
    (service : Service σ)
    (shutdown : Option Nat)
    (state : σ) :
    (validator.validate service shutdown preparation state).1.deliveries =
      (service.deliver requests state).1 := by
  unfold validate
  rw [prepared]
  simp only []
  split
  · rfl
  · split <;> rfl

/-- After a refusal nothing is polled and nothing is recorded. -/
theorem validate_of_refused
    (prepared : preparation.outcome = .ok requests)
    (validator : Validator)
    (service : Service σ)
    (shutdown : Option Nat)
    (state : σ)
    {failure : Failure}
    (refused : Delivery.pending (service.deliver requests state).1 = .error failure) :
    let run := (validator.validate service shutdown preparation state).1
    run.verdict = .error (failure.within "failed to submit manifests for validation")
      ∧ run.polling = none ∧ run.reviews = none := by
  unfold validate
  rw [prepared]
  simp [refused]

/-- A run that was submitted is polled, and then called off or judged. -/
theorem validate_of_submitted
    (prepared : preparation.outcome = .ok requests)
    (validator : Validator)
    (service : Service σ)
    (shutdown : Option Nat)
    (state : σ)
    {pending : List Pending}
    (submitted : Delivery.pending (service.deliver requests state).1 = .ok pending) :
    let run := (validator.validate service shutdown preparation state).1
    let submission := service.deliver requests state
    let polled := validator.poller.poll service shutdown (Delivery.duration submission.1)
      pending submission.2
    run.polling = some polled.1
      ∧ (validator.validate service shutdown preparation state).2 = polled.2
      ∧ (polled.1.completion = .cancelled → run.CalledOff polled.1)
      ∧ (polled.1.completion ≠ .cancelled →
        run.Judged (validator.reviewer.reviewAll polled.1.results)
          (Validation.countedFailures validator.policy polled.1)
          (Validation.countedUnresolved validator.policy polled.1)) := by
  unfold validate
  rw [prepared]
  simp only [submitted]
  split
  next cancelled =>
    refine ⟨rfl, rfl, ?_, fun other => absurd cancelled other⟩
    intro _
    exact ⟨rfl, _, rfl, by simp [Failure.chain], by simp [Failure.chain],
      by simp [Failure.chain]⟩
  next ended =>
    refine ⟨rfl, rfl, fun cancelled => absurd cancelled ended, ?_⟩
    intro _
    exact Validation.judged_of_verdict rfl rfl

end Prepared

/-- A run that does not poll fetches nothing. -/
theorem fetch_notMem_calls
    {run : Validation}
    (unpolled : run.polling = none)
    (operation : String) :
    .fetch operation ∉ run.calls := by
  simp [Validation.calls, Delivery.calls, unpolled]

/-- What a service answered to the fetches of a run, as submission had left it. -/
theorem replies_of_validate
    {preparation : Preparation}
    {requests : List Request}
    (prepared : preparation.outcome = .ok requests)
    (validator : Validator)
    (service : Service σ)
    (shutdown : Option Nat)
    (state : σ)
    {pending : List Pending}
    (submitted : Delivery.pending (service.deliver requests state).1 = .ok pending) :
    let sent := (service.deliver requests state).1.map fun delivery => delivery.request.content
    let polling := (validator.poller.poll service shutdown
      (Delivery.duration (service.deliver requests state).1) pending
      (service.deliver requests state).2).1
    service.fetchAll (polling.checks.map fun check => check.entry.operation)
        (service.stateAfter sent state) =
      (polling.checks.map Check.reply,
        (validator.validate service shutdown preparation state).2) := by
  intro sent polling
  rw [(service.deliver_answers requests state).2,
    (validate_of_submitted prepared validator service shutdown state submitted).2.1]
  exact validator.poller.poll_replies service shutdown _ pending _

/-- The exact verdict of a run, with the calls that were made: what fails early makes
no later call and leaves no review, and a run that is polled to an end is judged by
its reviews and its policy alone. The answers on record are those of the service, to the
contents that were sent and then to the fetches of the checks. -/
theorem validate_verdict
    (validator : Validator)
    (service : Service σ)
    (shutdown : Option Nat)
    (preparation : Preparation)
    (state : σ) :
    let validated := validator.validate service shutdown preparation state
    let run := validated.1
    (validator.validate service.recording shutdown preparation (state, [])).2.2 = run.calls
      ∧ (∀ failure, preparation.outcome = .error failure →
        run.verdict = .error (failure.within "failed to prepare manifests for validation")
          ∧ run.calls = [] ∧ run.reviews = none)
      ∧ ∀ requests, preparation.outcome = .ok requests →
        let sent := run.deliveries.map fun delivery => delivery.request.content
        run.deliveries = (service.deliver requests state).1
          ∧ run.deliveries.map Delivery.request <+: requests
          ∧ service.answers sent state =
            run.deliveries.map (fun delivery => delivery.reply.outcome)
          ∧ (∀ (before after : List Request) (request : Request) (operations : List Operation)
              (failure : Failure),
            requests = before ++ request :: after →
            service.answers ((before ++ [request]).map Request.content) state =
              operations.map .ok ++ [.error failure] →
            run.deliveries.map Delivery.request = before ++ [request]
              ∧ ∃ delivery ∈ run.deliveries,
                delivery.request = request ∧ delivery.reply.outcome = .error failure)
          ∧ (∀ delivery ∈ run.deliveries, ∀ failure,
            delivery.reply.outcome = .error failure →
              run.verdict =
                  .error ((failure.within
                    ("failed to submit " ++ delivery.request.resource)).within
                      "failed to submit manifests for validation")
                ∧ (∀ operation, .fetch operation ∉ run.calls) ∧ run.reviews = none)
          ∧ ((∀ delivery ∈ run.deliveries, delivery.Accepted) →
            run.deliveries.map Delivery.request = requests
              ∧ ∃ pending polling, Delivery.pending run.deliveries = .ok pending
                ∧ polling = (validator.poller.poll service shutdown
                  (Delivery.duration run.deliveries) pending (service.deliver requests state).2).1
                ∧ service.fetchAll (polling.checks.map fun check => check.entry.operation)
                    (service.stateAfter sent state) =
                  (polling.checks.map Check.reply, validated.2)
                ∧ run.polling = some polling
                ∧ (polling.completion = .cancelled → run.CalledOff polling)
                ∧ (polling.completion ≠ .cancelled →
                  run.Judged (validator.reviewer.reviewAll polling.results)
                    (if validator.policy.failOnOperationError
                      then polling.failed.map FailedOperation.resource else [])
                    (if validator.policy.failOnUnresolved then polling.unresolved else []))) := by
  intro validated run
  refine ⟨?_, ?unprepared, ?prepared⟩
  · rw [validate_recording, List.nil_append]
  case unprepared =>
    intro failure unprepared
    have record := validate_of_unprepared unprepared validator service shutdown state
    have sameRun := congrArg Prod.fst record
    change run = _ at sameRun
    rw [sameRun]
    exact ⟨rfl, rfl, rfl⟩
  case prepared =>
    intro requests prepared sent
    have delivered : run.deliveries = (service.deliver requests state).1 :=
      validate_deliveries prepared validator service shutdown state
    have isSent : sent =
        (service.deliver requests state).1.map fun delivery => delivery.request.content :=
      congrArg _ delivered
    refine ⟨delivered, ?_, ?_, ?refused, ?fails, ?accepted⟩
    · rw [delivered]
      exact (service.deliver_requests requests state).1
    · rw [isSent, delivered]
      exact (service.deliver_answers requests state).1
    case refused =>
      rintro before after request operations failure rfl answeredBefore
      obtain ⟨deliveries, last, delivers, accepted, isLast, refused⟩ :=
        Service.deliver_of_refused answeredBefore after
      rw [delivered, delivers]
      refine ⟨by simp [accepted.map_request, isLast], last, by simp, isLast, refused⟩
    case fails =>
      intro delivery isDelivery failure refused
      rw [delivered] at isDelivery
      have stopped := service.pending_deliver_of_error requests state isDelivery refused
      obtain ⟨verdict, unpolled, unreviewed⟩ :=
        validate_of_refused prepared validator service shutdown state stopped
      exact ⟨verdict, fetch_notMem_calls unpolled, unreviewed⟩
    case accepted =>
      intro accepted
      rw [delivered] at accepted
      obtain ⟨pending, submitted, _⟩ := Delivery.pending_of_accepted accepted
      obtain ⟨polled, _, calledOff, judged⟩ :=
        validate_of_submitted prepared validator service shutdown state submitted
      have replied := replies_of_validate prepared validator service shutdown state submitted
      rw [← isSent] at replied
      rw [← delivered] at submitted replied polled calledOff judged
      refine ⟨?_, pending, _, submitted, rfl, replied, polled, calledOff, judged⟩
      rw [delivered]
      exact (service.deliver_requests requests state).2 accepted

end Validator
end ManifestPolicy
