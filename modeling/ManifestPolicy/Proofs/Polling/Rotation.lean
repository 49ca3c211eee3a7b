import ManifestPolicy.Polling

/-!
# The queue of a polling run

Whatever the times of a run are, its checks take the head of the queue in turn, and
an entry that has not resolved goes to the end. This is the relation `Rotation`
between a queue, checks and the queue they leave; every run satisfies it. The
module also says what a check finds in the reply to its fetch, and that a run ends
drained exactly when it leaves an empty queue.
-/

namespace ManifestPolicy

namespace Reply

/-- The reply tells of an operation that is done without an error and whose response
decodes to violations. -/
def Succeeds (reply : Reply) (violations : List Violation) : Prop :=
  ∃ operation, reply.outcome = .ok operation ∧ operation.done = true
    ∧ operation.error = none ∧ operation.violations = .ok violations

/-- The reply tells of an operation that is done, with an error or with a response
that does not decode. -/
def Fails (reply : Reply) : Prop :=
  ∃ operation, reply.outcome = .ok operation ∧ operation.done = true
    ∧ (operation.error ≠ none ∨ ∃ error, operation.violations = .error error)

/-- The fetch failed, or the reply tells of an operation that is not done. -/
def IsOpen (reply : Reply) : Prop :=
  (∃ failure, reply.outcome = .error failure)
    ∨ ∃ operation, reply.outcome = .ok operation ∧ operation.done = false

end Reply

namespace Check

/-- What is found out about an operation that is done. -/
theorem finishOf_done
    {operation : Operation}
    (done : operation.done = true) :
    Check.finishOf operation =
      match operation.error, operation.violations with
      | some status, _ => .failed status.describe
      | none, .ok violations => .succeeded violations
      | none, .error error => .failed error.message := by
  unfold Check.finishOf Operation.state
  cases operation.error with
  | some status => simp [done]
  | none =>
      cases operation.violations <;> simp [done]

/-- A check succeeds if and only if its answer does. -/
theorem finish_eq_succeeded_iff
    (check : Check)
    (violations : List Violation) :
    check.finish = .succeeded violations ↔ check.reply.Succeeds violations := by
  unfold finish Reply.Succeeds
  cases check.reply.outcome with
  | error failure => simp
  | ok operation =>
      cases done : operation.done with
      | false => simp [finishOf, Operation.state, done]
      | true =>
          simp only [finishOf_done done, Except.ok.injEq, exists_eq_left', done, true_and]
          cases operation.error with
          | some status => simp
          | none => cases operation.violations <;> simp

/-- The same of failing. -/
theorem finish_failed_iff
    (check : Check) :
    (∃ error, check.finish = .failed error) ↔ check.reply.Fails := by
  unfold finish Reply.Fails
  cases check.reply.outcome with
  | error failure => simp
  | ok operation =>
      cases done : operation.done with
      | false => simp [finishOf, Operation.state, done]
      | true =>
          simp only [finishOf_done done, Except.ok.injEq, exists_eq_left', done, true_and]
          cases operation.error with
          | some status => simp
          | none => cases operation.violations <;> simp

/-- A check resolves its entry unless the reply leaves the operation open. -/
theorem resolves_eq_false_iff
    (check : Check) :
    check.resolves = false ↔ check.reply.IsOpen := by
  unfold resolves finish Reply.IsOpen
  cases check.reply.outcome with
  | error failure => simp
  | ok operation =>
      cases done : operation.done with
      | false => simp [finishOf, Operation.state, done]
      | true =>
          simp only [finishOf_done done]
          cases operation.error with
          | some status => simp [done]
          | none => cases operation.violations <;> simp [done]

theorem result?_isSome_iff
    (check : Check) :
    check.result?.isSome = true ↔ ∃ violations, check.reply.Succeeds violations := by
  simp only [← finish_eq_succeeded_iff, result?]
  cases check.finish <;> simp

theorem result?_of_succeeds
    {check : Check}
    {violations : List Violation}
    (succeeds : check.reply.Succeeds violations) :
    check.result? =
      some ⟨check.entry.resource,
        violations.map (Violation.stampResource check.entry.resource)⟩ := by
  rw [result?, (check.finish_eq_succeeded_iff violations).2 succeeds]

theorem failure?_isSome_iff
    (check : Check) :
    check.failure?.isSome = true ↔ check.reply.Fails := by
  simp only [← finish_failed_iff, failure?]
  cases check.finish <;> simp

/-- A check that resolves its entry gives a result or a failure. -/
theorem resolves_eq_or
    (check : Check) :
    check.resolves = (check.result?.isSome || check.failure?.isSome) := by
  unfold resolves result? failure?
  cases check.finish <;> rfl

theorem resolves_of_result?
    {check : Check}
    (succeeded : check.result?.isSome = true) :
    check.resolves = true := by
  rw [check.resolves_eq_or, succeeded, Bool.true_or]

theorem resolves_of_failure?
    {check : Check}
    (failed : check.failure?.isSome = true) :
    check.resolves = true := by
  rw [check.resolves_eq_or, failed, Bool.or_true]

/-- No check gives both a result and a failure. -/
theorem failure?_of_result?
    {check : Check}
    (succeeded : check.result?.isSome = true) :
    check.failure?.isSome = false := by
  unfold result? at succeeded
  unfold failure?
  cases found : check.finish <;> simp_all

/-- The queue after its head has been checked. -/
def requeue (check : Check) (head : α) (waiting : List α) : List α :=
  if check.resolves then waiting else waiting ++ [head]

theorem requeue_of_resolves
    {check : Check}
    (resolves : check.resolves = true)
    (head : α)
    (waiting : List α) :
    check.requeue head waiting = waiting := by
  simp [requeue, resolves]

/-- What stays open goes behind everything that waits. -/
theorem requeue_of_open
    {check : Check}
    (stays : check.resolves = false)
    (head : α)
    (waiting : List α) :
    check.requeue head waiting = waiting ++ [head] := by
  simp [requeue, stays]

/-- Queues of places and of entries are turned alike. -/
theorem map_requeue
    (check : Check)
    (observe : α → β)
    (head : α)
    (waiting : List α) :
    (check.requeue head waiting).map observe =
      check.requeue (observe head) (waiting.map observe) := by
  unfold requeue
  split <;> simp

end Check

/-- Checks take the heads of a queue in turn and leave another queue. -/
inductive Rotation : List Pending → List Check → List Pending → Prop
  | still (queue : List Pending) : Rotation queue [] queue
  | check
      {check : Check}
      {waiting : List Pending}
      {later : List Check}
      {remaining : List Pending}
      (rest : Rotation (check.requeue check.entry waiting) later remaining) :
      Rotation (check.entry :: waiting) (check :: later) remaining

namespace Rotation

/-- Only entries of the queue are checked. -/
theorem entry_mem
    {queue remaining : List Pending}
    {checks : List Check}
    (rotation : Rotation queue checks remaining)
    {check : Check}
    (checked : check ∈ checks) :
    check.entry ∈ queue := by
  induction rotation with
  | still queue => simp at checked
  | @check first waiting later remaining rest memRest =>
      rcases List.mem_cons.1 checked with rfl | checkedLater
      · exact List.mem_cons_self
      · have present := memRest checkedLater
        unfold Check.requeue at present
        split at present
        · exact List.mem_cons_of_mem _ present
        · simpa [or_comm] using present

end Rotation

namespace Poller

variable {σ : Type}

/-- A run that is neither called off nor late checks the head of its queue, and goes
on when the check has ended. -/
theorem pollFrom_check
    {poller : Poller}
    {shutdown : Option Nat}
    {deadline now due : Nat}
    (running : ¬shutdown.any (· ≤ max now (min deadline due)))
    (early : ¬deadline ≤ max now due)
    (service : Service σ)
    (entry : Pending)
    (waiting : List Pending)
    (state : σ) :
    poller.pollFrom service shutdown deadline now due (entry :: waiting) state =
      let start := max now due
      let (reply, next) := service.fetch entry.operation state
      let check : Check := ⟨start, entry, reply⟩
      let (later, last) :=
        poller.pollFrom service shutdown deadline check.stop (poller.nextTick due start)
          (check.requeue entry waiting) next
      ({ later with checks := check :: later.checks }, last) := by
  rw [pollFrom, if_neg running, if_neg early]
  rfl

/-- Every run rotates its queue, whatever its times and the service are. -/
theorem pollFrom_rotation
    (poller : Poller)
    (service : Service σ)
    (shutdown : Option Nat)
    (deadline now due : Nat)
    (queue : List Pending)
    (state : σ) :
    let polling := (poller.pollFrom service shutdown deadline now due queue state).1
    Rotation queue polling.checks polling.remaining := by
  fun_induction pollFrom poller service shutdown deadline now due queue state with
  | case1 => exact .still _
  | case2 => exact .still _
  | case3 => exact .still _
  | case4 now due state entry waiting _ _ start reply next _ check queue later last continued
      rotated =>
      rw [continued] at rotated
      exact .check rotated

/-- A run ends drained exactly when it leaves an empty queue. -/
theorem pollFrom_drained_iff
    (poller : Poller)
    (service : Service σ)
    (shutdown : Option Nat)
    (deadline now due : Nat)
    (queue : List Pending)
    (state : σ) :
    let polling := (poller.pollFrom service shutdown deadline now due queue state).1
    polling.completion = .drained ↔ polling.remaining = [] := by
  fun_induction pollFrom poller service shutdown deadline now due queue state with
  | case1 => simp [Polling.ended]
  | case2 => simp [Polling.ended]
  | case3 => simp [Polling.ended]
  | case4 now due state entry waiting _ _ start reply next _ check queue later last continued
      drained =>
      rw [continued] at drained
      exact drained

end Poller
end ManifestPolicy
