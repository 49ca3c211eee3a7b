import ManifestPolicy.Review
import ManifestPolicy.Submission

/-!
# Polling

Pending operations wait in a queue. At every tick of an interval the first of
them is fetched, and goes to the end of the queue unless it has resolved. Polling
ends when the queue is empty, when the deadline has passed, or when it is called
off, whichever is seen first; a check that has begun is always finished.

A run is recorded as the list of its checks. Results, failures and notices are
functions of that record. Times are in milliseconds.
-/

namespace ManifestPolicy

/-- An operation that ended without usable results. -/
structure FailedOperation where
  operation : String
  resource : String
  error : String
  deriving DecidableEq, Repr

/-- Why polling ended. -/
inductive Completion
  | drained
  | deadlineElapsed
  | cancelled
  deriving DecidableEq, Repr, Inhabited

/-- What a check found out about its operation. -/
inductive Finish
  /-- The operation could not be fetched. -/
  | unreachable (failure : Failure)
  /-- The operation is not done. -/
  | pending
  /-- The operation succeeded with violations. -/
  | succeeded (violations : List Violation)
  /-- The operation failed, or its response does not decode. -/
  | failed (error : String)
  deriving DecidableEq

/-- One fetch of a pending operation. -/
structure Check where
  start : Nat
  entry : Pending
  reply : Reply

namespace Check

/-- What a fetched operation says. -/
def finishOf (operation : Operation) : Finish :=
  match operation.state with
  | .pending => .pending
  | .failed status => .failed status.describe
  | .succeeded =>
      match operation.violations with
      | .ok violations => .succeeded violations
      | .error error => .failed error.message

/-- What a check found out. -/
def finish (check : Check) : Finish :=
  match check.reply.outcome with
  | .error failure => .unreachable failure
  | .ok operation => finishOf operation

/-- Whether an operation needs no further check. -/
def resolves (check : Check) : Bool :=
  match check.finish with
  | .unreachable _ => false
  | .pending => false
  | .succeeded _ => true
  | .failed _ => true

/-- The time at which a check ends. -/
def stop (check : Check) : Nat := check.start + check.reply.delay

/-- The result of a check that found violations, under the caller's name of the
resource. -/
def result? (check : Check) : Option ResourceResult :=
  match check.finish with
  | .succeeded violations =>
      some ⟨check.entry.resource,
        violations.map (Violation.stampResource check.entry.resource)⟩
  | _ => none

/-- The failure a check found. -/
def failure? (check : Check) : Option FailedOperation :=
  match check.finish with
  | .failed error => some ⟨check.entry.operation, check.entry.resource, error⟩
  | _ => none

/-- What is told about a check. -/
def notices (check : Check) : List Notice :=
  match check.finish with
  | .unreachable failure =>
      [.fetchFailed check.entry.operation check.entry.resource failure.message]
  | .pending => []
  | .succeeded violations => [.validated check.entry.resource violations.length]
  | .failed error =>
      [.operationFailed check.entry.operation check.entry.resource error]

end Check

/-- The record of a polling run. -/
structure Polling where
  /-- The checks, in the order of their times. -/
  checks : List Check
  /-- The queue at the end. -/
  remaining : List Pending
  completion : Completion
  /-- The time at the end. -/
  finish : Nat

namespace Polling

/-- The record of a run that ends without a check. -/
def ended (remaining : List Pending) (completion : Completion) (finish : Nat) : Polling :=
  ⟨[], remaining, completion, finish⟩

/-- The violations of the operations that succeeded, in the order of success. -/
def results (polling : Polling) : List ResourceResult :=
  polling.checks.filterMap Check.result?

/-- The operations that failed, in the order of failure. -/
def failed (polling : Polling) : List FailedOperation :=
  polling.checks.filterMap Check.failure?

/-- The resources whose operations did not resolve. -/
def unresolved (polling : Polling) : List String :=
  polling.remaining.map Pending.resource

end Polling

/-- How operations are polled: at most once an interval, up to a deadline. -/
structure Poller where
  interval : Duration
  deadline : Duration
  interval_pos : 0 < interval.milliseconds

namespace Poller

/-- A poller, unless its interval is zero. -/
def ofIntervals (interval deadline : Duration) : Except Failure Poller :=
  if positive : 0 < interval.milliseconds then .ok ⟨interval, deadline, positive⟩
  else .error (.because "poll interval must be greater than zero")

/-- A tick that comes later than this many milliseconds after its time has been
missed, and the next one is a whole interval away. -/
def tolerance : Nat := 5

/-- The time of the tick after one that was due at a time and came at another. -/
def nextTick (poller : Poller) (due now : Nat) : Nat :=
  if due + tolerance < now then now + poller.interval.milliseconds
  else due + poller.interval.milliseconds

theorem add_interval_le_nextTick
    (poller : Poller)
    (due now : Nat) :
    due + poller.interval.milliseconds ≤ poller.nextTick due now := by
  unfold nextTick
  split <;> omega

/-- Poll a queue from a time on, with the next tick due at another. -/
def pollFrom
    (poller : Poller)
    (service : Service σ)
    (shutdown : Option Nat)
    (deadline now due : Nat)
    (queue : List Pending)
    (state : σ) : Polling × σ :=
  match queue with
  | [] => (.ended [] .drained now, state)
  | entry :: waiting =>
      if shutdown.any (· ≤ max now (min deadline due)) then
        (.ended queue .cancelled (max now (shutdown.getD now)), state)
      else if deadline ≤ max now due then
        (.ended queue .deadlineElapsed (max now deadline), state)
      else
        let start := max now due
        let (reply, state) := service.fetch entry.operation state
        let check : Check := ⟨start, entry, reply⟩
        let queue := if check.resolves then waiting else waiting ++ [entry]
        let (later, state) :=
          poller.pollFrom service shutdown deadline check.stop (poller.nextTick due start)
            queue state
        ({ later with checks := check :: later.checks }, state)
termination_by deadline - due
decreasing_by
  have advance := poller.add_interval_le_nextTick due (max now due)
  have positive := poller.interval_pos
  omega

/-- Poll pending operations from a time on. The first check is due at once. -/
def poll
    (poller : Poller)
    (service : Service σ)
    (shutdown : Option Nat)
    (now : Nat)
    (pending : List Pending)
    (state : σ) : Polling × σ :=
  poller.pollFrom service shutdown (now + poller.deadline.milliseconds) now now pending state

/-- What is told about a run. -/
def notices (poller : Poller) (polling : Polling) : List Notice :=
  polling.checks.flatMap Check.notices ++
    match polling.completion with
    | .drained => []
    | .deadlineElapsed => [.deadlineElapsed polling.remaining.length poller.deadline]
    | .cancelled => [.pollingCancelled polling.remaining.length]

end Poller

end ManifestPolicy
