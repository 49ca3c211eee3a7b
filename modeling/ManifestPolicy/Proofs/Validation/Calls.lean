import ManifestPolicy.Proofs.Polling.Rotation
import ManifestPolicy.Validation

/-!
# The calls of a run

A service can be made to keep a list of the calls it has had. The answers of such a
service are those it would have given anyway, and the calls it lists are exactly the
deliveries and the checks in the record of a run. What a record says about calls is
therefore what the service saw.
-/

namespace ManifestPolicy

/-- A call to a service. -/
inductive ServiceCall
  | submit (content : Content)
  | fetch (operation : String)
  deriving DecidableEq, Repr

namespace Service

variable {σ : Type}

/-- A service that also lists its calls, in order. -/
def recording (service : Service σ) : Service (σ × List ServiceCall) where
  submit content := fun (state, calls) =>
    let (reply, next) := service.submit content state
    (reply, next, calls ++ [.submit content])
  fetch operation := fun (state, calls) =>
    let (reply, next) := service.fetch operation state
    (reply, next, calls ++ [.fetch operation])

@[simp] theorem submit_recording
    (service : Service σ)
    (content : Content)
    (state : σ)
    (calls : List ServiceCall) :
    service.recording.submit content (state, calls) =
      ((service.submit content state).1, (service.submit content state).2,
        calls ++ [.submit content]) := rfl

@[simp] theorem fetch_recording
    (service : Service σ)
    (operation : String)
    (state : σ)
    (calls : List ServiceCall) :
    service.recording.fetch operation (state, calls) =
      ((service.fetch operation state).1, (service.fetch operation state).2,
        calls ++ [.fetch operation]) := rfl

end Service

namespace Delivery

/-- The calls that deliveries were made by. -/
def calls (deliveries : List Delivery) : List ServiceCall :=
  deliveries.map fun delivery => .submit delivery.request.content

end Delivery

namespace Polling

/-- The calls that the checks of a run were made by. -/
def calls (polling : Polling) : List ServiceCall :=
  polling.checks.map fun check => .fetch check.entry.operation

end Polling

namespace Validation

/-- All calls of a run, in order. -/
def calls (run : Validation) : List ServiceCall :=
  Delivery.calls run.deliveries ++ (run.polling.map Polling.calls).getD []

end Validation

namespace Service

variable {σ : Type}

/-- The calls of a recorded delivery are those of what was delivered. -/
theorem deliver_recording
    (service : Service σ)
    (requests : List Request)
    (state : σ)
    (calls : List ServiceCall) :
    service.recording.deliver requests (state, calls) =
      ((service.deliver requests state).1, (service.deliver requests state).2,
        calls ++ Delivery.calls (service.deliver requests state).1) := by
  fun_induction deliver service requests state generalizing calls with
  | case1 => simp [deliver, Delivery.calls]
  | case2 request rest state reply next answered failure refused =>
      simp [deliver, answered, refused, Delivery.calls]
  | case3 request rest state reply next answered operation accepted later last continued
      recorded =>
      simp [deliver, answered, accepted, recorded, continued, Delivery.calls]

end Service

namespace Poller

variable {σ : Type}

/-- Recording the calls of a run changes none of its steps, and the calls are those of its checks.
-/
theorem pollFrom_recording
    (poller : Poller)
    (service : Service σ)
    (shutdown : Option Nat)
    (deadline now due : Nat)
    (queue : List Pending)
    (state : σ)
    (calls : List ServiceCall) :
    poller.pollFrom service.recording shutdown deadline now due queue (state, calls) =
      ((poller.pollFrom service shutdown deadline now due queue state).1,
        (poller.pollFrom service shutdown deadline now due queue state).2,
        calls ++ (poller.pollFrom service shutdown deadline now due queue state).1.calls) := by
  fun_induction pollFrom poller service shutdown deadline now due queue state
    generalizing calls with
  | case1 => simp [pollFrom, Polling.ended, Polling.calls]
  | case2 now due state entry waiting stopped =>
      rw [pollFrom, if_pos stopped]
      simp [Polling.ended, Polling.calls]
  | case3 now due state entry waiting running late =>
      rw [pollFrom, if_neg running, if_pos late]
      simp [Polling.ended, Polling.calls]
  | case4 now due state entry waiting running early start reply next answered check queue
      later last continued recorded =>
      have rest := recorded (calls ++ [.fetch entry.operation])
      rw [continued] at rest
      change poller.pollFrom _ _ _ check.stop _ (check.requeue entry waiting) _ = _ at rest
      rw [pollFrom_check running early, Service.fetch_recording, answered]
      simp only []
      rw [rest]
      simp [Polling.calls, check, start]

end Poller

namespace Validator

variable {σ : Type}

/-- The record of a run and the calls it lists are those of the service. -/
theorem validate_recording
    (validator : Validator)
    (service : Service σ)
    (shutdown : Option Nat)
    (preparation : Preparation)
    (state : σ)
    (calls : List ServiceCall) :
    validator.validate service.recording shutdown preparation (state, calls) =
      ((validator.validate service shutdown preparation state).1,
        (validator.validate service shutdown preparation state).2,
        calls ++ (validator.validate service shutdown preparation state).1.calls) := by
  unfold validate
  cases preparation.outcome with
  | error failure => simp [Validation.calls, Delivery.calls]
  | ok requests =>
      simp only [Service.deliver_recording]
      cases Delivery.pending (service.deliver requests state).1 with
      | error failure => simp [Validation.calls]
      | ok pending =>
          simp only [Poller.poll, Poller.pollFrom_recording]
          split <;> simp [Validation.calls]

end Validator
end ManifestPolicy
