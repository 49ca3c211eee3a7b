import ManifestPolicy.Proofs.Polling.Rotation

/-!
# The names that a service gives to resources

A service names the resource of each violation, and every such name is replaced by that of
the pending entry. Two services that differ in those names alone therefore lead to the same
results, run by run.
-/

namespace ManifestPolicy

namespace Finish

/-- What was found out about an operation, without the names that the service gave to the
resources of violations. -/
def withoutNames : Finish → Finish
  | .succeeded violations => .succeeded (violations.map (Violation.stampResource ""))
  | finish => finish

end Finish

namespace Violation

/-- The first name that was stamped leaves no trace. -/
@[simp] theorem stampResource_stampResource
    (name other : String)
    (violation : Violation) :
    (violation.stampResource other).stampResource name = violation.stampResource name := by
  cases named : violation.resource <;> simp [stampResource, named]

/-- Violations that differ in the names of their resources alone are stamped alike. -/
theorem map_stampResource_of_nameless
    {violations others : List Violation}
    (sameButNames :
      violations.map (stampResource "") = others.map (stampResource ""))
    (name : String) :
    violations.map (stampResource name) = others.map (stampResource name) := by
  have stamped := congrArg (List.map (stampResource name)) sameButNames
  simpa [Function.comp_def] using stamped

end Violation

namespace Reply

/-- Two replies differ at most in the names that they give to the resources of
violations. -/
def SameButNames (left right : Reply) : Prop :=
  left.delay = right.delay
    ∧ match left.outcome, right.outcome with
      | .error failure, .error other => failure = other
      | .ok operation, .ok other =>
          (Check.finishOf operation).withoutNames = (Check.finishOf other).withoutNames
      | _, _ => False

end Reply

namespace Service

/-- Two services answer every fetch alike up to the names of resources, and go on alike. -/
def SameButNames (left right : Service σ) : Prop :=
  ∀ operation state,
    (left.fetch operation state).1.SameButNames (right.fetch operation state).1
      ∧ (left.fetch operation state).2 = (right.fetch operation state).2

end Service

namespace Check

variable {left right : Check}

/-- What an answer comes to does not depend on the names in it. -/
theorem withoutNames_finish
    (sameReply : left.reply.SameButNames right.reply) :
    left.finish.withoutNames = right.finish.withoutNames := by
  have sameOutcome := sameReply.2
  unfold finish
  cases leftOutcome : left.reply.outcome <;> cases rightOutcome : right.reply.outcome <;>
    simp_all

/-- Nor does whether it ends an operation. -/
theorem resolves_of_sameButNames
    (sameReply : left.reply.SameButNames right.reply) :
    left.resolves = right.resolves := by
  have sameFinish := withoutNames_finish sameReply
  unfold resolves
  cases leftFinish : left.finish <;> cases rightFinish : right.finish <;>
    simp_all [Finish.withoutNames]

/-- Nor does the result, whose violations are all stamped. -/
theorem result?_of_sameButNames
    (sameEntry : left.entry = right.entry)
    (sameReply : left.reply.SameButNames right.reply) :
    left.result? = right.result? := by
  have sameFinish := withoutNames_finish sameReply
  unfold result?
  rw [sameEntry]
  cases leftFinish : left.finish with
  | succeeded violations =>
      cases rightFinish : right.finish with
      | succeeded others =>
          rw [leftFinish, rightFinish] at sameFinish
          have nameless := Finish.succeeded.inj sameFinish
          simp only [Violation.map_stampResource_of_nameless nameless]
      | _ => simp [leftFinish, rightFinish, Finish.withoutNames] at sameFinish
  | _ =>
      cases rightFinish : right.finish <;>
        simp [leftFinish, rightFinish, Finish.withoutNames] at sameFinish ⊢

theorem stop_of_sameButNames
    (sameStart : left.start = right.start)
    (sameReply : left.reply.SameButNames right.reply) :
    left.stop = right.stop := by
  rw [stop, stop, sameStart, sameReply.1]

end Check

namespace Polling

theorem results_cons
    (check : Check)
    (later : Polling) :
    ({ later with checks := check :: later.checks } : Polling).results =
      check.result?.toList ++ later.results := by
  unfold results
  rw [List.filterMap_cons]
  cases check.result? <;> rfl

end Polling

namespace Poller

/-- A run has the same results whatever names the service gives to resources. -/
theorem results_pollFrom_of_sameButNames
    {service other : Service σ}
    (sameButNames : service.SameButNames other)
    (poller : Poller)
    (shutdown : Option Nat)
    (deadline now due : Nat)
    (queue : List Pending)
    (state : σ) :
    (poller.pollFrom service shutdown deadline now due queue state).1.results =
      (poller.pollFrom other shutdown deadline now due queue state).1.results := by
  fun_induction pollFrom poller service shutdown deadline now due queue state with
  | case1 => rw [pollFrom]
  | case2 now due state entry waiting stopped => rw [pollFrom, if_pos stopped]
  | case3 now due state entry waiting running late =>
      rw [pollFrom, if_neg running, if_pos late]
  | case4 now due state entry waiting running early start reply next fetched check queue later
      last continued sameRest =>
      obtain ⟨sameReply, sameState⟩ := sameButNames entry.operation state
      rw [fetched] at sameReply sameState
      rw [pollFrom_check running early other]
      cases otherFetched : other.fetch entry.operation state with
      | mk otherReply otherNext =>
          rw [otherFetched] at sameReply sameState
          obtain rfl : next = otherNext := sameState
          have sameStop : check.stop = (Check.mk start entry otherReply).stop :=
            Check.stop_of_sameButNames rfl sameReply
          have sameQueue : queue = (Check.mk start entry otherReply).requeue entry waiting := by
            have sameResolves : check.resolves = (Check.mk start entry otherReply).resolves :=
              Check.resolves_of_sameButNames sameReply
            rw [Check.requeue, ← sameResolves]
            rfl
          have sameResult : check.result? = (Check.mk start entry otherReply).result? :=
            Check.result?_of_sameButNames rfl sameReply
          rw [continued, sameStop, sameQueue] at sameRest
          simp only [Polling.results_cons, sameResult, sameRest]
          rfl

end Poller
end ManifestPolicy
