import ManifestPolicy.Proofs.Polling.Passes
import ManifestPolicy.Proofs.Review
import Mathlib.Data.List.Nodup

/-!
# Runs that differ in their times

When operations have different names, what a drained run makes of an entry depends on
the first answer to the fetches of its operation alone: not on when it came, on how many
fetches were made before it, or on what else was pending. Two drained runs whose
operations are given the same answers therefore have the same results, failures and
reviews, up to their order, and the same verdict.
-/

namespace ManifestPolicy

namespace Pending

/-- The result of an entry whose operation ended in some way. -/
def result? (entry : Pending) : Finish → Option ResourceResult
  | .succeeded violations =>
      some ⟨entry.resource, violations.map (Violation.stampResource entry.resource)⟩
  | _ => none

/-- The failure of an entry whose operation ended in some way. -/
def failure? (entry : Pending) : Finish → Option FailedOperation
  | .failed error => some ⟨entry.operation, entry.resource, error⟩
  | _ => none

end Pending

namespace Check

/-- What the first fetch that found an operation done has found out. -/
def firstAnswer? (checks : List Check) (operation : String) : Option Finish :=
  ((checks.filter (·.entry.operation = operation)).find? resolves).map finish

theorem result?_eq (check : Check) : check.result? = check.entry.result? check.finish := by
  unfold result? Pending.result?
  cases check.finish <;> rfl

theorem failure?_eq (check : Check) : check.failure? = check.entry.failure? check.finish := by
  unfold failure? Pending.failure?
  cases check.finish <;> rfl

end Check

namespace Rotation

variable {queue remaining : List Pending} {checks : List Check}

/-- The entries of the checks that resolve them, with those left over, are the entries
there were. -/
theorem resolved_append_remaining
    (rotation : Rotation queue checks remaining) :
    ((checks.filter Check.resolves).map Check.entry ++ remaining).Perm queue := by
  induction rotation with
  | still queue => exact .refl _
  | @check check waiting later remaining rest permRest =>
      cases resolves : check.resolves with
      | true =>
          rw [Check.requeue_of_resolves resolves] at permRest
          simpa [resolves] using permRest
      | false =>
          rw [Check.requeue_of_open resolves] at permRest
          have rotated := permRest.trans List.perm_append_comm
          simpa [resolves] using rotated

/-- A check that resolves its entry gives the first answer about its operation, when no
other entry has that operation. -/
theorem firstAnswer?_of_resolves
    (rotation : Rotation queue checks [])
    (distinct : (queue.map Pending.operation).Nodup)
    {check : Check}
    (checked : check ∈ checks)
    (resolves : check.resolves = true) :
    Check.firstAnswer? checks check.entry.operation = some check.finish := by
  have answered : check ∈ checks.filter Check.resolves := List.mem_filter.2 ⟨checked, resolves⟩
  have entries : ((checks.filter Check.resolves).map Check.entry).Perm queue := by
    simpa using rotation.resolved_append_remaining
  have onceEach :
      ((checks.filter Check.resolves).map fun other => other.entry.operation).Nodup := by
    have operations := (entries.map Pending.operation).nodup_iff.2 distinct
    rwa [List.map_map] at operations
  have isFirst : ∀ other : Check,
      ((checks.filter (·.entry.operation = check.entry.operation)).find? Check.resolves) =
        some other → other = check := by
    intro other found
    have otherResolves := List.find?_some found
    obtain ⟨otherChecked, sameOperation⟩ := List.mem_filter.1 (List.mem_of_find?_eq_some found)
    exact List.inj_on_of_nodup_map onceEach (List.mem_filter.2 ⟨otherChecked, otherResolves⟩)
      answered (of_decide_eq_true sameOperation)
  have someFirst :
      ((checks.filter (·.entry.operation = check.entry.operation)).find?
        Check.resolves).isSome := by
    rw [List.find?_isSome]
    exact ⟨check, List.mem_filter.2 ⟨checked, decide_eq_true rfl⟩, resolves⟩
  obtain ⟨other, found⟩ := Option.isSome_iff_exists.1 someFirst
  rw [Check.firstAnswer?, found, isFirst other found, Option.map_some]

/-- What the entries of a queue that is emptied contribute is what their operations'
first answers make them contribute. -/
theorem contributions_perm
    (rotation : Rotation queue checks [])
    (distinct : (queue.map Pending.operation).Nodup)
    (contribute : Pending → Finish → Option α)
    (resolving :
      ∀ check : Check, (contribute check.entry check.finish).isSome = true →
        check.resolves = true) :
    (checks.filterMap fun check => contribute check.entry check.finish).Perm
      (queue.filterMap fun entry =>
        (Check.firstAnswer? checks entry.operation).bind (contribute entry)) := by
  have entries : ((checks.filter Check.resolves).map Check.entry).Perm queue := by
    simpa using rotation.resolved_append_remaining
  have ownAnswer :
      (checks.filterMap fun check => contribute check.entry check.finish) =
        ((checks.filter Check.resolves).map Check.entry).filterMap fun entry =>
          (Check.firstAnswer? checks entry.operation).bind (contribute entry) := by
    rw [List.filterMap_map, List.filterMap_filter]
    refine List.filterMap_congr ?_
    intro check checked
    cases resolves : check.resolves with
    | true =>
        have first := rotation.firstAnswer?_of_resolves distinct checked resolves
        simp only [Function.comp, first, Option.bind_some, if_true]
    | false =>
        have nothing : contribute check.entry check.finish = none := by
          rw [← Option.not_isSome_iff_eq_none]
          intro something
          have contradictory := resolving check something
          rw [resolves] at contradictory
          contradiction
        simpa using nothing
  rw [ownAnswer]
  exact entries.filterMap _

end Rotation

namespace Polling

variable {polling : Polling} {pending : List Pending}

/-- In a run that leaves nothing the results are those of the first terminal answers, each entry
with its own. -/
theorem results_perm
    (rotation : Rotation pending polling.checks [])
    (distinct : (pending.map Pending.operation).Nodup) :
    polling.results.Perm
      (pending.filterMap fun entry =>
        (Check.firstAnswer? polling.checks entry.operation).bind entry.result?) := by
  have sameResults : polling.results =
      polling.checks.filterMap fun check => check.entry.result? check.finish :=
    List.filterMap_congr fun check _ => check.result?_eq
  rw [sameResults]
  refine rotation.contributions_perm distinct Pending.result? ?_
  intro check succeeded
  rw [← check.result?_eq] at succeeded
  exact Check.resolves_of_result? succeeded

/-- The same of failures. -/
theorem failed_perm
    (rotation : Rotation pending polling.checks [])
    (distinct : (pending.map Pending.operation).Nodup) :
    polling.failed.Perm
      (pending.filterMap fun entry =>
        (Check.firstAnswer? polling.checks entry.operation).bind entry.failure?) := by
  have sameFailures : polling.failed =
      polling.checks.filterMap fun check => check.entry.failure? check.finish :=
    List.filterMap_congr fun check _ => check.failure?_eq
  rw [sameFailures]
  refine rotation.contributions_perm distinct Pending.failure? ?_
  intro check failed
  rw [← check.failure?_eq] at failed
  exact Check.resolves_of_failure? failed

end Polling

namespace Review

/-- The verdict depends on how many violations were reported alone. -/
theorem verdict_perm
    {reviews others : List Review}
    (permuted : reviews.Perm others) :
    verdict reviews = verdict others ∧ reportedCount reviews = reportedCount others := by
  have sameCount : reportedCount reviews = reportedCount others := by
    rw [reportedCount_eq_sum, reportedCount_eq_sum]
    exact (permuted.map _).sum_nat
  exact ⟨by rw [verdict, verdict, sameCount], sameCount⟩

end Review

namespace Poller

variable {σ τ : Type}

/-- A drained run leaves nothing. -/
theorem rotation_of_drained
    {poller : Poller}
    {service : Service σ}
    {shutdown : Option Nat}
    {now : Nat}
    {pending : List Pending}
    {state : σ}
    (drained : (poller.poll service shutdown now pending state).1.completion = .drained) :
    Rotation pending (poller.poll service shutdown now pending state).1.checks [] := by
  have emptied := (poller.pollFrom_drained_iff service shutdown _ now now pending state).1 drained
  rw [← emptied]
  exact poller.pollFrom_rotation service shutdown _ now now pending state

/-- Two drained runs over the same operations in any order, with different pollers,
services and times, agree when the fetches of each operation are first answered alike:
they have the same results, failures and reviews up to their order, and their reviews
come to the same verdict with the same count of new violations. The answers are those that
the service of each run gave to the fetches of its checks. -/
theorem drained_runs_agree
    {left right : Poller}
    {leftService : Service σ}
    {rightService : Service τ}
    {leftShutdown rightShutdown : Option Nat}
    {leftNow rightNow : Nat}
    {leftPending rightPending : List Pending}
    {leftState : σ}
    {rightState : τ}
    (permuted : leftPending.Perm rightPending)
    (distinct : (leftPending.map Pending.operation).Nodup)
    (sameAnswers : ∀ entry ∈ leftPending,
      Check.firstAnswer?
          (left.poll leftService leftShutdown leftNow leftPending leftState).1.checks
          entry.operation =
        Check.firstAnswer?
          (right.poll rightService rightShutdown rightNow rightPending rightState).1.checks
          entry.operation)
    (leftDrained :
      (left.poll leftService leftShutdown leftNow leftPending leftState).1.completion =
        .drained)
    (rightDrained :
      (right.poll rightService rightShutdown rightNow rightPending rightState).1.completion =
        .drained)
    (reviewer : Reviewer) :
    let leftRun := left.poll leftService leftShutdown leftNow leftPending leftState
    let rightRun := right.poll rightService rightShutdown rightNow rightPending rightState
    let one := leftRun.1
    let other := rightRun.1
    leftService.fetchAll (one.checks.map fun check => check.entry.operation) leftState =
        (one.checks.map Check.reply, leftRun.2)
      ∧ rightService.fetchAll (other.checks.map fun check => check.entry.operation) rightState =
        (other.checks.map Check.reply, rightRun.2)
      ∧ one.results.Perm other.results
      ∧ one.failed.Perm other.failed
      ∧ (reviewer.reviewAll one.results).Perm (reviewer.reviewAll other.results)
      ∧ Review.verdict (reviewer.reviewAll one.results) =
        Review.verdict (reviewer.reviewAll other.results)
      ∧ Review.reportedCount (reviewer.reviewAll one.results) =
        Review.reportedCount (reviewer.reviewAll other.results) := by
  intro leftRun rightRun one other
  have leftRotation := rotation_of_drained leftDrained
  have rightRotation := rotation_of_drained rightDrained
  have alsoDistinct : (rightPending.map Pending.operation).Nodup :=
    (permuted.map Pending.operation).nodup_iff.1 distinct
  have results : one.results.Perm other.results := by
    refine (Polling.results_perm leftRotation distinct).trans ?_
    refine .trans ?_ (Polling.results_perm rightRotation alsoDistinct).symm
    rw [List.filterMap_congr fun entry present => by rw [sameAnswers entry present]]
    exact permuted.filterMap _
  have failed : one.failed.Perm other.failed := by
    refine (Polling.failed_perm leftRotation distinct).trans ?_
    refine .trans ?_ (Polling.failed_perm rightRotation alsoDistinct).symm
    rw [List.filterMap_congr fun entry present => by rw [sameAnswers entry present]]
    exact permuted.filterMap _
  have reviews := results.map reviewer.review
  exact ⟨left.poll_replies leftService leftShutdown leftNow leftPending leftState,
    right.poll_replies rightService rightShutdown rightNow rightPending rightState,
    results, failed, reviews, Review.verdict_perm reviews⟩

/-! ## Two runs

One run fetches each operation once. The other takes them in the other order from a
service that cannot be reached at first and then has an operation pending. -/

namespace TwoRuns

def pending : List Pending := [⟨"operations/1", "web"⟩, ⟨"operations/2", "db"⟩]

/-- How the operations end: one with a violation, the other with an error. -/
def ended (name : String) : Operation :=
  if name = "operations/1" then
    { name
      done := true
      response := some (.object [("violations", .array [.object [
        ("policyName", .text "deny"), ("resourceKey", .object [("kind", .text "Pod")])]])]) }
  else { name, done := true, error := some { code := 3, message := "refused" } }

def prompt : Service Unit where
  submit _ state := (⟨.ok { name := "" }, 0⟩, state)
  fetch name state := (⟨.ok (ended name), 2⟩, state)

def slow : Service Nat where
  submit _ fetches := (⟨.ok { name := "" }, 0⟩, fetches)
  fetch name fetches :=
    (match fetches with
      | 0 => ⟨.error (.because "unavailable"), 40⟩
      | 1 => ⟨.ok { name }, 1700⟩
      | _ => ⟨.ok (ended name), 5⟩, fetches + 1)

def hasty : Poller := ⟨⟨10⟩, ⟨1000⟩, by decide⟩

def patient : Poller := ⟨⟨1500⟩, ⟨60000⟩, by decide⟩

end TwoRuns

theorem two_runs_agree :
    let one := (TwoRuns.hasty.poll TwoRuns.prompt (some 900) 0 TwoRuns.pending ()).1
    let other := (TwoRuns.patient.poll TwoRuns.slow none 7 TwoRuns.pending.reverse 0).1
    TwoRuns.pending.Perm TwoRuns.pending.reverse
      ∧ (TwoRuns.pending.map Pending.operation).Nodup
      ∧ (∀ entry ∈ TwoRuns.pending, Check.firstAnswer? one.checks entry.operation =
        Check.firstAnswer? other.checks entry.operation)
      ∧ one.completion = .drained ∧ other.completion = .drained
      ∧ one.checks.length = 2 ∧ other.checks.length = 4
      ∧ one.results.Perm other.results ∧ one.failed.Perm other.failed
      ∧ Review.verdict (({ allowlist := .empty } : Reviewer).reviewAll one.results) =
        Review.verdict (({ allowlist := .empty } : Reviewer).reviewAll other.results) := by
  intro one other
  have leftDrained : one.completion = .drained := by decide +kernel
  have rightDrained : other.completion = .drained := by decide +kernel
  have permuted : TwoRuns.pending.Perm TwoRuns.pending.reverse :=
    (List.reverse_perm _).symm
  have distinct : (TwoRuns.pending.map Pending.operation).Nodup := by decide
  have sameAnswers : ∀ entry ∈ TwoRuns.pending,
      Check.firstAnswer? one.checks entry.operation =
        Check.firstAnswer? other.checks entry.operation := by
    decide +kernel
  obtain ⟨_, _, results, failed, _, verdict, _⟩ :=
    drained_runs_agree permuted distinct sameAnswers leftDrained rightDrained
      { allowlist := .empty }
  exact ⟨permuted, distinct, sameAnswers, leftDrained, rightDrained, by decide +kernel,
    by decide +kernel, results, failed, verdict⟩

end Poller
end ManifestPolicy
