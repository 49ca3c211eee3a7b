import ManifestPolicy.Proofs.Polling.Accounts
import ManifestPolicy.Proofs.Polling.Passes

/-!
# When a polling run stops

The limit of a run is its deadline, or the time at which it is called off if that comes first.
Checks begin before the limit, one after the other, and each is finished before the run ends,
whatever the time is by then. A run that has emptied its queue ends with its last check; any
other run ends at the limit, or with its last check when that is later.
-/

namespace ManifestPolicy

namespace Polling

/-- A run from a time on keeps to its limit. -/
structure KeepsTime
    (polling : Polling)
    (start limit : Nat)
    (shutdown : Option Nat) : Prop where
  begins : ∀ check ∈ polling.checks, start ≤ check.start ∧ check.start < limit
  /-- The first check begins at once, unless the limit has been reached. -/
  first : start < limit → polling.checks.head?.map Check.start = some start
  one_by_one : polling.checks.Pairwise fun earlier later => earlier.stop ≤ later.start
  /-- A check that has begun is finished before the run ends. -/
  finished : ∀ check ∈ polling.checks, check.stop ≤ polling.finish
  drained :
    polling.remaining = [] →
      polling.completion = .drained ∧ polling.finish = Check.lastStop start polling.checks
  stopped :
    polling.remaining ≠ [] →
      polling.finish = max limit (Check.lastStop start polling.checks)
        ∧ (polling.completion = .cancelled ↔ ∃ called ∈ shutdown, called ≤ polling.finish)
        ∧ (polling.completion = .deadlineElapsed ↔ ∀ called ∈ shutdown, polling.finish < called)

end Polling

namespace Poller

variable {σ : Type}

namespace Passes

variable {poller : Poller} {service : Service σ} {limit : Nat}
variable {first last : Standing σ} {checks : List Check}

/-- Checks begin when the first tick is due or later, and before the limit. -/
theorem begins
    (passes : poller.Passes service limit first checks last) :
    ∀ check ∈ checks, max first.now first.due ≤ check.start ∧ check.start < limit := by
  induction passes with
  | rest standing => simp
  | @check now due check waiting state next later last starts early answered passes beginLater =>
      rw [List.forall_mem_cons]
      refine ⟨⟨Nat.le_of_eq starts.symm, early⟩, ?_⟩
      intro other checked
      obtain ⟨after, otherEarly⟩ := beginLater other checked
      have begun := check.start_le_stop
      have advance := poller.add_interval_le_nextTick due check.start
      have later : max now due ≤ max check.stop (poller.nextTick due check.start) := by omega
      exact ⟨Nat.le_trans later after, otherEarly⟩

theorem eq_of_nil (passes : poller.Passes service limit first [] last) : last = first := by
  cases passes
  rfl

/-- The first check begins when the first tick is due. -/
theorem head_start
    (passes : poller.Passes service limit first checks last)
    (checked : checks ≠ []) :
    checks.head?.map Check.start = some (max first.now first.due) := by
  cases passes with
  | rest => contradiction
  | check starts early answered passes => exact congrArg some starts

/-- No check begins before those before it have ended. -/
theorem one_by_one
    (passes : poller.Passes service limit first checks last) :
    checks.Pairwise fun earlier later => earlier.stop ≤ later.start := by
  induction passes with
  | rest standing => exact .nil
  | @check now due check waiting state next later last starts early answered passes inTurn =>
      refine .cons ?_ inTurn
      intro other checked
      exact Nat.le_trans (Nat.le_max_left _ _) (passes.begins other checked).1

/-- Time goes on, and every check has ended when the passes have been made. -/
theorem finished
    (passes : poller.Passes service limit first checks last) :
    first.now ≤ last.now ∧ ∀ check ∈ checks, check.stop ≤ last.now := by
  induction passes with
  | rest standing => simp
  | @check now due check waiting state next later last starts early answered passes finishLater =>
      obtain ⟨stopped, laterStopped⟩ := finishLater
      refine ⟨?_, List.forall_mem_cons.2 ⟨stopped, laterStopped⟩⟩
      calc
        now ≤ max now due := Nat.le_max_left now due
        _ = check.start := starts.symm
        _ ≤ check.stop := check.start_le_stop
        _ ≤ last.now := stopped

end Passes

/-- Passes from a start at which the first tick is due, up to the end of a run, keep to the
limit. -/
theorem keepsTime_of_passes
    {poller : Poller}
    {service : Service σ}
    {shutdown : Option Nat}
    {limit start tick : Nat}
    {entry : Pending}
    {waiting : List Pending}
    {state final : σ}
    {polling : Polling}
    (passes : poller.Passes service limit ⟨start, start, entry :: waiting, state⟩ polling.checks
      ⟨Check.lastStop start polling.checks, tick, polling.remaining, final⟩)
    (ends : Ends polling shutdown limit (Check.lastStop start polling.checks) tick) :
    polling.KeepsTime start limit shutdown where
  begins check checked := by
    have begun := passes.begins check checked
    rwa [Nat.max_self] at begun
  first early := by
    have checked : polling.checks ≠ [] := by
      intro unchecked
      rw [unchecked] at passes ends
      obtain ⟨_, sameTick, pending, _⟩ := Standing.mk.inj passes.eq_of_nil
      have late := (ends.stopped (pending ▸ List.cons_ne_nil entry waiting)).1
      rw [Check.lastStop_nil, sameTick, Nat.max_self] at late
      exact Nat.not_lt.2 late early
    rw [passes.head_start checked, Nat.max_self]
  one_by_one := passes.one_by_one
  finished check checked := by
    refine Nat.le_trans (passes.finished.2 check checked) ?_
    by_cases emptied : polling.remaining = []
    · exact Nat.le_of_eq (ends.drained emptied).2.symm
    · rw [(ends.stopped emptied).2.1]
      exact Nat.le_max_right _ _
  drained := ends.drained
  stopped left := by
    obtain ⟨_, finish, completion⟩ := ends.stopped left
    rw [completion, reasonAt_eq_cancelled_iff, reasonAt_eq_deadlineElapsed_iff]
    exact ⟨finish, .rfl, .rfl⟩

/-- Runs of pending operations keep to their limit, and their records have all that the service
was asked and has answered: every answer is accounted for, also that of a check that has passed
the limit. -/
theorem poll_keeps_time
    (poller : Poller)
    (service : Service σ)
    (shutdown : Option Nat)
    (start : Nat)
    (entry : Pending)
    (waiting : List Pending)
    (state : σ) :
    let run := poller.poll service shutdown start (entry :: waiting) state
    run.1.KeepsTime start (limit shutdown (start + poller.deadline.milliseconds)) shutdown
      ∧ service.fetchAll (run.1.checks.map fun check => check.entry.operation) state =
        (run.1.checks.map Check.reply, run.2)
      ∧ run.1.Accounts (entry :: waiting) := by
  intro run
  obtain ⟨tick, passes, ends⟩ :=
    poller.poll_passes service shutdown start (entry :: waiting) state
  exact ⟨keepsTime_of_passes passes ends, passes.replies,
    poller.accounts_of_poll service shutdown start (entry :: waiting) state⟩

/-! ## A check that overruns its limit

The deadline is at 30 and the run is called off at 20, while the first check takes until 40. -/

namespace Overrun

def poller : Poller := ⟨⟨5⟩, ⟨30⟩, Nat.zero_lt_succ 4⟩

/-- Operations are done when they are first fetched, which takes 40 milliseconds. -/
def service : Service Unit where
  submit _ state := (⟨.ok { name := "" }, 40⟩, state)
  fetch name state := (⟨.ok { name, done := true }, 40⟩, state)

/-- The outcome of a run of some operations. -/
def outcome (operations : List String) : Completion × Nat × List String :=
  let polling := (poller.poll service (some 20) 0 (operations.map fun name => ⟨name, name⟩) ()).1
  (polling.completion, polling.finish, polling.unresolved)

end Overrun

example : Overrun.outcome ["web"] = (.drained, 40, []) := by decide +kernel

example : Overrun.outcome ["web", "db"] = (.cancelled, 40, ["db"]) := by decide +kernel

end Poller
end ManifestPolicy
