import ManifestPolicy.Proofs.Polling.Rotation

/-!
# The passes of a polling run

A pass of a run waits for the tick that is due and checks the head of the queue, if that is
early enough: before the deadline, and before the run is called off. The relation `Passes`
says everything that passes do to the queue, the clock and the service; a run makes passes
until it is over, that is until nothing is pending or the next check would begin too late.
What holds of the checks of a run is proved from that relation.
-/

namespace ManifestPolicy

namespace Service

/-- Fetch operations one after the other. -/
def fetchAll (service : Service σ) : List String → σ → List Reply × σ
  | [], state => ([], state)
  | operation :: rest, state =>
      let (reply, state) := service.fetch operation state
      let (replies, state) := fetchAll service rest state
      (reply :: replies, state)

end Service

namespace Check

theorem start_le_stop (check : Check) : check.start ≤ check.stop := Nat.le_add_right _ _

/-- The time at which the last of some checks ends, or the time before them if there is
none. -/
def lastStop (start : Nat) (checks : List Check) : Nat :=
  (checks.getLast?.map stop).getD start

@[simp] theorem lastStop_nil (start : Nat) : lastStop start [] = start := rfl

@[simp] theorem lastStop_cons (start : Nat) (check : Check) (later : List Check) :
    lastStop start (check :: later) = lastStop check.stop later := by
  simp [lastStop, List.getLast?_cons]

end Check

namespace Poller

/-- The time from which on no check begins: the deadline, or the time at which the run is
called off if that comes first. -/
def limit (shutdown : Option Nat) (deadline : Nat) : Nat :=
  match shutdown with
  | none => deadline
  | some time => min deadline time

/-- Why a run that ends with entries in its queue ends at a time: being called off comes
first. -/
def reasonAt (shutdown : Option Nat) (time : Nat) : Completion :=
  if shutdown.any (· ≤ time) then .cancelled else .deadlineElapsed

@[simp] theorem limit_none (deadline : Nat) : limit none deadline = deadline := rfl

@[simp] theorem limit_some (time deadline : Nat) :
    limit (some time) deadline = min deadline time := rfl

theorem reasonAt_eq_cancelled_iff
    {shutdown : Option Nat}
    {time : Nat} :
    reasonAt shutdown time = .cancelled ↔ ∃ called ∈ shutdown, called ≤ time := by
  cases shutdown <;> simp [reasonAt]

theorem reasonAt_eq_deadlineElapsed_iff
    {shutdown : Option Nat}
    {time : Nat} :
    reasonAt shutdown time = .deadlineElapsed ↔ ∀ called ∈ shutdown, time < called := by
  cases shutdown <;> simp [reasonAt]

/-- Where a run stands between two checks. -/
structure Standing (σ : Type) where
  now : Nat
  /-- The time of the next tick. -/
  due : Nat
  queue : List Pending
  state : σ

/-- The service answers the checks one after the other, and each check takes the head of the
queue at the first tick that is due, before a limit. -/
inductive Passes (poller : Poller) (service : Service σ) (limit : Nat) :
    Standing σ → List Check → Standing σ → Prop
  | rest (standing : Standing σ) : Passes poller service limit standing [] standing
  | check
      {now due : Nat}
      {check : Check}
      {waiting : List Pending}
      {state next : σ}
      {later : List Check}
      {last : Standing σ}
      (starts : check.start = max now due)
      (early : check.start < limit)
      (answered : service.fetch check.entry.operation state = (check.reply, next))
      (passes : Passes poller service limit
        ⟨check.stop, poller.nextTick due check.start, check.requeue check.entry waiting, next⟩
        later last) :
      Passes poller service limit ⟨now, due, check.entry :: waiting, state⟩ (check :: later) last

variable {σ : Type}

/-! ## Runs make passes -/

/-- A check begins exactly when the tick comes before the limit. -/
theorem lt_limit_iff
    {shutdown : Option Nat}
    {deadline now due : Nat} :
    max now due < limit shutdown deadline ↔
      ¬shutdown.any (· ≤ max now (min deadline due)) ∧ ¬deadline ≤ max now due := by
  cases shutdown with
  | none => simp [limit]
  | some time =>
      simp only [limit, Option.any_some, decide_eq_true_eq]
      omega

/-- A run whose next check would begin too late waits for the limit and ends. -/
theorem pollFrom_late
    {shutdown : Option Nat}
    {deadline now due : Nat}
    (late : limit shutdown deadline ≤ max now due)
    (poller : Poller)
    (service : Service σ)
    (entry : Pending)
    (waiting : List Pending)
    (state : σ) :
    poller.pollFrom service shutdown deadline now due (entry :: waiting) state =
      (.ended (entry :: waiting) (reasonAt shutdown (max (limit shutdown deadline) now))
        (max (limit shutdown deadline) now), state) := by
  rw [pollFrom]
  split
  next called =>
    obtain ⟨time, rfl⟩ : ∃ time, shutdown = some time :=
      Option.isSome_iff_exists.1 (Option.isSome_of_any called)
    have reached : time ≤ max now (min deadline due) := by
      simpa only [Option.any_some, decide_eq_true_eq] using called
    have sameFinish : max now time = max (limit (some time) deadline) now := by
      rw [limit_some]
      omega
    have cancelled : reasonAt (some time) (max now time) = .cancelled :=
      reasonAt_eq_cancelled_iff.2 ⟨time, rfl, Nat.le_max_right now time⟩
    rw [Option.getD_some, ← sameFinish, cancelled]
  next running =>
    have notYet : ∀ time ∈ shutdown, max now (min deadline due) < time := by
      rintro time rfl
      simpa only [Option.any_some, decide_eq_true_eq, Nat.not_le] using running
    have elapsed : deadline ≤ max now due :=
      Decidable.byContradiction fun inTime =>
        Nat.not_lt.2 late (lt_limit_iff.2 ⟨running, inTime⟩)
    have sameFinish : max now deadline = max (limit shutdown deadline) now := by
      cases shutdown with
      | none => rw [limit_none, Nat.max_comm]
      | some time =>
          have later := notYet time rfl
          rw [limit_some]
          omega
    have notCalled : reasonAt shutdown (max now deadline) = .deadlineElapsed := by
      rw [reasonAt_eq_deadlineElapsed_iff]
      intro time called
      have later := notYet time called
      omega
    rw [if_pos elapsed, ← sameFinish, notCalled]

/-- How a run ends whose last check has ended at one time, with the next tick due at another:
it stops there when nothing is pending, and otherwise waits for a limit. -/
structure Ends
    (polling : Polling)
    (shutdown : Option Nat)
    (limit lastStop tick : Nat) : Prop where
  drained :
    polling.remaining = [] → polling.completion = .drained ∧ polling.finish = lastStop
  stopped :
    polling.remaining ≠ [] →
      limit ≤ max lastStop tick
        ∧ polling.finish = max limit lastStop
        ∧ polling.completion = reasonAt shutdown polling.finish

theorem ends_drained
    (shutdown : Option Nat)
    (limit now due : Nat) :
    Ends (.ended [] .drained now) shutdown limit now due where
  drained _ := ⟨rfl, rfl⟩
  stopped pending := absurd rfl pending

theorem ends_late
    {limit now due : Nat}
    (late : limit ≤ max now due)
    (shutdown : Option Nat)
    (entry : Pending)
    (waiting : List Pending) :
    Ends (.ended (entry :: waiting) (reasonAt shutdown (max limit now)) (max limit now))
      shutdown limit now due where
  drained emptied := absurd emptied (List.cons_ne_nil entry waiting)
  stopped _ := ⟨late, rfl, rfl⟩

/-- A run makes passes until it is over. -/
theorem pollFrom_passes
    (poller : Poller)
    (service : Service σ)
    (shutdown : Option Nat)
    (deadline now due : Nat)
    (queue : List Pending)
    (state : σ) :
    let run := poller.pollFrom service shutdown deadline now due queue state
    let lastStop := Check.lastStop now run.1.checks
    ∃ tick,
      poller.Passes service (limit shutdown deadline) ⟨now, due, queue, state⟩ run.1.checks
          ⟨lastStop, tick, run.1.remaining, run.2⟩
        ∧ Ends run.1 shutdown (limit shutdown deadline) lastStop tick := by
  induction now, due, queue, state using pollFrom.induct poller service shutdown deadline with
  | case1 now due state =>
      rw [pollFrom]
      exact ⟨due, .rest _, ends_drained shutdown _ now due⟩
  | case2 now due state entry waiting called =>
      have late : limit shutdown deadline ≤ max now due :=
        Nat.not_lt.1 fun early => (lt_limit_iff.1 early).1 called
      rw [pollFrom_late late]
      exact ⟨due, .rest _, ends_late late shutdown entry waiting⟩
  | case3 now due state entry waiting running elapsed =>
      have late : limit shutdown deadline ≤ max now due :=
        Nat.not_lt.1 fun early => (lt_limit_iff.1 early).2 elapsed
      rw [pollFrom_late late]
      exact ⟨due, .rest _, ends_late late shutdown entry waiting⟩
  | case4 now due state entry waiting running inTime start reply next answered check queue
      later last continued passes =>
      obtain ⟨tick, passes, ends⟩ := passes
      rw [pollFrom_check running inTime, answered]
      simp only [Check.lastStop_cons]
      have checked := Passes.check (rfl : check.start = max now due)
        (lt_limit_iff.2 ⟨running, inTime⟩) answered passes
      exact ⟨tick, checked, ends.drained, ends.stopped⟩

/-- A run makes passes from its start, where the first tick is due, until it is over. -/
theorem poll_passes
    (poller : Poller)
    (service : Service σ)
    (shutdown : Option Nat)
    (start : Nat)
    (pending : List Pending)
    (state : σ) :
    let run := poller.poll service shutdown start pending state
    let limit := limit shutdown (start + poller.deadline.milliseconds)
    let lastStop := Check.lastStop start run.1.checks
    ∃ tick,
      poller.Passes service limit ⟨start, start, pending, state⟩ run.1.checks
          ⟨lastStop, tick, run.1.remaining, run.2⟩
        ∧ Ends run.1 shutdown limit lastStop tick :=
  poller.pollFrom_passes service shutdown (start + poller.deadline.milliseconds) start start
    pending state

/-! ## What the service has answered -/

/-- The replies of passes are those of the service to the fetches of their checks, and it is
asked for nothing else. -/
theorem Passes.replies
    {poller : Poller}
    {service : Service σ}
    {limit : Nat}
    {first last : Standing σ}
    {checks : List Check}
    (passes : poller.Passes service limit first checks last) :
    service.fetchAll (checks.map fun check => check.entry.operation) first.state =
      (checks.map Check.reply, last.state) := by
  induction passes with
  | rest standing => rfl
  | @check now due check waiting state next later last starts early answered passes replyLater =>
      simp only [List.map_cons, Service.fetchAll, answered, replyLater]

/-- What a run has on record is what the service answered to the fetches of its checks. -/
theorem poll_replies
    (poller : Poller)
    (service : Service σ)
    (shutdown : Option Nat)
    (start : Nat)
    (pending : List Pending)
    (state : σ) :
    let run := poller.poll service shutdown start pending state
    service.fetchAll (run.1.checks.map fun check => check.entry.operation) state =
      (run.1.checks.map Check.reply, run.2) := by
  obtain ⟨_, passes, _⟩ := poller.poll_passes service shutdown start pending state
  exact passes.replies

end Poller
end ManifestPolicy
