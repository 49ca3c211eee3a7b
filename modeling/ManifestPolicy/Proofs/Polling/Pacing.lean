import ManifestPolicy.Proofs.Polling.Stopping

/-!
# The pace of a polling run

A pass moves the tick that is due on by an interval or more, and a check that comes late moves it
on from the time of the check. Checks are therefore an interval apart, however long they take,
but for the tolerance of a tick, which counts once between any two of them. No sequence of
passes goes on past the deadline, so that a run ends also when no operation resolves.
-/

namespace ManifestPolicy
namespace Poller

variable {σ : Type}

/-- Checks that begin at the pace of a poller. -/
structure Paced (poller : Poller) (checks : List Check) : Prop where
  /-- Any two checks are as many intervals apart as there are steps from one to the other. -/
  spaced :
    ∀ (i j : Nat) (earlier : i < j) (inside : j < checks.length),
      checks[i].start + (j - i) * poller.interval.milliseconds ≤ checks[j].start + tolerance
  few :
    checks.length = 0
      ∨ (checks.length - 1) * poller.interval.milliseconds <
        poller.deadline.milliseconds + tolerance

/-- The next tick is an interval away from a check that came within the tolerance, up to the
tolerance, and from any other. -/
theorem start_add_interval_le_nextTick
    (poller : Poller)
    (due now : Nat) :
    now + poller.interval.milliseconds ≤ poller.nextTick due now + tolerance := by
  unfold nextTick
  split <;> omega

theorem limit_le_deadline (shutdown : Option Nat) (deadline : Nat) :
    limit shutdown deadline ≤ deadline := by
  cases shutdown with
  | none => exact Nat.le_refl _
  | some time => exact Nat.min_le_left _ _

namespace Passes

variable {poller : Poller} {service : Service σ} {limit : Nat}
variable {first last : Standing σ} {checks : List Check}

/-- A check begins no earlier than its tick: the first that is due, an interval later for each
check before it. -/
theorem due_le_start
    (passes : poller.Passes service limit first checks last) :
    ∀ (index : Nat) (inside : index < checks.length),
      first.due + index * poller.interval.milliseconds ≤ checks[index].start := by
  induction passes with
  | rest standing => simp
  | @check now due check waiting state next later last starts early answered passes dueLater =>
      intro index inside
      cases index with
      | zero =>
          rw [List.getElem_cons_zero, starts, Nat.zero_mul, Nat.add_zero]
          exact Nat.le_max_right now due
      | succ index =>
          have tick := dueLater index (Nat.lt_of_succ_lt_succ inside)
          have advance := poller.add_interval_le_nextTick due check.start
          rw [List.getElem_cons_succ, Nat.succ_mul]
          simp only at tick ⊢
          omega

theorem spaced
    (passes : poller.Passes service limit first checks last) :
    ∀ (i j : Nat) (earlier : i < j) (inside : j < checks.length),
      checks[i].start + (j - i) * poller.interval.milliseconds ≤
        checks[j].start + tolerance := by
  induction passes with
  | rest standing => simp
  | @check now due check waiting state next later last starts early answered passes spacedLater =>
      intro i j earlier inside
      obtain ⟨j, rfl⟩ := Nat.exists_eq_add_one_of_ne_zero (Nat.ne_zero_of_lt earlier)
      have inLater : j < later.length := Nat.lt_of_succ_lt_succ inside
      rw [List.getElem_cons_succ]
      cases i with
      | zero =>
          -- From the first check on, the tick that follows it carries the bound.
          have tick := passes.due_le_start j inLater
          have advance := poller.start_add_interval_le_nextTick due check.start
          rw [List.getElem_cons_zero, Nat.sub_zero, Nat.succ_mul]
          simp only at tick
          omega
      | succ i =>
          rw [List.getElem_cons_succ, Nat.add_sub_add_right]
          exact spacedLater i j (Nat.lt_of_succ_lt_succ earlier) inLater

/-- The tick of the last check is due before the limit, which bounds how many there are. -/
theorem length_bound
    (passes : poller.Passes service limit first checks last) :
    checks.length = 0
      ∨ first.due + (checks.length - 1) * poller.interval.milliseconds < limit := by
  rcases Nat.eq_zero_or_pos checks.length with none | some
  · exact .inl none
  · have inside : checks.length - 1 < checks.length := by omega
    have tick := passes.due_le_start _ inside
    exact .inr (Nat.lt_of_le_of_lt tick (passes.begins _ (List.getElem_mem inside)).2)

/-- No pass is made of an empty queue. -/
theorem eq_nil_of_drained
    (passes : poller.Passes service limit first checks last)
    (drained : first.queue = []) :
    checks = [] := by
  cases passes with
  | rest => rfl
  | check => contradiction

/-- No pass is made when the next check would begin at the limit or later. -/
theorem eq_nil_of_late
    (passes : poller.Passes service limit first checks last)
    (late : limit ≤ max first.now first.due) :
    checks = [] := by
  cases passes with
  | rest => rfl
  | check starts early answered passes =>
      rw [starts] at early
      exact absurd early (Nat.not_lt.2 late)

end Passes

theorem paced_of_passes
    {poller : Poller}
    {service : Service σ}
    {shutdown : Option Nat}
    {start : Nat}
    {pending : List Pending}
    {state : σ}
    {checks : List Check}
    {last : Standing σ}
    (passes : poller.Passes service (limit shutdown (start + poller.deadline.milliseconds))
      ⟨start, start, pending, state⟩ checks last) :
    poller.Paced checks where
  spaced := passes.spaced
  few := by
    refine passes.length_bound.imp_right fun bound => ?_
    have inTime := limit_le_deadline shutdown (start + poller.deadline.milliseconds)
    simp only at bound
    omega

/-- Polling is paced and ends, whatever the service does: no sequence of passes from the start is
longer than the deadline allows, and a run makes passes until none can follow. -/
theorem poll_paced
    (poller : Poller)
    (service : Service σ)
    (shutdown : Option Nat)
    (start : Nat)
    (pending : List Pending)
    (state : σ) :
    let run := poller.poll service shutdown start pending state
    let passes := poller.Passes service (limit shutdown (start + poller.deadline.milliseconds))
    let outset : Standing σ := ⟨start, start, pending, state⟩
    poller.Paced run.1.checks
      ∧ (∀ checks last, passes outset checks last → poller.Paced checks)
      ∧ ∃ last, passes outset run.1.checks last
        ∧ last.queue = run.1.remaining ∧ last.state = run.2
        ∧ ∀ checks next, passes last checks next → checks = [] := by
  intro run passes outset
  obtain ⟨tick, made, ends⟩ := poller.poll_passes service shutdown start pending state
  refine ⟨paced_of_passes made, fun _ _ made => paced_of_passes made, _, made, rfl, rfl, ?_⟩
  intro checks next further
  by_cases emptied : run.1.remaining = []
  · exact further.eq_nil_of_drained emptied
  · exact further.eq_nil_of_late (ends.stopped emptied).1

end Poller
end ManifestPolicy
