import ManifestPolicy.Proofs.Polling.Accounts
import Mathlib.Data.List.Nodup

/-!
# Polling in rounds

The queue of a run is a round that has begun: the places that have not been checked in it come
first, and behind them those whose checks in it left them open. When the first part is used up
the second is the next round. Checks are therefore made round by round, each round in the order
of the one before, and no place that is still pending is ever more than one check ahead of
another.
-/

namespace ManifestPolicy
namespace Polling

/-- Whether the check of a place in a round resolves it. Rounds are counted from zero, and a
place has one check in each that it is in. -/
def resolvedIn (assigned : List (Nat × Check)) (number place : Nat) : Bool :=
  (historyOf assigned place)[number]?.any Check.resolves

/-- The rounds of checks: all places in order, then those of the round before that it did not
resolve. -/
def rounds (places : List Nat) (checks : List Check) : Nat → List Nat
  | 0 => places
  | number + 1 =>
      (rounds places checks number).filter fun place =>
        !resolvedIn (assign places checks) number place

/-- The places, as far as there are checks for them, that their checks leave open. -/
def leftOpen (places : List Nat) (checks : List Check) : List Nat :=
  ((places.zip checks).filter fun entry => !entry.2.resolves).map Prod.fst

@[simp] theorem leftOpen_nil (places : List Nat) : leftOpen places [] = [] := by
  simp [leftOpen]

theorem leftOpen_cons_of_resolves
    {check : Check}
    (resolves : check.resolves = true)
    (place : Nat)
    (places : List Nat)
    (checks : List Check) :
    leftOpen (place :: places) (check :: checks) = leftOpen places checks := by
  simp [leftOpen, resolves]

theorem leftOpen_cons_of_open
    {check : Check}
    (stays : check.resolves = false)
    (place : Nat)
    (places : List Nat)
    (checks : List Check) :
    leftOpen (place :: places) (check :: checks) = place :: leftOpen places checks := by
  simp [leftOpen, stays]

/-! ## One round -/

/-- In the middle of a round, the places to come are checked first; those that are left open
queue up behind the ones that have been left open before. -/
theorem assign_append
    (coming behind : List Nat)
    (checks : List Check) :
    let queue := coming.drop checks.length ++ (behind ++ leftOpen coming checks)
    let later := checks.drop coming.length
    assign (coming ++ behind) checks = coming.zip checks ++ assign queue later
      ∧ leftOver (coming ++ behind) checks = leftOver queue later := by
  induction coming generalizing behind checks with
  | nil => simp [leftOpen]
  | cons place coming assignRest =>
      cases checks with
      | nil => simp
      | cons check checks =>
          rw [List.cons_append, assign_cons, leftOver_cons]
          cases resolves : check.resolves with
          | true =>
              obtain ⟨assigned, left⟩ := assignRest behind checks
              rw [Check.requeue_of_resolves resolves, assigned, left,
                leftOpen_cons_of_resolves resolves]
              exact ⟨rfl, rfl⟩
          | false =>
              obtain ⟨assigned, left⟩ := assignRest (behind ++ [place]) checks
              rw [Check.requeue_of_open resolves, List.append_assoc, assigned, left,
                leftOpen_cons_of_open resolves, List.append_assoc]
              exact ⟨rfl, rfl⟩

/-- A round that is checked to its end is followed by one of the places left open. -/
theorem assign_of_whole
    {places : List Nat}
    {checks : List Check}
    (whole : places.length ≤ checks.length) :
    let next := leftOpen places checks
    let later := checks.drop places.length
    assign places checks = places.zip checks ++ assign next later
      ∧ leftOver places checks = leftOver next later := by
  have round := assign_append places [] checks
  rwa [List.append_nil, List.drop_eq_nil_of_le whole] at round

/-- A round that is cut off leaves the places that have not been checked, and those left open
behind them. -/
theorem assign_of_cut
    {places : List Nat}
    {checks : List Check}
    (cut : checks.length ≤ places.length) :
    assign places checks = places.zip checks
      ∧ leftOver places checks = places.drop checks.length ++ leftOpen places checks := by
  have round := assign_append places [] checks
  rw [List.append_nil, List.drop_eq_nil_of_le cut] at round
  simpa using round

theorem map_fst_zip (places : List Nat) (checks : List Check) :
    (places.zip checks).map Prod.fst = places.take checks.length := by
  induction places generalizing checks with
  | nil => simp
  | cons place places zipRest =>
      cases checks with
      | nil => simp
      | cons check checks => simp [zipRest]

theorem historyOf_append
    (earlier later : List (Nat × Check))
    (place : Nat) :
    historyOf (earlier ++ later) place = historyOf earlier place ++ historyOf later place :=
  List.filterMap_append

/-- A place has as many checks as it has been given. -/
theorem length_historyOf
    (assigned : List (Nat × Check))
    (place : Nat) :
    (historyOf assigned place).length = (assigned.map Prod.fst).count place := by
  induction assigned with
  | nil => rfl
  | cons entry rest countRest =>
      rw [historyOf_cons, List.map_cons, List.count_cons, ← countRest]
      by_cases same : entry.1 = place <;> simp [same]

/-- A place of a round has one check in it. -/
theorem length_historyOf_zip
    {places : List Nat}
    (distinct : places.Nodup)
    (checks : List Check)
    {place : Nat}
    (checked : place ∈ places.take checks.length) :
    (historyOf (places.zip checks) place).length = 1 := by
  rw [length_historyOf, map_fst_zip]
  exact List.count_eq_one_of_mem (distinct.sublist (List.take_sublist _ _)) checked

/-- The places that a round leaves open are those of its checked places that it does not
resolve, in its order. -/
theorem leftOpen_eq_filter
    {places : List Nat}
    (distinct : places.Nodup)
    (checks : List Check) :
    leftOpen places checks =
      (places.take checks.length).filter fun place =>
        !resolvedIn (places.zip checks) 0 place := by
  induction places generalizing checks with
  | nil => simp [leftOpen]
  | cons place places openRest =>
      cases checks with
      | nil => simp
      | cons check checks =>
          obtain ⟨absent, restDistinct⟩ := List.nodup_cons.1 distinct
          have atHead : resolvedIn ((place :: places).zip (check :: checks)) 0 place =
              check.resolves := by
            simp [resolvedIn]
          have atRest : ∀ other ∈ places.take checks.length,
              (!resolvedIn ((place :: places).zip (check :: checks)) 0 other) =
                !resolvedIn (places.zip checks) 0 other := by
            intro other checked
            have different : place ≠ other := by
              rintro rfl
              exact absent (List.mem_of_mem_take checked)
            simp [resolvedIn, different]
          rw [List.length_cons, List.take_succ_cons, List.filter_cons, atHead,
            List.filter_congr atRest, ← openRest restDistinct checks]
          cases resolves : check.resolves with
          | true => exact leftOpen_cons_of_resolves resolves place places checks
          | false => exact leftOpen_cons_of_open resolves place places checks

theorem leftOpen_sublist (places : List Nat) (checks : List Check) :
    (leftOpen places checks).Sublist places := by
  have checked := (List.filter_sublist (p := fun entry => !entry.2.resolves)
    (l := places.zip checks)).map Prod.fst
  rw [map_fst_zip] at checked
  exact checked.trans (List.take_sublist _ _)

/-! ## Round after round -/

/-- The first check of a place is that of the first round, when it is checked to its end; the
others are those of the rounds that follow. -/
theorem resolvedIn_of_whole
    {places : List Nat}
    (distinct : places.Nodup)
    {checks : List Check}
    (whole : places.length ≤ checks.length)
    {place : Nat}
    (present : place ∈ places) :
    resolvedIn (assign places checks) 0 place = resolvedIn (places.zip checks) 0 place
      ∧ ∀ number,
        resolvedIn (assign places checks) (number + 1) place =
          resolvedIn (assign (leftOpen places checks) (checks.drop places.length)) number
            place := by
  have checked : place ∈ places.take checks.length := by rwa [List.take_of_length_le whole]
  obtain ⟨check, only⟩ := List.length_eq_one_iff.1 (length_historyOf_zip distinct checks checked)
  have history : historyOf (assign places checks) place =
      check :: historyOf (assign (leftOpen places checks) (checks.drop places.length)) place := by
    rw [(assign_of_whole whole).1, historyOf_append, only, List.singleton_append]
  simp [resolvedIn, history, only]

theorem rounds_sublist (places : List Nat) (checks : List Check) (number : Nat) :
    (rounds places checks number).Sublist places := by
  induction number with
  | zero => exact .refl _
  | succ number sublist => exact List.filter_sublist.trans sublist

/-- The rounds that follow the first, when it is checked to its end, are those of the places it
leaves open. -/
theorem rounds_of_whole
    {places : List Nat}
    (distinct : places.Nodup)
    {checks : List Check}
    (whole : places.length ≤ checks.length)
    (number : Nat) :
    rounds places checks (number + 1) =
      rounds (leftOpen places checks) (checks.drop places.length) number := by
  induction number with
  | zero =>
      rw [rounds, rounds, rounds, leftOpen_eq_filter distinct, List.take_of_length_le whole]
      refine List.filter_congr ?_
      intro place present
      rw [(resolvedIn_of_whole distinct whole present).1]
  | succ number sameRound =>
      rw [rounds, sameRound, rounds]
      refine List.filter_congr ?_
      intro place inRound
      have present := (leftOpen_sublist places checks).subset
        ((rounds_sublist _ _ number).subset inRound)
      rw [(resolvedIn_of_whole distinct whole present).2]

/-- Checks are made round by round. The queue is what remains of the round that has begun, and
behind it the places that this round has left open. -/
theorem exists_round
    {places : List Nat}
    (distinct : places.Nodup)
    (checks : List Check) :
    ∃ number count, count ≤ (rounds places checks number).length
      ∧ (assign places checks).map Prod.fst =
        (List.range number).flatMap (rounds places checks)
          ++ (rounds places checks number).take count
      ∧ leftOver places checks =
        (rounds places checks number).drop count
          ++ ((rounds places checks number).take count).filter fun place =>
            !resolvedIn (assign places checks) number place := by
  -- Rounds differ in length, so the induction takes a whole round of checks off at a time.
  induction size : checks.length using Nat.strongRecOn generalizing places checks with
  | ind bound roundLater =>
      rcases Nat.lt_or_ge places.length checks.length with whole | cut
      · by_cases none : places = []
        -- Checks beyond an empty round belong to no place.
        · subst none
          exact ⟨0, 0, by simp [rounds, assign, leftOver]⟩
        · have toItsEnd := Nat.le_of_lt whole
          have shorter : (checks.drop places.length).length < bound := by
            have some := List.length_pos_iff.2 none
            rw [List.length_drop]
            omega
          obtain ⟨number, count, within, made, left⟩ :=
            roundLater _ shorter (distinct.sublist (leftOpen_sublist places checks))
              (checks.drop places.length) rfl
          have later := rounds_of_whole distinct toItsEnd
          refine ⟨number + 1, count, ?_, ?_, ?_⟩
          · rwa [later]
          · rw [(assign_of_whole toItsEnd).1, List.map_append, map_fst_zip,
              List.take_of_length_le toItsEnd, made, later, List.range_succ_eq_map,
              List.flatMap_cons, List.flatMap_map, List.append_assoc]
            simp only [later]
            rfl
          · rw [(assign_of_whole toItsEnd).2, left, later]
            congr 1
            refine List.filter_congr ?_
            intro place checked
            have present := (leftOpen_sublist places checks).subset
              ((rounds_sublist _ _ number).subset (List.mem_of_mem_take checked))
            rw [(resolvedIn_of_whole distinct toItsEnd present).2]
      · obtain ⟨assigned, left⟩ := assign_of_cut cut
        refine ⟨0, checks.length, cut, ?_, ?_⟩
        · rw [assigned, map_fst_zip]
          rfl
        · rw [left, leftOpen_eq_filter distinct, assigned]
          rfl

/-- A place that is in a round has been checked once in each round before it. -/
theorem count_rounds
    {places : List Nat}
    (distinct : places.Nodup)
    {checks : List Check}
    {number : Nat}
    {place : Nat}
    (inRound : place ∈ rounds places checks number) :
    ((List.range number).flatMap (rounds places checks)).count place = number := by
  induction number with
  | zero => rfl
  | succ number countEarlier =>
      have inEarlier := (List.mem_filter.1 inRound).1
      have once : (rounds places checks number).count place = 1 :=
        List.count_eq_one_of_mem (distinct.sublist (rounds_sublist places checks number)) inEarlier
      rw [List.range_succ, List.flatMap_append, List.flatMap_singleton, List.count_append,
        countEarlier inEarlier, once]

/-- The places ahead in the queue have been checked once in each round before the one that has
begun, and those behind them once more. -/
theorem exists_split_leftOver
    {places : List Nat}
    (distinct : places.Nodup)
    (checks : List Check) :
    ∃ number ahead behind, leftOver places checks = ahead ++ behind
      ∧ (∀ place ∈ ahead, (historyOf (assign places checks) place).length = number)
      ∧ ∀ place ∈ behind, (historyOf (assign places checks) place).length = number + 1 := by
  obtain ⟨number, count, _, made, left⟩ := exists_round distinct checks
  have distinctRound := distinct.sublist (rounds_sublist places checks number)
  refine ⟨number, _, _, left, ?_, ?_⟩
  · intro place unchecked
    have absent : place ∉ (rounds places checks number).take count := fun checked =>
      List.disjoint_take_drop distinctRound (Nat.le_refl count) checked unchecked
    rw [length_historyOf, made, List.count_append,
      count_rounds distinct (List.mem_of_mem_drop unchecked),
      List.count_eq_zero_of_not_mem absent, Nat.add_zero]
  · intro place stillOpen
    have checked := (List.mem_filter.1 stillOpen).1
    have once : ((rounds places checks number).take count).count place = 1 :=
      List.count_eq_one_of_mem (distinctRound.sublist (List.take_sublist _ _)) checked
    rw [length_historyOf, made, List.count_append,
      count_rounds distinct (List.mem_of_mem_take checked), once]

/-- Checks that go on are given the places that those before them have left. -/
theorem assign_append_checks
    (places : List Nat)
    (earlier later : List Check) :
    assign places (earlier ++ later) =
      assign places earlier ++ assign (leftOver places earlier) later := by
  induction earlier generalizing places with
  | nil => simp
  | cons check earlier assignRest =>
      cases places with
      | nil => cases later <;> rfl
      | cons place waiting =>
          rw [List.cons_append, assign_cons, assign_cons, leftOver_cons, assignRest,
            List.cons_append]

/-- A single check is one of the place at the head of the queue. -/
theorem length_historyOf_single
    (queue : List Nat)
    {begun : List Check}
    (single : begun.length ≤ 1)
    (place : Nat) :
    (historyOf (assign queue begun) place).length ≤
      if queue.head? = some place then 1 else 0 := by
  match queue, begun, single with
  | _, [], _ => simp [historyOf]
  | [], check :: _, _ => simp [assign, historyOf]
  | head :: waiting, [check], _ =>
      by_cases same : head = place <;> simp [historyOf, same]

/-- Any two places in the queue have been checked equally often, up to one, also while the one
at its head is being checked. -/
theorem length_historyOf_le_of_leftOver
    {places : List Nat}
    (distinct : places.Nodup)
    (earlier : List Check)
    {begun : List Check}
    (single : begun.length ≤ 1)
    {one other : Nat}
    (oneLeft : one ∈ leftOver places earlier)
    (otherLeft : other ∈ leftOver places earlier) :
    (historyOf (assign places (earlier ++ begun)) one).length ≤
      (historyOf (assign places (earlier ++ begun)) other).length + 1 := by
  obtain ⟨number, ahead, behind, left, aheadLength, behindLength⟩ :=
    exists_split_leftOver distinct earlier
  have bounds : ∀ place ∈ ahead ++ behind,
      number ≤ (historyOf (assign places earlier) place).length
        ∧ (historyOf (assign places earlier) place).length ≤ number + 1 := by
    intro place inQueue
    rcases List.mem_append.1 inQueue with isAhead | isBehind
    · have length := aheadLength place isAhead
      omega
    · have length := behindLength place isBehind
      omega
  -- A check that has begun is one of the head, which no place in the queue is behind.
  have least : (ahead ++ behind).head? = some one →
      (historyOf (assign places earlier) one).length ≤
        (historyOf (assign places earlier) other).length := by
    intro atHead
    rw [left] at otherLeft
    cases ahead with
    | nil =>
        exact Nat.le_of_eq ((behindLength one (List.mem_of_mem_head? atHead)).trans
          (behindLength other otherLeft).symm)
    | cons head rest =>
        obtain rfl : head = one := Option.some.inj atHead
        rw [aheadLength head List.mem_cons_self]
        exact (bounds other otherLeft).1
  rw [left] at oneLeft otherLeft
  rw [assign_append_checks, historyOf_append, historyOf_append, List.length_append,
    List.length_append, left]
  have begunOnce := length_historyOf_single (ahead ++ behind) single one
  have oneBounds := bounds one oneLeft
  have otherBounds := bounds other otherLeft
  split at begunOnce
  next atHead =>
    have notBehind := least atHead
    omega
  next => omega

end Polling

namespace Rotation

/-- At every moment of a rotation there is a queue from which it goes on. -/
theorem split
    {queue remaining : List Pending}
    {earlier later : List Check}
    (rotation : Rotation queue (earlier ++ later) remaining) :
    ∃ middle, Rotation queue earlier middle ∧ Rotation middle later remaining := by
  induction earlier generalizing queue with
  | nil => exact ⟨queue, .still queue, rotation⟩
  | cons check earlier splitRest =>
      cases rotation with
      | check rest =>
          obtain ⟨middle, before, after⟩ := splitRest rest
          exact ⟨middle, .check before, after⟩

end Rotation

namespace Polling

/-- The rounds of a run, counted from zero. -/
def round (polling : Polling) (pending : List Pending) : Nat → List Nat :=
  rounds (List.range pending.length) polling.checks

/-- A run checks the pending entries round by round. -/
structure RoundRobin (polling : Polling) (pending : List Pending) : Prop where
  /-- Every check belongs to the place of the entry that it fetched. -/
  checks_placed : (polling.placed pending).map Prod.snd = polling.checks
  entry_of_placed :
    ∀ entry ∈ polling.placed pending, pending[entry.1]? = some entry.2.entry
  /-- The places are checked in the order of the rounds. -/
  in_rounds :
    ∃ number, (polling.placed pending).map Prod.fst <+:
      (List.range number).flatMap (polling.round pending)
  resolves_iff :
    ∀ check ∈ polling.checks, check.resolves = true ↔
      (∃ violations, check.reply.Succeeds violations) ∨ check.reply.Fails
  /-- The places that a run leaves are those not yet checked in the round it stopped in, and
  behind them those that this round did not resolve. -/
  stopped :
    ∃ number count, count ≤ (polling.round pending number).length
      ∧ (polling.placed pending).map Prod.fst =
        (List.range number).flatMap (polling.round pending)
          ++ (polling.round pending number).take count
      ∧ polling.unresolvedPlaces pending =
        (polling.round pending number).drop count
          ++ ((polling.round pending number).take count).filter fun place =>
            !resolvedIn (polling.placed pending) number place
  unresolved_resources :
    polling.unresolved.map some =
      (polling.unresolvedPlaces pending).map fun place => pending[place]?.map Pending.resource
  /-- Results come in the order of the checks that resolve their entries with one. -/
  results_in_order :
    polling.results.map ResourceResult.resource =
      ((polling.checks.filter Check.resolves).filter (·.result?.isSome)).map
        (·.entry.resource)
  failed_in_order :
    polling.failed.map (fun failure => Pending.mk failure.operation failure.resource) =
      ((polling.checks.filter Check.resolves).filter (·.failure?.isSome)).map Check.entry
  /-- At every moment, when some checks have ended and one more may have begun, any two entries
  that are still pending have been checked equally often, up to one. -/
  balanced :
    ∀ earlier later, polling.checks = earlier ++ later →
      let places := List.range pending.length
      ∃ queue, Rotation pending earlier queue ∧ Rotation queue later polling.remaining
        ∧ (leftOver places earlier).map (pending[·]?) = queue.map some
        ∧ ∀ begun, begun <+: later → begun.length ≤ 1 →
          ∀ one ∈ leftOver places earlier, ∀ other ∈ leftOver places earlier,
            (historyOf (assign places (earlier ++ begun)) one).length ≤
              (historyOf (assign places (earlier ++ begun)) other).length + 1

/-- What checks of a kind observe about their entries comes in the order of the checks that
resolve. -/
theorem map_observed
    {observe : Check → Option α}
    {entryOf : α → β}
    {project : Check → β}
    (agrees : ∀ check value, observe check = some value → entryOf value = project check)
    (resolving : ∀ check, (observe check).isSome = true → check.resolves = true)
    (checks : List Check) :
    (checks.filterMap observe).map entryOf =
      ((checks.filter Check.resolves).filter fun check => (observe check).isSome).map
        project := by
  induction checks with
  | nil => rfl
  | cons check checks observeRest =>
      cases observed : observe check with
      | none =>
          rw [List.filterMap_cons_none observed, observeRest]
          cases resolves : check.resolves <;> simp [resolves, observed]
      | some value =>
          have resolves := resolving check (by rw [observed, Option.isSome_some])
          rw [List.filterMap_cons_some observed, List.map_cons, observeRest,
            agrees check value observed]
          simp [resolves, observed]

/-- A rotation that leaves a queue checks its entries in rounds. -/
theorem roundRobin_of_rotation
    {polling : Polling}
    {pending : List Pending}
    (rotation : Rotation pending polling.checks polling.remaining) :
    polling.RoundRobin pending where
  checks_placed := assign_checks rotation (range_located pending)
  entry_of_placed := assign_located rotation (range_located pending)
  in_rounds := by
    obtain ⟨number, count, _, made, _⟩ :=
      exists_round (List.nodup_range (n := pending.length)) polling.checks
    refine ⟨number + 1, ?_⟩
    rw [placed, made, List.range_succ, List.flatMap_append, List.flatMap_singleton]
    exact (List.prefix_append_right_inj _).2 (List.take_prefix _ _)
  resolves_iff check _ := by
    rw [check.resolves_eq_or, Bool.or_eq_true, check.result?_isSome_iff, check.failure?_isSome_iff]
  stopped := exists_round List.nodup_range polling.checks
  unresolved_resources := unresolved_resources rotation
  results_in_order :=
    map_observed (fun _ _ => result?_resource) (fun _ => Check.resolves_of_result?)
      polling.checks
  failed_in_order :=
    map_observed (fun _ _ => failure?_entry) (fun _ => Check.resolves_of_failure?)
      polling.checks
  balanced earlier later made := by
    intro places
    rw [made] at rotation
    obtain ⟨queue, before, after⟩ := rotation.split
    refine ⟨queue, before, after, leftOver_located before (range_located pending), ?_⟩
    intro begun _ single one oneLeft other otherLeft
    exact length_historyOf_le_of_leftOver List.nodup_range earlier single oneLeft otherLeft

end Polling

namespace Poller

/-- Polling is fair: whatever the service does and whenever the run ends, its checks go through
the pending entries in rounds. What a check of a round finds out is what the service answered
to it, when all checks before it had been answered. -/
theorem poll_round_robin
    (poller : Poller)
    (service : Service σ)
    (shutdown : Option Nat)
    (now : Nat)
    (pending : List Pending)
    (state : σ) :
    let run := poller.poll service shutdown now pending state
    service.fetchAll (run.1.checks.map fun check => check.entry.operation) state =
        (run.1.checks.map Check.reply, run.2)
      ∧ run.1.RoundRobin pending :=
  ⟨poller.poll_replies service shutdown now pending state,
    Polling.roundRobin_of_rotation
      (poller.pollFrom_rotation service shutdown _ now now pending state)⟩

end Poller
end ManifestPolicy
