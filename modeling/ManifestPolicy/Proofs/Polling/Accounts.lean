import ManifestPolicy.Proofs.Polling.Passes
import ManifestPolicy.Proofs.Polling.Places

/-!
# Where the entries of a polling run end

Results, failures and unresolved resources split the places of the pending entries,
and the last check of a place decides where its entry ends. The main statement
collects this for every run, whatever its service and its times are.
-/

namespace ManifestPolicy
namespace Polling

/-! ## The places of a run -/

section Run

variable (polling : Polling) (pending : List Pending)

/-- The checks of a run with the places of their entries among the pending ones. -/
def placed : List (Nat × Check) := assign (List.range pending.length) polling.checks

/-- The checks of a place in a run. -/
def history (place : Nat) : List Check := historyOf (polling.placed pending) place

/-- The places whose checks gave results, in the order of the results. -/
def succeededPlaces : List Nat := placesOf (·.result?.isSome) (polling.placed pending)

/-- The places whose checks gave failures, in the order of the failures. -/
def failedPlaces : List Nat := placesOf (·.failure?.isSome) (polling.placed pending)

/-- The places still in the queue at the end of a run. -/
def unresolvedPlaces : List Nat := leftOver (List.range pending.length) polling.checks

end Run

/-- The outcome of a run accounts for every pending entry: each ends in one place,
which the last of its fetches decides. -/
structure Accounts (polling : Polling) (pending : List Pending) : Prop where
  /-- Every check belongs to the pending entry that it fetched. -/
  checks_placed : (polling.placed pending).map Prod.snd = polling.checks
  entry_of_placed :
    ∀ entry ∈ polling.placed pending, pending[entry.1]? = some entry.2.entry
  /-- Every entry ends in exactly one of the three lists. -/
  places_split :
    (polling.succeededPlaces pending ++ polling.failedPlaces pending
      ++ polling.unresolvedPlaces pending).Perm (List.range pending.length)
  resources_split :
    (polling.results.map ResourceResult.resource
      ++ polling.failed.map FailedOperation.resource
      ++ polling.unresolved).Perm (pending.map Pending.resource)
  /-- Each result is the one that the last fetch of its entry gave. -/
  results_eq :
    polling.results.map some = (polling.succeededPlaces pending).map fun place =>
      (polling.history pending place).getLast?.bind Check.result?
  result_resources :
    polling.results.map (fun result => some result.resource) =
      (polling.succeededPlaces pending).map fun place => pending[place]?.map Pending.resource
  /-- Each failure is the one that the last fetch of its entry gave. -/
  failed_eq :
    polling.failed.map some = (polling.failedPlaces pending).map fun place =>
      (polling.history pending place).getLast?.bind Check.failure?
  failed_entries :
    polling.failed.map (fun failure => some (Pending.mk failure.operation failure.resource)) =
      (polling.failedPlaces pending).map (pending[·]?)
  failed_pending :
    ∀ failure ∈ polling.failed, Pending.mk failure.operation failure.resource ∈ pending
  unresolved_resources :
    polling.unresolved.map some =
      (polling.unresolvedPlaces pending).map fun place => pending[place]?.map Pending.resource
  /-- No entry is fetched again once it has resolved. -/
  earlier_open :
    ∀ place < pending.length, ∀ check ∈ (polling.history pending place).dropLast,
      check.reply.IsOpen
  succeeded_iff :
    ∀ place < pending.length, place ∈ polling.succeededPlaces pending ↔
      ∃ check ∈ (polling.history pending place).getLast?,
        ∃ violations, check.reply.Succeeds violations
  failed_iff :
    ∀ place < pending.length, place ∈ polling.failedPlaces pending ↔
      ∃ check ∈ (polling.history pending place).getLast?, check.reply.Fails
  unresolved_iff :
    ∀ place < pending.length, place ∈ polling.unresolvedPlaces pending ↔
      polling.history pending place = []
        ∨ ∃ check ∈ (polling.history pending place).getLast?, check.reply.IsOpen
  drained_iff : polling.completion = .drained ↔ polling.unresolved = []

theorem range_located (pending : List Pending) :
    (List.range pending.length).map (pending[·]?) = pending.map some := by
  refine List.ext_getElem (by simp) ?_
  intro place inside _
  have placed : place < pending.length := by simpa using inside
  simp [placed]

section Accounting

variable {polling : Polling} {pending : List Pending}

theorem place_lt_of_placed
    (rotation : Rotation pending polling.checks polling.remaining)
    {entry : Nat × Check}
    (placed : entry ∈ polling.placed pending) :
    entry.1 < pending.length := by
  have found := assign_located rotation (range_located pending) entry placed
  exact (List.getElem?_eq_some_iff.1 found).1

/-- The checks of a kind that resolves observe what the last checks of their places
do. -/
theorem observed_eq_last
    (rotation : Rotation pending polling.checks polling.remaining)
    (observe : Check → Option α)
    (resolving : ∀ check, (observe check).isSome = true → check.resolves = true) :
    (polling.checks.filterMap observe).map some =
      (placesOf (fun check => (observe check).isSome) (polling.placed pending)).map fun place =>
        (polling.history pending place).getLast?.bind observe := by
  have located := filterMap_eq_last List.nodup_range polling.checks observe resolving
    fun entry placed => List.mem_range.2 (place_lt_of_placed rotation placed)
  rw [assign_checks rotation (range_located pending)] at located
  exact located

/-- The checks of a kind are checks of the entries at their places. -/
theorem observed_entries
    (rotation : Rotation pending polling.checks polling.remaining)
    (observe : Check → Option α)
    (entryOf : α → β)
    (project : Pending → β)
    (agrees : ∀ check value, observe check = some value → entryOf value = project check.entry) :
    (polling.checks.filterMap observe).map (fun value => some (entryOf value)) =
      (placesOf (fun check => (observe check).isSome) (polling.placed pending)).map fun place =>
        pending[place]?.map project := by
  conv_lhs => rw [← assign_checks rotation (range_located pending)]
  rw [List.filterMap_map, List.map_filterMap, placesOf, List.map_map,
    ← List.filterMap_eq_map, List.filterMap_filter]
  refine List.filterMap_congr ?_
  intro entry placed
  have found := assign_located rotation (range_located pending) entry placed
  simp only [Function.comp, found, Option.map_some]
  cases observed : observe entry.2 with
  | none => simp
  | some value => simp [agrees entry.2 value observed]

/-- A result belongs to the resource of the entry that was checked. -/
theorem result?_resource
    {check : Check}
    {result : ResourceResult}
    (found : check.result? = some result) :
    result.resource = check.entry.resource := by
  unfold Check.result? at found
  split at found
  · simp only [Option.some.injEq] at found
    rw [← found]
  · contradiction

/-- So does a failure, and its operation is the one that was fetched. -/
theorem failure?_entry
    {check : Check}
    {failure : FailedOperation}
    (found : check.failure? = some failure) :
    Pending.mk failure.operation failure.resource = check.entry := by
  unfold Check.failure? at found
  split at found
  · simp only [Option.some.injEq] at found
    rw [← found]
  · contradiction

/-- Every place succeeds, fails or is left unresolved. -/
theorem places_split
    (polling : Polling)
    (pending : List Pending) :
    (polling.succeededPlaces pending ++ polling.failedPlaces pending
      ++ polling.unresolvedPlaces pending).Perm (List.range pending.length) := by
  have resolved := placesOf_result_append_failure (polling.placed pending)
  have whole := placesOf_resolves_append_leftOver (List.range pending.length) polling.checks
  exact (resolved.append_right _).trans whole

theorem result_resources
    (rotation : Rotation pending polling.checks polling.remaining) :
    polling.results.map (fun result => some result.resource) =
      (polling.succeededPlaces pending).map fun place =>
        pending[place]?.map Pending.resource :=
  observed_entries rotation Check.result? ResourceResult.resource Pending.resource
    fun _ _ => result?_resource

theorem failed_entries
    (rotation : Rotation pending polling.checks polling.remaining) :
    polling.failed.map (fun failure => some (Pending.mk failure.operation failure.resource)) =
      (polling.failedPlaces pending).map (pending[·]?) := by
  have entries := observed_entries rotation Check.failure?
    (fun failure => Pending.mk failure.operation failure.resource) id
    fun _ _ => failure?_entry
  simp only [Option.map_id_fun, id] at entries
  exact entries

theorem unresolved_resources
    (rotation : Rotation pending polling.checks polling.remaining) :
    polling.unresolved.map some =
      (polling.unresolvedPlaces pending).map fun place =>
        pending[place]?.map Pending.resource := by
  have located := leftOver_located rotation (range_located pending)
  have projected := congrArg (List.map (Option.map Pending.resource)) located
  simpa [unresolved, unresolvedPlaces, Function.comp_def] using projected.symm

/-- Every resource is told of once, as often as it was submitted. -/
theorem resources_split
    (rotation : Rotation pending polling.checks polling.remaining) :
    (polling.results.map ResourceResult.resource
      ++ polling.failed.map FailedOperation.resource
      ++ polling.unresolved).Perm (pending.map Pending.resource) := by
  have failedResources := congrArg (List.map (Option.map Pending.resource))
    (failed_entries rotation)
  have whole := congrArg (List.map (Option.map Pending.resource)) (range_located pending)
  simp only [List.map_map, Function.comp_def, Option.map_some] at failedResources whole
  have split := (places_split polling pending).map fun place =>
    pending[place]?.map Pending.resource
  rw [List.map_append, List.map_append, ← result_resources rotation, ← failedResources,
    ← unresolved_resources rotation, whole] at split
  have projected := split.filterMap id
  simpa [List.filterMap_map, Function.comp_def] using projected

/-- A failure is that of something that was pending. -/
theorem failed_pending
    (rotation : Rotation pending polling.checks polling.remaining)
    {failure : FailedOperation}
    (failed : failure ∈ polling.failed) :
    Pending.mk failure.operation failure.resource ∈ pending := by
  have observed := List.mem_map_of_mem
    (f := fun failure => some (Pending.mk failure.operation failure.resource)) failed
  rw [failed_entries rotation, List.mem_map] at observed
  obtain ⟨place, _, found⟩ := observed
  exact List.mem_of_getElem? found

/-- A rotation accounts for every pending entry. -/
theorem accounts_of_rotation
    (rotation : Rotation pending polling.checks polling.remaining)
    (drained : polling.completion = .drained ↔ polling.remaining = []) :
    polling.Accounts pending := by
  have resultResolves (check : Check) (succeeded : check.result?.isSome = true) :=
    Check.resolves_of_result? succeeded
  have failureResolves (check : Check) (failed : check.failure?.isSome = true) :=
    Check.resolves_of_failure? failed
  refine
    { checks_placed := assign_checks rotation (range_located pending)
      entry_of_placed := assign_located rotation (range_located pending)
      places_split := places_split polling pending
      resources_split := resources_split rotation
      results_eq := observed_eq_last rotation Check.result? resultResolves
      result_resources := result_resources rotation
      failed_eq := observed_eq_last rotation Check.failure? failureResolves
      failed_entries := failed_entries rotation
      failed_pending := fun _ => failed_pending rotation
      unresolved_resources := unresolved_resources rotation
      earlier_open := ?_
      succeeded_iff := ?_
      failed_iff := ?_
      unresolved_iff := ?_
      drained_iff := by simpa [unresolved] using drained }
  · intro place inside check earlier
    rw [← Check.resolves_eq_false_iff]
    exact (historyOf_assign List.nodup_range (List.mem_range.2 inside) polling.checks).1
      check earlier
  · intro place inside
    simp only [← Check.result?_isSome_iff]
    exact mem_placesOf_iff_last List.nodup_range (List.mem_range.2 inside) polling.checks
      resultResolves
  · intro place inside
    simp only [← Check.failure?_isSome_iff]
    exact mem_placesOf_iff_last List.nodup_range (List.mem_range.2 inside) polling.checks
      failureResolves
  · intro place inside
    have left := (historyOf_assign List.nodup_range (List.mem_range.2 inside)
      polling.checks).2
    rw [unresolvedPlaces, left]
    simp only [← Check.resolves_eq_false_iff, history, placed]
    cases last : (historyOf (assign (List.range pending.length) polling.checks) place).getLast?
      with
    | none => simp [List.getLast?_eq_none_iff.1 last]
    | some check =>
        have notEmpty := List.ne_nil_of_mem (List.mem_of_getLast? last)
        simp [notEmpty]

theorem mem_checks_of_history
    (accounts : polling.Accounts pending)
    {place : Nat}
    {check : Check}
    (fetched : check ∈ polling.history pending place) :
    check ∈ polling.checks ∧ pending[place]? = some check.entry := by
  have placed : (place, check) ∈ polling.placed pending := mem_historyOf.1 fetched
  refine ⟨?_, accounts.entry_of_placed _ placed⟩
  rw [← accounts.checks_placed]
  exact List.mem_map_of_mem placed

/-- When nothing failed and nothing is unresolved, the last fetch of every entry
succeeded. -/
theorem succeeded_of_complete
    (accounts : polling.Accounts pending)
    (noneFailed : polling.failed = [])
    (noneUnresolved : polling.unresolved = [])
    {place : Nat}
    (inside : place < pending.length) :
    ∃ check ∈ (polling.history pending place).getLast?,
      ∃ violations, check.reply.Succeeds violations := by
  have noFailedPlaces : polling.failedPlaces pending = [] := by
    have entries := accounts.failed_eq
    rw [noneFailed, List.map_nil] at entries
    exact List.map_eq_nil_iff.1 entries.symm
  have noUnresolvedPlaces : polling.unresolvedPlaces pending = [] := by
    have resources := accounts.unresolved_resources
    rw [noneUnresolved, List.map_nil] at resources
    exact List.map_eq_nil_iff.1 resources.symm
  have split := accounts.places_split
  rw [noFailedPlaces, noUnresolvedPlaces, List.append_nil, List.append_nil] at split
  exact (accounts.succeeded_iff place inside).1 (split.mem_iff.2 (List.mem_range.2 inside))

end Accounting

end Polling

namespace Poller

/-- The outcome of a run accounts for every pending entry. -/
theorem accounts_of_poll
    (poller : Poller)
    (service : Service σ)
    (shutdown : Option Nat)
    (now : Nat)
    (pending : List Pending)
    (state : σ) :
    (poller.poll service shutdown now pending state).1.Accounts pending :=
  Polling.accounts_of_rotation
    (poller.pollFrom_rotation service shutdown _ now now pending state)
    (poller.pollFrom_drained_iff service shutdown _ now now pending state)

/-- Polling loses, repeats and confuses no operation: whatever the service does and
whenever the run ends, the replies on record are the answers of the service to the fetches of
the checks, one after the other, and the outcome accounts for every pending entry by them. -/
theorem poll_accounts
    (poller : Poller)
    (service : Service σ)
    (shutdown : Option Nat)
    (now : Nat)
    (pending : List Pending)
    (state : σ) :
    let run := poller.poll service shutdown now pending state
    service.fetchAll (run.1.checks.map fun check => check.entry.operation) state =
        (run.1.checks.map Check.reply, run.2)
      ∧ run.1.Accounts pending :=
  ⟨poller.poll_replies service shutdown now pending state,
    poller.accounts_of_poll service shutdown now pending state⟩

end Poller
end ManifestPolicy
