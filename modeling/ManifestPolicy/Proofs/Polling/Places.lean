import ManifestPolicy.Proofs.Polling.Rotation
import Mathlib.Data.List.Basic

/-!
# Places in a queue

Equal entries may be pending more than once, so an entry is known by its place in
the list of pending ones. The places rotate as the queue does, which gives every
check the place of its entry and every place its history of checks. Only the last
check of a place can resolve it.
-/

namespace ManifestPolicy
namespace Polling

/-- Give each check the place at the head of the queue of places, which goes to the
end unless the check resolves its entry. -/
def assign : List Nat → List Check → List (Nat × Check)
  | place :: waiting, check :: later =>
      (place, check) :: assign (check.requeue place waiting) later
  | _, _ => []

/-- The queue of places after checks. -/
def leftOver : List Nat → List Check → List Nat
  | place :: waiting, check :: later => leftOver (check.requeue place waiting) later
  | places, _ => places

/-- The checks of a place, in order. -/
def historyOf (assigned : List (Nat × Check)) (place : Nat) : List Check :=
  assigned.filterMap fun entry => if entry.1 = place then some entry.2 else none

/-- The places of the checks of a kind, in the order of the checks. -/
def placesOf (kind : Check → Bool) (assigned : List (Nat × Check)) : List Nat :=
  (assigned.filter fun entry => kind entry.2).map Prod.fst

@[simp] theorem assign_nil (places : List Nat) : assign places [] = [] := by
  cases places <;> rfl

@[simp] theorem assign_cons
    (place : Nat)
    (waiting : List Nat)
    (check : Check)
    (later : List Check) :
    assign (place :: waiting) (check :: later) =
      (place, check) :: assign (check.requeue place waiting) later := rfl

@[simp] theorem leftOver_nil (places : List Nat) : leftOver places [] = places := by
  cases places <;> rfl

@[simp] theorem leftOver_cons
    (place : Nat)
    (waiting : List Nat)
    (check : Check)
    (later : List Check) :
    leftOver (place :: waiting) (check :: later) =
      leftOver (check.requeue place waiting) later := rfl

@[simp] theorem historyOf_cons
    (entry : Nat × Check)
    (assigned : List (Nat × Check))
    (place : Nat) :
    historyOf (entry :: assigned) place =
      if entry.1 = place then entry.2 :: historyOf assigned place
      else historyOf assigned place := by
  by_cases same : entry.1 = place <;> simp [historyOf, same]

theorem mem_historyOf
    {assigned : List (Nat × Check)}
    {place : Nat}
    {check : Check} :
    check ∈ historyOf assigned place ↔ (place, check) ∈ assigned := by
  simp only [historyOf, List.mem_filterMap, Option.ite_none_right_eq_some, Option.some.injEq]
  constructor
  · rintro ⟨⟨_, _⟩, present, rfl, rfl⟩
    exact present
  · intro present
    exact ⟨_, present, rfl, rfl⟩

theorem mem_placesOf
    {kind : Check → Bool}
    {assigned : List (Nat × Check)}
    {place : Nat} :
    place ∈ placesOf kind assigned ↔
      ∃ check ∈ historyOf assigned place, kind check = true := by
  simp only [placesOf, List.mem_map, List.mem_filter, mem_historyOf]
  constructor
  · rintro ⟨⟨_, check⟩, ⟨present, isKind⟩, rfl⟩
    exact ⟨check, present, isKind⟩
  · rintro ⟨check, present, isKind⟩
    exact ⟨(place, check), ⟨present, isKind⟩, rfl⟩

/-! ## The places of a rotation -/

section Rotation

variable {pending queue remaining : List Pending} {checks : List Check} {places : List Nat}

/-- A queue and its places rotate together. -/
theorem located_requeue
    {check : Check}
    {place : Nat}
    {others : List Nat}
    {entry : Pending}
    {waiting : List Pending}
    (atHead : pending[place]? = some entry)
    (atRest : others.map (pending[·]?) = waiting.map some) :
    (check.requeue place others).map (pending[·]?) =
      (check.requeue entry waiting).map some := by
  rw [Check.map_requeue, Check.map_requeue, atHead, atRest]

/-- Every check is given a place. -/
theorem assign_checks
    (rotation : Rotation queue checks remaining)
    (located : places.map (pending[·]?) = queue.map some) :
    (assign places checks).map Prod.snd = checks := by
  induction rotation generalizing places with
  | still queue => simp
  | @check check waiting later remaining rest assignRest =>
      obtain ⟨place, others, rfl, atHead, atRest⟩ := List.map_eq_cons_iff.1 located
      rw [assign_cons, List.map_cons, assignRest (located_requeue atHead atRest)]

/-- The place given to a check is one of its entry. -/
theorem assign_located
    (rotation : Rotation queue checks remaining)
    (located : places.map (pending[·]?) = queue.map some) :
    ∀ entry ∈ assign places checks, pending[entry.1]? = some entry.2.entry := by
  induction rotation generalizing places with
  | still queue => simp
  | @check check waiting later remaining rest locatedRest =>
      obtain ⟨place, others, rfl, atHead, atRest⟩ := List.map_eq_cons_iff.1 located
      rw [assign_cons, List.forall_mem_cons]
      exact ⟨atHead, locatedRest (located_requeue atHead atRest)⟩

/-- The places left over are those of the entries left over. -/
theorem leftOver_located
    (rotation : Rotation queue checks remaining)
    (located : places.map (pending[·]?) = queue.map some) :
    (leftOver places checks).map (pending[·]?) = remaining.map some := by
  induction rotation generalizing places with
  | still queue => simpa using located
  | @check check waiting later remaining rest locatedRest =>
      obtain ⟨place, others, rfl, atHead, atRest⟩ := List.map_eq_cons_iff.1 located
      rw [leftOver_cons]
      exact locatedRest (located_requeue atHead atRest)

end Rotation

/-! ## Histories -/

/-- The places of the checks that resolve their entries, with those left over, are
the places there were. -/
theorem placesOf_resolves_append_leftOver
    (places : List Nat)
    (checks : List Check) :
    (placesOf Check.resolves (assign places checks) ++ leftOver places checks).Perm
      places := by
  induction checks generalizing places with
  | nil => simp [placesOf]
  | cons check later permRest =>
      cases places with
      | nil => exact .refl _
      | cons place waiting =>
          have rest := permRest (check.requeue place waiting)
          rw [assign_cons, leftOver_cons]
          cases resolves : check.resolves with
          | true =>
              rw [Check.requeue_of_resolves resolves] at rest ⊢
              simpa [placesOf, resolves] using rest
          | false =>
              rw [Check.requeue_of_open resolves] at rest ⊢
              have kept := rest.trans List.perm_append_comm
              simpa [placesOf, resolves] using kept

/-- Results and failures come from different checks. -/
theorem placesOf_result_append_failure
    (assigned : List (Nat × Check)) :
    (placesOf (·.result?.isSome) assigned ++ placesOf (·.failure?.isSome) assigned).Perm
      (placesOf Check.resolves assigned) := by
  induction assigned with
  | nil => exact .refl _
  | cons entry rest permRest =>
      have resolves := entry.2.resolves_eq_or
      cases succeeded : entry.2.result?.isSome with
      | true =>
          have notFailed := Check.failure?_of_result? succeeded
          simp only [succeeded, Bool.true_or] at resolves
          simpa [placesOf, succeeded, notFailed, resolves] using permRest
      | false =>
          cases failed : entry.2.failure?.isSome with
          | true =>
              simp only [succeeded, failed, Bool.or_true] at resolves
              have moved := List.perm_middle.trans (permRest.cons entry.1)
              simpa [placesOf, succeeded, failed, resolves] using moved
          | false =>
              simp only [succeeded, failed, Bool.or_false] at resolves
              simpa [placesOf, succeeded, failed, resolves] using permRest

theorem historyOf_assign_eq_nil
    {places : List Nat}
    {place : Nat}
    (absent : place ∉ places)
    (checks : List Check) :
    historyOf (assign places checks) place = [] ∧ place ∉ leftOver places checks := by
  induction checks generalizing places with
  | nil => simpa [historyOf] using absent
  | cons check later absentRest =>
      cases places with
      | nil => simp [assign, leftOver, historyOf]
      | cons head waiting =>
          obtain ⟨different, notWaiting⟩ : place ≠ head ∧ place ∉ waiting := by simpa using absent
          have rest := @absentRest (check.requeue head waiting) (by
            unfold Check.requeue
            split <;> simp [different, notWaiting])
          simpa [Ne.symm different] using rest

/-- No check of a place but the last resolves it, and the place is left over unless
the last one does. -/
theorem historyOf_assign
    {places : List Nat}
    (distinct : places.Nodup)
    {place : Nat}
    (present : place ∈ places)
    (checks : List Check) :
    let history := historyOf (assign places checks) place
    (∀ check ∈ history.dropLast, check.resolves = false)
      ∧ (place ∈ leftOver places checks ↔ ∀ check ∈ history.getLast?, check.resolves = false) := by
  induction checks generalizing places with
  | nil => simpa [historyOf] using present
  | cons check later historyRest =>
      obtain ⟨head, waiting, rfl⟩ := List.exists_cons_of_ne_nil (List.ne_nil_of_mem present)
      obtain ⟨notWaiting, waitingDistinct⟩ := List.nodup_cons.1 distinct
      cases resolves : check.resolves with
      | true =>
          rw [assign_cons, leftOver_cons, Check.requeue_of_resolves resolves]
          by_cases same : head = place
          · subst same
            obtain ⟨noMore, notLeft⟩ := historyOf_assign_eq_nil notWaiting later
            simp [noMore, notLeft, resolves]
          · have rest := historyRest waitingDistinct
              ((List.mem_cons.1 present).resolve_left (Ne.symm same))
            simpa [same] using rest
      | false =>
          rw [assign_cons, leftOver_cons, Check.requeue_of_open resolves]
          have rotatedDistinct : (waiting ++ [head]).Nodup :=
            List.perm_append_comm.nodup_iff.1 (by simpa using distinct)
          have rest := historyRest rotatedDistinct (by simpa [or_comm] using present)
          by_cases same : head = place
          · subst same
            simp only [historyOf_cons, if_true]
            cases history : historyOf (assign (waiting ++ [head]) later) head with
            | nil => simpa [history, resolves] using rest
            | cons next others =>
                simp only [history] at rest
                simpa [resolves] using rest
          · simpa [same] using rest

/-- A check that resolves its entry is the last of its place. -/
theorem getLast?_historyOf
    {places : List Nat}
    (distinct : places.Nodup)
    {place : Nat}
    (present : place ∈ places)
    {checks : List Check}
    {check : Check}
    (checked : check ∈ historyOf (assign places checks) place)
    (resolves : check.resolves = true) :
    (historyOf (assign places checks) place).getLast? = some check := by
  have notEmpty := List.ne_nil_of_mem checked
  rw [← List.dropLast_concat_getLast notEmpty, List.mem_append, List.mem_singleton] at checked
  rcases checked with earlier | last
  · have stays := (historyOf_assign distinct present checks).1 check earlier
    rw [resolves] at stays
    contradiction
  · rw [List.getLast?_eq_some_getLast notEmpty, last]

/-- Whether a place has a check of a kind that resolves is decided by its last one. -/
theorem mem_placesOf_iff_last
    {places : List Nat}
    (distinct : places.Nodup)
    {place : Nat}
    (present : place ∈ places)
    (checks : List Check)
    {kind : Check → Bool}
    (resolving : ∀ check, kind check = true → check.resolves = true) :
    place ∈ placesOf kind (assign places checks) ↔
      ∃ check ∈ (historyOf (assign places checks) place).getLast?, kind check = true := by
  rw [mem_placesOf]
  constructor
  · rintro ⟨check, checked, isKind⟩
    exact ⟨check, getLast?_historyOf distinct present checked (resolving check isKind), isKind⟩
  · rintro ⟨check, last, isKind⟩
    exact ⟨check, List.mem_of_getLast? last, isKind⟩

/-- What the checks of a kind observe is what the last checks of their places do. -/
theorem filterMap_eq_last
    {places : List Nat}
    (distinct : places.Nodup)
    (checks : List Check)
    (observe : Check → Option α)
    (resolving : ∀ check, (observe check).isSome = true → check.resolves = true)
    (present : ∀ entry ∈ assign places checks, entry.1 ∈ places) :
    (((assign places checks).map Prod.snd).filterMap observe).map some =
      (placesOf (fun check => (observe check).isSome) (assign places checks)).map fun place =>
        (historyOf (assign places checks) place).getLast?.bind observe := by
  rw [List.filterMap_map, List.map_filterMap, placesOf, List.map_map,
    ← List.filterMap_eq_map, List.filterMap_filter]
  refine List.filterMap_congr ?_
  intro entry checked
  simp only [Function.comp]
  split
  next observed =>
    have last := getLast?_historyOf distinct (present entry checked)
      (mem_historyOf.2 checked) (resolving entry.2 observed)
    rw [last, Option.bind_some]
    obtain ⟨value, found⟩ := Option.isSome_iff_exists.1 observed
    rw [found, Option.map_some]
  next unobserved =>
    rw [Option.not_isSome_iff_eq_none.1 unobserved, Option.map_none]

end Polling
end ManifestPolicy
