import ManifestPolicy.Proofs.ManifestDirectory.Partition
import ManifestPolicy.Proofs.Polling.Accounts
import ManifestPolicy.Proofs.Review.Count
import ManifestPolicy.Proofs.Validation.Verdict

/-!
# Findings are counted once

The requests of a directory have different names, since bundles have. Leaving out manifests
that are too large, submitting and polling keep them apart, and every violation that is found
bears the name of its request. Repeats of a violation are therefore found within one review,
where they are dropped, and never in two.
-/

namespace ManifestPolicy

namespace Violation

/-- Two violations name a resource and agree on the key and the message. -/
def Repeats (left right : Violation) : Prop :=
  left.key? ≠ none ∧ left.key? = right.key? ∧ left.message = right.message

theorem Repeats.finding?
    {left right : Violation}
    (repeats : left.Repeats right) :
    ∃ finding, left.finding? = some finding ∧ right.finding? = some finding := by
  obtain ⟨named, sameKey, sameMessage⟩ := repeats
  obtain ⟨key, isKey⟩ := Option.ne_none_iff_exists'.1 named
  refine ⟨⟨key, left.message⟩, ?_, ?_⟩
  · exact finding?_eq_some_iff.2 ⟨isKey, rfl⟩
  · exact finding?_eq_some_iff.2 ⟨sameKey.symm.trans isKey, sameMessage.symm⟩

/-- Nothing is repeated among the violations that are left without repeats. -/
theorem pairwise_dedup (violations : List Violation) :
    (dedup violations).Pairwise fun left right => ¬ left.Repeats right := by
  have keyless {violation : Violation}
      (present : violation ∈ violations.filter (·.resource.isNone))
      (other : Violation) : ¬ violation.Repeats other := by
    intro repeats
    obtain ⟨_, identity, _⟩ := repeats.finding?
    rw [finding?_of_mem_keyless present] at identity
    contradiction
  rw [dedup, List.pairwise_append]
  refine ⟨?_, ?_, fun left present right _ => keyless present right⟩
  · exact List.pairwise_of_forall_mem_list fun left present right _ => keyless present right
  · rw [SortedMap.values, List.pairwise_map]
    refine (byFinding violations).sorted.imp_of_mem ?_
    intro left right leftPresent rightPresent before repeats
    obtain ⟨finding, isLeft, isRight⟩ := repeats.finding?
    rw [finding?_of_mem_entries leftPresent] at isLeft
    rw [finding?_of_mem_entries rightPresent] at isRight
    rw [Option.some.inj isLeft, Option.some.inj isRight] at before
    simp at before

end Violation

/-! ## Names of requests -/

namespace Request

/-- Manifests become requests under their own names; some are left out. -/
theorem resources_sublist (manifests : List (String × ByteArray)) :
    ((ofManifests manifests).1.map resource).Sublist (manifests.map Prod.fst) := by
  rw [ofManifests_fst, List.map_map]
  exact List.filter_sublist.map Prod.fst

end Request

namespace ManifestDirectory

/-- The requests of a directory have different names. -/
theorem resources_nodup_of_prepared
    {directory : ManifestDirectory}
    {tree : FileTree}
    {requests : List Request}
    (prepared : (directory.prepare tree).outcome = .ok requests) :
    (requests.map Request.resource).Nodup := by
  obtain ⟨documents, _, rfl⟩ := documents_of_prepared prepared
  have names : (manifests (bundle documents)).map Prod.fst = (bundle documents).keys := by
    rw [manifests, List.map_map]
    rfl
  have distinct := (bundle documents).keys_nodup
  rw [← names] at distinct
  exact distinct.sublist (Request.resources_sublist _)

end ManifestDirectory

namespace Service

variable {σ : Type}

theorem resources_nodup_of_deliver
    {requests : List Request}
    (distinct : (requests.map Request.resource).Nodup)
    (service : Service σ)
    (state : σ) :
    ((service.deliver requests state).1.map fun delivery => delivery.request.resource).Nodup := by
  have sent := ((service.deliver_requests requests state).1.map Request.resource).sublist
  rw [List.map_map] at sent
  exact distinct.sublist sent

end Service

/-! ## Names of results -/

namespace Polling

/-- Different pending entries give results for different resources. -/
theorem Accounts.results_nodup
    {polling : Polling}
    {pending : List Pending}
    (accounts : polling.Accounts pending)
    (distinct : (pending.map Pending.resource).Nodup) :
    (polling.results.map ResourceResult.resource).Nodup := by
  have split := accounts.resources_split.nodup_iff.2 distinct
  exact split.of_append_left.of_append_left

/-- The violations of a result bear the name of its resource. -/
theorem key_name_of_mem_results
    {polling : Polling}
    {result : ResourceResult}
    (isResult : result ∈ polling.results)
    {violation : Violation}
    (present : violation ∈ result.violations)
    {key : ResourceKey}
    (isKey : violation.key? = some key) :
    key.name = result.resource := by
  obtain ⟨check, _, found⟩ := List.mem_filterMap.1 isResult
  unfold Check.result? at found
  split at found
  · obtain rfl := Option.some.inj found
    obtain ⟨original, _, rfl⟩ := List.mem_map.1 present
    cases named : original.resource with
    | none => simp [Violation.key?, Violation.stampResource, named] at isKey
    | some reference =>
        simp only [Violation.key?, Violation.stampResource, named, Option.map_some,
          Option.some.injEq] at isKey
        rw [← isKey]
  · contradiction

/-- Nothing is repeated in what is picked from the reviews of results for different
resources. -/
theorem pairwise_reviewAll
    {polling : Polling}
    (distinct : (polling.results.map ResourceResult.resource).Nodup)
    {allowlist : Allowlist}
    {pick : Review → List Violation}
    (picks : ∀ result, (pick (({ allowlist } : Reviewer).review result)).Sublist
      (({ allowlist } : Reviewer).review result).recorded) :
    ((({ allowlist } : Reviewer).reviewAll polling.results).flatMap pick).Pairwise
      fun left right => ¬ left.Repeats right := by
  rw [Reviewer.reviewAll, List.flatMap_map, List.pairwise_flatMap]
  have found {result : ResourceResult} {violation : Violation}
      (picked : violation ∈ pick (({ allowlist } : Reviewer).review result)) :
      violation ∈ result.violations := by
    have recorded := Violation.mem_of_mem_dedup ((picks result).subset picked)
    rwa [List.map_id] at recorded
  refine ⟨fun result _ => (Violation.pairwise_dedup _).sublist (picks result), ?_⟩
  -- Keys in different reviews bear different names.
  refine (List.pairwise_map.1 distinct).imp_of_mem ?_
  intro result other isResult isOther different left isLeft right isRight repeats
  obtain ⟨named, sameKey, _⟩ := repeats
  obtain ⟨key, isKey⟩ := Option.ne_none_iff_exists'.1 named
  apply different
  rw [← key_name_of_mem_results isResult (found isLeft) isKey,
    key_name_of_mem_results isOther (found isRight) (sameKey.symm.trans isKey)]

end Polling

namespace Validator

variable {σ : Type}

/-- Reviews are handed out for the results of polling the operations that were submitted. -/
theorem reviews_of_validate
    {validator : Validator}
    {service : Service σ}
    {shutdown : Option Nat}
    {preparation : Preparation}
    {state : σ}
    {reviews : List Review}
    (handedOut :
      (validator.validate service shutdown preparation state).1.reviews = some reviews) :
    ∃ (pending : List Pending) (polling : Polling),
      Delivery.pending (validator.validate service shutdown preparation state).1.deliveries =
          .ok pending
        ∧ polling.Accounts pending ∧ reviews = validator.reviewer.reviewAll polling.results := by
  cases prepared : preparation.outcome with
  | error failure =>
      rw [validate_of_unprepared prepared] at handedOut
      contradiction
  | ok requests =>
      rw [validate_deliveries prepared]
      cases submitted : Delivery.pending (service.deliver requests state).1 with
      | error failure =>
          have refused := validate_of_refused prepared validator service shutdown state submitted
          rw [refused.2.2] at handedOut
          contradiction
      | ok pending =>
          obtain ⟨_, _, calledOff, judged⟩ :=
            validate_of_submitted prepared validator service shutdown state submitted
          have reviewed := (judged fun cancelled => by
            rw [(calledOff cancelled).not_reviewed] at handedOut
            contradiction).reviewed
          rw [handedOut] at reviewed
          exact ⟨pending, _, rfl, Poller.accounts_of_poll .., Option.some.inj reviewed⟩

/-- No finding is counted twice in a run over a directory, whatever the service does. The
requests that were sent, and so the pending operations, have different names, and of the
violations in all reviews of the run no two name a resource and agree on key and message. -/
theorem findings_counted_once
    (poller : Poller)
    (policy : FailurePolicy)
    (allowlist : Allowlist)
    (directory : ManifestDirectory)
    (tree : FileTree)
    (service : Service σ)
    (shutdown : Option Nat)
    (state : σ) :
    let validator : Validator := { poller, reviewer := { allowlist }, policy }
    let run := (validator.validate service shutdown (directory.prepare tree) state).1
    (run.deliveries.map fun delivery => delivery.request.resource).Nodup
      ∧ (∀ pending, Delivery.pending run.deliveries = .ok pending →
        (pending.map Pending.resource).Nodup)
      ∧ ∀ reviews, run.reviews = some reviews →
        ((reviews.flatMap Review.recorded).Pairwise fun left right => ¬ left.Repeats right)
          ∧ (reviews.flatMap Review.reported).Pairwise fun left right => ¬ left.Repeats right := by
  intro validator run
  have distinct : (run.deliveries.map fun delivery => delivery.request.resource).Nodup := by
    cases prepared : (directory.prepare tree).outcome with
    | error failure =>
        have record := validate_of_unprepared prepared validator service shutdown state
        have sameRun : run = _ := congrArg Prod.fst record
        rw [sameRun]
        exact List.nodup_nil
    | ok requests =>
        have sent : run.deliveries = (service.deliver requests state).1 :=
          validate_deliveries prepared validator service shutdown state
        rw [sent]
        exact service.resources_nodup_of_deliver
          (ManifestDirectory.resources_nodup_of_prepared prepared) state
  have distinctPending (pending : List Pending)
      (submitted : Delivery.pending run.deliveries = .ok pending) :
      (pending.map Pending.resource).Nodup := by
    rw [Delivery.resource_of_pending submitted]
    exact distinct
  refine ⟨distinct, distinctPending, ?_⟩
  intro reviews handedOut
  obtain ⟨pending, polling, submitted, accounts, rfl⟩ := reviews_of_validate handedOut
  have distinctResults := accounts.results_nodup (distinctPending pending submitted)
  constructor
  · exact Polling.pairwise_reviewAll distinctResults fun _ => .refl _
  · exact Polling.pairwise_reviewAll distinctResults (Reviewer.reported_sublist _)

end Validator
end ManifestPolicy
