import ManifestPolicy.Proofs.Review
import ManifestPolicy.Proofs.Text.Utf8
import Mathlib.Algebra.BigOperators.Group.List.Basic

/-!
# Records of new violations

What is reported of a resource goes into one record for each of its policies, in the order of
the policies, and every record lists the violations of its policy in the order in which they
are reported. The records therefore list what is reported, once, and the summary counts what
they list and what was left out of them.
-/

namespace ManifestPolicy

/-- The violations in a record of new violations. -/
def Notice.recorded? : Notice → Option (List Violation)
  | .newViolations _ _ _ violations => some violations
  | _ => none

namespace Review

/-! ## Groups -/

/-- Violations by policy: the policies that occur, strictly in the order of their bytes, each
with its violations in the order in which they are given. -/
structure Groups
    (violations : List Violation)
    (groups : List (String × List Violation)) : Prop where
  increasing : groups.Pairwise fun earlier later =>
    compare (Utf8.encode earlier.1) (Utf8.encode later.1) = .lt
  occurring : ∀ policy,
    policy ∈ groups.map Prod.fst ↔ ∃ violation ∈ violations, violation.policyName = policy
  listed : ∀ group ∈ groups,
    group.2 = violations.filter fun violation => violation.policyName = group.1

theorem byPolicy_eq (review : Review) :
    review.byPolicy =
      (review.reported.map fun violation => (violation.policyName, violation)).foldl
        (fun groups entry => groups.push entry.1 entry.2) .empty := by
  rw [List.foldl_map, byPolicy]

/-- Under a policy stand the reported violations of the policy, if there are any. -/
theorem get?_byPolicy_eq_some_iff
    {review : Review}
    {policy : String}
    {violations : List Violation} :
    review.byPolicy.get? policy = some violations ↔
      violations ≠ []
        ∧ violations = review.reported.filter fun violation => violation.policyName = policy := by
  rw [byPolicy_eq, SortedMap.get?_foldl_push, SortedMap.get?_empty, Option.getD_none,
    List.nil_append, List.filter_map, List.map_map, List.isEmpty_map, Function.comp_def,
    Function.comp_def, List.map_id']
  split
  next noneOf =>
    rw [List.isEmpty_iff.1 noneOf]
    simp
  next someOf =>
    rw [Option.some.injEq]
    constructor
    · rintro rfl
      exact ⟨fun noneOf => someOf (List.isEmpty_iff.2 noneOf), rfl⟩
    · rintro ⟨_, rfl⟩
      rfl

theorem mem_keys_byPolicy_iff
    {review : Review}
    {policy : String} :
    policy ∈ review.byPolicy.keys ↔
      ∃ violation ∈ review.reported, violation.policyName = policy := by
  rw [SortedMap.mem_keys_iff, Option.isSome_iff_exists]
  simp only [get?_byPolicy_eq_some_iff, exists_eq_right, ne_eq, List.filter_eq_nil_iff,
    decide_eq_true_eq, not_forall, not_not, exists_prop]

/-- What is reported is grouped by its policies. -/
theorem groups_byPolicy (review : Review) :
    Groups review.reported review.byPolicy.entries where
  increasing := review.byPolicy.sorted.imp Utf8.compare_encode_of_lt
  occurring _ := mem_keys_byPolicy_iff
  listed _ isGroup := (get?_byPolicy_eq_some_iff.1 (SortedMap.mem_entries_iff.1 isGroup)).2

/-- The groups have all that is reported, and nothing else. -/
theorem flatten_values_byPolicy (review : Review) :
    review.byPolicy.values.flatten.Perm review.reported := by
  have pushed := SortedMap.flatten_values_foldl_push
    (review.reported.map fun violation => (violation.policyName, violation)) .empty
  rw [← byPolicy_eq, List.map_map] at pushed
  exact pushed.trans (by rw [Function.comp_def, List.map_id']; exact .refl _)

/-! ## Lists -/

/-- What is listed in the records that are told about reviews. -/
def recordedLists (reviews : List Review) : List (List Violation) :=
  (notices reviews).filterMap Notice.recorded?

/-- The summary is not a record, so whatever is picked from records is found review by
review. -/
theorem filterMap_notices
    {α : Type}
    {pick : Notice → Option α}
    (skips : ∀ resources recorded reported suppressed,
      pick (.reviewed resources recorded reported suppressed) = none)
    (reviews : List Review) :
    (notices reviews).filterMap pick =
      reviews.flatMap fun review => review.records.filterMap pick := by
  rw [notices, List.filterMap_append, List.filterMap_flatMap,
    List.filterMap_cons_none (skips _ _ _ _), List.filterMap_nil, List.append_nil]

theorem recordedLists_eq (reviews : List Review) :
    recordedLists reviews = reviews.flatMap fun review => review.byPolicy.values := by
  have each (review : Review) :
      review.records.filterMap Notice.recorded? = review.byPolicy.values := by
    rw [records, List.filterMap_map]
    exact congrFun (List.filterMap_eq_map (f := Prod.snd)) _
  rw [recordedLists, filterMap_notices fun _ _ _ _ => rfl]
  simp only [each]

/-- The records list what is reported, and nothing else. -/
theorem flatten_recordedLists (reviews : List Review) :
    (recordedLists reviews).flatten.Perm (reviews.flatMap reported) := by
  rw [recordedLists_eq, ← List.flatMap_id, List.flatMap_assoc]
  apply List.Perm.flatMap_left
  intro review _
  rw [List.flatMap_id]
  exact flatten_values_byPolicy review

theorem mem_recordedLists_iff
    {reviews : List Review}
    {violation : Violation} :
    (∃ violations ∈ recordedLists reviews, violation ∈ violations) ↔
      ∃ review ∈ reviews, violation ∈ review.reported := by
  rw [← List.mem_flatten, (flatten_recordedLists reviews).mem_iff, List.mem_flatMap]

/-! ## Counts -/

/-- The records list as many violations as are reported. -/
theorem sum_length_recordedLists (reviews : List Review) :
    ((recordedLists reviews).map List.length).sum = reportedCount reviews := by
  rw [← List.length_flatten, (flatten_recordedLists reviews).length_eq, List.length_flatMap,
    reportedCount_eq_sum]

theorem verdict_eq_ok_iff
    {reviews : List Review} :
    verdict reviews = .ok () ↔ ∀ review ∈ reviews, review.reported = [] := by
  rw [verdict, ← reportedCount_eq_zero_iff]
  split
  next unreported => exact iff_of_true rfl unreported
  next reported => exact iff_of_false (by simp) reported

end Review

namespace Reviewer

/-- The violations of a resource that are recorded are those that are reported and those that
are accepted. -/
theorem length_recorded
    (reviewer : Reviewer)
    (result : ResourceResult) :
    (reviewer.review result).recorded.length =
      (reviewer.review result).reported.length
        + (reviewer.review result).recorded.countP reviewer.allowlist.contains := by
  have left : (reviewer.review result).reported =
      (reviewer.review result).recorded.filter fun violation =>
        !reviewer.allowlist.contains violation :=
    Allowlist.filter_eq _ _
  rw [left, ← List.countP_eq_length_filter,
    List.length_eq_countP_add_countP reviewer.allowlist.contains, Nat.add_comm]
  simp

/-- What is recorded is what is reported and what is accepted, also in all reviews. -/
theorem recordedCount_reviewAll
    (reviewer : Reviewer)
    (results : List ResourceResult) :
    Review.recordedCount (reviewer.reviewAll results) =
      Review.reportedCount (reviewer.reviewAll results)
        + ((reviewer.reviewAll results).map fun review =>
          review.recorded.countP reviewer.allowlist.contains).sum := by
  rw [Review.recordedCount_eq_sum, Review.reportedCount_eq_sum, ← List.sum_map_add]
  congr 1
  apply List.map_congr_left
  intro review reviewed
  obtain ⟨result, _, rfl⟩ := List.mem_map.1 reviewed
  exact reviewer.length_recorded result

/-- Reporting loses and repeats nothing. The records come result by result, one for each policy
that occurs in what is reported of the result, in the order of the policies, with the reported
violations of the policy in their order. The summary tells how many violations are recorded,
reported and accepted; what is reported has been recorded, so the last number is the difference
of the others. The verdict fails when something is reported, and tells the number of violations
in all records. -/
theorem reported_in_records
    (reviewer : Reviewer)
    (results : List ResourceResult) :
    let reviews := reviewer.reviewAll results
    let recorded := (reviews.map fun review => review.recorded.length).sum
    let reported := (reviews.map fun review => review.reported.length).sum
    let suppressed := (reviews.map fun review =>
      review.recorded.countP reviewer.allowlist.contains).sum
    (∀ result ∈ results, ∃ groups,
        Review.Groups (reviewer.review result).reported groups
          ∧ (reviewer.review result).records = groups.map fun group =>
            .newViolations result.resource group.1
              (Review.recordName result.resource group.1) group.2)
      ∧ Review.notices reviews =
        (results.flatMap fun result => (reviewer.review result).records)
          ++ [.reviewed results.length recorded reported suppressed]
      ∧ (∀ review ∈ reviews, review.reported.Sublist review.recorded)
      ∧ recorded = reported + suppressed
      ∧ Review.verdict reviews =
        (if reported = 0 then .ok () else .error { outermost := .newViolations reported })
      ∧ reported = ((Review.recordedLists reviews).map List.length).sum := by
  intro reviews recorded reported suppressed
  have isRecorded : Review.recordedCount reviews = recorded := Review.recordedCount_eq_sum reviews
  have isReported : Review.reportedCount reviews = reported := Review.reportedCount_eq_sum reviews
  have split : recorded = reported + suppressed := by
    rw [← isRecorded, ← isReported]
    exact reviewer.recordedCount_reviewAll results
  refine ⟨?_, ?_, ?_, split, ?_, ?_⟩
  · intro result _
    exact ⟨_, (reviewer.review result).groups_byPolicy, rfl⟩
  · have difference : recorded - reported = suppressed := by omega
    rw [Review.notices, isRecorded, isReported, difference]
    simp only [reviews, reviewAll, List.flatMap_map, List.length_map]
  · intro review reviewed
    obtain ⟨result, _, rfl⟩ := List.mem_map.1 reviewed
    exact reviewer.reported_sublist result
  · rw [Review.verdict, isReported]
  · rw [Review.sum_length_recordedLists, isReported]

end Reviewer
end ManifestPolicy
