import ManifestPolicy.Proofs.Allowlist.Keys
import ManifestPolicy.Review
import Mathlib.Algebra.GroupWithZero.Nat

/-!
# What a review leaves

Dropping repeats keeps a violation of every identity that there was, and acceptance
looks at the key alone, which repeats share. A review therefore reports nothing
exactly when every violation that went into it was accepted.
-/

namespace ManifestPolicy

namespace Violation

theorem finding?_eq_some_iff
    {violation : Violation}
    {finding : Finding} :
    violation.finding? = some finding
      ↔ violation.key? = some finding.key ∧ violation.message = finding.message := by
  obtain ⟨key, message⟩ := finding
  cases named : violation.key? <;> simp [finding?, named]

theorem key?_eq_none_iff
    {violation : Violation} :
    violation.key? = none ↔ violation.resource = none := by
  simp [key?]

theorem finding?_eq_none_iff
    {violation : Violation} :
    violation.finding? = none ↔ violation.resource = none := by
  rw [finding?, Option.map_eq_none_iff, key?_eq_none_iff]

/-- The violations that are kept because they have no resource have no identity. -/
theorem finding?_of_mem_keyless
    {violations : List Violation}
    {violation : Violation}
    (isKeyless : violation ∈ violations.filter (·.resource.isNone)) :
    violation.finding? = none := by
  rw [finding?_eq_none_iff, ← Option.isNone_iff_eq_none]
  exact (List.mem_filter.1 isKeyless).2

theorem resource_isNone (violation : Violation) :
    violation.resource.isNone = violation.key?.isNone := by
  rw [key?, Option.isNone_map]

/-- Filing goes on from what has been filed: an identity keeps its first violation. -/
theorem get?_file
    (violations : List Violation)
    (filed : SortedMap Finding Violation)
    (finding : Finding) :
    (violations.foldl
        (fun filed violation =>
          match violation.finding? with
          | some finding => filed.insertNew finding violation
          | none => filed)
        filed).get? finding =
      (filed.get? finding).or
        (violations.find? fun violation => violation.finding? == some finding) := by
  induction violations generalizing filed with
  | nil => simp
  | cons violation later fileLater =>
      rw [List.foldl_cons, fileLater]
      cases identity : violation.finding? with
      | none => simp [identity]
      | some other =>
          simp only []
          rw [SortedMap.get?_insertNew, Option.or_assoc]
          by_cases same : finding = other
          · simp [identity, same]
          · have different : (some other == some finding) = false := by
              simpa using fun sameFinding : other = finding => same sameFinding.symm
            rw [if_neg same, Option.none_or, List.find?_cons, identity, different]

/-- Under an identity stands the first of the violations that have it. -/
theorem get?_byFinding
    (violations : List Violation)
    (finding : Finding) :
    (byFinding violations).get? finding =
      violations.find? fun violation => violation.finding? == some finding := by
  have filed := get?_file violations .empty finding
  rw [SortedMap.get?_empty, Option.none_or] at filed
  exact filed

/-- What is left without repeats are the violations without a resource and the first of
each identity. -/
theorem mem_dedup_iff
    {violations : List Violation}
    {violation : Violation} :
    violation ∈ dedup violations ↔
      (violation ∈ violations ∧ violation.resource = none)
        ∨ ∃ finding,
          (violations.find? fun other => other.finding? == some finding) = some violation := by
  rw [dedup, List.mem_append, List.mem_filter, SortedMap.mem_values_iff]
  simp only [get?_byFinding, Option.isNone_iff_eq_none]

theorem mem_of_mem_dedup
    {violations : List Violation}
    {violation : Violation}
    (kept : violation ∈ dedup violations) :
    violation ∈ violations := by
  rcases mem_dedup_iff.1 kept with ⟨present, _⟩ | ⟨finding, first⟩
  · exact present
  · exact List.mem_of_find?_eq_some first

/-- Every violation has a representative with its key and message among those that are
left without repeats. -/
theorem exists_mem_dedup
    {violations : List Violation}
    {violation : Violation}
    (present : violation ∈ violations) :
    ∃ kept ∈ dedup violations,
      kept.key? = violation.key? ∧ kept.message = violation.message := by
  cases identity : violation.finding? with
  | none =>
      have keyless := finding?_eq_none_iff.1 identity
      exact ⟨violation, mem_dedup_iff.2 (.inl ⟨present, keyless⟩), rfl, rfl⟩
  | some finding =>
      have found : (violations.find? fun other => other.finding? == some finding).isSome := by
        rw [List.find?_isSome]
        exact ⟨violation, present, by simp [identity]⟩
      obtain ⟨kept, first⟩ := Option.isSome_iff_exists.1 found
      have sameFinding : kept.finding? = some finding := by
        simpa using List.find?_some first
      obtain ⟨keptKey, keptMessage⟩ := finding?_eq_some_iff.1 sameFinding
      obtain ⟨key, message⟩ := finding?_eq_some_iff.1 identity
      exact ⟨kept, mem_dedup_iff.2 (.inr ⟨finding, first⟩), keptKey.trans key.symm,
        keptMessage.trans message.symm⟩

end Violation

namespace Reviewer

/-- What is reported of a resource has been recorded. -/
theorem reported_sublist
    (reviewer : Reviewer)
    (result : ResourceResult) :
    (reviewer.review result).reported.Sublist (reviewer.review result).recorded := by
  rw [review, Allowlist.filter_eq]
  exact List.filter_sublist

/-- Nothing is reported about a resource exactly when all its violations are
accepted. -/
theorem review_reported_eq_nil_iff
    {reviewer : Reviewer}
    {result : ResourceResult} :
    (reviewer.review result).reported = [] ↔
      ∀ violation ∈ result.violations,
        reviewer.allowlist.contains (reviewer.purify violation) = true := by
  simp only [review, Allowlist.filter_eq, List.filter_eq_nil_iff, Bool.not_eq_true',
    Bool.not_eq_false]
  constructor
  · intro accepted violation present
    obtain ⟨kept, left, sameKey, _⟩ :=
      Violation.exists_mem_dedup (List.mem_map_of_mem (f := reviewer.purify) present)
    rw [← Allowlist.contains_of_key? sameKey]
    exact accepted kept left
  · intro accepted violation left
    obtain ⟨original, present, rfl⟩ := List.mem_map.1 (Violation.mem_of_mem_dedup left)
    exact accepted original present

end Reviewer

namespace Review

theorem recordedCount_eq_sum (reviews : List Review) :
    recordedCount reviews = (reviews.map fun review => review.recorded.length).sum := by
  rw [List.sum_eq_foldr, List.foldr_map]
  rfl

theorem reportedCount_eq_sum (reviews : List Review) :
    reportedCount reviews = (reviews.map fun review => review.reported.length).sum := by
  rw [List.sum_eq_foldr, List.foldr_map]
  rfl

theorem reportedCount_eq_zero_iff
    {reviews : List Review} :
    reportedCount reviews = 0 ↔ ∀ review ∈ reviews, review.reported = [] := by
  induction reviews with
  | nil => simp [reportedCount]
  | cons review others unreported =>
      rw [List.forall_mem_cons, ← unreported, ← List.length_eq_zero_iff]
      exact Nat.add_eq_zero_iff

end Review

namespace Reviewer

/-- A review of all results reports nothing exactly when all violations are accepted. -/
theorem reportedCount_reviewAll_eq_zero_iff
    {reviewer : Reviewer}
    {results : List ResourceResult} :
    Review.reportedCount (reviewer.reviewAll results) = 0 ↔
      ∀ result ∈ results, ∀ violation ∈ result.violations,
        reviewer.allowlist.contains (reviewer.purify violation) = true := by
  simp only [Review.reportedCount_eq_zero_iff, reviewAll, List.forall_mem_map,
    review_reported_eq_nil_iff]

end Reviewer
end ManifestPolicy
