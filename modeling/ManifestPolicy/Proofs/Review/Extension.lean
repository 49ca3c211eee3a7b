import ManifestPolicy.Proofs.Review.Batches

/-!
# Extending an allowlist

Acceptance looks at the key alone, which repeats share. Accepted violations can therefore be
left out before repeats are dropped or afterwards, and the first violation of each identity
stays the same. A review that accepts more records the same and reports some of what it
reported before, in the same order, so the number of new violations never grows.
-/

namespace ManifestPolicy

namespace Violation

section Test

variable
  {keep : Violation → Bool}
  {keepFinding : Finding → Bool}
  (violations : List Violation)
  (byIdentity : ∀ violation finding, violation.finding? = some finding →
    keep violation = keepFinding finding)

include byIdentity

/-- Leaving out violations by a test on their identities leaves out the entries of the
identities that do not pass it. -/
theorem byFinding_filter :
    byFinding (violations.filter keep) = (byFinding violations).restrict keepFinding := by
  apply SortedMap.ext_get?
  intro finding
  have sameTest :
      (fun violation => decide (keep violation = true ∧
        (violation.finding? == some finding) = true)) =
      fun violation => keepFinding finding && violation.finding? == some finding := by
    funext violation
    by_cases identity : violation.finding? = some finding
    · simp [byIdentity violation finding identity, identity]
    · simp [identity]
  apply Option.ext
  intro violation
  rw [SortedMap.get?_restrict_eq_some_iff, get?_byFinding, get?_byFinding, List.find?_filter,
    sameTest]
  cases keepFinding finding with
  | true => simp
  | false =>
      have nothing : violations.find? (fun _ => false) = none := List.find?_eq_none.2 (by simp)
      simp [nothing]

theorem values_restrict_byFinding :
    ((byFinding violations).restrict keepFinding).values =
      (byFinding violations).values.filter keep := by
  rw [SortedMap.values, SortedMap.values, SortedMap.restrict, List.filter_map]
  congr 1
  apply List.filter_congr
  intro entry isEntry
  exact (byIdentity _ _ (finding?_of_mem_entries isEntry)).symm

/-- It makes no difference whether violations are left out, by a test on their identities,
before or after repeats are dropped. Those without a resource may be tested in any way. -/
theorem dedup_filter :
    dedup (violations.filter keep) = (dedup violations).filter keep := by
  rw [dedup, dedup, byFinding_filter violations byIdentity,
    values_restrict_byFinding violations byIdentity, List.filter_append, List.filter_filter,
    List.filter_filter]
  simp only [Bool.and_comm]

end Test

end Violation

namespace Allowlist

/-- Accepted violations may be left out before or after repeats are dropped. -/
theorem filter_dedup
    (allowlist : Allowlist)
    (violations : List Violation) :
    allowlist.filter (Violation.dedup violations) =
      Violation.dedup (allowlist.filter violations) := by
  have byKey (violation : Violation) (finding : Finding)
      (identity : violation.finding? = some finding) :
      (!allowlist.contains violation) = !allowlist.entries.contains finding.key := by
    rw [contains, (Violation.finding?_eq_some_iff.1 identity).1, Option.any_some]
  rw [filter_eq, filter_eq, Violation.dedup_filter violations byKey]

/-- An allowlist that accepts no less leaves no more, and in the same order. -/
theorem filter_sublist_of_accepts
    {allowlist extended : Allowlist}
    (accepts : ∀ violation, allowlist.contains violation = true →
      extended.contains violation = true)
    (violations : List Violation) :
    (extended.filter violations).Sublist (allowlist.filter violations) := by
  rw [filter_eq, filter_eq]
  apply List.monotone_filter_right
  intro violation left
  rw [Bool.not_eq_true'] at left ⊢
  rw [← Bool.not_eq_true] at left ⊢
  exact fun accepted => left (accepts violation accepted)

end Allowlist

namespace Review

/-- A review records the same as another one and reports some of what the other one reports,
in the same order. -/
structure Narrows (narrower wider : Review) : Prop where
  sameResource : narrower.resource = wider.resource
  sameRecorded : narrower.recorded = wider.recorded
  reported : narrower.reported.Sublist wider.reported

/-- The number of new violations that a verdict tells: none when reviews pass. -/
def toldCount : Except Failure Unit → Nat
  | .ok _ => 0
  | .error failure => failure.newViolations?.getD 0

theorem toldCount_verdict (reviews : List Review) :
    toldCount (verdict reviews) = reportedCount reviews := by
  rw [verdict]
  split
  next unreported => exact unreported.symm
  next => rfl

theorem reportedCount_le_of_narrows
    {narrower wider : List Review}
    (narrows : List.Forall₂ Narrows narrower wider) :
    reportedCount narrower ≤ reportedCount wider := by
  induction narrows with
  | nil => rfl
  | cons head _ countRest => exact Nat.add_le_add head.reported.length_le countRest

end Review

namespace Reviewer

/-- Reviews with an allowlist that accepts no less are narrower. -/
theorem narrows_of_accepts
    {allowlist extended : Allowlist}
    (accepts : ∀ violation, allowlist.contains violation = true →
      extended.contains violation = true)
    (purify : Violation → Violation)
    (results : List ResourceResult) :
    List.Forall₂ Review.Narrows
      (({ allowlist := extended, purify } : Reviewer).reviewAll results)
      (({ allowlist, purify } : Reviewer).reviewAll results) := by
  rw [reviewAll, reviewAll, List.forall₂_map_left_iff, List.forall₂_map_right_iff,
    List.forall₂_same]
  intro result _
  exact {
    sameResource := rfl
    sameRecorded := rfl
    reported := Allowlist.filter_sublist_of_accepts accepts _ }

end Reviewer

namespace Allowlist

/-- Filtering commutes with dropping repeats, and filtering with two lists of accepted
violations is filtering with one after the other. When an allowlist is extended, in whatever
places of its list, the reviews record the same and report some of what they reported before,
in the same order, and the verdict tells no more new violations. -/
theorem filter_commutes_and_composes
    (accepted others violations : List Violation)
    (purify : Violation → Violation)
    (results : List ResourceResult) :
    (ofList accepted).filter (Violation.dedup violations) =
        Violation.dedup ((ofList accepted).filter violations)
      ∧ (ofList (accepted ++ others)).filter violations =
        (ofList accepted).filter ((ofList others).filter violations)
      ∧ ∀ extended, accepted ⊆ extended →
        let before := ({ allowlist := ofList accepted, purify } : Reviewer).reviewAll results
        let after := ({ allowlist := ofList extended, purify } : Reviewer).reviewAll results
        List.Forall₂ Review.Narrows after before
          ∧ Review.toldCount (Review.verdict after) ≤
            Review.toldCount (Review.verdict before) := by
  refine ⟨filter_dedup _ _, filter_ofList_append _ _ _, ?_⟩
  intro extended subset before after
  have narrows : List.Forall₂ Review.Narrows after before :=
    Reviewer.narrows_of_accepts (fun _ => contains_ofList_of_subset subset) purify results
  refine ⟨narrows, ?_⟩
  rw [Review.toldCount_verdict, Review.toldCount_verdict]
  exact Review.reportedCount_le_of_narrows narrows

end Allowlist
end ManifestPolicy
