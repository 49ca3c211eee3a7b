import ManifestPolicy.Allowlist
import ManifestPolicy.Failure
import ManifestPolicy.Notice

/-!
# Reviewing results

The violations of each resource are normalized, stripped of repeats and held
against the allowlist. What is left is reported in one record for each resource
and policy, and makes the review fail with the number of violations reported.
-/

namespace ManifestPolicy

/-- The violations found for one resource. -/
structure ResourceResult where
  resource : String
  violations : List Violation
  deriving DecidableEq, Inhabited

/-- The identity under which repeats of a violation are found. -/
structure Finding where
  key : ResourceKey
  message : String
  deriving DecidableEq, Repr

namespace Finding

/-- The parts of an identity, most significant first. -/
def parts (finding : Finding) : List String := finding.key.parts ++ [finding.message]

theorem parts_injective
    {left right : Finding}
    (sameParts : left.parts = right.parts) :
    left = right := by
  obtain ⟨⟨_, _, _, _, _⟩, _⟩ := left
  obtain ⟨⟨_, _, _, _, _⟩, _⟩ := right
  simp_all [parts, ResourceKey.parts]

/-- Identities are ordered by their parts. -/
instance : Ord Finding := ⟨compareOn parts⟩

instance : Std.TransOrd Finding :=
  inferInstanceAs (Std.TransCmp (compareOn parts))

instance : Std.LawfulEqOrd Finding where
  compare_self := Std.ReflCmp.compare_self
  eq_of_compare {left right} same :=
    have sameParts : compare left.parts right.parts = .eq := same
    parts_injective (Std.LawfulEqCmp.eq_of_compare sameParts)

end Finding

namespace Violation

/-- The identity of a violation that names a resource. -/
def finding? (violation : Violation) : Option Finding :=
  violation.key?.map fun key => ⟨key, violation.message⟩

/-- File violations by their identity; the first of each counts. -/
def byFinding (violations : List Violation) : SortedMap Finding Violation :=
  violations.foldl
    (fun filed violation =>
      match violation.finding? with
      | some finding => filed.insertNew finding violation
      | none => filed)
    .empty

/-- Drop repeats. Violations without a resource are all kept and come first;
the others follow in the order of their identities. -/
def dedup (violations : List Violation) : List Violation :=
  (violations.filter fun violation => violation.resource.isNone)
    ++ (byFinding violations).values

/-- A violation without its details. -/
def withoutDetails (violation : Violation) : Violation :=
  { violation with details := .empty }

/-- A violation with an empty message. -/
def withoutMessage (violation : Violation) : Violation := { violation with message := "" }

/-- A violation that names no resource. -/
def withoutResource (violation : Violation) : Violation :=
  { violation with resource := none }

end Violation

/-- What a review makes of one resource: all distinct violations, and those that
are not accepted. -/
structure Review where
  resource : String
  recorded : List Violation
  reported : List Violation
  deriving DecidableEq

/-- How results are reviewed: what is accepted, and how violations are
normalized beforehand. -/
structure Reviewer where
  allowlist : Allowlist
  purify : Violation → Violation := id

namespace Reviewer

/-- Review one resource. -/
def review (reviewer : Reviewer) (result : ResourceResult) : Review :=
  let recorded := Violation.dedup (result.violations.map reviewer.purify)
  ⟨result.resource, recorded, reviewer.allowlist.filter recorded⟩

/-- Review all resources. -/
def reviewAll (reviewer : Reviewer) (results : List ResourceResult) : List Review :=
  results.map reviewer.review

end Reviewer

namespace Review

/-- The reported violations of a resource by policy. -/
def byPolicy (review : Review) : SortedMap String (List Violation) :=
  review.reported.foldl (fun groups violation => groups.push violation.policyName violation)
    .empty

/-- The name of the record of a resource and a policy. -/
def recordName (resource policy : String) : String := resource ++ "-" ++ policy ++ ".json"

/-- The records of a resource, one for each policy. -/
def records (review : Review) : List Notice :=
  review.byPolicy.entries.map fun (policy, violations) =>
    .newViolations review.resource policy (recordName review.resource policy) violations

/-- The number of violations recorded in all reviews. -/
def recordedCount (reviews : List Review) : Nat :=
  reviews.foldr (fun review total => review.recorded.length + total) 0

/-- The number of violations reported in all reviews. -/
def reportedCount (reviews : List Review) : Nat :=
  reviews.foldr (fun review total => review.reported.length + total) 0

/-- Everything that is told about reviews: the records, then a summary. -/
def notices (reviews : List Review) : List Notice :=
  reviews.flatMap records
    ++ [.reviewed reviews.length (recordedCount reviews) (reportedCount reviews)
      (recordedCount reviews - reportedCount reviews)]

/-- The verdict on reviews: they pass when nothing is reported. -/
def verdict (reviews : List Review) : Except Failure Unit :=
  if reportedCount reviews = 0 then .ok ()
  else .error { outermost := .newViolations (reportedCount reviews) }

end Review

end ManifestPolicy
