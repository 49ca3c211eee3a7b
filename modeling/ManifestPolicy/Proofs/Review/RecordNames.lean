import ManifestPolicy.Proofs.Review.Records
import Mathlib.Data.List.Nodup
import Mathlib.Data.List.Pairwise

/-!
# Names of records

A record bears the names of its resource and of its policy with a hyphen between them, which
is not told from hyphens in these names. Records of one resource never have the same name.
Records of different resources do exactly when one resource is named like the other one with a
hyphen and a middle part behind it, and the policy of the other one is the middle part, a hyphen
and the policy of the first.
-/

namespace ManifestPolicy

/-- The name of a record of new violations. -/
def Notice.recordName? : Notice → Option String
  | .newViolations _ _ name _ => some name
  | _ => none

/-! ## Joined names -/

/-- Where two lists are joined by a separator cannot be told when a list holds the separator
too: they are the same join when they are the same lists, or when a middle part with a further
separator belongs to the first list of one and to the second list of the other. -/
theorem append_separator_eq_iff
    {α : Type}
    {separator : α}
    {first second third fourth : List α} :
    first ++ separator :: second = third ++ separator :: fourth ↔
      (first = third ∧ second = fourth)
        ∨ (∃ middle, third = first ++ separator :: middle
          ∧ second = middle ++ separator :: fourth)
        ∨ ∃ middle, first = third ++ separator :: middle
          ∧ fourth = middle ++ separator :: second := by
  rw [List.append_eq_append_iff]
  constructor
  · rintro (⟨more, isThird, isSecond⟩ | ⟨more, isFirst, isFourth⟩)
    · cases more with
      | nil => simp_all
      | cons _ middle =>
          obtain ⟨rfl, rfl⟩ := List.cons.inj isSecond
          exact .inr (.inl ⟨middle, isThird, rfl⟩)
    · cases more with
      | nil => simp_all
      | cons _ middle =>
          obtain ⟨rfl, rfl⟩ := List.cons.inj isFourth
          exact .inr (.inr ⟨middle, isFirst, rfl⟩)
  · rintro (⟨rfl, rfl⟩ | ⟨middle, rfl, rfl⟩ | ⟨middle, rfl, rfl⟩)
    · exact .inl ⟨[], (List.append_nil _).symm, rfl⟩
    · exact .inl ⟨separator :: middle, rfl, rfl⟩
    · exact .inr ⟨separator :: middle, rfl, rfl⟩

namespace Review

/-- The other resource is named like the first one with a hyphen and a middle part behind it,
and the policy of the first is the middle part, a hyphen and the other policy. -/
def Overlaps (resource policy other otherPolicy : String) : Prop :=
  ∃ middle, other = resource ++ "-" ++ middle ∧ policy = middle ++ "-" ++ otherPolicy

theorem overlaps_iff
    {resource policy other otherPolicy : String} :
    Overlaps resource policy other otherPolicy ↔
      ∃ middle, other.toList = resource.toList ++ '-' :: middle
        ∧ policy.toList = middle ++ '-' :: otherPolicy.toList := by
  constructor
  · rintro ⟨middle, rfl, rfl⟩
    exact ⟨middle.toList, by simp, by simp⟩
  · rintro ⟨middle, isOther, isPolicy⟩
    refine ⟨String.ofList middle, ?_, ?_⟩
    · rw [← String.toList_inj, isOther]
      simp
    · rw [← String.toList_inj, isPolicy]
      simp

/-- Records have the same name when they are of the same resource and policy, or overlap. -/
theorem recordName_eq_iff
    {resource policy other otherPolicy : String} :
    recordName resource policy = recordName other otherPolicy ↔
      (resource = other ∧ policy = otherPolicy)
        ∨ Overlaps resource policy other otherPolicy
        ∨ Overlaps other otherPolicy resource policy := by
  have joined (left right : String) :
      (left ++ "-" ++ right).toList = left.toList ++ '-' :: right.toList := by
    simp
  rw [recordName, recordName, String.append_left_inj, ← String.toList_inj, joined, joined,
    append_separator_eq_iff, String.toList_inj, String.toList_inj, overlaps_iff, overlaps_iff]

/-- A resource does not overlap with itself. -/
theorem ne_of_overlaps
    {resource policy other otherPolicy : String}
    (overlaps : Overlaps resource policy other otherPolicy) :
    resource ≠ other := by
  rintro rfl
  obtain ⟨middle, longer, _⟩ := overlaps_iff.1 overlaps
  have longerLength := congrArg List.length longer
  rw [List.length_append, List.length_cons] at longerLength
  omega

/-- A policy that is reported in one review and one that is reported in the other give their
records the same name, though the resources are different. -/
def Clashes (left right : Review) : Prop :=
  ∃ violation ∈ left.reported, ∃ other ∈ right.reported,
    Overlaps left.resource violation.policyName right.resource other.policyName

/-- The names of the records that are told about reviews. -/
def recordNames (reviews : List Review) : List String :=
  (notices reviews).filterMap Notice.recordName?

/-- The names of the records of one review. -/
def ownNames (review : Review) : List String :=
  review.byPolicy.keys.map (recordName review.resource)

/-- Records are named review by review. -/
theorem recordNames_eq (reviews : List Review) :
    recordNames reviews = reviews.flatMap ownNames := by
  have each (review : Review) :
      review.records.filterMap Notice.recordName? = review.ownNames := by
    rw [records, List.filterMap_map, ownNames, SortedMap.keys, List.map_map]
    exact congrFun List.filterMap_eq_map _
  rw [recordNames, filterMap_notices fun _ _ _ _ => rfl]
  simp only [each]

theorem mem_ownNames_iff
    {review : Review}
    {name : String} :
    name ∈ review.ownNames ↔
      ∃ violation ∈ review.reported, recordName review.resource violation.policyName = name := by
  rw [ownNames, List.mem_map]
  simp only [mem_keys_byPolicy_iff]
  constructor
  · rintro ⟨_, ⟨violation, present, rfl⟩, isName⟩
    exact ⟨violation, present, isName⟩
  · rintro ⟨violation, present, isName⟩
    exact ⟨_, ⟨violation, present, rfl⟩, isName⟩

/-- The records of one review have different names. -/
theorem ownNames_nodup (review : Review) : review.ownNames.Nodup := by
  apply review.byPolicy.keys_nodup.map
  intro policy other sameName
  rcases recordName_eq_iff.1 sameName with ⟨_, samePolicy⟩ | overlaps | overlaps
  · exact samePolicy
  · exact absurd rfl (ne_of_overlaps overlaps)
  · exact absurd rfl (ne_of_overlaps overlaps)

/-- Records of different resources have different names unless their reviews clash. -/
theorem disjoint_ownNames_iff
    {left right : Review}
    (different : left.resource ≠ right.resource) :
    left.ownNames.Disjoint right.ownNames ↔ ¬ left.Clashes right ∧ ¬ right.Clashes left := by
  constructor
  · intro disjoint
    constructor
    · rintro ⟨violation, present, other, otherPresent, overlaps⟩
      refine disjoint (mem_ownNames_iff.2 ⟨violation, present, rfl⟩)
        (mem_ownNames_iff.2 ⟨other, otherPresent, ?_⟩)
      exact (recordName_eq_iff.2 (.inr (.inl overlaps))).symm
    · rintro ⟨violation, present, other, otherPresent, overlaps⟩
      refine disjoint (mem_ownNames_iff.2 ⟨other, otherPresent, ?_⟩)
        (mem_ownNames_iff.2 ⟨violation, present, rfl⟩)
      exact (recordName_eq_iff.2 (.inr (.inl overlaps))).symm
  · rintro ⟨noClash, noOther⟩ name isLeft isRight
    obtain ⟨violation, present, rfl⟩ := mem_ownNames_iff.1 isLeft
    obtain ⟨other, otherPresent, sameName⟩ := mem_ownNames_iff.1 isRight
    rcases recordName_eq_iff.1 sameName with ⟨same, _⟩ | overlaps | overlaps
    · exact different same.symm
    · exact noOther ⟨other, otherPresent, violation, present, overlaps⟩
    · exact noClash ⟨violation, present, other, otherPresent, overlaps⟩

/-- Only reviews of different resources clash. -/
theorem resource_ne_of_clashes
    {left right : Review}
    (clashes : left.Clashes right) :
    left.resource ≠ right.resource := by
  obtain ⟨_, _, _, _, overlaps⟩ := clashes
  exact ne_of_overlaps overlaps

end Review

namespace Reviewer

theorem resources_reviewAll
    (reviewer : Reviewer)
    (results : List ResourceResult) :
    (reviewer.reviewAll results).map Review.resource = results.map ResourceResult.resource := by
  rw [reviewAll, List.map_map]
  rfl

/-- Which records of results for different resources have the same name. The records of one
result never do. All names are different exactly when no two results clash: one of them is for
a resource named like the other one with a hyphen and a text behind it, and a policy is reported
for it that is also reported for the other one with that text and a hyphen before it. -/
theorem record_names_nodup_iff
    (reviewer : Reviewer)
    {results : List ResourceResult}
    (distinct : (results.map ResourceResult.resource).Nodup) :
    let reviews := reviewer.reviewAll results
    (∀ review ∈ reviews, (Review.recordNames [review]).Nodup)
      ∧ ((Review.recordNames reviews).Nodup ↔
        ∀ left ∈ reviews, ∀ right ∈ reviews, ¬ left.Clashes right) := by
  intro reviews
  have apart : reviews.Pairwise fun left right => left.resource ≠ right.resource := by
    rw [← resources_reviewAll, List.Nodup, List.pairwise_map] at distinct
    exact distinct
  constructor
  · intro review _
    rw [Review.recordNames_eq, List.flatMap_singleton]
    exact review.ownNames_nodup
  · rw [Review.recordNames_eq, List.nodup_flatMap]
    constructor
    · rintro ⟨_, disjoint⟩ left isLeft right isRight clashes
      have different := Review.resource_ne_of_clashes clashes
      have symmetric : Std.Symm (Function.onFun List.Disjoint Review.ownNames) :=
        ⟨fun _ _ disjoint => List.disjoint_symm disjoint⟩
      have noNames := disjoint.forall isLeft isRight
        (fun same => different (congrArg Review.resource same))
      exact ((Review.disjoint_ownNames_iff different).1 noNames).1 clashes
    · intro noClash
      refine ⟨fun review _ => review.ownNames_nodup, ?_⟩
      refine apart.imp_of_mem ?_
      intro left right isLeft isRight different
      exact (Review.disjoint_ownNames_iff different).2
        ⟨noClash left isLeft right isRight, noClash right isRight left isLeft⟩

/-! ## Names with hyphens

The names of the resources go on in each other, and so do the names of the policies. -/

/-- Results in which each policy is found in a pod of each resource. -/
def hyphened (found : List (String × List String)) : List ResourceResult :=
  found.map fun (resource, policies) =>
    ⟨resource, policies.map fun policy =>
      { policyName := policy, resource := some { kind := "Pod", name := resource } }⟩

theorem hyphened_names_differ :
    let results := hyphened [("web", ["deny", "deny-root"]), ("web-api", ["deny", "api-deny"])]
    let reviews := ({ allowlist := .empty } : Reviewer).reviewAll results
    (results.map ResourceResult.resource).Nodup
      ∧ Review.recordNames reviews = ["web-deny.json", "web-deny-root.json",
        "web-api-api-deny.json", "web-api-deny.json"]
      ∧ ∀ left ∈ reviews, ∀ right ∈ reviews, ¬ left.Clashes right := by
  intro results reviews
  have distinct : (results.map ResourceResult.resource).Nodup := by decide
  have names : Review.recordNames reviews = ["web-deny.json", "web-deny-root.json",
      "web-api-api-deny.json", "web-api-deny.json"] := by
    decide +kernel
  refine ⟨distinct, names, ?_⟩
  apply (record_names_nodup_iff { allowlist := .empty } distinct).2.1
  rw [names]
  decide

/-- The policy `api-deny` of one resource and the policy `deny` of the other one have records
of one name. -/
theorem hyphened_records_share_name :
    let results := hyphened [("web", ["api-deny"]), ("web-api", ["deny"])]
    let names := Review.recordNames (({ allowlist := .empty } : Reviewer).reviewAll results)
    (results.map ResourceResult.resource).Nodup
      ∧ names = ["web-api-deny.json", "web-api-deny.json"]
      ∧ ¬ names.Nodup := by
  decide +kernel

end Reviewer
end ManifestPolicy
