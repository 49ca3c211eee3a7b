import ManifestPolicy.Proofs.Review.Count
import ManifestPolicy.Proofs.Text.Utf8
import Mathlib.Data.List.Nodup

/-!
# What is left without repeats

Violations without a resource are left as they are. Of the others the first with each key and
message is left, and they come in the order of the bytes of key and message, so that every
key and message is left exactly once.
-/

namespace ManifestPolicy

namespace Utf8

/-- The bytes of several texts are in the order of the texts. -/
theorem compare_map_encode_of_lt
    {left right : List String}
    (before : compare left right = .lt) :
    compare (left.map encode) (right.map encode) = .lt := by
  induction left generalizing right with
  | nil =>
      cases right with
      | nil => contradiction
      | cons text others => rfl
  | cons text rest compareRest =>
      cases right with
      | nil => contradiction
      | cons other others =>
          rw [List.compare_cons_cons] at before
          rw [List.map_cons, List.map_cons, List.compare_cons_cons]
          cases first : compare text other with
          | lt => rw [compare_encode_of_lt first, Ordering.lt_then]
          | eq =>
              obtain rfl : text = other := Std.LawfulEqCmp.eq_of_compare first
              have equal : compare (encode text) (encode text) = .eq := Std.ReflCmp.compare_self
              rw [first, Ordering.eq_then] at before
              rw [equal, Ordering.eq_then, compareRest before]
          | gt =>
              rw [first] at before
              contradiction

end Utf8

namespace Finding

/-- The bytes of policy, group, kind, name, version and message. -/
def bytes (finding : Finding) : List (List UInt8) :=
  [finding.key.policy, finding.key.group, finding.key.kind, finding.key.name,
    finding.key.version, finding.message].map Utf8.encode

theorem compare_bytes_of_lt
    {left right : Finding}
    (before : compare left right = .lt) :
    compare left.bytes right.bytes = .lt :=
  Utf8.compare_map_encode_of_lt (show compare left.parts right.parts = .lt from before)

end Finding

namespace Violation

/-- Both violations name a resource, and the bytes of one come before those of the other. -/
def Precedes (left right : Violation) : Prop :=
  ∃ finding other, left.finding? = some finding ∧ right.finding? = some other
    ∧ compare finding.bytes other.bytes = .lt

/-- Whether two violations have the same key, or none, and the same message. -/
def agrees (left right : Violation) : Bool :=
  left.key? = right.key? ∧ left.message = right.message

theorem agrees_eq_of_finding?
    {violation : Violation}
    {finding : Finding}
    (identity : violation.finding? = some finding)
    (other : Violation) :
    other.agrees violation = (other.finding? == some finding) := by
  obtain ⟨named, isMessage⟩ := finding?_eq_some_iff.1 identity
  rw [agrees, Bool.eq_iff_iff, decide_eq_true_eq, beq_iff_eq, finding?_eq_some_iff, named,
    isMessage]

theorem exists_finding?
    {violation : Violation}
    (named : violation.key? ≠ none) :
    ∃ finding, violation.finding? = some finding := by
  obtain ⟨key, isKey⟩ := Option.ne_none_iff_exists'.1 named
  exact ⟨⟨key, violation.message⟩, finding?_eq_some_iff.2 ⟨isKey, rfl⟩⟩

theorem pairwise_byFinding (violations : List Violation) :
    (byFinding violations).values.Pairwise Precedes := by
  rw [SortedMap.values, List.pairwise_map]
  refine (byFinding violations).sorted.imp_of_mem ?_
  intro left right leftPresent rightPresent before
  exact ⟨left.1, right.1, finding?_of_mem_entries leftPresent,
    finding?_of_mem_entries rightPresent, Finding.compare_bytes_of_lt before⟩

theorem key?_ne_none_of_mem_byFinding
    {violations : List Violation}
    {violation : Violation}
    (filed : violation ∈ (byFinding violations).values) :
    violation.key? ≠ none := by
  obtain ⟨entry, present, rfl⟩ := List.mem_map.1 filed
  obtain ⟨named, _⟩ := finding?_eq_some_iff.1 (finding?_of_mem_entries present)
  rw [named]
  exact Option.some_ne_none _

/-- A violation that names a resource is left exactly when it is the first with its key and
message. -/
theorem mem_dedup_iff_first
    {violations : List Violation}
    {violation : Violation}
    (named : violation.key? ≠ none) :
    violation ∈ dedup violations ↔
      violations.find? (·.agrees violation) = some violation := by
  obtain ⟨finding, identity⟩ := exists_finding? named
  have notKeyless : violation.resource ≠ none := fun keyless =>
    named (key?_eq_none_iff.2 keyless)
  simp only [mem_dedup_iff, notKeyless, and_false, false_or, agrees_eq_of_finding? identity]
  constructor
  · rintro ⟨other, first⟩
    have same : violation.finding? = some other := by simpa using List.find?_some first
    rw [identity] at same
    rwa [Option.some.inj same]
  · exact fun first => ⟨finding, first⟩

/-- Every key and message of a violation is left once. -/
theorem countP_agrees_dedup
    {violations : List Violation}
    {violation : Violation}
    (present : violation ∈ violations)
    (named : violation.key? ≠ none) :
    (dedup violations).countP (·.agrees violation) = 1 := by
  obtain ⟨finding, identity⟩ := exists_finding? named
  have keyless :
      (violations.filter fun other => other.resource.isNone).countP (·.agrees violation) = 0 := by
    rw [List.countP_eq_zero]
    intro other isKeyless sameKey
    rw [agrees_eq_of_finding? identity, finding?_of_mem_keyless isKeyless] at sameKey
    contradiction
  have filed : (byFinding violations).values.countP (·.agrees violation) =
      (byFinding violations).keys.count finding := by
    rw [SortedMap.values, SortedMap.keys, List.count, List.countP_map, List.countP_map]
    refine List.countP_congr ?_
    intro entry isEntry
    simp [agrees_eq_of_finding? identity, finding?_of_mem_entries isEntry]
  have isKey : finding ∈ (byFinding violations).keys :=
    mem_keys_byFinding_iff.2 (List.mem_filterMap.2 ⟨violation, present, identity⟩)
  rw [dedup, List.countP_append, keyless, filed,
    List.count_eq_one_of_mem (SortedMap.keys_nodup _) isKey]

/-- What is left without repeats: the violations without a resource as they are, and then the
first of each key and message, strictly in the order of their bytes. -/
theorem dedup_keeps_firsts (violations : List Violation) :
    ∃ keyed,
      dedup violations = (violations.filter fun violation => violation.key? = none) ++ keyed
        ∧ (∀ violation ∈ keyed, violation.key? ≠ none)
        ∧ keyed.Pairwise Precedes
        ∧ (∀ violation, violation.key? ≠ none →
          (violation ∈ dedup violations ↔
            violations.find? (·.agrees violation) = some violation))
        ∧ ∀ violation ∈ violations, violation.key? ≠ none →
          (dedup violations).countP (·.agrees violation) = 1 := by
  refine ⟨(byFinding violations).values, ?_, fun _ => key?_ne_none_of_mem_byFinding,
    pairwise_byFinding violations, fun _ => mem_dedup_iff_first, fun _ => countP_agrees_dedup⟩
  rw [dedup]
  congr 1
  refine List.filter_congr ?_
  intro violation _
  rw [Bool.eq_iff_iff, decide_eq_true_eq, key?_eq_none_iff, Option.isNone_iff_eq_none]

end Violation
end ManifestPolicy
