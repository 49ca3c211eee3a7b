import ManifestPolicy.Proofs.Review.Repeats
import Mathlib.Data.List.Find

/-!
# Dropping repeats in batches

What is left of violations without repeats depends on the violations without a resource, in
their order, and on the first violation of each identity. Dropping repeats changes neither.
So it makes no difference whether the repeats in parts of a list are dropped beforehand.
-/

namespace ManifestPolicy
namespace Violation

theorem filter_keyless_byFinding (violations : List Violation) :
    (byFinding violations).values.filter (·.resource.isNone) = [] := by
  rw [List.filter_eq_nil_iff]
  intro violation filed
  rw [resource_isNone, Option.isNone_iff_eq_none]
  exact key?_ne_none_of_mem_byFinding filed

/-- The violations without a resource stay as they are. -/
theorem filter_keyless_dedup (violations : List Violation) :
    (dedup violations).filter (·.resource.isNone) =
      violations.filter (·.resource.isNone) := by
  rw [dedup, List.filter_append, filter_keyless_byFinding, List.append_nil, List.filter_filter]
  simp only [Bool.and_self]

/-- Among the violations that are filed, an identity has the one that is filed under it. -/
theorem find?_byFinding
    (violations : List Violation)
    (finding : Finding) :
    (byFinding violations).values.find? (·.finding? == some finding) =
      (byFinding violations).get? finding := by
  rw [SortedMap.values, List.find?_map, SortedMap.get?]
  congr 1
  apply List.find?_congr
  intro entry isEntry
  rw [Function.comp_apply, finding?_of_mem_entries isEntry, Bool.eq_iff_iff, beq_iff_eq,
    Option.some.injEq, beq_iff_eq, Std.LawfulEqCmp.compare_eq_iff_eq]
  exact eq_comm

/-- The first violation of an identity is still the first that has it. -/
theorem find?_dedup
    (violations : List Violation)
    (finding : Finding) :
    (dedup violations).find? (·.finding? == some finding) =
      violations.find? (·.finding? == some finding) := by
  have keyless :
      (violations.filter (·.resource.isNone)).find? (·.finding? == some finding) = none := by
    rw [List.find?_eq_none]
    intro violation isKeyless
    simp [finding?_of_mem_keyless isKeyless]
  rw [dedup, List.find?_append, keyless, Option.none_or, find?_byFinding, get?_byFinding]

/-- Lists with the same violations without a resource and the same first violation of each
identity leave the same. -/
theorem dedup_congr
    {left right : List Violation}
    (sameKeyless :
      left.filter (·.resource.isNone) = right.filter (·.resource.isNone))
    (sameFirsts : ∀ finding,
      left.find? (·.finding? == some finding) = right.find? (·.finding? == some finding)) :
    dedup left = dedup right := by
  have sameFiled : byFinding left = byFinding right := by
    apply SortedMap.ext_get?
    intro finding
    rw [get?_byFinding, get?_byFinding, sameFirsts]
  rw [dedup, dedup, sameKeyless, sameFiled]

/-- Repeats within pages may be dropped before those in all pages together. -/
theorem dedup_flatMap_dedup (pages : List (List Violation)) :
    dedup (pages.flatMap dedup) = dedup pages.flatten := by
  apply dedup_congr
  · rw [List.filter_flatMap, List.filter_flatten, List.flatMap_def]
    simp only [filter_keyless_dedup]
  · intro finding
    rw [List.find?_flatMap, List.find?_flatten]
    simp only [find?_dedup]

/-- Dropping repeats is compatible with batches. It makes no difference whether repeats in two
lists, in one list, or in each of several pages have been dropped before, and what is left of
every key and message is the first violation of all pages that has them. -/
theorem dedup_in_batches
    (left right : List Violation)
    (pages : List (List Violation)) :
    dedup (dedup left ++ dedup right) = dedup (left ++ right)
      ∧ dedup (dedup left) = dedup left
      ∧ dedup (pages.flatMap dedup) = dedup pages.flatten
      ∧ ∀ violation, violation.key? ≠ none →
        (dedup (pages.flatMap dedup)).find? (·.agrees violation) =
          pages.flatten.find? (·.agrees violation) := by
  refine ⟨?_, ?_, dedup_flatMap_dedup pages, ?_⟩
  · have twoPages := dedup_flatMap_dedup [left, right]
    rwa [List.flatMap_cons, List.flatMap_singleton, List.flatten_cons,
      List.flatten_singleton] at twoPages
  · have onePage := dedup_flatMap_dedup [left]
    rwa [List.flatMap_singleton, List.flatten_singleton] at onePage
  · intro violation named
    obtain ⟨finding, identity⟩ := exists_finding? named
    simp only [agrees_eq_of_finding? identity]
    rw [dedup_flatMap_dedup, find?_dedup]

end Violation
end ManifestPolicy
