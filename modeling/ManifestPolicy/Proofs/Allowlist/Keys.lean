import ManifestPolicy.Allowlist
import ManifestPolicy.Proofs.SortedMap
import Mathlib.Data.List.Basic

/-!
# The keys of an allowlist

A violation is accepted when its key is one of the keys of the violations that the allowlist
was made of. An allowlist without keys accepts nothing, so filtering needs no exception for it,
and filtering with the violations of two lists is filtering with one after the other.
-/

namespace ManifestPolicy
namespace Allowlist

/-- Acceptance looks at the key of a violation alone. -/
theorem contains_of_key?
    {left right : Violation}
    (sameKey : left.key? = right.key?)
    (allowlist : Allowlist) :
    allowlist.contains left = allowlist.contains right := by
  rw [contains, contains, sameKey]

/-- An accepted violation names a resource, and its key is in the allowlist. -/
theorem contains_iff
    {allowlist : Allowlist}
    {violation : Violation} :
    allowlist.contains violation = true ↔
      ∃ resource, violation.resource = some resource
        ∧ allowlist.entries.contains ⟨violation.policyName, resource.group, resource.kind,
          resource.name, resource.version⟩ = true := by
  cases named : violation.resource <;> simp [contains, Violation.key?, named]

/-- The shortcut for an allowlist without keys gives what the lookup would give. -/
theorem contains_of_isEmpty
    {allowlist : Allowlist}
    (isEmpty : allowlist.isEmpty = true)
    (violation : Violation) :
    allowlist.contains violation = false := by
  rw [← Bool.not_eq_true, contains_iff]
  rintro ⟨resource, _, accepted⟩
  rw [SortedMap.contains, SortedMap.isEmpty_eq_true_iff.1 isEmpty] at accepted
  contradiction

/-- The filter keeps what is not accepted, also when there is nothing to accept. -/
theorem filter_eq
    (allowlist : Allowlist)
    (violations : List Violation) :
    allowlist.filter violations =
      violations.filter fun violation => !allowlist.contains violation := by
  unfold filter
  split
  next isEmpty =>
    refine (List.filter_eq_self.2 ?_).symm
    intro violation _
    rw [contains_of_isEmpty isEmpty, Bool.not_false]
  next => rfl

/-! ## What an allowlist was made of -/

/-- The listed violations that have a key, each behind its key. -/
def keyed (violations : List Violation) : List (ResourceKey × Violation) :=
  violations.filterMap fun violation => violation.key?.map fun key => (key, violation)

theorem keyed_cons_of_some
    {violation : Violation}
    {key : ResourceKey}
    (isKey : violation.key? = some key)
    (rest : List Violation) :
    keyed (violation :: rest) = (key, violation) :: keyed rest := by
  simp [keyed, isKey]

theorem keyed_cons_of_none
    {violation : Violation}
    (keyless : violation.key? = none)
    (rest : List Violation) :
    keyed (violation :: rest) = keyed rest := by
  simp [keyed, keyless]

/-- An allowlist files the violations of a list one after the other under their keys. -/
theorem entries_ofList (accepted : List Violation) :
    (ofList accepted).entries =
      (keyed accepted).foldl (fun entries entry => entries.push entry.1 entry.2) .empty := by
  have filed (allowlist : Allowlist) :
      (accepted.foldl add allowlist).entries =
        (keyed accepted).foldl (fun entries entry => entries.push entry.1 entry.2)
          allowlist.entries := by
    induction accepted generalizing allowlist with
    | nil => rfl
    | cons violation rest filedRest =>
        -- A violation without a key is passed over on both sides.
        rw [List.foldl_cons, filedRest, add]
        cases isKey : violation.key? with
        | none => rw [keyed_cons_of_none isKey]
        | some key => rw [keyed_cons_of_some isKey, List.foldl_cons]
  exact filed empty

/-- Of the violations with their keys, those under one key are the violations that have it, in
order. -/
theorem keyed_filter
    (violations : List Violation)
    (key : ResourceKey) :
    ((keyed violations).filter (·.1 = key)).map Prod.snd =
      violations.filter fun violation => violation.key? = some key := by
  induction violations with
  | nil => rfl
  | cons violation rest filterRest =>
      cases isKey : violation.key? with
      | none => simp [keyed_cons_of_none isKey, isKey, filterRest]
      | some other =>
          by_cases same : other = key <;>
            simp [keyed_cons_of_some isKey, isKey, same, filterRest]

/-- Under a key stand the violations of the list that have it, in order, if there are any. -/
theorem get?_ofList
    (accepted : List Violation)
    (key : ResourceKey) :
    (ofList accepted).entries.get? key =
      if (accepted.filter fun listed => listed.key? = some key).isEmpty then none
      else some (accepted.filter fun listed => listed.key? = some key) := by
  rw [entries_ofList, SortedMap.get?_foldl_push, ← keyed_filter, List.isEmpty_map]
  rfl

/-- The keys of an allowlist are those of the violations that it was made of. -/
theorem contains_ofList_iff
    {violations : List Violation}
    {key : ResourceKey} :
    (ofList violations).entries.contains key = true ↔
      ∃ violation ∈ violations, violation.key? = some key := by
  rw [SortedMap.contains, get?_ofList]
  split
  next noneOf => simpa using noneOf
  next someOf => simpa using someOf

/-- A violation is accepted when one of the listed violations has its key. -/
theorem accepts_ofList_iff
    {accepted : List Violation}
    {violation : Violation} :
    (ofList accepted).contains violation = true ↔
      ∃ key, violation.key? = some key ∧ ∃ listed ∈ accepted, listed.key? = some key := by
  rw [contains, Option.any_eq_true]
  simp only [contains_ofList_iff]

/-- The violations of two lists accept what those of one of them accept. -/
theorem contains_ofList_append
    (accepted others : List Violation)
    (violation : Violation) :
    (ofList (accepted ++ others)).contains violation =
      ((ofList accepted).contains violation || (ofList others).contains violation) := by
  rw [Bool.eq_iff_iff, Bool.or_eq_true, accepts_ofList_iff, accepts_ofList_iff,
    accepts_ofList_iff, ← exists_or]
  simp only [List.mem_append, or_and_right, exists_or, and_or_left]

/-- Filtering with the violations of two lists is filtering with one list after the other. -/
theorem filter_ofList_append
    (accepted others violations : List Violation) :
    (ofList (accepted ++ others)).filter violations =
      (ofList accepted).filter ((ofList others).filter violations) := by
  rw [filter_eq, filter_eq, filter_eq, List.filter_filter]
  simp only [contains_ofList_append, Bool.not_or]

/-- What the violations of a list accept is still accepted with more violations listed. -/
theorem contains_ofList_of_subset
    {accepted extended : List Violation}
    (subset : accepted ⊆ extended)
    {violation : Violation}
    (contained : (ofList accepted).contains violation = true) :
    (ofList extended).contains violation = true := by
  obtain ⟨key, isKey, listed, present, sameKey⟩ := accepts_ofList_iff.1 contained
  exact accepts_ofList_iff.2 ⟨key, isKey, listed, subset present, sameKey⟩

end Allowlist
end ManifestPolicy
