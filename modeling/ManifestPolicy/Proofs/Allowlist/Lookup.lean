import ManifestPolicy.Proofs.Allowlist.Keys

/-!
# Looking up in an allowlist

An allowlist answers as the list of violations that it was made of would: under a key stand the
listed violations with that key, as often as they are listed and in the same order, and the
violations without a key are left out. Everything that is asked of an allowlist can therefore
be read off the list.
-/

namespace ManifestPolicy
namespace Allowlist

/-- The violations that are filed are those that name a resource. -/
theorem map_snd_keyed (violations : List Violation) :
    (keyed violations).map Prod.snd =
      violations.filter fun violation => violation.key?.isSome := by
  induction violations with
  | nil => rfl
  | cons violation rest mapRest =>
      cases isKey : violation.key? with
      | none => simp [keyed_cons_of_none isKey, isKey, mapRest]
      | some key => simp [keyed_cons_of_some isKey, isKey, mapRest]

/-- Under a key stand the listed violations with that key, in order and with repeats. -/
theorem get_ofList
    (accepted : List Violation)
    (key : ResourceKey) :
    (ofList accepted).get key = accepted.filter fun listed => listed.key? = some key := by
  rw [get, get?_ofList]
  split
  next noneOf => exact (List.isEmpty_iff.1 noneOf).symm
  next => rfl

/-- The entries of an allowlist have all listed violations with a key, and nothing else. -/
theorem flatten_values_ofList (accepted : List Violation) :
    (ofList accepted).entries.values.flatten.Perm
      (accepted.filter fun listed => listed.key?.isSome) := by
  rw [entries_ofList, ← map_snd_keyed]
  exact SortedMap.flatten_values_foldl_push (keyed accepted) .empty

/-- The keys of an allowlist are the keys of the violations on the list. -/
theorem mem_keys_ofList_iff
    {accepted : List Violation}
    {key : ResourceKey} :
    key ∈ (ofList accepted).entries.keys ↔ key ∈ accepted.filterMap Violation.key? := by
  rw [SortedMap.mem_keys_iff, List.mem_filterMap]
  exact contains_ofList_iff

/-- An allowlist has as many keys as there are different ones in its list. -/
theorem size_ofList (accepted : List Violation) :
    (ofList accepted).size = (accepted.filterMap Violation.key?).toFinset.card := by
  have sameKeys :
      (ofList accepted).entries.keys.toFinset =
        (accepted.filterMap Violation.key?).toFinset := by
    ext key
    rw [List.mem_toFinset, List.mem_toFinset, mem_keys_ofList_iff]
  rw [← sameKeys]
  exact SortedMap.size_eq_card _

/-- An allowlist is empty if no violation on the list names a resource. -/
theorem isEmpty_ofList_iff
    {accepted : List Violation} :
    (ofList accepted).isEmpty = true ↔ ∀ listed ∈ accepted, listed.key? = none := by
  have noKeys :
      (ofList accepted).isEmpty = true ↔ accepted.filterMap Violation.key? = [] := by
    rw [isEmpty, SortedMap.isEmpty, List.isEmpty_iff, ← List.map_eq_nil_iff (f := Prod.fst)]
    change (ofList accepted).entries.keys = [] ↔ _
    rw [List.eq_nil_iff_forall_not_mem, List.eq_nil_iff_forall_not_mem]
    simp only [mem_keys_ofList_iff]
  rw [noKeys, List.filterMap_eq_nil_iff]

/-- A violation is not accepted if it names no resource, or none on the list agrees with it. -/
theorem not_contains_ofList_iff
    {accepted : List Violation}
    {violation : Violation} :
    (ofList accepted).contains violation = false ↔
      violation.key? = none ∨ ∀ listed ∈ accepted, listed.key? ≠ violation.key? := by
  rw [← Bool.not_eq_true, accepts_ofList_iff]
  cases violation.key? <;> simp

/-- Whatever is asked of an allowlist is answered by the list that it was made of: whether a
violation is accepted, what stands under a key, how many keys there are, whether there is none,
how many violations the entries hold, and what the filter leaves. -/
theorem answers_as_listed (accepted : List Violation) :
    (∀ violation, (ofList accepted).contains violation = true ↔
        ∃ key, violation.key? = some key ∧ ∃ listed ∈ accepted, listed.key? = some key)
      ∧ (∀ key,
        (ofList accepted).get key = accepted.filter fun listed => listed.key? = some key)
      ∧ (ofList accepted).size = (accepted.filterMap Violation.key?).toFinset.card
      ∧ ((ofList accepted).isEmpty = true ↔ ∀ listed ∈ accepted, listed.key? = none)
      ∧ (ofList accepted).entries.values.flatten.length =
        (accepted.filter fun listed => listed.key?.isSome).length
      ∧ ∀ violations, (ofList accepted).filter violations =
        violations.filter fun violation =>
          violation.key? = none ∨ ∀ listed ∈ accepted, listed.key? ≠ violation.key? := by
  refine ⟨fun _ => accepts_ofList_iff, get_ofList accepted, size_ofList accepted,
    isEmpty_ofList_iff, (flatten_values_ofList accepted).length_eq, ?_⟩
  intro violations
  rw [filter_eq]
  apply List.filter_congr
  intro violation _
  rw [Bool.eq_iff_iff, Bool.not_eq_true', decide_eq_true_eq]
  exact not_contains_ofList_iff

end Allowlist
end ManifestPolicy
