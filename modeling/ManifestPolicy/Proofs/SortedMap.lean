import ManifestPolicy.SortedMap
import Mathlib.Data.Finset.Card
import Mathlib.Data.List.Sort

/-!
# Looking up in sorted maps

What a map holds under a key after each of its operations. The entries of a map are
exactly the keys with the values that are found under them, so maps that hold the same under
every key are the same.
-/

namespace ManifestPolicy
namespace SortedMap

variable {κ α : Type} [Ord κ]

/-- The value of a key in a list of entries. -/
def lookup (key : κ) (entries : List (κ × α)) : Option α :=
  (entries.find? fun entry => compare key entry.1 == .eq).map Prod.snd

theorem get?_eq_lookup (map : SortedMap κ α) (key : κ) :
    map.get? key = lookup key map.entries := rfl

@[simp] theorem lookup_nil (key : κ) : lookup key ([] : List (κ × α)) = none := rfl

@[simp] theorem get?_empty (key : κ) : (empty : SortedMap κ α).get? key = none := rfl

/-- A key that comes before all entries has no value. -/
theorem lookup_eq_none_of_lt
    {key : κ}
    {entries : List (κ × α)}
    (before : ∀ entry ∈ entries, compare key entry.1 = .lt) :
    lookup key entries = none := by
  simp only [lookup, Option.map_eq_none_iff, List.find?_eq_none]
  intro entry present
  simp [before entry present]

theorem flatten_values_place
    (key : κ)
    (value : α)
    (entries : List (κ × List α)) :
    ((place key (fun stored => stored.getD [] ++ [value]) entries).map Prod.snd).flatten.Perm
      ((entries.map Prod.snd).flatten ++ [value]) := by
  induction entries with
  | nil => exact .refl _
  | cons head rest placeRest =>
      obtain ⟨other, stored⟩ := head
      unfold place
      split
      · exact (List.perm_append_singleton value _).symm
      · simpa using (List.perm_append_singleton value _).symm.append_left stored
      · simpa using placeRest.append_left stored

section Lawful

variable [Std.LawfulEqOrd κ]

theorem lookup_cons_self (key : κ) (value : α) (rest : List (κ × α)) :
    lookup key ((key, value) :: rest) = some value := by
  simp [lookup]

theorem lookup_cons_of_ne
    {key other : κ}
    (different : key ≠ other)
    (value : α)
    (rest : List (κ × α)) :
    lookup key ((other, value) :: rest) = lookup key rest := by
  simp [lookup, different]

theorem mem_of_lookup
    {key : κ}
    {value : α}
    {entries : List (κ × α)}
    (found : lookup key entries = some value) :
    (key, value) ∈ entries := by
  simp only [lookup, Option.map_eq_some_iff] at found
  obtain ⟨entry, found, rfl⟩ := found
  have sameKey : key = entry.1 := by simpa using List.find?_some found
  rw [sameKey]
  exact List.mem_of_find?_eq_some found

theorem lookup_of_mem
    {key : κ}
    {value : α}
    {entries : List (κ × α)}
    (sorted : entries.Pairwise fun earlier later => compare earlier.1 later.1 = .lt)
    (present : (key, value) ∈ entries) :
    lookup key entries = some value := by
  induction entries with
  | nil => simp at present
  | cons head rest lookupRest =>
      obtain ⟨other, stored⟩ := head
      obtain ⟨headFirst, restSorted⟩ := List.pairwise_cons.1 sorted
      rcases List.mem_cons.1 present with same | later
      · obtain ⟨rfl, rfl⟩ := Prod.mk.inj same
        exact lookup_cons_self key value rest
      · have different : key ≠ other := by
          rintro rfl
          simpa using headFirst _ later
        rw [lookup_cons_of_ne different, lookupRest restSorted later]

/-- An entry of a map is a key with the value found under it. -/
theorem mem_entries_iff
    {map : SortedMap κ α}
    {key : κ}
    {value : α} :
    (key, value) ∈ map.entries ↔ map.get? key = some value :=
  ⟨lookup_of_mem map.sorted, mem_of_lookup⟩

theorem mem_values_iff
    {map : SortedMap κ α}
    {value : α} :
    value ∈ map.values ↔ ∃ key, map.get? key = some value := by
  simp only [values, List.mem_map, Prod.exists, exists_eq_right, mem_entries_iff]

theorem mem_keys_iff
    {map : SortedMap κ α}
    {key : κ} :
    key ∈ map.keys ↔ (map.get? key).isSome = true := by
  simp only [keys, List.mem_map, Prod.exists, exists_and_right, exists_eq_right,
    mem_entries_iff, Option.isSome_iff_exists]

theorem keys_nodup (map : SortedMap κ α) : map.keys.Nodup := by
  rw [keys, List.Nodup, List.pairwise_map]
  refine map.sorted.imp ?_
  intro earlier later before same
  simp [same] at before

/-- A map has as many entries as different keys. -/
theorem size_eq_card [DecidableEq κ] (map : SortedMap κ α) : map.size = map.keys.toFinset.card := by
  rw [List.toFinset_card_of_nodup (keys_nodup map), keys, List.length_map]
  rfl

/-- The entries of a map that pass a test on their keys. -/
def restrict (keep : κ → Bool) (map : SortedMap κ α) : SortedMap κ α :=
  ⟨map.entries.filter fun entry => keep entry.1, map.sorted.filter _⟩

theorem get?_restrict_eq_some_iff
    {keep : κ → Bool}
    {map : SortedMap κ α}
    {key : κ}
    {value : α} :
    (map.restrict keep).get? key = some value ↔
      keep key = true ∧ map.get? key = some value := by
  rw [← mem_entries_iff, restrict, List.mem_filter, mem_entries_iff]
  exact and_comm

theorem isEmpty_eq_true_iff
    {map : SortedMap κ α} :
    map.isEmpty = true ↔ ∀ key, map.get? key = none := by
  constructor
  · intro isEmpty key
    rw [get?_eq_lookup, List.isEmpty_iff.1 isEmpty, lookup_nil]
  · intro absent
    rw [isEmpty, List.isEmpty_iff, List.eq_nil_iff_forall_not_mem]
    rintro ⟨key, value⟩ present
    have found := mem_entries_iff.1 present
    rw [absent key] at found
    contradiction

theorem lookup_place_of_ne
    {key other : κ}
    (different : other ≠ key)
    (update : Option α → α)
    (entries : List (κ × α)) :
    lookup other (place key update entries) = lookup other entries := by
  induction entries with
  | nil => exact lookup_cons_of_ne different _ _
  | cons head rest placeRest =>
      obtain ⟨stored, value⟩ := head
      unfold place
      split
      next before => exact lookup_cons_of_ne different _ _
      next same =>
        obtain rfl := Std.LawfulEqCmp.eq_of_compare same
        rw [lookup_cons_of_ne different, lookup_cons_of_ne different]
      next after =>
        by_cases isStored : other = stored
        · subst isStored
          rw [lookup_cons_self, lookup_cons_self]
        · rw [lookup_cons_of_ne isStored, lookup_cons_of_ne isStored, placeRest]

end Lawful

section Ordered

variable [Std.TransOrd κ] [Std.LawfulEqOrd κ]

/-- Maps that hold the same under every key are the same. -/
theorem ext_get?
    {left right : SortedMap κ α}
    (sameValues : ∀ key, left.get? key = right.get? key) :
    left = right := by
  let before (earlier later : κ × α) : Prop := compare earlier.1 later.1 = .lt
  have irreflexive : Std.Irrefl before := ⟨fun entry isBefore => by simp [before] at isBefore⟩
  have antisymmetric : Std.Antisymm before :=
    ⟨fun entry other isBefore isAfter => by
      have circular : compare entry.1 entry.1 = .lt := Std.TransCmp.lt_trans isBefore isAfter
      simp at circular⟩
  apply ext_entries
  apply List.Pairwise.eq_of_mem_iff (r := before) left.sorted right.sorted
  rintro ⟨key, value⟩
  rw [mem_entries_iff, mem_entries_iff, sameValues]

theorem lookup_place_self
    (key : κ)
    (update : Option α → α)
    {entries : List (κ × α)}
    (sorted : entries.Pairwise fun earlier later => compare earlier.1 later.1 = .lt) :
    lookup key (place key update entries) = some (update (lookup key entries)) := by
  induction entries with
  | nil => simp [place, lookup_cons_self]
  | cons head rest placeRest =>
      obtain ⟨other, value⟩ := head
      obtain ⟨headFirst, restSorted⟩ := List.pairwise_cons.1 sorted
      unfold place
      split
      next before =>
        have absent : lookup key ((other, value) :: rest) = none := by
          refine lookup_eq_none_of_lt ?_
          rw [List.forall_mem_cons]
          exact ⟨before, fun entry present =>
            Std.TransCmp.lt_trans before (headFirst entry present)⟩
        rw [lookup_cons_self, absent]
      next same =>
        obtain rfl := Std.LawfulEqCmp.eq_of_compare same
        rw [lookup_cons_self, lookup_cons_self]
      next after =>
        have different : key ≠ other := by
          rintro rfl
          simp at after
        rw [lookup_cons_of_ne different, lookup_cons_of_ne different, placeRest restSorted]

@[simp] theorem get?_alter_self
    (map : SortedMap κ α)
    (key : κ)
    (update : Option α → α) :
    (map.alter key update).get? key = some (update (map.get? key)) :=
  lookup_place_self key update map.sorted

theorem get?_alter_of_ne
    (map : SortedMap κ α)
    {key other : κ}
    (different : other ≠ key)
    (update : Option α → α) :
    (map.alter key update).get? other = map.get? other :=
  lookup_place_of_ne different update map.entries

omit [Std.LawfulEqOrd κ] in
/-- The first entry that passes a test is the one with the least key among those that do. -/
theorem find?_entries_eq_some_iff
    {map : SortedMap κ α}
    {test : κ × α → Bool}
    {entry : κ × α} :
    map.entries.find? test = some entry ↔
      entry ∈ map.entries ∧ test entry = true
        ∧ ∀ other ∈ map.entries, test other = true →
          other = entry ∨ compare entry.1 other.1 = .lt := by
  have least {found : κ × α} (first : map.entries.find? test = some found) :
      ∀ other ∈ map.entries, test other = true →
        other = found ∨ compare found.1 other.1 = .lt := by
    obtain ⟨_, before, after, split, noneBefore⟩ := List.find?_eq_some_iff_append.1 first
    have sorted := map.sorted
    rw [split] at sorted ⊢
    intro other present passes
    rcases List.mem_append.1 present with earlier | notEarlier
    · have fails := noneBefore other earlier
      rw [passes] at fails
      contradiction
    · rcases List.mem_cons.1 notEarlier with same | later
      · exact .inl same
      · exact .inr ((List.pairwise_cons.1 (List.pairwise_append.1 sorted).2.1).1 other later)
  constructor
  · intro first
    exact ⟨List.mem_of_find?_eq_some first, List.find?_some first, least first⟩
  · rintro ⟨present, passes, isLeast⟩
    cases first : map.entries.find? test with
    | none => exact absurd passes (by simpa using List.find?_eq_none.1 first entry present)
    | some found =>
        rcases isLeast found (List.mem_of_find?_eq_some first) (List.find?_some first) with
          rfl | before
        · rfl
        · rcases least first entry present passes with rfl | after
          · rfl
          · rw [Std.OrientedCmp.gt_iff_lt.2 before] at after
            contradiction

omit [Std.LawfulEqOrd κ] in
/-- An entry whose key comes after all others goes to the end. -/
theorem place_of_gt
    {key : κ}
    (update : Option α → α)
    {entries : List (κ × α)}
    (after : ∀ entry ∈ entries, compare entry.1 key = .lt) :
    place key update entries = entries ++ [(key, update none)] := by
  induction entries with
  | nil => rfl
  | cons head rest placeRest =>
      obtain ⟨headBefore, restBefore⟩ := List.forall_mem_cons.1 after
      rw [place, Std.OrientedCmp.gt_iff_lt.2 headBefore]
      exact congrArg _ (placeRest restBefore)

omit [Std.LawfulEqOrd κ] in
/-- Entries that are stored in the order of their keys are kept as they are. -/
theorem entries_foldl_insert
    (map : SortedMap κ α)
    {entries : List (κ × α)}
    (sorted : (map.entries ++ entries).Pairwise fun earlier later =>
      compare earlier.1 later.1 = .lt) :
    (entries.foldl (fun map entry => map.insert entry.1 entry.2) map).entries =
      map.entries ++ entries := by
  induction entries generalizing map with
  | nil => exact (List.append_nil _).symm
  | cons entry rest insertRest =>
      have inserted : (map.insert entry.1 entry.2).entries = map.entries ++ [entry] := by
        refine place_of_gt _ ?_
        intro stored present
        exact (List.pairwise_append.1 sorted).2.2 stored present entry List.mem_cons_self
      have sameEntries : map.entries ++ entry :: rest = map.entries ++ [entry] ++ rest := by
        rw [List.append_assoc, List.singleton_append]
      rw [List.foldl_cons, insertRest (map.insert entry.1 entry.2), inserted, sameEntries]
      rwa [inserted, ← sameEntries]

omit [Std.LawfulEqOrd κ] in
/-- A map is the one of its entries. -/
theorem ofList_entries (map : SortedMap κ α) : ofList map.entries = map :=
  ext_entries (entries_foldl_insert empty map.sorted)

theorem get?_insert
    [DecidableEq κ]
    (map : SortedMap κ α)
    (key other : κ)
    (value : α) :
    (map.insert key value).get? other = if other = key then some value else map.get? other := by
  unfold insert
  by_cases same : other = key
  · subst same
    rw [get?_alter_self, if_pos rfl]
  · rw [get?_alter_of_ne map same, if_neg same]

theorem forall_get?_foldl_insert
    {property : α → Prop}
    {entries : List (κ × α)}
    (common : ∀ entry ∈ entries, property entry.2)
    (map : SortedMap κ α)
    (stored : ∀ key value, map.get? key = some value → property value) :
    ∀ key value, (entries.foldl (fun map entry => map.insert entry.1 entry.2) map).get? key =
      some value → property value := by
  induction entries generalizing map with
  | nil => exact stored
  | cons entry rest storedRest =>
      obtain ⟨isCommon, restCommon⟩ := List.forall_mem_cons.1 common
      refine storedRest restCommon (map.insert entry.1 entry.2) ?_
      intro key value found
      classical
      rw [get?_insert] at found
      split at found
      · rwa [← Option.some.inj found]
      · exact stored key value found

/-- What all entries have in common is found under every key. -/
theorem forall_get?_ofList
    {property : α → Prop}
    {entries : List (κ × α)}
    (common : ∀ entry ∈ entries, property entry.2)
    {key : κ}
    {value : α}
    (found : (ofList entries).get? key = some value) :
    property value :=
  forall_get?_foldl_insert common empty (by simp) key value found

/-- Storing under a key that has a value changes nothing. -/
theorem get?_insertNew
    [DecidableEq κ]
    (map : SortedMap κ α)
    (key other : κ)
    (value : α) :
    (map.insertNew key value).get? other =
      (map.get? other).or (if other = key then some value else none) := by
  unfold insertNew
  by_cases same : other = key
  · subst same
    rw [get?_alter_self, if_pos rfl]
    cases map.get? other <;> rfl
  · rw [get?_alter_of_ne map same, if_neg same, Option.or_none]

/-- Values that are pushed one after the other are kept in that order under each key. -/
theorem get?_foldl_push
    [DecidableEq κ]
    (entries : List (κ × α))
    (map : SortedMap κ (List α))
    (key : κ) :
    (entries.foldl (fun map entry => map.push entry.1 entry.2) map).get? key =
      if (entries.filter (·.1 = key)).isEmpty then map.get? key
      else some ((map.get? key).getD [] ++ (entries.filter (·.1 = key)).map Prod.snd) := by
  induction entries generalizing map with
  | nil => rfl
  | cons entry rest pushRest =>
      rw [List.foldl_cons, pushRest, push]
      by_cases same : entry.1 = key
      · subst same
        rw [get?_alter_self, List.filter_cons_of_pos (by simp)]
        split
        next noMore => simp [List.isEmpty_iff.1 noMore]
        next => simp
      · rw [get?_alter_of_ne map (Ne.symm same), List.filter_cons_of_neg (by simpa using same)]

omit [Std.LawfulEqOrd κ] in
/-- Pushing values loses and repeats none of them. -/
theorem flatten_values_foldl_push
    (entries : List (κ × α))
    (map : SortedMap κ (List α)) :
    (entries.foldl (fun map entry => map.push entry.1 entry.2) map).values.flatten.Perm
      (map.values.flatten ++ entries.map Prod.snd) := by
  induction entries generalizing map with
  | nil => simp
  | cons entry rest pushRest =>
      rw [List.foldl_cons, List.map_cons]
      have pushed : (map.push entry.1 entry.2).values.flatten.Perm
          (map.values.flatten ++ [entry.2]) :=
        flatten_values_place entry.1 entry.2 map.entries
      refine (pushRest _).trans ((pushed.append_right _).trans ?_)
      rw [List.append_assoc, List.singleton_append]

end Ordered

end SortedMap
end ManifestPolicy
