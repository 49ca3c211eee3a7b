/-!
# Maps kept in key order

A finite map stored as its entries in strictly increasing key order. Two maps
with the same contents are therefore the same value, and walking a map visits
its keys in order. The invariant is carried by the type, so every operation
below re-establishes it.
-/

namespace ManifestPolicy

/-- A finite map whose entries are listed in strictly increasing key order. -/
structure SortedMap (κ : Type) (α : Type) [Ord κ] where
  entries : List (κ × α)
  sorted : entries.Pairwise fun earlier later => compare earlier.1 later.1 = .lt

namespace SortedMap

variable {κ α β : Type} [Ord κ]

theorem ext_entries
    {left right : SortedMap κ α}
    (sameEntries : left.entries = right.entries) :
    left = right := by
  cases left
  cases right
  cases sameEntries
  rfl

instance [DecidableEq κ] [DecidableEq α] : DecidableEq (SortedMap κ α) :=
  fun left right =>
    if sameEntries : left.entries = right.entries then
      .isTrue (ext_entries sameEntries)
    else
      .isFalse fun same => sameEntries (congrArg entries same)

/-- The map without entries. -/
def empty : SortedMap κ α := ⟨[], .nil⟩

instance : Inhabited (SortedMap κ α) := ⟨empty⟩

@[simp] theorem entries_empty : (empty : SortedMap κ α).entries = [] := rfl

/-- Number of keys. -/
def size (map : SortedMap κ α) : Nat := map.entries.length

/-- Whether there is no key. -/
def isEmpty (map : SortedMap κ α) : Bool := map.entries.isEmpty

/-- The keys, in increasing order. -/
def keys (map : SortedMap κ α) : List κ := map.entries.map Prod.fst

/-- The values, in the order of their keys. -/
def values (map : SortedMap κ α) : List α := map.entries.map Prod.snd

/-- The value stored under a key. -/
def get? (map : SortedMap κ α) (key : κ) : Option α :=
  (map.entries.find? fun entry => compare key entry.1 == .eq).map Prod.snd

/-- Whether a key has a value. -/
def contains (map : SortedMap κ α) (key : κ) : Bool := (map.get? key).isSome

/-- Change the entry of one key in an ordered list of entries, adding it in
its place when it is missing. -/
def place (key : κ) (update : Option α → α) : List (κ × α) → List (κ × α)
  | [] => [(key, update none)]
  | (other, value) :: rest =>
      match compare key other with
      | .lt => (key, update none) :: (other, value) :: rest
      | .eq => (other, update (some value)) :: rest
      | .gt => (other, value) :: place key update rest

theorem place_key
    {key : κ}
    {update : Option α → α}
    {entries : List (κ × α)}
    {entry : κ × α}
    (present : entry ∈ place key update entries) :
    entry.1 = key ∨ entry.1 ∈ entries.map Prod.fst := by
  induction entries with
  | nil => simp_all [place]
  | cons head rest placeRest =>
      obtain ⟨other, value⟩ := head
      unfold place at present
      split at present
      · simp only [List.mem_cons] at present
        rcases present with rfl | rfl | present
        · exact .inl rfl
        · simp
        · exact .inr (by simp; exact .inr ⟨_, present⟩)
      · simp only [List.mem_cons] at present
        rcases present with rfl | present
        · simp
        · exact .inr (by simp; exact .inr ⟨_, present⟩)
      · simp only [List.mem_cons] at present
        rcases present with rfl | present
        · simp
        · rcases placeRest present with same | earlier
          · exact .inl same
          · exact .inr (by simp only [List.map_cons, List.mem_cons]; exact .inr earlier)

theorem place_sorted
    [Std.TransOrd κ]
    (key : κ)
    (update : Option α → α)
    {entries : List (κ × α)}
    (sorted : entries.Pairwise fun earlier later => compare earlier.1 later.1 = .lt) :
    (place key update entries).Pairwise fun earlier later =>
      compare earlier.1 later.1 = .lt := by
  induction entries with
  | nil => simp [place]
  | cons head rest placeRest =>
      obtain ⟨other, value⟩ := head
      have restSorted := List.Pairwise.of_cons sorted
      have otherFirst := (List.pairwise_cons.1 sorted).1
      unfold place
      split
      next before =>
        refine .cons ?_ sorted
        intro entry present
        rcases List.mem_cons.1 present with rfl | present
        · exact before
        · exact Std.TransCmp.lt_trans before (otherFirst entry present)
      next same =>
        exact .cons otherFirst restSorted
      next after =>
        refine .cons ?_ (placeRest restSorted)
        intro entry present
        rcases place_key present with same | earlier
        · rw [same]
          exact Std.OrientedCmp.gt_iff_lt.1 after
        · obtain ⟨sibling, siblingPresent, sameKey⟩ := List.mem_map.1 earlier
          rw [← sameKey]
          exact otherFirst sibling siblingPresent

section Ordered

variable [Std.TransOrd κ]

/-- Change the entry of one key, adding it when it is missing. -/
def alter (map : SortedMap κ α) (key : κ) (update : Option α → α) : SortedMap κ α :=
  ⟨place key update map.entries, place_sorted key update map.sorted⟩

/-- Store a value under a key, replacing an earlier one. -/
def insert (map : SortedMap κ α) (key : κ) (value : α) : SortedMap κ α :=
  map.alter key fun _ => value

/-- Store a value under a key that has none yet. -/
def insertNew (map : SortedMap κ α) (key : κ) (value : α) : SortedMap κ α :=
  map.alter key fun stored => stored.getD value

/-- The map of a list of entries, where the last value of a key counts. -/
def ofList (entries : List (κ × α)) : SortedMap κ α :=
  entries.foldl (fun map entry => map.insert entry.1 entry.2) empty

/-- Append a value to the list stored under a key. -/
def push (map : SortedMap κ (List α)) (key : κ) (value : α) : SortedMap κ (List α) :=
  map.alter key fun stored => stored.getD [] ++ [value]

end Ordered

end SortedMap

end ManifestPolicy
