import Mathlib.Data.List.Forall2

/-!
# Reading items one by one

A step that goes on from what another has read succeeds when both do. A list is read item
by item, and the first item that cannot be read ends it. Reading succeeds exactly when every
item is read, and its results are those of the items, in order.
-/

namespace ManifestPolicy

variable {α β ε : Type}

/-- A step that succeeds after another succeeds on what the first one gave. -/
theorem bind_eq_ok
    {first : Except ε α}
    {next : α → Except ε β}
    {result : β}
    (succeeds : first.bind next = .ok result) :
    ∃ value, first = .ok value ∧ next value = .ok result := by
  cases first with
  | error error => contradiction
  | ok value => exact ⟨value, rfl, succeeds⟩

/-- A result that is changed after it has been read. -/
theorem map_eq_ok
    {change : α → β}
    {first : Except ε α}
    {result : β}
    (succeeds : first.map change = .ok result) :
    ∃ value, first = .ok value ∧ change value = result := by
  cases first with
  | error error => contradiction
  | ok value => exact ⟨value, rfl, Except.ok.inj succeeds⟩

theorem mapError_eq_ok_iff
    {δ : Type}
    {change : ε → δ}
    {first : Except ε α}
    {result : α} :
    first.mapError change = .ok result ↔ first = .ok result := by
  cases first <;> simp [Except.mapError]

/-- A traversal that succeeds has read every item, in order. -/
theorem forall₂_of_mapM
    {read : α → Except ε β}
    {items : List α}
    {results : List β}
    (reads : items.mapM read = .ok results) :
    List.Forall₂ (fun item result => read item = .ok result) items results := by
  induction items generalizing results with
  | nil =>
      obtain rfl := Except.ok.inj reads
      exact .nil
  | cons item rest readsRest =>
      rw [List.mapM_cons] at reads
      cases isFirst : read item with
      | error failure => simp [isFirst, bind, Except.bind] at reads
      | ok first =>
          cases areRest : rest.mapM read with
          | error failure => simp [isFirst, areRest, bind, Except.bind] at reads
          | ok others =>
              simp only [isFirst, areRest, bind, Except.bind, pure, Except.pure] at reads
              obtain rfl := Except.ok.inj reads
              exact .cons isFirst (readsRest areRest)

/-- A traversal fails if and only if some item cannot be read. -/
theorem mapM_error_iff
    {read : α → Except ε β}
    {items : List α} :
    (∃ error, items.mapM read = .error error) ↔
      ∃ item ∈ items, ∃ error, read item = .error error := by
  induction items with
  | nil => simp [pure, Except.pure]
  | cons item rest failsRest =>
      rw [List.mapM_cons, List.exists_mem_cons_iff, ← failsRest]
      cases isFirst : read item with
      | error error => simp [bind, Except.bind]
      | ok first =>
          cases areRest : rest.mapM read <;>
            simp [bind, Except.bind, pure, Except.pure]

/-- A traversal in which every item is read succeeds. -/
theorem mapM_eq_ok_of_forall₂
    {read : α → Except ε β}
    {items : List α}
    {results : List β}
    (reads : List.Forall₂ (fun item result => read item = .ok result) items results) :
    items.mapM read = .ok results := by
  induction reads with
  | nil => rfl
  | cons isFirst _ readsRest =>
      rw [List.mapM_cons, isFirst, readsRest]
      rfl

theorem exists_of_forall₂
    {relation : α → β → Prop}
    {items : List α}
    {results : List β}
    (related : List.Forall₂ relation items results)
    {item : α}
    (present : item ∈ items) :
    ∃ result ∈ results, relation item result := by
  induction related with
  | nil => contradiction
  | cons isFirst _ relatedRest =>
      rcases List.mem_cons.1 present with rfl | present
      · exact ⟨_, List.mem_cons_self, isFirst⟩
      · obtain ⟨result, isResult, isRelated⟩ := relatedRest present
        exact ⟨result, List.mem_cons_of_mem _ isResult, isRelated⟩

theorem exists_forall₂
    {relation : α → β → Prop}
    {items : List α}
    (related : ∀ item ∈ items, ∃ result, relation item result) :
    ∃ results, List.Forall₂ relation items results := by
  induction items with
  | nil => exact ⟨[], .nil⟩
  | cons item rest relatedRest =>
      obtain ⟨isFirst, areRest⟩ := List.forall_mem_cons.1 related
      obtain ⟨first, isFirst⟩ := isFirst
      obtain ⟨others, areOthers⟩ := relatedRest areRest
      exact ⟨first :: others, .cons isFirst areOthers⟩

/-- Parts that are joined after a traversal are joined one at a time. -/
theorem flatten_mapM_cons
    (read : α → Except ε (List β))
    (item : α)
    (rest : List α) :
    ((item :: rest).mapM read).map List.flatten =
      (read item).bind fun first => ((rest.mapM read).map List.flatten).map (first ++ ·) := by
  rw [List.mapM_cons]
  cases read item with
  | error error => rfl
  | ok first => cases rest.mapM read <;> rfl

/-- Items that are read as nothing can be left out. -/
theorem flatten_mapM_filter
    {read : α → Except ε (List β)}
    {select : α → Bool}
    (nothing : ∀ item, select item = false → read item = .ok [])
    (items : List α) :
    ((items.filter select).mapM read).map List.flatten =
      (items.mapM read).map List.flatten := by
  induction items with
  | nil => rfl
  | cons item rest sameRest =>
      cases selected : select item with
      | true =>
          rw [List.filter_cons_of_pos selected, flatten_mapM_cons, flatten_mapM_cons, sameRest]
      | false =>
          rw [List.filter_cons_of_neg (Bool.eq_false_iff.1 selected), flatten_mapM_cons,
            nothing item selected, sameRest]
          cases rest.mapM read <;> rfl

end ManifestPolicy
