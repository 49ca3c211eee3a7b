import ManifestPolicy.Proofs.Yaml.Cursor

/-!
# Reading that stops where a document begins

A step of reading over several lines stops when it gives the same, and leaves off at the
same place of the text, whether the text ends or a line that begins a document comes after
it. Such steps compose.
-/

namespace ManifestPolicy
namespace Yaml

open Cursor

/-- What may come after a text: nothing, or a line that begins a document. -/
def Follows (tail : List Char) : Prop := tail = [] ∨ ∃ more, tail = marked more

theorem follows_nil : Follows [] := .inl rfl

theorem follows_marked (more : List Char) : Follows (marked more) := .inr ⟨more, rfl⟩

@[simp] theorem followedBy_nil (cursor : Cursor) : cursor.followedBy [] = cursor := by
  simp [followedBy]

/-- At the end of a text nothing follows, or the dash that begins a document. -/
theorem Follows.peek?
    {tail : List Char}
    (follows : Follows tail)
    {cursor : Cursor}
    (ended : cursor.rest = []) :
    (cursor.followedBy tail).peek? = none ∨ (cursor.followedBy tail).peek? = some '-' := by
  rcases follows with rfl | ⟨more, rfl⟩
  · simp [Cursor.peek?, ended]
  · simp [Cursor.peek?, ended, marked]

/-- What begins no line that begins a document is next in a text if it is in the text that
goes on. -/
theorem Follows.isAt
    {tail : List Char}
    (follows : Follows tail)
    {cursor : Cursor}
    (closed : cursor.Closed)
    {character : Char}
    (other : character ≠ '-') :
    (cursor.followedBy tail).isAt character = cursor.isAt character := by
  rcases closed with isOpen | ended
  · exact isOpen.isAt_followedBy tail character
  · rcases follows with rfl | ⟨more, rfl⟩
    · rw [followedBy_nil]
    · simpa [Cursor.isAt, Cursor.peek?, ended.1, marked] using fun same => other same.symm

/-- With enough fuel, what is read at a place is the same whatever follows the text, and
reading leaves off inside the text or at its end. -/
def StopsWithin
    (read : Nat → Cursor → Option (α × Cursor))
    (least : Nat)
    (cursor : Cursor) : Prop :=
  ∃ outcome : Option (α × Cursor),
    (∀ value next, outcome = some (value, next) → next.Closed)
      ∧ ∀ fuel, least ≤ fuel → ∀ tail, Follows tail →
        read fuel (cursor.followedBy tail) =
          outcome.map fun found => (found.1, found.2.followedBy tail)

/-- The same of what needs no fuel. -/
abbrev Stops (read : Cursor → Option (α × Cursor)) (cursor : Cursor) : Prop :=
  StopsWithin (fun _ => read) 0 cursor

namespace StopsWithin

variable {read : Nat → Cursor → Option (α × Cursor)} {least : Nat} {cursor : Cursor}

/-- A step that fails whatever follows stops. -/
theorem of_none
    (fails : ∀ fuel, least ≤ fuel → ∀ tail, Follows tail →
      read fuel (cursor.followedBy tail) = none) :
    StopsWithin read least cursor := by
  refine ⟨none, fun _ _ impossible => ?_, fails⟩
  contradiction

/-- A step that ends inside the text with one value stops. -/
theorem of_some
    {next : Cursor}
    (value : α)
    (closed : next.Closed)
    (reads : ∀ fuel, least ≤ fuel → ∀ tail, Follows tail →
      read fuel (cursor.followedBy tail) = some (value, next.followedBy tail)) :
    StopsWithin read least cursor := by
  refine ⟨some (value, next), fun _ _ same => ?_, reads⟩
  obtain ⟨_, rfl⟩ := Prod.mk.inj (Option.some.inj same)
  exact closed

/-- A step may begin as another one does further on. -/
theorem of_step
    {later : Nat → Cursor → Option (α × Cursor)}
    {rest : Nat}
    {next : Cursor}
    (stops : StopsWithin later rest next)
    (enough : rest ≤ least)
    (goesOn : ∀ fuel tail, Follows tail →
      read fuel (cursor.followedBy tail) = later fuel (next.followedBy tail)) :
    StopsWithin read least cursor := by
  obtain ⟨outcome, closed, reads⟩ := stops
  refine ⟨outcome, closed, fun fuel isEnough tail follows => ?_⟩
  rw [goesOn fuel tail follows, reads fuel (Nat.le_trans enough isEnough) tail follows]

/-- More fuel does not take a step further. -/
theorem mono
    (stops : StopsWithin read least cursor)
    {greater : Nat}
    (enough : least ≤ greater) :
    StopsWithin read greater cursor :=
  .of_step stops enough fun _ _ _ => rfl

/-- The first piece of fuel may be taken off. -/
theorem of_succ
    (stops : StopsWithin (fun fuel => read (fuel + 1)) least cursor) :
    StopsWithin read (least + 1) cursor := by
  obtain ⟨outcome, closed, reads⟩ := stops
  refine ⟨outcome, closed, fun fuel isEnough tail follows => ?_⟩
  cases fuel with
  | zero => contradiction
  | succ fuel => exact reads fuel (Nat.le_of_succ_le_succ isEnough) tail follows

/-- What is read fails, or it ends at a place of the text. -/
theorem cases
    (stops : StopsWithin read least cursor) :
    (∀ fuel, least ≤ fuel → ∀ tail, Follows tail → read fuel (cursor.followedBy tail) = none)
      ∨ ∃ value next, next.Closed ∧ read least cursor = some (value, next)
        ∧ ∀ fuel, least ≤ fuel → ∀ tail, Follows tail →
          read fuel (cursor.followedBy tail) = some (value, next.followedBy tail) := by
  obtain ⟨outcome, closed, reads⟩ := stops
  cases outcome with
  | none => exact .inl reads
  | some found =>
      refine .inr ⟨found.1, found.2, closed _ _ rfl, ?_, reads⟩
      have here := reads least (Nat.le_refl least) [] follows_nil
      simpa using here

/-- What is read one after the other stops where the last of it does. -/
theorem bind
    {first : Nat → Cursor → Option (β × Cursor)}
    (second : Nat → β → Cursor → Option (α × Cursor))
    (stops : StopsWithin first least cursor)
    (stopsThen : ∀ value next, next.Closed → first least cursor = some (value, next) →
      StopsWithin (fun fuel => second fuel value) least next) :
    StopsWithin
      (fun fuel cursor => (first fuel cursor).bind fun found => second fuel found.1 found.2)
      least cursor := by
  rcases stops.cases with fails | ⟨value, next, closed, here, reads⟩
  · refine .of_none fun fuel enough tail follows => ?_
    simp only [fails fuel enough tail follows, Option.bind_none]
  · obtain ⟨outcome, lastClosed, readsThen⟩ := stopsThen value next closed here
    refine ⟨outcome, lastClosed, fun fuel enough tail follows => ?_⟩
    simp only [reads fuel enough tail follows, Option.bind_some]
    exact readsThen fuel enough tail follows

/-- With fuel that the text gives, none has to be stated. -/
theorem stops
    (within : StopsWithin read least cursor)
    (fuel : Cursor → Nat)
    (enough : ∀ tail, least ≤ fuel (cursor.followedBy tail)) :
    Stops (fun cursor => read (fuel cursor) cursor) cursor := by
  obtain ⟨outcome, closed, reads⟩ := within
  exact ⟨outcome, closed, fun _ _ tail follows => reads _ (enough tail) tail follows⟩

end StopsWithin

namespace Stops

variable {cursor : Cursor}

/-- A step that needs no fuel stops with any. -/
theorem within
    {read : Cursor → Option (α × Cursor)}
    (stops : Stops read cursor)
    (least : Nat) :
    StopsWithin (fun _ => read) least cursor := by
  obtain ⟨outcome, closed, reads⟩ := stops
  exact ⟨outcome, closed, fun fuel _ => reads fuel (Nat.zero_le fuel)⟩

/-- A step within a line does not leave the text. -/
theorem of_inline
    {read : Cursor → Option (α × Cursor)}
    (isInline : Inline read)
    (isOpen : cursor.Open) :
    Stops read cursor := by
  obtain ⟨same, stays⟩ := isInline.open isOpen
  exact ⟨read cursor, fun value next found => (stays value next found).closed,
    fun _ _ tail _ => same tail⟩

end Stops
end Yaml
end ManifestPolicy
