import ManifestPolicy.Proofs.Yaml.Moved
import ManifestPolicy.Proofs.Yaml.Reaching

/-!
# Texts in a setting

A text may be a part of a longer one: tokens, characters and lines lie before it, and a line
that begins a document comes after it. What is read of it is the same in every setting, up to
the places where it is read.
-/

namespace ManifestPolicy
namespace Yaml

open Cursor

/-- What lies around a text: the tokens of what is before it, the number of characters and
lines of that, and what comes after it. -/
structure Setting where
  before : Array Token := #[]
  index : Nat := 0
  line : Nat := 0
  tail : List Char := []

namespace Setting

variable (setting : Setting)

/-- A place of a text, in the setting of the text. -/
def cursor (cursor : Cursor) : Cursor :=
  (cursor.followedBy setting.tail).moved setting.index setting.line

/-- A text may stand in a setting if nothing comes after it, or if it ends with a line break
and a line that begins a document comes after it. -/
def Fits (cursor : Cursor) : Prop :=
  setting.tail = [] ∨ cursor.Closed ∧ Follows setting.tail

/-- The same of a text that has not ended. -/
def Sits (cursor : Cursor) : Prop :=
  setting.tail = [] ∨ cursor.Open ∧ Follows setting.tail

variable {setting}

/-- A place with text left is a place where the text fits. -/
theorem Sits.fits
    {cursor : Cursor}
    (sits : setting.Sits cursor) :
    setting.Fits cursor := by
  rcases sits with alone | ⟨isOpen, follows⟩
  · exact .inl alone
  · exact .inr ⟨isOpen.closed, follows⟩

/-- When nothing follows a text, a setting only moves it. -/
theorem cursor_of_alone
    (alone : setting.tail = [])
    (cursor : Cursor) :
    setting.cursor cursor = cursor.moved setting.index setting.line := by
  rw [Setting.cursor, alone, followedBy_nil]

/-- Text is left, so the text has not ended. -/
theorem Fits.sits
    {cursor : Cursor}
    (fits : setting.Fits cursor)
    (remains : cursor.rest ≠ []) :
    setting.Sits cursor := by
  rcases fits with alone | ⟨isOpen | ended, follows⟩
  · exact .inl alone
  · exact .inr ⟨isOpen, follows⟩
  · exact absurd ended.1 remains

/-- What is read of a text is the same in every setting. -/
theorem Fits.reads
    {read : Cursor → Option (α × Cursor)}
    (movable : Movable read)
    {cursor : Cursor}
    (stops : cursor.Closed → Stops read cursor)
    (fits : setting.Fits cursor) :
    read (setting.cursor cursor) =
        (read cursor).map (fun found => (found.1, setting.cursor found.2))
      ∧ ∀ value next, read cursor = some (value, next) → setting.Fits next := by
  rcases fits with alone | ⟨closed, follows⟩
  · refine ⟨?_, fun _ _ _ => .inl alone⟩
    simp only [cursor_of_alone alone]
    exact movable setting.index setting.line cursor
  · obtain ⟨outcome, ends, reads⟩ := stops closed
    have here : read cursor = outcome := by
      have same := reads 0 (Nat.le_refl 0) [] follows_nil
      simpa using same
    refine ⟨?_, fun value next found => .inr ⟨ends value next (here ▸ found), follows⟩⟩
    have inTail : read (cursor.followedBy setting.tail) = outcome.map fun found =>
        (found.1, found.2.followedBy setting.tail) :=
      reads 0 (Nat.le_refl 0) setting.tail follows
    rw [Setting.cursor, movable, inTail, here, Option.map_map]
    rfl

/-- The same of what is read while text is left. -/
theorem Sits.reads
    {read : Cursor → Option (α × Cursor)}
    (movable : Movable read)
    {cursor : Cursor}
    (stops : cursor.Open → Stops read cursor)
    (sits : setting.Sits cursor) :
    read (setting.cursor cursor) =
        (read cursor).map (fun found => (found.1, setting.cursor found.2))
      ∧ ∀ value next, read cursor = some (value, next) → setting.Fits next := by
  rcases sits with alone | ⟨isOpen, follows⟩
  · refine ⟨?_, fun _ _ _ => .inl alone⟩
    simp only [cursor_of_alone alone]
    exact movable setting.index setting.line cursor
  · exact Fits.reads movable (fun _ => stops isOpen) (.inr ⟨isOpen.closed, follows⟩)

@[simp] theorem index_cursor (cursor : Cursor) :
    (setting.cursor cursor).index = cursor.index + setting.index := rfl

@[simp] theorem line_cursor (cursor : Cursor) :
    (setting.cursor cursor).line = cursor.line + setting.line := rfl

@[simp] theorem column_cursor (cursor : Cursor) :
    (setting.cursor cursor).column = cursor.column := rfl

theorem rest_cursor (cursor : Cursor) :
    (setting.cursor cursor).rest = cursor.rest ++ setting.tail := rfl

theorem length_cursor (cursor : Cursor) :
    (setting.cursor cursor).rest.length = cursor.rest.length + setting.tail.length := by
  rw [rest_cursor, List.length_append]

/-- Whether a character of a kind that begins no document is next does not depend on the
setting. -/
theorem Fits.peek?_any
    {cursor : Cursor}
    (fits : setting.Fits cursor)
    {kind : Char → Bool}
    (other : kind '-' = false) :
    (setting.cursor cursor).peek?.any kind = cursor.peek?.any kind := by
  rcases fits with alone | ⟨closed, follows⟩
  · rw [cursor_of_alone alone, peek?_moved]
  · rw [Setting.cursor, peek?_moved]
    rcases closed with isOpen | ended
    · obtain ⟨character, next, _⟩ := isOpen.peek
      have here := next []
      rw [followedBy_nil] at here
      rw [next, here]
    · have nothing : cursor.peek? = none := by simp [Cursor.peek?, ended.1]
      rw [nothing]
      rcases follows.peek? ended.1 with none | marks
      · rw [none]
      · rw [marks, Option.any_some, other]
        rfl

/-- A line break is passed over in every setting. -/
theorem Sits.skipBreak
    {cursor : Cursor}
    (sits : setting.Sits cursor) :
    (setting.cursor cursor).skipBreak = setting.cursor cursor.skipBreak
      ∧ setting.Fits cursor.skipBreak := by
  rcases sits with alone | ⟨isOpen, follows⟩
  · simp only [cursor_of_alone alone, skipBreak_moved]
    exact ⟨trivial, .inl alone⟩
  · refine ⟨?_, .inr ⟨isOpen.readBreak_closed, follows⟩⟩
    rw [Setting.cursor, skipBreak_moved, skipBreak_followedBy isOpen]
    rfl

/-- Whether a gap comes next is decided inside the text, since the text ends with a line break. -/
theorem Sits.gapAt
    {cursor : Cursor}
    (sits : setting.Sits cursor) :
    (setting.cursor cursor).gapAt 0 = cursor.gapAt 0 := by
  rcases sits with alone | ⟨isOpen, _⟩
  · rw [cursor_of_alone alone, gapAt_moved]
  · obtain ⟨character, next, _⟩ := isOpen.peek
    have here := next []
    rw [followedBy_nil] at here
    have same : (setting.cursor cursor).peek? = cursor.peek? := by
      rw [Setting.cursor, peek?_moved, next, here]
    simpa [Cursor.gapAt, endsOr, peekAt?, Cursor.peek?, List.head?_eq_getElem?] using
      congrArg (Option.all isGap) same

/-- Whether a line that begins or ends a document starts here is decided inside the text. -/
theorem Sits.atMarker
    {cursor : Cursor}
    (sits : setting.Sits cursor)
    {mark : Char}
    (inside : mark ≠ '\n') :
    (setting.cursor cursor).atMarker mark = cursor.atMarker mark := by
  rcases sits with alone | ⟨isOpen, _⟩
  · rw [cursor_of_alone alone, atMarker_moved]
  · rw [Setting.cursor, atMarker_moved, isOpen.atMarker_followedBy inside]

/-! ## Characters inside a line -/

/-- A place of a text in a setting where a character that ends no line comes next. -/
structure At (setting : Setting) (cursor : Cursor) (character : Char) : Prop where
  sits : setting.Sits cursor
  next : cursor.peek? = some character
  inside : isBreak character = false

namespace At

variable {cursor : Cursor} {character : Char} (here : setting.At cursor character)

include here

theorem peek? : (setting.cursor cursor).peek? = some character := by
  rw [Setting.cursor, peek?_moved, Cursor.peek?, rest_followedBy, List.head?_append]
  have next := here.next
  rw [Cursor.peek?] at next
  rw [next]
  rfl

theorem ne_lineFeed : character ≠ '\n' := by
  rintro rfl
  exact absurd here.inside (by decide)

theorem rest_eq : ∃ later, cursor.rest = character :: later :=
  List.head?_eq_some_iff.1 here.next

theorem isAt : cursor.isAt character = true := by
  rw [Cursor.isAt, here.next]
  exact beq_self_eq_true _

theorem advance : (setting.cursor cursor).advance 1 = setting.cursor (cursor.advance 1) := by
  obtain ⟨later, text⟩ := here.rest_eq
  rw [Setting.cursor, advance_moved, advance_followedBy (by simp [text])]
  rfl

theorem sits_advance : setting.Sits (cursor.advance 1) := by
  rcases here.sits with alone | ⟨isOpen, follows⟩
  · exact .inl alone
  · exact .inr ⟨isOpen.advance_one here.next here.ne_lineFeed, follows⟩

theorem gapAt : (setting.cursor cursor).gapAt 1 = cursor.gapAt 1 := by
  have after : ∀ cursor : Cursor, cursor.gapAt 1 = (cursor.advance 1).gapAt 0 := by
    intro cursor
    simp [Cursor.gapAt, endsOr, peekAt?]
  rw [after, after, here.advance, here.sits_advance.gapAt]

end At

end Setting
end Yaml
end ManifestPolicy
