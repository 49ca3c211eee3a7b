import ManifestPolicy.Proofs.Yaml.Documents

/-!
# Lines of a text

Texts are written from left to right, so what has been written is kept with its latest
character first. A text is plain if no line of it begins with a percent sign, with three
dashes or with three points. No directive and no line that begins or ends a document can be
reached in a plain text.
-/

namespace ManifestPolicy
namespace Yaml

/-- Whether a line begins like a directive or like a line that begins or ends a document. -/
def marks : List Char → Bool
  | '%' :: _ => true
  | '-' :: '-' :: '-' :: _ => true
  | '.' :: '.' :: '.' :: _ => true
  | _ => false

/-- What has been written on the last line. -/
def lastLine : List Char → List Char
  | [] => []
  | character :: written => if isBreak character then [] else lastLine written ++ [character]

/-- No line that has been written begins with a mark. -/
def Plain : List Char → Prop
  | [] => True
  | character :: written => Plain written ∧ marks (lastLine (character :: written)) = false

/-- A line that begins with no mark whatever is added to it. -/
def Sealed (line : List Char) : Prop := ∀ more, marks (line ++ more) = false

/-! ## Lines -/

/-- Such a line may be continued. -/
theorem Sealed.append
    {line : List Char}
    (isSealed : Sealed line)
    (more : List Char) :
    Sealed (line ++ more) := by
  intro further
  rw [List.append_assoc]
  exact isSealed (more ++ further)

/-- Such a line begins with no mark as it is. -/
theorem Sealed.unmarked
    {line : List Char}
    (isSealed : Sealed line) :
    marks line = false := by
  have unmarked := isSealed []
  rwa [List.append_nil] at unmarked

/-- A line that begins with another character than a percent sign, a dash or a dot is sealed at
once. -/
theorem sealed_cons
    {first : Char}
    (other : first ≠ '%' ∧ first ≠ '-' ∧ first ≠ '.')
    (rest : List Char) :
    Sealed (first :: rest) := by
  intro more
  rw [List.cons_append, marks.eq_def]
  split <;> simp_all

/-- A line that does not begin with a mark never will once another character has been added
that no mark holds. -/
theorem sealed_of_other
    {line : List Char}
    (unmarked : marks line = false)
    {character : Char}
    (other : character ≠ '%' ∧ character ≠ '-' ∧ character ≠ '.') :
    Sealed (line ++ [character]) := by
  intro more
  match line, unmarked with
  | [], _ => exact sealed_cons other [] more
  | [first], unmarked =>
      rw [marks.eq_def] at unmarked ⊢
      split at unmarked <;> split <;> simp_all
  | [first, second], unmarked =>
      rw [marks.eq_def] at unmarked ⊢
      split at unmarked <;> split <;> simp_all
  | first :: second :: third :: rest, unmarked =>
      rw [marks.eq_def] at unmarked ⊢
      split at unmarked <;> split <;> simp_all

/-- What a line begins with it keeps. -/
theorem marks_of_append
    {line more : List Char}
    (unmarked : marks (line ++ more) = false) :
    marks line = false := by
  cases marked : marks line with
  | false => rfl
  | true =>
      rw [marks.eq_def] at marked
      split at marked
      · simp [marks] at unmarked
      · simp [marks] at unmarked
      · simp [marks] at unmarked
      · contradiction

/-! ## Texts -/

theorem lastLine_of_break
    {character : Char}
    (breaks : isBreak character = true)
    (written : List Char) :
    lastLine (character :: written) = [] := by
  rw [lastLine, if_pos breaks]

theorem lastLine_of_not_break
    {character : Char}
    (inLine : isBreak character = false)
    (written : List Char) :
    lastLine (character :: written) = lastLine written ++ [character] := by
  rw [lastLine, if_neg (by rw [inLine]; exact Bool.false_ne_true)]

theorem Plain.unmarked
    {written : List Char}
    (plain : Plain written) :
    marks (lastLine written) = false := by
  cases written with
  | nil => rfl
  | cons character written => exact plain.2

/-- What has been written plainly was plain at every moment. -/
theorem Plain.of_append
    {later written : List Char}
    (plain : Plain (later ++ written)) :
    Plain written := by
  induction later with
  | nil => exact plain
  | cons character later plainLater => exact plainLater plain.1

/-- Any line may be ended: the next one is empty. -/
theorem Plain.endLine
    {written : List Char}
    (plain : Plain written)
    {character : Char}
    (breaks : isBreak character = true) :
    Plain (character :: written) := by
  refine ⟨plain, ?_⟩
  rw [lastLine_of_break breaks]
  rfl

/-- What has been written when text has been added to the last line. -/
theorem lastLine_append
    {text : List Char}
    (inLine : ∀ character ∈ text, isBreak character = false)
    (written : List Char) :
    lastLine (text.reverse ++ written) = lastLine written ++ text := by
  induction text generalizing written with
  | nil => rw [List.reverse_nil, List.nil_append, List.append_nil]
  | cons character text lineRest =>
      rw [List.forall_mem_cons] at inLine
      rw [List.reverse_cons, List.append_assoc, List.singleton_append, lineRest inLine.2,
        lastLine_of_not_break inLine.1, List.append_assoc, List.singleton_append]

/-- Characters may be written on a line that begins with no mark when it has them. -/
theorem Plain.append
    {written : List Char}
    (plain : Plain written)
    {text : List Char}
    (inLine : ∀ character ∈ text, isBreak character = false)
    (unmarked : marks (lastLine written ++ text) = false) :
    Plain (text.reverse ++ written) := by
  induction text generalizing written with
  | nil => exact plain
  | cons character text plainRest =>
      rw [List.forall_mem_cons] at inLine
      have isLine := lastLine_of_not_break inLine.1 written
      have unmarkedAll : marks ((lastLine written ++ [character]) ++ text) = false := by
        rwa [List.append_assoc, List.singleton_append]
      rw [List.reverse_cons, List.append_assoc, List.singleton_append]
      refine plainRest ⟨plain, ?_⟩ inLine.2 ?_
      · rw [isLine]
        exact marks_of_append unmarkedAll
      · rwa [isLine]

/-! ## Places of a text -/

open Lexer Cursor

/-- A place lies behind what has been passed over of a text, and at the start of a line if its
column says so. -/
def At (text : List Char) (place : Cursor) : Prop :=
  ∃ passed, text = passed.reverse ++ place.rest ∧ (place.column = 0 → lastLine passed = [])

/-- A place that is reached on a line of the text is a place of the text. -/
theorem At.advance
    {text : List Char}
    {place : Cursor}
    (isAt : At text place)
    (count : Nat) :
    At text (place.advance count) := by
  obtain ⟨passed, isText, starts⟩ := isAt
  refine ⟨(place.rest.take count).reverse ++ passed, ?_, fun column => ?_⟩
  · rw [List.reverse_append, List.reverse_reverse, List.append_assoc, rest_advance,
      List.take_append_drop]
    exact isText
  · have none : count = 0 := by
      simp only [Cursor.advance] at column
      omega
    have here : place.column = 0 := by
      simp only [Cursor.advance] at column
      omega
    rw [none, List.take_zero]
    exact starts here

/-- The place behind a line break is the start of a line of the text. -/
theorem At.skipBreak
    {text : List Char}
    {place : Cursor}
    (isAt : At text place) :
    At text place.skipBreak := by
  obtain ⟨passed, isText, starts⟩ := isAt
  unfold Cursor.skipBreak readBreak
  split
  next rest isRest =>
    refine ⟨'\n' :: '\r' :: passed, ?_, fun _ => rfl⟩
    rw [isText, isRest]
    simp [nextLineAfter]
  next character rest _ isRest =>
    have breaksAfter : isBreak character = true → At text (place.nextLineAfter rest 1) := by
      intro breaks
      refine ⟨character :: passed, ?_, fun _ => lastLine_of_break breaks passed⟩
      rw [isText, isRest]
      simp [nextLineAfter]
    split
    next separates =>
      refine breaksAfter ?_
      simp only [Bool.or_eq_true, beq_iff_eq] at separates
      rcases separates with rfl | rfl <;> rfl
    next =>
      split
      next breaks => exact breaksAfter breaks
      next => exact ⟨passed, isText, starts⟩
  next => exact ⟨passed, isText, starts⟩

/-- In a plain text no line begins with a mark. -/
theorem unmarked_of_plain
    {text : List Char}
    (plain : Plain text.reverse) :
    (fresh text).cursor.Unmarked := by
  intro place reaches
  have start : At text (fresh text).cursor := ⟨[], rfl, fun _ => rfl⟩
  obtain ⟨passed, isText, starts⟩ := @Reaches.preserves (At text)
    (fun _ count isAt => isAt.advance count) (fun _ isAt => isAt.skipBreak) _ _ reaches start
  have begins : ∀ first rest, place.column = 0 → place.rest = first ++ rest →
      (∀ character ∈ first, isBreak character = false) → marks first = false := by
    intro first rest column isRest inLine
    have upToHere : Plain (rest.reverse ++ (first.reverse ++ passed)) := by
      rw [isText, isRest] at plain
      simpa using plain
    have unmarked := upToHere.of_append.unmarked
    rwa [lastLine_append inLine, starts column, List.nil_append] at unmarked
  have noMarker : ∀ character, isBreak character = false →
      marks [character, character, character] = true → place.atMarker character = false := by
    intro character inLine isMark
    cases marker : place.atMarker character with
    | false => rfl
    | true =>
        simp only [atMarker, Bool.and_eq_true, beq_iff_eq] at marker
        obtain ⟨⟨column, three⟩, _⟩ := marker
        have unmarked := begins [character, character, character] (place.rest.drop 3) column
          (by rw [← three, List.take_append_drop]) (by simpa using inLine)
        rw [isMark] at unmarked
        contradiction
  have noDirective : (place.column == 0 && place.isAt '%') = false := by
    cases directive : place.column == 0 && place.isAt '%' with
    | false => rfl
    | true =>
        simp only [Bool.and_eq_true, beq_iff_eq, Cursor.isAt, Cursor.peek?] at directive
        obtain ⟨rest, isRest⟩ := List.head?_eq_some_iff.1 directive.2
        have unmarked := begins ['%'] rest directive.1 isRest (by simp; decide)
        contradiction
  rw [beginsMark, noDirective, atDocumentMarker, noMarker '-' (by decide) rfl,
    noMarker '.' (by decide) rfl]
  rfl

/-- A plain text is tidy. -/
theorem tidy_of_plain
    {text : List Char}
    (plain : Plain text.reverse) :
    Tidy text := by
  refine ⟨unmarked_of_plain plain, unmarked_of_plain ?_⟩
  rw [List.reverse_append]
  exact plain.endLine rfl

end Yaml
end ManifestPolicy
