import ManifestPolicy.Text.Blank
import Mathlib.Data.List.DropRight

/-!
# Cutting off blanks

A text without the blanks at its ends is the one part of it that has blanks on either side and
neither begins nor ends with one.
-/

namespace ManifestPolicy
namespace Text

/-- All characters are blanks. -/
def Blanks (text : List Char) : Prop := ∀ character ∈ text, isBlank character = true

/-- A text neither begins nor ends with a blank. -/
structure Bare (text : List Char) : Prop where
  begins : ∀ character ∈ text.head?, isBlank character = false
  ends : ∀ character ∈ text.getLast?, isBlank character = false

theorem bare_of_forall
    {text : List Char}
    (visible : ∀ character ∈ text, isBlank character = false) :
    Bare text where
  begins character isFirst := visible character (List.mem_of_mem_head? isFirst)
  ends character isLast := visible character (List.mem_of_mem_getLast? isLast)

/-- Blanks before a text make no difference to what is trimmed from its start. -/
theorem trimStart_append
    {before : List Char}
    (blanks : Blanks before)
    (text : List Char) :
    trimStart (before ++ text) = trimStart text :=
  List.dropWhile_append_of_pos blanks

/-- Nor do blanks after it to what is trimmed from its end. -/
theorem trimEnd_append
    {after : List Char}
    (blanks : Blanks after)
    (text : List Char) :
    trimEnd (text ++ after) = trimEnd text := by
  have blanksReversed : ∀ character ∈ after.reverse, isBlank character = true := by
    intro character present
    exact blanks character (List.mem_reverse.1 present)
  rw [trimEnd, List.reverse_append, List.dropWhile_append_of_pos blanksReversed, trimEnd]

theorem trimStart_of_begins
    {text : List Char}
    (begins : ∀ character ∈ text.head?, isBlank character = false) :
    trimStart text = text := by
  cases text with
  | nil => rfl
  | cons first rest => exact List.dropWhile_cons_of_neg (by simp [begins first rfl])

theorem trimEnd_of_ends
    {text : List Char}
    (ends : ∀ character ∈ text.getLast?, isBlank character = false) :
    trimEnd text = text := by
  have begins : ∀ character ∈ text.reverse.head?, isBlank character = false := by
    rwa [List.head?_reverse]
  have kept : text.reverse.dropWhile isBlank = text.reverse := trimStart_of_begins begins
  rw [trimEnd, kept, List.reverse_reverse]

/-- What is trimmed from the start of a text, and where that stops. -/
theorem exists_trimStart (text : List Char) :
    ∃ before, text = before ++ trimStart text ∧ Blanks before
      ∧ ∀ character ∈ (trimStart text).head?, isBlank character = false := by
  refine ⟨text.takeWhile isBlank, List.takeWhile_append_dropWhile.symm, ?_, ?_⟩
  · intro character present
    exact List.mem_takeWhile_imp present
  · intro character isFirst
    have stops := List.head?_dropWhile_not isBlank text
    rw [← trimStart, Option.mem_def.1 isFirst] at stops
    exact stops

/-- What is trimmed from the end of a text, and where that stops. -/
theorem exists_trimEnd (text : List Char) :
    ∃ after, text = trimEnd text ++ after ∧ Blanks after
      ∧ ∀ character ∈ (trimEnd text).getLast?, isBlank character = false := by
  obtain ⟨before, isText, blanks, begins⟩ := exists_trimStart text.reverse
  refine ⟨before.reverse, ?_, ?_, ?_⟩
  · rw [trimEnd, ← List.reverse_append, ← trimStart, ← isText, List.reverse_reverse]
  · intro character present
    exact blanks character (List.mem_reverse.1 present)
  · rw [trimEnd, List.getLast?_reverse]
    exact begins

/-- What is left of a text is its one part between blanks that neither begins nor ends with a
blank. -/
theorem trim_eq_iff
    {text body : List Char} :
    trim text = body ↔
      ∃ before after, text = before ++ body ++ after
        ∧ Blanks before ∧ Blanks after ∧ Bare body := by
  constructor
  · rintro rfl
    obtain ⟨before, isText, blanksBefore, begins⟩ := exists_trimStart text
    obtain ⟨after, isRest, blanksAfter, ends⟩ := exists_trimEnd (trimStart text)
    refine ⟨before, after, ?_, blanksBefore, blanksAfter, ?_, ends⟩
    · rw [List.append_assoc, trim, ← isRest, ← isText]
    · intro character isFirst
      have first : (trimEnd (trimStart text)).head? = some character := isFirst
      apply begins
      rw [isRest, List.head?_append, first]
      rfl
  · rintro ⟨before, after, rfl, blanksBefore, blanksAfter, bare⟩
    rw [trim, List.append_assoc, trimStart_append blanksBefore]
    cases body with
    | nil =>
        have none : trimStart after = [] := List.dropWhile_eq_nil_iff.2 blanksAfter
        rw [List.nil_append, none]
        rfl
    | cons first rest =>
        have begins : trimStart (first :: rest ++ after) = first :: rest ++ after :=
          trimStart_of_begins bare.begins
        rw [begins, trimEnd_append blanksAfter, trimEnd_of_ends bare.ends]

end Text
end ManifestPolicy
