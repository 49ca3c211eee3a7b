import ManifestPolicy.Duration
import ManifestPolicy.Proofs.Text.Blank

/-!
# Reading durations

A duration is written as a decimal number and a unit, with blanks around them that do not
count; a zero needs no unit. What is read is exactly what is written so, as long as the number
and the milliseconds fit a word of 64 bits, and the milliseconds are those that are written.
-/

namespace ManifestPolicy
namespace Duration

/-! ## Numbers -/

/-- Decimal digits and the number that they denote. -/
structure Numeral (digits : List Char) (value : Nat) : Prop where
  nonempty : digits ≠ []
  decimal : ∀ character ∈ digits, character.isDigit = true
  denoted : Nat.ofDigitChars 10 digits 0 = value

/-- The value of digits is that of the library, which has the lemmas about it. -/
theorem decimalValue_eq (digits : List Char) :
    decimalValue digits = Nat.ofDigitChars 10 digits 0 := by
  rw [decimalValue, Nat.ofDigitChars]
  congr 1
  funext total digit
  rw [Nat.mul_comm]

theorem Numeral.decimalValue
    {digits : List Char}
    {value : Nat}
    (numeral : Numeral digits value) :
    Duration.decimalValue digits = value :=
  (decimalValue_eq digits).trans numeral.denoted

/-- Every number is written by its own digits. -/
theorem numeral_toDigits (value : Nat) : Numeral (Nat.toDigits 10 value) value where
  nonempty := Nat.toDigits_ne_nil
  decimal _ present := Nat.isDigit_of_mem_toDigits (by decide) (by decide) present
  denoted := Nat.ofDigitChars_toDigits (by decide) (by decide)

/-- Zeros in front of a number do not change it. -/
theorem Numeral.append_zeros
    {digits : List Char}
    {value : Nat}
    (numeral : Numeral digits value)
    (zeros : Nat) :
    Numeral (List.replicate zeros '0' ++ digits) value where
  nonempty := by simp [numeral.nonempty]
  decimal := by
    intro character present
    rcases List.mem_append.1 present with zero | present
    · rw [List.eq_of_mem_replicate zero]
      decide
    · exact numeral.decimal character present
  denoted := by
    rw [← numeral.denoted]
    induction zeros with
    | zero => rfl
    | succ zeros denotedRest => exact denotedRest

theorem isBlank_of_isDigit
    {character : Char}
    (isDigit : character.isDigit = true) :
    isBlank character = false := by
  have bounds := Char.isDigit_iff_toNat.1 isDigit
  have lower : 48 ≤ character.toNat := bounds.1
  have upper : character.toNat ≤ 57 := bounds.2
  simp only [isBlank, Bool.or_eq_false_iff, Bool.and_eq_false_iff, decide_eq_false_iff_not,
    beq_eq_false_iff_ne]
  omega

/-! ## Units -/

/-- The units and their milliseconds. -/
def units : List (String × Nat) :=
  [("ms", 1), ("s", 1000), ("m", 60 * 1000), ("h", 60 * 60 * 1000), ("d", 24 * 60 * 60 * 1000)]

/-- The letters that units are written with. -/
def unitLetters : List Char := ['m', 's', 'h', 'd']

/-- The units are those of the table, each with its factor. -/
theorem unit?_eq_some_iff
    {name : List Char}
    {factor : Nat} :
    unit? name = some factor ↔ (String.ofList name, factor) ∈ units := by
  constructor
  · intro isUnit
    unfold unit? at isUnit
    split_ifs at isUnit with ms s m h d
    all_goals
      obtain rfl := Option.some.inj isUnit
      subst_vars
      decide
  · intro isUnit
    have known : ∀ entry ∈ units, unit? entry.1.toList = some entry.2 := by decide
    have found := known _ isUnit
    rwa [String.toList_ofList] at found

/-- Units are written in the letters of units. -/
theorem mem_unitLetters
    {unit : String}
    {factor : Nat}
    (isUnit : (unit, factor) ∈ units) :
    ∀ character ∈ unit.toList, character ∈ unitLetters := by
  have known : ∀ entry ∈ units, entry.1.toList ⊆ unitLetters := by
    simp [units, unitLetters]
  exact fun _ present => known _ isUnit present

theorem unit_ne_nil
    {unit : String}
    {factor : Nat}
    (isUnit : (unit, factor) ∈ units) :
    unit.toList ≠ [] := by
  have known : ∀ entry ∈ units, entry.1.toList ≠ [] := by decide
  exact known _ isUnit

theorem factor_pos
    {unit : String}
    {factor : Nat}
    (isUnit : (unit, factor) ∈ units) :
    0 < factor := by
  have known : ∀ entry ∈ units, 0 < entry.2 := by decide
  exact known _ isUnit

/-- The letters of units are neither digits nor blanks. -/
theorem plain_of_unitLetter
    {character : Char}
    (isLetter : character ∈ unitLetters) :
    character.isDigit = false ∧ isBlank character = false := by
  simp only [unitLetters, List.mem_cons, List.not_mem_nil, or_false] at isLetter
  rcases isLetter with rfl | rfl | rfl | rfl <;> decide

/-- A unit begins with no digit, so that the number before it ends there. -/
theorem stops_unit
    {unit : String}
    {factor : Nat}
    (isUnit : (unit, factor) ∈ units) :
    ∀ character ∈ unit.toList.head?, character.isDigit = false := by
  intro character isFirst
  have present := List.mem_of_mem_head? isFirst
  exact (plain_of_unitLetter (mem_unitLetters isUnit character present)).1

/-! ## Texts -/

/-- The texts of durations, without blanks around them, and their milliseconds. -/
inductive Written : List Char → Nat → Prop
  /-- A zero needs no unit. -/
  | zero
      {digits : List Char}
      (numeral : Numeral digits 0) :
      Written digits 0
  /-- A number of units. -/
  | measured
      {digits : List Char}
      {value factor : Nat}
      {unit : String}
      (numeral : Numeral digits value)
      (small : value < wordSize)
      (isUnit : (unit, factor) ∈ units)
      (fits : value * factor < wordSize) :
      Written (digits ++ unit.toList) (value * factor)

/-- A written duration has digits and the letters of units in it, and nothing else. -/
theorem Written.characters
    {body : List Char}
    {milliseconds : Nat}
    (written : Written body milliseconds) :
    ∀ character ∈ body, character.isDigit = true ∨ character ∈ unitLetters := by
  cases written with
  | zero numeral => exact fun character present => .inl (numeral.decimal character present)
  | measured numeral _ isUnit _ =>
      intro character present
      rcases List.mem_append.1 present with present | present
      · exact .inl (numeral.decimal character present)
      · exact .inr (mem_unitLetters isUnit character present)

/-- Trimming leaves a written duration as it is. -/
theorem Written.bare
    {body : List Char}
    {milliseconds : Nat}
    (written : Written body milliseconds) :
    Text.Bare body := by
  apply Text.bare_of_forall
  intro character present
  rcases written.characters character present with isDigit | isLetter
  · exact isBlank_of_isDigit isDigit
  · exact (plain_of_unitLetter isLetter).2

/-! ## Reading -/

/-- A text cut at the end of the digits that it starts with. -/
structure Cut (body digits rest : List Char) : Prop where
  whole : body = digits ++ rest
  decimal : ∀ character ∈ digits, character.isDigit = true
  stops : ∀ character ∈ rest.head?, character.isDigit = false

/-- Every text begins with all the digits it begins with. -/
theorem exists_cut (body : List Char) : ∃ digits rest, Cut body digits rest := by
  refine ⟨body.takeWhile Char.isDigit, body.dropWhile Char.isDigit,
    List.takeWhile_append_dropWhile.symm, fun _ => List.mem_takeWhile_imp, ?_⟩
  intro character isFirst
  have stops := List.head?_dropWhile_not Char.isDigit body
  rw [Option.mem_def.1 isFirst] at stops
  exact stops

namespace Cut

variable {body digits rest : List Char}

/-- There is one way to cut a text behind its digits. -/
theorem takeWhile_eq (cut : Cut body digits rest) : body.takeWhile Char.isDigit = digits := by
  rw [cut.whole, List.takeWhile_append_of_pos cut.decimal]
  cases rest with
  | nil => simp
  | cons first others => simp [cut.stops first rfl]

theorem dropWhile_eq (cut : Cut body digits rest) : body.dropWhile Char.isDigit = rest := by
  rw [cut.whole, List.dropWhile_append_of_pos cut.decimal]
  cases rest with
  | nil => rfl
  | cons first others => simp [cut.stops first rfl]

theorem numeral
    (cut : Cut body digits rest)
    (nonempty : digits ≠ []) :
    Numeral digits (decimalValue digits) :=
  ⟨nonempty, cut.decimal, (decimalValue_eq digits).symm⟩

end Cut

/-- How a text is read that is cut at the end of its digits. -/
theorem parse_of_cut
    {text : String}
    {digits unit : List Char}
    (cut : Cut (Text.trim text.toList) digits unit) :
    let shown := String.ofList (Text.trim text.toList)
    parse text =
      if digits = [] ∨ wordSize ≤ decimalValue digits then .error (.noValue shown)
      else if unit = [] then
        if decimalValue digits = 0 then .ok ⟨0⟩ else .error (.noUnit shown)
      else
        (unit? unit).elim (.error (.unknownUnit shown)) fun factor =>
          if decimalValue digits * factor < wordSize then .ok ⟨decimalValue digits * factor⟩
          else .error (.overflow shown) := by
  intro shown
  simp only [parse, cut.takeWhile_eq, cut.dropWhile_eq]
  -- What is left is to take the unit apart in the same order on both sides.
  cases unit? unit <;> rfl

/-- What is written as a duration is read as it, whichever of the units it has. -/
theorem parse_of_written
    {text : String}
    {milliseconds : Nat}
    (written : Written (Text.trim text.toList) milliseconds) :
    parse text = .ok ⟨milliseconds⟩ := by
  generalize trimmed : Text.trim text.toList = body at written
  cases written with
  | zero numeral =>
      have isZero := numeral.decimalValue
      have cut : Cut (Text.trim text.toList) body [] :=
        ⟨trimmed.trans (List.append_nil _).symm, numeral.decimal, by simp⟩
      rw [parse_of_cut cut, if_neg, if_pos rfl, if_pos isZero]
      rw [isZero, not_or]
      exact ⟨numeral.nonempty, by decide⟩
  | @measured digits value factor unit numeral small isUnit fits =>
      have isValue := numeral.decimalValue
      have isKnown : unit? unit.toList = some factor :=
        unit?_eq_some_iff.2 (by rwa [String.ofList_toList])
      have cut : Cut (Text.trim text.toList) digits unit.toList :=
        ⟨trimmed, numeral.decimal, stops_unit isUnit⟩
      rw [parse_of_cut cut, if_neg, if_neg (unit_ne_nil isUnit), isKnown, isValue]
      · exact if_pos fits
      · rw [isValue, not_or, Nat.not_le]
        exact ⟨numeral.nonempty, small⟩

/-- What is read as a duration has been written as one, with the value that was read. -/
theorem written_of_parse
    {text : String}
    {duration : Duration}
    (reads : parse text = .ok duration) :
    Written (Text.trim text.toList) duration.milliseconds := by
  obtain ⟨digits, unit, cut⟩ := exists_cut (Text.trim text.toList)
  rw [parse_of_cut cut] at reads
  rw [cut.whole]
  split at reads
  · contradiction
  next isNumber =>
    rw [not_or, Nat.not_le] at isNumber
    have numeral := cut.numeral isNumber.1
    split at reads
    next noUnit =>
      split at reads
      next isZero =>
        rw [← Except.ok.inj reads, noUnit, List.append_nil]
        exact .zero (isZero ▸ numeral)
      next => contradiction
    next =>
      cases isUnit : unit? unit with
      | none => simp [isUnit] at reads
      | some factor =>
          rw [isUnit, Option.elim_some] at reads
          split at reads
          next fits =>
            rw [← Except.ok.inj reads, ← String.toList_ofList (l := unit)]
            exact .measured numeral isNumber.2 (unit?_eq_some_iff.1 isUnit) fits
          next => contradiction

/-- A text is read as a duration exactly when it is one between blanks, and the milliseconds
are those that are written. Every number of units that fits is read, with any number of zeros in
front of it, and a text with anything but decimal digits and the letters of the units between
the blanks at its ends is refused. -/
theorem reads_exactly_written (text : String) :
    (∀ duration, parse text = .ok duration ↔
      ∃ before body after, text.toList = before ++ body ++ after
        ∧ Text.Blanks before ∧ Text.Blanks after ∧ Written body duration.milliseconds)
      ∧ (∀ (zeros value factor : Nat) (unit : String), (unit, factor) ∈ units →
        value * factor < wordSize →
        text.toList = List.replicate zeros '0' ++ Nat.toDigits 10 value ++ unit.toList →
        parse text = .ok ⟨value * factor⟩)
      ∧ ∀ character ∈ Text.trim text.toList, character.isDigit = false →
        character ∉ unitLetters → ∀ duration, parse text ≠ .ok duration := by
  refine ⟨fun duration => ⟨?_, ?_⟩, ?_, ?_⟩
  · intro reads
    have written := written_of_parse reads
    obtain ⟨before, after, isText, blanksBefore, blanksAfter, _⟩ := Text.trim_eq_iff.1 rfl
    exact ⟨before, _, after, isText, blanksBefore, blanksAfter, written⟩
  · rintro ⟨before, body, after, isText, blanksBefore, blanksAfter, written⟩
    have trimmed : Text.trim text.toList = body :=
      Text.trim_eq_iff.2 ⟨before, after, isText, blanksBefore, blanksAfter, written.bare⟩
    exact parse_of_written (trimmed ▸ written)
  · intro zeros value factor unit isUnit fits isText
    have numeral := (numeral_toDigits value).append_zeros zeros
    have small : value < wordSize :=
      (Nat.le_mul_of_pos_right value (factor_pos isUnit)).trans_lt fits
    have written := Written.measured numeral small isUnit fits
    have trimmed : Text.trim text.toList = _ :=
      Text.trim_eq_iff.2 ⟨[], [], (List.append_nil _).symm ▸ isText, by simp [Text.Blanks],
        by simp [Text.Blanks], written.bare⟩
    exact parse_of_written (trimmed ▸ written)
  · intro character present noDigit noLetter duration reads
    rcases (written_of_parse reads).characters character present with isDigit | isLetter
    · rw [noDigit] at isDigit
      contradiction
    · exact noLetter isLetter

/-- The most days whose milliseconds fit, and a number with a sign. -/
theorem most_days_read :
    parse "00213503982334d" = .ok ⟨213503982334 * 86400000⟩
      ∧ ∀ duration, parse "+1d" ≠ .ok duration := by
  refine ⟨(reads_exactly_written _).2.1 2 213503982334 86400000 "d" ?_ ?_ ?_,
    (reads_exactly_written "+1d").2.2 '+' ?_ ?_ ?_⟩ <;> decide +kernel

/-- One day more does not fit. -/
example : parse "213503982335d" = .error (.overflow "213503982335d") := by decide +kernel

end Duration
end ManifestPolicy
