import ManifestPolicy.Proofs.Duration

/-!
# Refusing durations

A text that is no duration has one fault: it starts with no number, its number has no unit or
one that there is not, or its milliseconds do not fit a word of 64 bits. The reader names this
fault unless the number alone does not fit a word. Such a number is taken for none at all, and
the text is refused as one that does not start with a number.
-/

namespace ManifestPolicy
namespace Duration

/-! ## Faults -/

/-- The texts that are no durations, without blanks around them, each with its fault. A fault
is said with the whole text, and the numbers may be of any size. -/
inductive Faulty : List Char → InvalidDuration → Prop
  /-- No digit comes first. -/
  | noValue
      {body : List Char}
      (noDigit : ∀ character ∈ body.head?, character.isDigit = false) :
      Faulty body (.noValue (String.ofList body))
  /-- A number other than zero stands alone. -/
  | noUnit
      {digits : List Char}
      {value : Nat}
      (numeral : Numeral digits value)
      (positive : 0 < value) :
      Faulty digits (.noUnit (String.ofList digits))
  /-- What follows all the digits is no unit. -/
  | unknownUnit
      {digits rest : List Char}
      {value : Nat}
      (numeral : Numeral digits value)
      (nonempty : rest ≠ [])
      (stops : ∀ character ∈ rest.head?, character.isDigit = false)
      (unknown : ∀ factor, (String.ofList rest, factor) ∉ units) :
      Faulty (digits ++ rest) (.unknownUnit (String.ofList (digits ++ rest)))
  /-- The milliseconds of a number of units do not fit a word. -/
  | overflow
      {digits : List Char}
      {value factor : Nat}
      {unit : String}
      (numeral : Numeral digits value)
      (isUnit : (unit, factor) ∈ units)
      (large : wordSize ≤ value * factor) :
      Faulty (digits ++ unit.toList) (.overflow (String.ofList (digits ++ unit.toList)))

/-- A text starts with a number that does not fit a word. -/
def Excessive (body : List Char) : Prop :=
  ∃ digits rest value, body = digits ++ rest ∧ Numeral digits value
    ∧ (∀ character ∈ rest.head?, character.isDigit = false) ∧ wordSize ≤ value

/-! ## Cutting a text -/

/-- There is one place to cut a text. -/
theorem Cut.unique
    {body digits rest otherDigits otherRest : List Char}
    (cut : Cut body digits rest)
    (other : Cut body otherDigits otherRest) :
    otherDigits = digits ∧ otherRest = rest :=
  ⟨other.takeWhile_eq.symm.trans cut.takeWhile_eq,
    other.dropWhile_eq.symm.trans cut.dropWhile_eq⟩

theorem Numeral.cut
    {digits rest : List Char}
    {value : Nat}
    (numeral : Numeral digits value)
    (stops : ∀ character ∈ rest.head?, character.isDigit = false) :
    Cut (digits ++ rest) digits rest :=
  ⟨rfl, numeral.decimal, stops⟩

/-! ## The fault of a cut text -/

/-- The fault of a text that is cut at the end of its digits, if it has one. -/
def fault? (digits rest : List Char) : Option InvalidDuration :=
  let shown := String.ofList (digits ++ rest)
  if digits = [] then some (.noValue shown)
  else if rest = [] then if decimalValue digits = 0 then none else some (.noUnit shown)
  else
    (unit? rest).elim (some (.unknownUnit shown)) fun factor =>
      if decimalValue digits * factor < wordSize then none else some (.overflow shown)

/-- Every fault of a text is told by its first digits and what is behind them. -/
theorem fault?_of_faulty
    {body digits rest : List Char}
    {invalid : InvalidDuration}
    (cut : Cut body digits rest)
    (faulty : Faulty body invalid) :
    fault? digits rest = some invalid := by
  cases faulty with
  | noValue noDigit =>
      have other : Cut body [] body := ⟨rfl, by simp, noDigit⟩
      obtain ⟨rfl, rfl⟩ := cut.unique other
      rfl
  | @noUnit _ value numeral positive =>
      have other : Cut body body [] := ⟨(List.append_nil _).symm, numeral.decimal, by simp⟩
      obtain ⟨rfl, rfl⟩ := cut.unique other
      have nonzero : decimalValue body ≠ 0 := by
        rw [numeral.decimalValue]
        exact positive.ne'
      simp [fault?, numeral.nonempty, nonzero]
  | unknownUnit numeral nonempty stops unknown =>
      obtain ⟨rfl, rfl⟩ := cut.unique (numeral.cut stops)
      have none : unit? _ = none := Option.eq_none_iff_forall_ne_some.2 fun factor isUnit =>
        unknown factor (unit?_eq_some_iff.1 isUnit)
      simp [fault?, numeral.nonempty, nonempty, none]
  | @overflow _ value factor unit numeral isUnit large =>
      obtain ⟨rfl, rfl⟩ := cut.unique (numeral.cut (stops_unit isUnit))
      have isKnown : unit? unit.toList = some factor :=
        unit?_eq_some_iff.2 (by rwa [String.ofList_toList])
      have notSmall : ¬ value * factor < wordSize := Nat.not_lt.2 large
      have isUnitText := unit_ne_nil isUnit
      rw [fault?, if_neg numeral.nonempty, if_neg isUnitText, isKnown, Option.elim_some,
        numeral.decimalValue, if_neg notSmall]

/-- What is told of a text is a fault that it has. -/
theorem faulty_of_fault?
    {body digits rest : List Char}
    {invalid : InvalidDuration}
    (cut : Cut body digits rest)
    (isFault : fault? digits rest = some invalid) :
    Faulty body invalid := by
  unfold fault? at isFault
  split at isFault
  next noDigits =>
    rw [← Option.some.inj isFault, ← cut.whole]
    refine .noValue ?_
    rw [cut.whole, noDigits]
    exact cut.stops
  next nonempty =>
    have numeral := cut.numeral nonempty
    split at isFault
    next noRest =>
      split at isFault
      · contradiction
      next nonzero =>
        rw [← Option.some.inj isFault, ← cut.whole, cut.whole, noRest, List.append_nil]
        exact .noUnit numeral (Nat.pos_of_ne_zero nonzero)
    next hasRest =>
      cases isUnit : unit? rest with
      | none =>
          rw [isUnit, Option.elim_none] at isFault
          rw [← Option.some.inj isFault, cut.whole]
          refine .unknownUnit numeral hasRest cut.stops fun factor known => ?_
          rw [unit?_eq_some_iff.2 known] at isUnit
          contradiction
      | some factor =>
          rw [isUnit, Option.elim_some] at isFault
          split at isFault
          · contradiction
          next large =>
            have known := unit?_eq_some_iff.1 isUnit
            have overflows := Faulty.overflow numeral known (Nat.not_lt.1 large)
            rw [String.toList_ofList] at overflows
            rwa [← Option.some.inj isFault, cut.whole]

/-- The faults of a text are told by the one place where it can be cut. -/
theorem faulty_iff
    {body digits rest : List Char}
    {invalid : InvalidDuration}
    (cut : Cut body digits rest) :
    Faulty body invalid ↔ fault? digits rest = some invalid :=
  ⟨fault?_of_faulty cut, faulty_of_fault? cut⟩

/-- A text that starts with a number, however large, is not one that starts with none. -/
theorem not_faulty_noValue
    {body : List Char}
    (excessive : Excessive body)
    (shown : String) :
    ¬ Faulty body (.noValue shown) := by
  obtain ⟨digits, rest, _, whole, numeral, _, _⟩ := excessive
  obtain ⟨first, others, isDigits⟩ := List.exists_cons_of_ne_nil numeral.nonempty
  rw [isDigits] at numeral whole
  intro faulty
  cases faulty with
  | noValue noDigit =>
      have isDigit := numeral.decimal first List.mem_cons_self
      rw [noDigit first (whole ▸ rfl)] at isDigit
      contradiction

/-- A text has no two faults. -/
theorem Faulty.unique
    {body : List Char}
    {fault other : InvalidDuration}
    (faulty : Faulty body fault)
    (alsoFaulty : Faulty body other) :
    other = fault := by
  obtain ⟨digits, rest, cut⟩ := exists_cut body
  rw [faulty_iff cut] at faulty alsoFaulty
  exact Option.some.inj (alsoFaulty.symm.trans faulty)

/-- Digits are too many exactly if their value is beyond the word. -/
theorem excessive_iff
    {body digits rest : List Char}
    (cut : Cut body digits rest) :
    Excessive body ↔ digits ≠ [] ∧ wordSize ≤ decimalValue digits := by
  constructor
  · rintro ⟨otherDigits, otherRest, value, whole, numeral, stops, large⟩
    obtain ⟨rfl, rfl⟩ := cut.unique ⟨whole, numeral.decimal, stops⟩
    exact ⟨numeral.nonempty, numeral.decimalValue.symm ▸ large⟩
  · rintro ⟨nonempty, large⟩
    exact ⟨digits, rest, _, cut.whole, cut.numeral nonempty, cut.stops, large⟩

/-- A text whose number does not fit a word is no duration: a number that large is not zero,
and no unit makes it smaller. -/
theorem exists_faulty_of_excessive
    {body : List Char}
    (excessive : Excessive body) :
    ∃ fault, Faulty body fault := by
  obtain ⟨digits, rest, cut⟩ := exists_cut body
  obtain ⟨nonempty, large⟩ := (excessive_iff cut).1 excessive
  have nonzero : decimalValue digits ≠ 0 := (Nat.lt_of_lt_of_le (by decide) large).ne'
  simp only [faulty_iff cut, fault?, if_neg nonempty, if_neg nonzero]
  split
  · exact ⟨_, rfl⟩
  · cases isUnit : unit? rest with
    | none => exact ⟨_, rfl⟩
    | some factor =>
        have positive := factor_pos (unit?_eq_some_iff.1 isUnit)
        have overflows := large.trans (Nat.le_mul_of_pos_right _ positive)
        exact ⟨_, if_neg (Nat.not_lt.2 overflows)⟩

/-! ## What is named -/

/-- Digits beyond the word are refused as though there were none. -/
theorem parse_of_excessive
    {text : String}
    (excessive : Excessive (Text.trim text.toList)) :
    parse text = .error (.noValue (String.ofList (Text.trim text.toList))) := by
  obtain ⟨digits, rest, cut⟩ := exists_cut (Text.trim text.toList)
  rw [parse_of_cut cut, if_pos (.inr ((excessive_iff cut).1 excessive).2)]

/-- A text whose number fits a word is refused with its fault. -/
theorem parse_eq_error_iff
    {text : String}
    {invalid : InvalidDuration}
    (fits : ¬ Excessive (Text.trim text.toList)) :
    parse text = .error invalid ↔ Faulty (Text.trim text.toList) invalid := by
  obtain ⟨digits, rest, cut⟩ := exists_cut (Text.trim text.toList)
  rw [faulty_iff cut, parse_of_cut cut, fault?, ← cut.whole]
  rw [excessive_iff cut, not_and, Nat.not_le] at fits
  by_cases noDigits : digits = []
  · rw [if_pos (.inl noDigits), if_pos noDigits, Option.some_inj, Except.error.injEq]
  · have isNumber : ¬ (digits = [] ∨ wordSize ≤ decimalValue digits) := by
      rw [not_or, Nat.not_le]
      exact ⟨noDigits, fits noDigits⟩
    rw [if_neg isNumber, if_neg noDigits]
    -- What is left is to take the rest apart in the same order on both sides.
    split
    · split <;> simp
    · cases unit? rest with
      | none => simp
      | some factor =>
          rw [Option.elim_some, Option.elim_some]
          split <;> simp

/-- A text is refused exactly if it has a fault, and then it has only one. The reason that is
named is this fault exactly if the number that the text starts with fits a word; a number that
does not is taken for none. -/
theorem refuses_by_fault (text : String) :
    let body := Text.trim text.toList
    ((∃ invalid, parse text = .error invalid) ↔ ∃! fault, Faulty body fault)
      ∧ (∀ invalid fault, parse text = .error invalid → Faulty body fault →
        (invalid = fault ↔ ¬ Excessive body))
      ∧ (Excessive body → parse text = .error (.noValue (String.ofList body))) := by
  intro body
  refine ⟨?_, ?_, parse_of_excessive⟩
  · by_cases excessive : Excessive body
    · obtain ⟨fault, faulty⟩ := exists_faulty_of_excessive excessive
      exact iff_of_true ⟨_, parse_of_excessive excessive⟩
        ⟨fault, faulty, fun _ => faulty.unique⟩
    · constructor
      · rintro ⟨invalid, refused⟩
        have faulty := (parse_eq_error_iff excessive).1 refused
        exact ⟨invalid, faulty, fun _ => faulty.unique⟩
      · rintro ⟨fault, faulty, -⟩
        exact ⟨fault, (parse_eq_error_iff excessive).2 faulty⟩
  · intro invalid fault refused faulty
    constructor
    · rintro rfl excessive
      obtain rfl := Except.error.inj (refused.symm.trans (parse_of_excessive excessive))
      exact not_faulty_noValue excessive _ faulty
    · intro fits
      exact faulty.unique ((parse_eq_error_iff fits).1 refused)

/-- As many seconds as a word has values have a number and a unit, and are too many; they are
refused as a text that does not start with a number. Minutes that are written out are refused
for their unit. -/
theorem word_of_seconds_misnamed :
    (parse "18446744073709551616s" = .error (.noValue "18446744073709551616s")
        ∧ Faulty "18446744073709551616s".toList (.overflow "18446744073709551616s"))
      ∧ parse " 10 minutes" = .error (.unknownUnit "10 minutes") := by
  have seconds : Numeral "18446744073709551616".toList wordSize := by
    have written : Nat.toDigits 10 wordSize = "18446744073709551616".toList := by
      decide +kernel
    exact written ▸ numeral_toDigits wordSize
  have ten : Numeral "10".toList 10 := numeral_toDigits 10
  have excessive : Excessive "18446744073709551616s".toList :=
    ⟨_, "s".toList, wordSize, by decide +kernel, seconds, by rintro _ ⟨⟩; rfl, Nat.le_refl _⟩
  have isUnit : ("s", 1000) ∈ units := by decide
  refine ⟨⟨(refuses_by_fault "18446744073709551616s").2.2 excessive, ?_⟩, ?_⟩
  · exact .overflow seconds isUnit (by decide)
  · have trimmed : Text.trim " 10 minutes".toList = "10".toList ++ " minutes".toList := by
      decide +kernel
    have stops : ∀ character ∈ " minutes".toList.head?, character.isDigit = false := by
      rintro _ ⟨⟩
      rfl
    have cut := ten.cut stops
    rw [← trimmed] at cut
    have fits : ¬ Excessive (Text.trim " 10 minutes".toList) := by
      rw [excessive_iff cut]
      decide
    have faulty : Faulty (Text.trim " 10 minutes".toList) (.unknownUnit "10 minutes") := by
      rw [faulty_iff cut]
      decide
    obtain ⟨invalid, refused⟩ := (refuses_by_fault " 10 minutes").1.2
      ⟨_, faulty, fun _ => faulty.unique⟩
    exact ((refuses_by_fault " 10 minutes").2.1 invalid _ refused faulty).2 fits ▸ refused

end Duration
end ManifestPolicy
