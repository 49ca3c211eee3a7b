import ManifestPolicy.Focus
import ManifestPolicy.Proofs.SortedMap
import ManifestPolicy.Proofs.Text.Utf8

/-!
# Categories of resources

A category has the last of the patterns that are given to it, where a text that is no pattern
does not count. A resource belongs to the first category, in the order of their bytes, whose
pattern occurs in its name. The order in which categories are given therefore does not matter,
only the order of the patterns of each.
-/

namespace ManifestPolicy
namespace Focus

/-! ## The pattern of a category -/

/-- The last pattern that is given to a category. -/
def lastPattern? (patterns : List (String × String)) (category : String) : Option Pattern :=
  ((patterns.filter (·.1 = category)).filterMap fun entry => Pattern.compile? entry.2).getLast?

theorem lastPattern?_cons_of_ne
    {entry : String × String}
    {category : String}
    (different : entry.1 ≠ category)
    (rest : List (String × String)) :
    lastPattern? (entry :: rest) category = lastPattern? rest category := by
  rw [lastPattern?, List.filter_cons_of_neg (by simpa using different), lastPattern?]

/-- A later pattern of a category counts, and an earlier one only if none of those compiles. -/
theorem lastPattern?_cons_self
    (category text : String)
    (rest : List (String × String)) :
    lastPattern? ((category, text) :: rest) category =
      (lastPattern? rest category).or (Pattern.compile? text) := by
  rw [lastPattern?, List.filter_cons_of_pos (by simp), List.filterMap_cons]
  cases Pattern.compile? text with
  | none => simp [lastPattern?]
  | some pattern => simp [lastPattern?, List.getLast?_cons, Option.or_some]

/-- To add a pattern that does not compile leaves the category as it was. -/
theorem get?_add_self
    (focus : Focus)
    (category text : String) :
    (focus.add category text).categories.get? category =
      (Pattern.compile? text).or (focus.categories.get? category) := by
  rw [add]
  cases Pattern.compile? text with
  | none => rfl
  | some pattern => rw [SortedMap.get?_insert, if_pos rfl, Option.some_or]

theorem get?_add_of_ne
    {category other : String}
    (different : category ≠ other)
    (focus : Focus)
    (text : String) :
    (focus.add category text).categories.get? other = focus.categories.get? other := by
  rw [add]
  cases Pattern.compile? text with
  | none => rfl
  | some pattern => rw [SortedMap.get?_insert, if_neg different.symm]

/-- Patterns that are added count before those that were there. -/
theorem get?_foldl_add
    (patterns : List (String × String))
    (focus : Focus)
    (category : String) :
    (patterns.foldl (fun focus entry => focus.add entry.1 entry.2) focus).categories.get?
        category =
      (lastPattern? patterns category).or (focus.categories.get? category) := by
  induction patterns generalizing focus with
  | nil => rfl
  | cons entry rest getRest =>
      obtain ⟨other, text⟩ := entry
      rw [List.foldl_cons, getRest]
      by_cases same : other = category
      · subst same
        rw [get?_add_self, lastPattern?_cons_self, Option.or_assoc]
      · rw [get?_add_of_ne same, lastPattern?_cons_of_ne same]

/-- A category has the last pattern that is given to it. -/
theorem get?_ofPatterns
    (patterns : List (String × String))
    (category : String) :
    (ofPatterns patterns).categories.get? category = lastPattern? patterns category :=
  (get?_foldl_add patterns empty category).trans (Option.or_none)

/-- Lists in which each category is given the same patterns in the same order make the same
focus. -/
theorem ofPatterns_congr
    {patterns others : List (String × String)}
    (sameOrder : ∀ category, others.filter (·.1 = category) = patterns.filter (·.1 = category)) :
    ofPatterns others = ofPatterns patterns := by
  have sameCategories : (ofPatterns others).categories = (ofPatterns patterns).categories := by
    apply SortedMap.ext_get?
    intro category
    rw [get?_ofPatterns, get?_ofPatterns, lastPattern?, sameOrder, lastPattern?]
  exact congrArg Focus.mk sameCategories

/-! ## Texts that are no patterns -/

/-- A text that is no pattern can be left out. -/
theorem ofPatterns_skip
    {entry : String × String}
    (invalid : Pattern.compile? entry.2 = none)
    (before after : List (String × String)) :
    ofPatterns (before ++ entry :: after) = ofPatterns (before ++ after) := by
  have unchanged (focus : Focus) : focus.add entry.1 entry.2 = focus := by rw [add, invalid]
  rw [ofPatterns, List.foldl_append, List.foldl_cons, unchanged, ← List.foldl_append, ofPatterns]

/-- What is told are the categories of the patterns that do not compile, in order. -/
theorem notices_eq (patterns : List (String × String)) :
    notices patterns =
      (patterns.filter fun entry => Pattern.compile? entry.2 = none).map
        fun entry => .skippedPattern entry.1 := by
  induction patterns with
  | nil => rfl
  | cons entry rest noticesRest =>
      rw [notices, List.filterMap_cons, ← notices, noticesRest]
      cases isPattern : Pattern.compile? entry.2 <;> simp [isPattern]

/-! ## The categories there are -/

/-- The categories that are given a pattern, as often as they are given one. -/
def given (patterns : List (String × String)) : List String :=
  (patterns.filter fun entry => (Pattern.compile? entry.2).isSome).map Prod.fst

theorem mem_given_iff
    {patterns : List (String × String)}
    {category : String} :
    category ∈ given patterns ↔
      ∃ text, (category, text) ∈ patterns ∧ Pattern.compile? text ≠ none := by
  simp [given, Option.isSome_iff_ne_none]

/-- A category has no pattern if none of those given for it compiles. -/
theorem lastPattern?_eq_none_iff
    {patterns : List (String × String)}
    {category : String} :
    lastPattern? patterns category = none ↔ category ∉ given patterns := by
  rw [lastPattern?, List.getLast?_eq_none_iff, List.filterMap_eq_nil_iff, mem_given_iff]
  constructor
  · rintro noPatterns ⟨text, present, isPattern⟩
    exact isPattern (noPatterns (category, text) (List.mem_filter.2 ⟨present, by simp⟩))
  · rintro notGiven ⟨other, text⟩ selected
    obtain ⟨present, same⟩ := List.mem_filter.1 selected
    obtain rfl : other = category := by simpa using same
    by_contra isPattern
    exact notGiven ⟨text, present, isPattern⟩

/-- The categories are those with a pattern that compiles. -/
theorem mem_keys_ofPatterns_iff
    {patterns : List (String × String)}
    {category : String} :
    category ∈ (ofPatterns patterns).categories.keys ↔ category ∈ given patterns := by
  rw [SortedMap.mem_keys_iff, get?_ofPatterns, Option.isSome_iff_ne_none, ne_eq,
    lastPattern?_eq_none_iff, not_not]

/-- There are as many categories as different ones are given a pattern. -/
theorem size_ofPatterns (patterns : List (String × String)) :
    (ofPatterns patterns).size = (given patterns).toFinset.card := by
  rw [size, SortedMap.size_eq_card]
  congr 1
  ext category
  rw [List.mem_toFinset, List.mem_toFinset, mem_keys_ofPatterns_iff]

theorem isEmpty_ofPatterns_iff
    {patterns : List (String × String)} :
    (ofPatterns patterns).categories.isEmpty = true ↔ given patterns = [] := by
  simp only [SortedMap.isEmpty_eq_true_iff, get?_ofPatterns, lastPattern?_eq_none_iff,
    List.eq_nil_iff_forall_not_mem]

theorem pairwise_keys (focus : Focus) :
    focus.categories.keys.Pairwise fun earlier later =>
      compare (Utf8.encode earlier) (Utf8.encode later) = .lt :=
  List.pairwise_map.2 (focus.categories.sorted.imp fun before => Utf8.compare_encode_of_lt before)

/-! ## The category of a resource -/

/-- The last pattern of a category occurs in the name of a resource. -/
def Takes (patterns : List (String × String)) (category name : String) : Prop :=
  ∃ pattern, lastPattern? patterns category = some pattern ∧ pattern.occursIn name = true

/-- A category takes a resource, and its bytes come before those of all others that do. -/
def TakesFirst (patterns : List (String × String)) (category name : String) : Prop :=
  Takes patterns category name
    ∧ ∀ other, Takes patterns other name →
      other = category ∨ compare (Utf8.encode category) (Utf8.encode other) = .lt

/-- A category takes a name if the pattern that it has been left with occurs in it. -/
theorem takes_iff
    {patterns : List (String × String)}
    {category name : String} :
    Takes patterns category name ↔
      ∃ pattern, (category, pattern) ∈ (ofPatterns patterns).categories.entries
        ∧ pattern.occursIn name = true := by
  simp only [Takes, SortedMap.mem_entries_iff, get?_ofPatterns]

/-- Texts are in the order of their bytes. -/
theorem compare_eq_lt_of_bytes
    {left right : String}
    (before : compare (Utf8.encode left) (Utf8.encode right) = .lt) :
    compare left right = .lt := by
  cases order : compare left right with
  | lt => rfl
  | eq =>
      obtain rfl := Std.LawfulEqCmp.eq_of_compare order
      simp at before
  | gt =>
      have after := Utf8.compare_encode_of_lt (Std.OrientedCmp.gt_iff_lt.1 order)
      rw [Std.OrientedCmp.gt_iff_lt.2 after] at before
      contradiction

/-- What is found first is the category that takes a resource first. -/
theorem find?_eq_some_iff
    {patterns : List (String × String)}
    {category name : String} :
    (∃ pattern, (ofPatterns patterns).categories.entries.find?
        (fun entry => entry.2.occursIn name) = some (category, pattern)) ↔
      TakesFirst patterns category name := by
  simp only [SortedMap.find?_entries_eq_some_iff, TakesFirst]
  constructor
  · rintro ⟨pattern, present, occurs, isLeast⟩
    refine ⟨takes_iff.2 ⟨pattern, present, occurs⟩, ?_⟩
    intro other takes
    obtain ⟨otherPattern, otherPresent, otherOccurs⟩ := takes_iff.1 takes
    rcases isLeast (other, otherPattern) otherPresent otherOccurs with same | before
    · exact .inl (congrArg Prod.fst same)
    · exact .inr (Utf8.compare_encode_of_lt before)
  · rintro ⟨takes, isLeast⟩
    obtain ⟨pattern, present, occurs⟩ := takes_iff.1 takes
    refine ⟨pattern, present, occurs, ?_⟩
    rintro ⟨other, otherPattern⟩ otherPresent otherOccurs
    rcases isLeast other (takes_iff.2 ⟨otherPattern, otherPresent, otherOccurs⟩) with
      rfl | before
    · have found := SortedMap.mem_entries_iff.1 otherPresent
      rw [SortedMap.mem_entries_iff.1 present] at found
      rw [Option.some.inj found]
      exact .inl rfl
    · exact .inr (compare_eq_lt_of_bytes before)

/-- Without any pattern every name is in the unnamed category. -/
theorem classify_of_not_given
    {patterns : List (String × String)}
    (notGiven : given patterns = [])
    (name : String) :
    (ofPatterns patterns).classify name = some "" :=
  if_pos (isEmpty_ofPatterns_iff.2 notGiven)

/-- A name is classified by the first category that takes it, in the order of the categories. -/
theorem classify_eq_some_iff
    {patterns : List (String × String)}
    (isGiven : given patterns ≠ [])
    {category name : String} :
    (ofPatterns patterns).classify name = some category ↔ TakesFirst patterns category name := by
  rw [classify, if_neg (mt isEmpty_ofPatterns_iff.1 isGiven), Option.map_eq_some_iff,
    ← find?_eq_some_iff]
  simp

/-- A name has no category if none takes it. -/
theorem classify_eq_none_iff
    {patterns : List (String × String)}
    (isGiven : given patterns ≠ [])
    {name : String} :
    (ofPatterns patterns).classify name = none ↔
      ∀ category, ¬ Takes patterns category name := by
  rw [classify, if_neg (mt isEmpty_ofPatterns_iff.1 isGiven), Option.map_eq_none_iff,
    List.find?_eq_none]
  simp only [takes_iff, not_exists, not_and, Prod.forall]

/-- A resource belongs to the category without a name if no category is given a pattern, and
otherwise to the first, in the order of their bytes, whose last pattern occurs in its name, or to
none. The categories are kept in that order, each that is given a pattern once. A text that is no
pattern is told of once and changes nothing else, and the order in which categories are given does
not matter as long as each is given its patterns in the same order. -/
theorem classifies_by_last_patterns (patterns : List (String × String)) :
    (given patterns = [] → ∀ name, (ofPatterns patterns).classify name = some "")
      ∧ (given patterns ≠ [] → ∀ name,
        (∀ category, (ofPatterns patterns).classify name = some category ↔
            TakesFirst patterns category name)
          ∧ ((ofPatterns patterns).classify name = none ↔
            ∀ category, ¬ Takes patterns category name))
      ∧ ((ofPatterns patterns).categories.keys.Pairwise fun earlier later =>
        compare (Utf8.encode earlier) (Utf8.encode later) = .lt)
      ∧ (ofPatterns patterns).size = (given patterns).toFinset.card
      ∧ notices patterns =
        (patterns.filter fun entry => Pattern.compile? entry.2 = none).map
          (fun entry => .skippedPattern entry.1)
      ∧ (∀ before entry after, patterns = before ++ entry :: after →
        Pattern.compile? entry.2 = none → ofPatterns patterns = ofPatterns (before ++ after))
      ∧ ∀ others : List (String × String),
        (∀ category, others.filter (·.1 = category) = patterns.filter (·.1 = category)) →
        ofPatterns others = ofPatterns patterns := by
  refine ⟨classify_of_not_given, ?_, pairwise_keys _, size_ofPatterns patterns,
    notices_eq patterns, ?_, fun _ => ofPatterns_congr⟩
  · intro isGiven name
    exact ⟨fun _ => classify_eq_some_iff isGiven, classify_eq_none_iff isGiven⟩
  · rintro before entry after rfl invalid
    exact ofPatterns_skip invalid before after

/-! ## Two categories

The first pattern of one of them is replaced, and its last text is no pattern. -/

/-- Categories given out of their order. -/
def rays : List (String × String) :=
  [("zeta", "^ray-"), ("alpha", "^hub"), ("alpha", "^ray-head"), ("alpha", "(unclosed")]

theorem ray_head_taken_first :
    TakesFirst rays "alpha" "ray-head-0"
      ∧ TakesFirst rays "zeta" "ray-worker-0"
      ∧ (∀ category, ¬ Takes rays category "hub")
      ∧ (ofPatterns rays).size = 2
      ∧ notices rays = [.skippedPattern "alpha"]
      ∧ ofPatterns rays = ofPatterns (rays.take 3)
      ∧ ofPatterns [("alpha", "^hub"), ("alpha", "^ray-head"), ("zeta", "^ray-"),
        ("alpha", "(unclosed")] = ofPatterns rays := by
  obtain ⟨-, classifies, -, counts, tells, skips, permutes⟩ := classifies_by_last_patterns rays
  have isGiven : given rays ≠ [] := by decide +kernel
  refine ⟨((classifies isGiven _).1 _).1 (by decide +kernel),
    ((classifies isGiven _).1 _).1 (by decide +kernel),
    (classifies isGiven _).2.1 (by decide +kernel), counts.trans (by decide +kernel),
    tells.trans (by decide +kernel), ?_, ?_⟩
  · exact skips (rays.take 3) ("alpha", "(unclosed") [] rfl (by decide +kernel)
  · apply permutes
    intro category
    by_cases isAlpha : "alpha" = category
    · subst isAlpha
      decide
    · simp [rays, isAlpha, List.filter_cons]

end Focus
end ManifestPolicy
