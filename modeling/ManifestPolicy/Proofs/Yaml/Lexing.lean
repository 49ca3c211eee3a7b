import ManifestPolicy.Proofs.Yaml.Setting
import ManifestPolicy.Yaml.Node

/-!
# Lexers in a setting

The steps of the lexer that do not move on in the text. Each does the same in every setting
of the text, and keeps what makes a lexer sound: its candidates are tokens it has read, its
blocks lie inside each other, and its flow collections are those that its tokens open.
-/

namespace ManifestPolicy
namespace Yaml

open Cursor

/-- How a token changes the number of open flow collections. -/
def flowStep (depth : Nat) : Token → Nat
  | .flowSequenceStart => depth + 1
  | .flowMappingStart => depth + 1
  | .flowSequenceEnd => depth - 1
  | .flowMappingEnd => depth - 1
  | _ => depth

/-- The number of flow collections that tokens leave open. -/
def flowDepth (depth : Nat) (tokens : List Token) : Nat := tokens.foldl flowStep depth

theorem flowDepth_append
    (depth : Nat)
    (first second : List Token) :
    flowDepth depth (first ++ second) = flowDepth (flowDepth depth first) second :=
  List.foldl_append

theorem flowDepth_push
    (depth : Nat)
    (tokens : List Token)
    (token : Token) :
    flowDepth depth (tokens ++ [token]) = flowStep (flowDepth depth tokens) token := by
  rw [flowDepth_append]
  rfl

/-- A token that belongs to the content of a document and to no flow collection. -/
def Token.isBlockInner : Token → Bool
  | .flowSequenceStart => false
  | .flowMappingStart => false
  | .flowSequenceEnd => false
  | .flowMappingEnd => false
  | token => !Reader.endsDocument token

/-- Tokens of block content open and close no flow collection. -/
theorem flowStep_of_isBlockInner
    {token : Token}
    (inner : token.isBlockInner = true)
    (depth : Nat) :
    flowStep depth token = depth := by
  cases token <;> first | rfl | contradiction

/-- Tokens of block content belong to the document that is being read. -/
theorem endsDocument_of_isBlockInner
    {token : Token}
    (inner : token.isBlockInner = true) :
    Reader.endsDocument token = false := by
  cases token <;> first | rfl | contradiction

namespace Setting

variable (setting : Setting)

/-- A candidate of a text, in the setting of the text. -/
def candidate (candidate : KeyCandidate) : KeyCandidate :=
  { candidate with
    token := setting.before.size + candidate.token
    index := candidate.index + setting.index
    line := candidate.line + setting.line }

/-- The lexer of a text, in the setting of the text. -/
def lexer (lexer : Lexer) : Lexer :=
  { lexer with
    cursor := setting.cursor lexer.cursor
    tokens := setting.before ++ lexer.tokens
    candidates := lexer.candidates.map (Option.map setting.candidate) }

end Setting

namespace Lexer

/-- What makes a lexer sound that was started inside a number of flow collections. -/
structure Sound (base : Nat) (lexer : Lexer) : Prop where
  /-- Every candidate is a token that has been read. -/
  places : ∀ candidate, some candidate ∈ lexer.candidates →
    candidate.token ≤ lexer.tokens.size
  /-- Every candidate begins on a line that has been begun. -/
  lines : ∀ candidate, some candidate ∈ lexer.candidates →
    candidate.line ≤ lexer.cursor.line
  /-- The open blocks are those of columns, in a text that is in no block. -/
  levels : ∃ columns : List Int, (∀ column ∈ columns, 0 ≤ column)
    ∧ lexer.indent :: lexer.outer = columns ++ [-1]
  /-- The open flow collections are those that the tokens open. -/
  depth : lexer.candidates.length = flowDepth base lexer.tokens.toList + 1

/-- A step that stays at its place of the text. -/
structure Stays (base : Nat) (before after : Lexer) : Prop where
  cursor : after.cursor = before.cursor
  sound : Sound base after
  inFlow : after.inFlow = before.inFlow
  adds : ∀ token ∈ after.tokens, token ∈ before.tokens ∨ Reader.endsDocument token = false

variable {base : Nat}

namespace Stays

theorem refl
    {lexer : Lexer}
    (sound : Sound base lexer) :
    Stays base lexer lexer :=
  ⟨rfl, sound, rfl, fun _ present => .inl present⟩

/-- Steps that stay at a place do so one after the other, and what they add stays inside the
document. -/
theorem trans
    {first second third : Lexer}
    (before : Stays base first second)
    (after : Stays base second third) :
    Stays base first third := by
  refine ⟨after.cursor.trans before.cursor, after.sound, after.inFlow.trans before.inFlow,
    fun token present => ?_⟩
  rcases after.adds token present with present | inner
  · exact before.adds token present
  · exact .inr inner

end Stays

/-- A step that stays at its place of the text, and does the same in every setting. -/
structure StaysIn (base : Nat) (step : Lexer → Option Lexer) (lexer : Lexer) : Prop where
  same : ∀ setting : Setting, step (setting.lexer lexer) = (step lexer).map setting.lexer
  stays : ∀ next, step lexer = some next → Stays base lexer next

namespace StaysIn

/-- Two steps that stay do so together, in every setting: the second starts from a sound lexer at
the same place. -/
theorem bind
    {first second : Lexer → Option Lexer}
    {lexer : Lexer}
    (begins : StaysIn base first lexer)
    (goesOn : ∀ next, Stays base lexer next → StaysIn base second next) :
    StaysIn base (fun lexer => (first lexer).bind second) lexer := by
  constructor
  · intro setting
    simp only [begins.same setting]
    cases found : first lexer with
    | none => rfl
    | some next => exact (goesOn next (begins.stays next found)).same setting
  · intro last found
    obtain ⟨next, read, found⟩ := Option.bind_eq_some_iff.1 found
    have stays := begins.stays next read
    exact stays.trans ((goesOn next stays).stays last found)

end StaysIn

section Setting

variable (setting : Setting) (lexer : Lexer)

@[simp] theorem cursor_lexer :
    (setting.lexer lexer).cursor = setting.cursor lexer.cursor := rfl

@[simp] theorem tokens_lexer :
    (setting.lexer lexer).tokens = setting.before ++ lexer.tokens := rfl

@[simp] theorem indent_lexer : (setting.lexer lexer).indent = lexer.indent := rfl

@[simp] theorem keyAllowed_lexer :
    (setting.lexer lexer).keyAllowed = lexer.keyAllowed := rfl

@[simp] theorem candidates_lexer :
    (setting.lexer lexer).candidates = lexer.candidates.map (Option.map setting.candidate) :=
  rfl

@[simp] theorem inFlow_lexer : (setting.lexer lexer).inFlow = lexer.inFlow := by
  simp [inFlow]

end Setting

/-! ## Candidates -/

/-- A candidate expires in a setting when it expires in the text, as its distance to the cursor is
the same. -/
theorem expire_setting
    (setting : Setting)
    (cursor : Cursor)
    (candidate : Option KeyCandidate) :
    expire (setting.cursor cursor) (candidate.map setting.candidate) =
      (expire cursor candidate).map (Option.map setting.candidate) := by
  cases candidate with
  | none => rfl
  | some candidate =>
      have sameTest : ((setting.candidate candidate).line < (setting.cursor cursor).line
            ∨ (setting.candidate candidate).index + keyLimit < (setting.cursor cursor).index) =
          (candidate.line < cursor.line ∨ candidate.index + keyLimit < cursor.index) := by
        simp only [Setting.candidate, Setting.line_cursor, Setting.index_cursor, eq_iff_iff]
        omega
      simp only [Option.map_some, expire, sameTest]
      split
      · change (if candidate.required = true then none else some none) = _
        split <;> rfl
      · rfl

/-- What is left of a candidate is none or the candidate itself. -/
theorem expire_eq
    {cursor : Cursor}
    {candidate left : Option KeyCandidate}
    (found : expire cursor candidate = some left) :
    left = none ∨ left = candidate := by
  cases candidate with
  | none => exact .inl (Option.some.inj found).symm
  | some candidate =>
      simp only [expire] at found
      split at found
      · split at found
        · contradiction
        · exact .inl (Option.some.inj found).symm
      · exact .inr (Option.some.inj found).symm

/-- All candidates of a lexer expire in a setting as they do in the text. -/
theorem mapM_expire_setting
    (setting : Setting)
    (cursor : Cursor)
    (candidates : List (Option KeyCandidate)) :
    (candidates.map (Option.map setting.candidate)).mapM (expire (setting.cursor cursor)) =
      (candidates.mapM (expire cursor)).map (List.map (Option.map setting.candidate)) := by
  induction candidates with
  | nil => rfl
  | cons first rest same =>
      simp only [List.map_cons, List.mapM_cons, expire_setting, same, bind, pure]
      cases expire cursor first with
      | none => rfl
      | some left => cases rest.mapM (expire cursor) <;> rfl

/-- What is left of candidates is as many, each none or one of them. -/
theorem mapM_expire_eq
    {cursor : Cursor}
    {candidates left : List (Option KeyCandidate)}
    (found : candidates.mapM (expire cursor) = some left) :
    left.length = candidates.length
      ∧ ∀ candidate, some candidate ∈ left →
        some candidate ∈ candidates ∧ expire cursor (some candidate) = some (some candidate) := by
  induction candidates generalizing left with
  | nil =>
      obtain rfl := Option.some.inj found
      simp
  | cons first rest same =>
      simp only [List.mapM_cons, Option.bind_eq_some_iff, bind, pure, Option.some.injEq] at found
      obtain ⟨here, isHere, later, isLater, rfl⟩ := found
      obtain ⟨length, members⟩ := same isLater
      refine ⟨by simp [length], fun candidate present => ?_⟩
      rcases List.mem_cons.1 present with rfl | present
      · rcases expire_eq isHere with impossible | rfl
        · contradiction
        · exact ⟨List.mem_cons_self, isHere⟩
      · obtain ⟨present, stays⟩ := members candidate present
        exact ⟨List.mem_cons_of_mem _ present, stays⟩

/-- A lexer with other candidates, each none or one of them, stays where it is. -/
theorem Sound.stays_candidates
    {lexer : Lexer}
    (sound : Sound base lexer)
    {left : List (Option KeyCandidate)}
    (length : left.length = lexer.candidates.length)
    (members : ∀ candidate, some candidate ∈ left → some candidate ∈ lexer.candidates) :
    Stays base lexer { lexer with candidates := left } :=
  { cursor := rfl
    sound :=
      { places := fun candidate present => sound.places candidate (members candidate present)
        lines := fun candidate present => sound.lines candidate (members candidate present)
        levels := sound.levels
        depth := length.trans sound.depth }
    inFlow := by simp [inFlow, length]
    adds := fun _ present => .inl present }

/-- Giving up candidates leaves the tokens and the place as they are; those that remain have been
there before. -/
theorem expireAll_staysIn
    {lexer : Lexer}
    (sound : Sound base lexer) :
    StaysIn base expireAll lexer := by
  constructor
  · intro setting
    simp only [expireAll, cursor_lexer, candidates_lexer, mapM_expire_setting, bind, pure]
    cases lexer.candidates.mapM (expire lexer.cursor) <;> rfl
  · intro next found
    simp only [expireAll, Option.bind_eq_some_iff, bind, pure, Option.some.injEq] at found
    obtain ⟨left, isLeft, rfl⟩ := found
    obtain ⟨length, members⟩ := mapM_expire_eq isLeft
    exact sound.stays_candidates length fun candidate present => (members candidate present).1

/-- Only the innermost candidate is given up, and a required one is a fault in every setting. -/
theorem dropCandidate_staysIn
    {lexer : Lexer}
    (sound : Sound base lexer) :
    StaysIn base dropCandidate lexer := by
  constructor
  · intro setting
    unfold dropCandidate
    rw [candidates_lexer]
    cases present : lexer.candidates with
    | nil => rfl
    | cons first rest =>
        cases first with
        | none => rfl
        | some candidate =>
            simp only [List.map_cons, Option.map_some]
            change (if candidate.required = true then none else _) = _
            split <;> rfl
  · intro next found
    unfold dropCandidate at found
    split at found
    next candidate rest present =>
      split at found
      · contradiction
      · obtain rfl := Option.some.inj found
        refine sound.stays_candidates (by simp [present]) fun candidate inRest => ?_
        rw [present]
        rcases List.mem_cons.1 inRest with impossible | inRest
        · contradiction
        · exact List.mem_cons_of_mem _ inRest
    · obtain rfl := Option.some.inj found
      exact .refl sound

/-- Whether a key may start here has no part in what makes a lexer sound. -/
theorem allowKey_stays
    {lexer : Lexer}
    (sound : Sound base lexer)
    (keyAllowed : Bool) :
    Stays base lexer (lexer.allowKey keyAllowed) :=
  ⟨rfl, ⟨sound.places, sound.lines, sound.levels, sound.depth⟩, rfl,
    fun _ present => .inl present⟩

/-- The next token becomes the candidate: its place is behind all tokens there are, which is where
the setting puts it. -/
theorem markCandidate_staysIn
    {lexer : Lexer}
    (sound : Sound base lexer) :
    StaysIn base markCandidate lexer := by
  by_cases allowed : lexer.keyAllowed = true
  · have dropped := dropCandidate_staysIn sound
    constructor
    · intro setting
      simp only [markCandidate, keyAllowed_lexer, allowed, if_true, dropped.same setting, bind,
        pure]
      cases lexer.dropCandidate with
      | none => rfl
      | some next =>
          simp [Setting.lexer, Setting.candidate, inFlow]
    · intro last found
      simp only [markCandidate, allowed, if_true, bind, pure, Option.bind_eq_some_iff,
        Option.some.injEq] at found
      obtain ⟨next, isNext, rfl⟩ := found
      refine (dropped.stays next isNext).trans ?_
      have nextSound := (dropped.stays next isNext).sound
      have length : next.candidates.length = next.candidates.length - 1 + 1 := by
        have depth := nextSound.depth
        omega
      refine ⟨rfl, ⟨?_, ?_, nextSound.levels, ?_⟩, ?_, fun _ present => .inl present⟩
      · intro candidate present
        rcases List.mem_cons.1 present with same | present
        · obtain rfl := Option.some.inj same
          exact Nat.le_refl _
        · exact nextSound.places candidate (List.mem_of_mem_drop present)
      · intro candidate present
        rcases List.mem_cons.1 present with same | present
        · obtain rfl := Option.some.inj same
          exact Nat.le_refl _
        · exact nextSound.lines candidate (List.mem_of_mem_drop present)
      · simp only [List.length_cons, List.length_drop, ← length]
        exact nextSound.depth
      · simp only [inFlow, List.length_cons, List.length_drop, ← length]
  · constructor
    · intro setting
      simp [markCandidate, allowed]
    · intro last found
      simp only [markCandidate, allowed] at found
      obtain rfl := Option.some.inj found
      exact .refl sound

/-! ## Blocks -/

/-- What is inserted in a list parts it in two. -/
theorem insertIdx_eq_take_drop
    {tokens : List Token}
    {place : Nat}
    (inside : place ≤ tokens.length)
    (token : Token) :
    tokens.insertIdx place token = tokens.take place ++ token :: tokens.drop place := by
  induction tokens generalizing place with
  | nil =>
      obtain rfl := Nat.le_zero.1 inside
      rfl
  | cons first rest same =>
      cases place with
      | zero => rfl
      | succ place =>
          rw [List.insertIdx_succ_cons, same (Nat.le_of_succ_le_succ inside)]
          rfl

/-- The same of an array, where the place is known to be inside. -/
theorem toList_insertIdx!
    {tokens : Array Token}
    {place : Nat}
    (inside : place ≤ tokens.size)
    (token : Token) :
    (tokens.insertIdx! place token).toList =
      tokens.toList.take place ++ token :: tokens.toList.drop place := by
  rw [Array.insertIdx!, dif_pos inside, Array.toList_insertIdx]
  exact insertIdx_eq_take_drop inside token

/-- What is inserted behind the tokens before a text is inserted in the text. -/
theorem insertIdx!_append
    (before : Array Token)
    {tokens : Array Token}
    {place : Nat}
    (inside : place ≤ tokens.size)
    (token : Token) :
    (before ++ tokens).insertIdx! (before.size + place) token =
      before ++ tokens.insertIdx! place token := by
  apply Array.toList_inj.1
  rw [toList_insertIdx! (by simpa using inside), Array.toList_append, Array.toList_append,
    toList_insertIdx! inside]
  have whole : before.toList.length ≤ before.size + place := by simp
  rw [List.take_append, List.drop_append, List.take_of_length_le whole,
    List.drop_of_length_le whole]
  simp

/-- A token that is put among the tokens of a document leaves its flow collections as they
are. -/
theorem flowDepth_insertIdx!
    {tokens : Array Token}
    {place : Nat}
    (inside : place ≤ tokens.size)
    {token : Token}
    (inner : token.isBlockInner = true)
    (depth : Nat) :
    flowDepth depth (tokens.insertIdx! place token).toList = flowDepth depth tokens.toList := by
  have parts := List.take_append_drop place tokens.toList
  have whole := congrArg (flowDepth depth) parts
  rw [flowDepth_append] at whole
  rw [toList_insertIdx! inside, flowDepth_append, flowDepth, List.foldl_cons,
    flowStep_of_isBlockInner inner]
  exact whole

/-- Inserting a token adds that token only. -/
theorem mem_insertIdx!
    {tokens : Array Token}
    {place : Nat}
    (inside : place ≤ tokens.size)
    {token present : Token}
    (found : present ∈ tokens.insertIdx! place token) :
    present ∈ tokens ∨ present = token := by
  have parts := List.take_append_drop place tokens.toList
  rw [← Array.mem_toList_iff, toList_insertIdx! inside, List.mem_append, List.mem_cons] at found
  rw [← Array.mem_toList_iff, ← parts, List.mem_append]
  rcases found with found | found | found
  · exact .inl (.inl found)
  · exact .inr found
  · exact .inl (.inr found)

theorem size_insertIdx!
    {tokens : Array Token}
    {place : Nat}
    (inside : place ≤ tokens.size)
    (token : Token) :
    (tokens.insertIdx! place token).size = tokens.size + 1 := by
  rw [Array.insertIdx!, dif_pos inside, Array.size_insertIdx]

/-- A block is opened in a setting at the place that it has in the text. -/
theorem openBlock_setting
    (setting : Setting)
    (lexer : Lexer)
    (column : Nat)
    {place : Nat}
    (inside : place ≤ lexer.tokens.size)
    (token : Token) :
    (setting.lexer lexer).openBlock column (setting.before.size + place) token =
      setting.lexer (lexer.openBlock column place token) := by
  unfold openBlock
  rw [inFlow_lexer, indent_lexer]
  split
  · rw [tokens_lexer, insertIdx!_append setting.before inside]
    rfl
  · rfl

/-- A block that is opened adds its column to the levels, and a token to the content of the
document. -/
theorem openBlock_stays
    {lexer : Lexer}
    (sound : Sound base lexer)
    (column : Nat)
    {place : Nat}
    (inside : place ≤ lexer.tokens.size)
    {token : Token}
    (inner : token.isBlockInner = true) :
    Stays base lexer (lexer.openBlock column place token) := by
  unfold openBlock
  split
  · obtain ⟨columns, nonnegative, isLevels⟩ := sound.levels
    refine ⟨rfl, ⟨fun candidate present => ?_, sound.lines, ⟨column :: columns, ?_, ?_⟩, ?_⟩,
      rfl, fun present found => ?_⟩
    · rw [size_insertIdx! inside]
      exact Nat.le_succ_of_le (sound.places candidate present)
    · intro level present
      rcases List.mem_cons.1 present with rfl | present
      · exact Int.natCast_nonneg column
      · exact nonnegative level present
    · rw [List.cons_append, ← isLevels]
    · rw [flowDepth_insertIdx! inside inner]
      exact sound.depth
    · rcases mem_insertIdx! inside found with present | rfl
      · exact .inl present
      · exact .inr (endsDocument_of_isBlockInner inner)
  · exact .refl sound

/-- The ends of blocks open and close no flow collection. -/
theorem flowDepth_blockEnds
    (depth : Nat)
    (levels : List Int) :
    flowDepth depth (levels.map fun _ => Token.blockEnd) = depth := by
  induction levels with
  | nil => rfl
  | cons level levels same => exact same

/-- Closing blocks depends on columns alone, and those are the same in every setting. -/
theorem closeBlocks_setting
    (setting : Setting)
    (lexer : Lexer)
    (column : Int) :
    (setting.lexer lexer).closeBlocks column =
      setting.lexer (lexer.closeBlocks column) := by
  unfold closeBlocks
  rw [inFlow_lexer]
  split
  · rfl
  · simp only [Setting.lexer, Lexer.mk.injEq, true_and, and_true]
    exact Array.toList_inj.1 (by simp)

/-- Only blocks of columns are closed. -/
theorem closed_levels
    {columns : List Int}
    (column : Int)
    (outermost : -1 ≤ column)
    (nonnegative : ∀ level ∈ columns, 0 ≤ level) :
    ∃ kept : List Int, (∀ level ∈ kept, 0 ≤ level)
      ∧ (columns ++ [-1]).drop
        ((columns ++ [-1]).takeWhile fun level => decide (column < level)).length =
          kept ++ [-1] := by
  induction columns with
  | nil =>
      have outside : ¬column < -1 := by omega
      exact ⟨[], by simp, by simp [outside]⟩
  | cons level columns closes =>
      obtain ⟨here, later⟩ := List.forall_mem_cons.1 nonnegative
      by_cases further : column < level
      · simpa [further] using closes later
      · exact ⟨level :: columns, nonnegative, by simp [further]⟩

/-- Blocks are closed from the inside, and the level outside of all blocks never is. -/
theorem closeBlocks_stays
    {lexer : Lexer}
    (sound : Sound base lexer)
    {column : Int}
    (outermost : -1 ≤ column) :
    Stays base lexer (lexer.closeBlocks column) := by
  unfold closeBlocks
  split
  · exact .refl sound
  · obtain ⟨columns, nonnegative, isLevels⟩ := sound.levels
    obtain ⟨kept, keptNonnegative, isKept⟩ := closed_levels column outermost nonnegative
    rw [← isLevels] at isKept
    refine ⟨rfl, ⟨fun candidate present => ?_, sound.lines, ⟨kept, keptNonnegative, ?_⟩, ?_⟩,
      rfl, fun token present => ?_⟩
    · rw [← Array.length_toList, Array.toList_appendList, List.length_append]
      exact Nat.le_trans (sound.places candidate present) (Nat.le_add_right _ _)
    · simp only [isKept]
      cases kept <;> rfl
    · rw [Array.toList_appendList, flowDepth_append, flowDepth_blockEnds]
      exact sound.depth
    · rw [← Array.mem_toList_iff, Array.toList_appendList, List.mem_append] at present
      rcases present with present | closed
      · exact .inl (Array.mem_toList_iff.1 present)
      · obtain ⟨_, _, rfl⟩ := List.mem_map.1 closed
        exact .inr rfl

end Lexer
end Yaml
end ManifestPolicy
