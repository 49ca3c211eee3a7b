import ManifestPolicy.Proofs.Yaml.Running

/-!
# Tokens of texts that are joined

The tokens of a text that ends with a line break come first among the tokens of the text with
a line that begins a document after it, and then come that line and the tokens of what is
after it.
-/

namespace ManifestPolicy
namespace Yaml

open Cursor

namespace Lexer

variable {setting : Setting} {base : Nat}

/-- The lexer at the start of a text. -/
def fresh (text : List Char) : Lexer := { cursor := { rest := text } }

/-- The tokens of a text, allowed or not. -/
def lexed (text : List Char) : Array Token := run (text.length + 1) (fresh text)

/-- A lexer at the start of a text has no candidates, no blocks and no tokens. -/
theorem fresh_rests
    {text : List Char}
    (fits : setting.Fits (fresh text).cursor) :
    Rests setting 0 (fresh text) := by
  have nothing : ∀ candidate, some candidate ∉ (fresh text).candidates := by
    simp [fresh]
  exact ⟨fits, ⟨fun candidate present => absurd present (nothing candidate),
    fun candidate present => absurd present (nothing candidate), ⟨[], by simp, rfl⟩, rfl⟩,
    fun candidate present => absurd present (nothing candidate)⟩

/-! ## Behind the line that begins a document -/

/-- The lexer behind the three dashes that begin a document, without the tokens up to
there. -/
def behindMarker (last : Lexer) (more : List Char) : Lexer :=
  { last with
    cursor :=
      { last.cursor with
        rest := '\n' :: more
        index := last.cursor.index + 3
        column := last.cursor.column + 3 }
    tokens := #[] }

theorem map_quiet
    {candidates : List (Option KeyCandidate)}
    (quiet : ∀ candidate ∈ candidates, candidate = none)
    (change : KeyCandidate → KeyCandidate) :
    candidates.map (Option.map change) = candidates := by
  rw [List.map_congr_left fun candidate present => ?_, List.map_id]
  rw [quiet candidate present]
  rfl

/-- The lexer that has passed the three dashes has the tokens up to there, and goes on
without them. -/
theorem behindMarker_setting
    {last : Lexer}
    (ended : Ended base last)
    (more : List Char) :
    ((({ tail := marked more } : Setting).lexer last).advance 3).emit .documentStart =
      ({ before := last.tokens.push .documentStart } : Setting).lexer
        (behindMarker last more) := by
  simp only [Setting.lexer, behindMarker, Lexer.advance, emit, map_quiet ended.quiet,
    Lexer.mk.injEq, and_true]
  refine ⟨?_, by simp⟩
  simp [Setting.cursor, Cursor.advance, followedBy, moved, ended.finished, marked]

theorem behindMarker_rests
    {last : Lexer}
    (ended : Ended base last)
    (more : List Char)
    {after : Setting}
    (alone : after.tail = []) :
    Rests after (flowDepth base last.tokens.toList) (behindMarker last more) := by
  have nothing : ∀ candidate, some candidate ∉ (behindMarker last more).candidates := by
    intro candidate present
    exact nomatch ended.quiet (some candidate) present
  exact ⟨.inl alone, ⟨fun candidate present => absurd present (nothing candidate),
    fun candidate present => absurd present (nothing candidate), ended.sound.levels,
    ended.sound.depth⟩, fun candidate present => absurd present (nothing candidate)⟩

/-- The tokens up to the line that begins a document stay in front of those behind it. -/
theorem run_documentStart
    {last : Lexer}
    (ended : Ended base last)
    {more : List Char}
    {fuel : Nat}
    (enough : more.length + 1 < fuel) :
    run fuel (((({ tail := marked more } : Setting).lexer last).advance 3).emit .documentStart) =
      last.tokens.push .documentStart ++ run fuel (behindMarker last more) := by
  have plenty : (behindMarker last more).cursor.rest.length < fuel := enough
  rw [behindMarker_setting ended more, run_alone rfl (behindMarker_rests ended more rfl) plenty
    plenty]

/-- Outside all flow collections there is one place for a candidate, and at the end of a text none
is left in it. -/
theorem candidates_of_block
    {last : Lexer}
    (ended : Ended base last)
    (block : last.inFlow = false) :
    last.candidates = [none] := by
  have few : last.candidates.length ≤ 1 := by simpa [inFlow] using block
  have some : last.candidates.length = flowDepth base last.tokens.toList + 1 :=
    ended.sound.depth
  obtain ⟨only, isOnly⟩ := List.length_eq_one_iff.1 (by omega : last.candidates.length = 1)
  rw [isOnly, ended.quiet only (by rw [isOnly]; exact List.mem_cons_self)]

/-- The rest of the line that begins a document is passed over, up to where the text after it
starts. -/
theorem skipBetween_behindMarker
    {last : Lexer}
    (ended : Ended base last)
    (block : last.inFlow = false)
    (more : List Char)
    (fuel : Nat) :
    (behindMarker last more).skipBetween (fuel + 1) =
      (({ index := last.cursor.index + 4, line := last.cursor.line + 1 } : Setting).lexer
        (fresh more)).skipBetween fuel := by
  have stays : ∀ tabs, passLine tabs (behindMarker last more).cursor =
      (behindMarker last more).cursor := by
    intro tabs
    simp [passLine, passMark, passBlanks, passComment, behindMarker, skipWhile, spanWhile,
      Cursor.isAt, Cursor.peek?]
  have breaks : (behindMarker last more).cursor.peek?.any isBreak = true := rfl
  obtain ⟨indent, outer⟩ := ended.outermost block
  have inFlow : (behindMarker last more).inFlow = false := block
  rw [skipBetween_succ, stays, if_pos breaks, inFlow]
  simp [behindMarker, Setting.lexer, fresh, indent, outer, candidates_of_block ended block,
    Cursor.skipBreak, Cursor.readBreak, isBreak, nextLineAfter, Setting.cursor, moved,
    followedBy, lineSeparator, paragraphSeparator, nextLine]

/-- Outside all flow collections, what comes behind the line that begins a document is read
like the start of a text. -/
theorem run_behindMarker
    {last : Lexer}
    (ended : Ended base last)
    (block : last.inFlow = false)
    {more : List Char}
    {fuel : Nat}
    (enough : more.length < fuel) :
    run fuel (behindMarker last more) = lexed more := by
  obtain ⟨fuel, rfl⟩ : ∃ less, fuel = less + 1 := ⟨fuel - 1, by omega⟩
  obtain ⟨after, isAfter⟩ : ∃ after : Setting, after =
    { index := last.cursor.index + 4, line := last.cursor.line + 1 } := ⟨_, rfl⟩
  have alone : after.tail = [] := by rw [isAfter]
  have same : run (fuel + 1) (behindMarker last more) =
      run (fuel + 1) (after.lexer (fresh more)) := by
    have lengthBehind : (behindMarker last more).cursor.rest.length = more.length + 1 := rfl
    have lengthAfter : (after.lexer (fresh more)).cursor.rest.length = more.length := by
      simp [Setting.cursor_of_alone alone, fresh]
    have skips : (behindMarker last more).skipBetween (more.length + 1 + 1) =
        (after.lexer (fresh more)).skipBetween (more.length + 1) := by
      rw [skipBetween_behindMarker ended block, isAfter]
    simp only [run, lengthBehind, lengthAfter, skips]
  rw [same, run_alone alone (fresh_rests (.inl alone)) (Nat.lt_succ_self more.length) enough,
    isAfter]
  simp [lexed, fresh]

/-! ## Whole texts -/

/-- The tokens of a text with no line that begins a document: they stop at a fault, or they
are those of one document and the end of the text. -/
inductive Single (text : List Char) : Prop
  | fault
      (inner : ∀ token ∈ lexed text, Reader.endsDocument token = false)
  | ends
      (body : List Token)
      (inner : ∀ token ∈ body, Reader.endsDocument token = false)
      (isBody : (lexed text).toList = body ++ [.streamEnd])

/-- A text without lines that begin documents is one document or at fault. -/
theorem lexed_single
    {text : List Char}
    (unmarked : (fresh text).cursor.Unmarked) :
    Single text := by
  have outcome := @run_outcome {} 0 (fresh text) (fresh_rests (.inl rfl)) unmarked
    (by simp [fresh]) _ _ (Nat.lt_succ_self text.length)
    (Nat.lt_succ_self ((({} : Setting).cursor (fresh text).cursor).rest.length))
  cases outcome with
  | fault same inner => exact .fault inner
  | ends last inner isAlone nothing goesOn =>
      refine .ends last.tokens.toList (fun token present => inner token (by simpa using present)) ?_
      rw [lexed, isAlone, Array.toList_push]

/-- Such a text that has any tokens begins with one of its document. -/
theorem Single.begins
    {text : List Char}
    (single : Single text)
    (speaking : lexed text ≠ #[.streamEnd]) :
    ∀ first ∈ (lexed text).toList.head?, Reader.endsDocument first = false := by
  cases single with
  | fault inner =>
      intro first isHead
      exact inner first (by simpa using List.mem_of_mem_head? isHead)
  | ends body inner isBody =>
      rw [isBody]
      cases body with
      | nil => exact absurd (by rw [← Array.toList_inj, isBody]; rfl) speaking
      | cons token rest => simpa using inner token List.mem_cons_self

/-- What becomes of the tokens of a text when a line that begins a document and more text come
after it. -/
inductive Joined (text more : List Char) : Prop
  | fault
      (inner : ∀ token ∈ lexed text, Reader.endsDocument token = false)
      (same : lexed (text ++ marked more) = lexed text)
  | ends
      (body later : List Token)
      (inner : ∀ token ∈ body, Reader.endsDocument token = false)
      (isBody : (lexed text).toList = body ++ [.streamEnd])
      (goesOn : (lexed (text ++ marked more)).toList = body ++ .documentStart :: later)
      (isLater : flowDepth 0 body = 0 → later = (lexed more).toList)

/-- What comes behind the line that begins a document does not change the tokens before it, and is
read like a text of its own when no flow collection is open there. -/
theorem lexed_joined
    {text : List Char}
    (closed : (fresh text).cursor.Closed)
    (unmarked : (fresh text).cursor.Unmarked)
    (more : List Char) :
    Joined text more := by
  obtain ⟨setting, isSetting⟩ : ∃ setting : Setting, setting = { tail := marked more } :=
    ⟨_, rfl⟩
  have fits : setting.Fits (fresh text).cursor :=
    .inr ⟨closed, isSetting ▸ follows_marked more⟩
  have start : setting.lexer (fresh text) = fresh (text ++ marked more) := by
    rw [isSetting]
    simp [Setting.lexer, fresh, Setting.cursor, moved, followedBy]
  have length : (setting.cursor (fresh text).cursor).rest.length <
      (text ++ marked more).length + 1 := by
    rw [Setting.length_cursor, isSetting, List.length_append]
    exact Nat.lt_succ_self _
  have outcome := run_outcome (fresh_rests fits) unmarked (by simp [fresh])
    (Nat.lt_succ_self text.length) length
  rw [start] at outcome
  have noTokens : setting.before = #[] := by rw [isSetting]
  cases outcome with
  | fault same inner =>
      refine .fault inner ?_
      rw [noTokens, Array.empty_append] at same
      exact same
  | ends last inner isAlone nothing goesOn =>
      obtain ⟨ended, fuel, enough, isRun⟩ := goesOn more (by rw [isSetting])
      have continues : lexed (text ++ marked more) =
          last.tokens.push .documentStart ++ run fuel (behindMarker last more) := by
        rw [lexed, isRun, isSetting, run_documentStart ended (by omega)]
      refine .ends last.tokens.toList (run fuel (behindMarker last more)).toList
        (fun token present => inner token (by simpa using present)) ?_ ?_ fun outside => ?_
      · rw [lexed, isAlone, Array.toList_push]
      · rw [continues]
        simp
      · have block : last.inFlow = false := by
          have depth := ended.sound.depth
          rw [outside] at depth
          simp [inFlow, depth]
        rw [run_behindMarker ended block (by omega)]

/-- The same of a text that is joined with another. -/
theorem Joined.begins
    {text more : List Char}
    (isJoined : Joined text more)
    (speaking : lexed text ≠ #[.streamEnd]) :
    ∀ first ∈ (lexed (text ++ marked more)).toList.head?, Reader.endsDocument first = false := by
  cases isJoined with
  | fault inner same =>
      rw [same]
      exact Single.begins (.fault inner) speaking
  | ends body later inner isBody goesOn isLater =>
      rw [goesOn]
      cases body with
      | nil => exact absurd (by rw [← Array.toList_inj, isBody]; rfl) speaking
      | cons token rest => simpa using inner token List.mem_cons_self

end Lexer
end Yaml
end ManifestPolicy
