import ManifestPolicy.Proofs.Yaml.Stops
import ManifestPolicy.Yaml.ScalarText

/-!
# Scalars in texts that go on

No scalar extends over a line that begins a document. What is read of a scalar in a text
that ends with a line break is therefore the same when such a line comes after the text.
-/

namespace ManifestPolicy
namespace Yaml

open Cursor

namespace Gap

/-- A gap ends before a line that begins a document. -/
theorem readRest_stops
    (limit : Nat)
    (gap : Gap)
    {cursor : Cursor}
    (closed : cursor.Closed) :
    StopsWithin (fun fuel => readRest limit fuel gap) cursor.rest.length cursor := by
  induction length : cursor.rest.length using Nat.strongRecOn generalizing gap cursor with
  | ind length readLater =>
  subst length
  rcases closed with isOpen | ended
  · obtain ⟨character, next, steps, shorter, stays, breaksShorten⟩ := isOpen.peek
    obtain ⟨least, isLength⟩ := Nat.exists_eq_add_one.2 isOpen.length_pos
    rw [isLength]
    refine .of_succ ?_
    by_cases blank : isSpaceOrTab character = true
    · have inside : character ≠ '\n' := by
        rintro rfl
        contradiction
      have later := fun gap => readLater _ shorter gap (stays inside).closed rfl
      by_cases broken : gap.broken = true
      · by_cases tab : character = '\t' ∧ cursor.column < limit
        · refine .of_none fun fuel _ tail _ => ?_
          simp only [readRest, next, broken, if_true]
          rw [if_pos blank]
          exact if_pos tab
        · refine .of_step (later gap) (by omega) fun fuel tail _ => ?_
          simp only [readRest, next, blank, broken, if_true, steps]
          exact if_neg tab
      · refine .of_step (later { gap with blanks := gap.blanks ++ [character] }) (by omega)
          fun fuel tail _ => ?_
        simp [readRest, next, blank, broken, steps]
    · by_cases breaks : isBreak character = true
      · have shorterBreak := breaksShorten breaks
        have later := fun gap => readLater _ shorterBreak gap isOpen.readBreak_closed rfl
        by_cases broken : gap.broken = true
        · refine .of_step (later { gap with later := gap.later ++ cursor.readBreak.1 })
            (by omega) fun fuel tail _ => ?_
          simp [readRest, next, blank, breaks, broken, readBreak_followedBy isOpen]
        · refine .of_step
            (later { gap with blanks := [], first := cursor.readBreak.1, broken := true })
            (by omega) fun fuel tail _ => ?_
          simp [readRest, next, blank, breaks, broken, readBreak_followedBy isOpen]
      · refine .of_some gap isOpen.closed fun fuel _ tail _ => ?_
        simp [readRest, next, blank, breaks]
  · refine .of_some gap (.inr ended) fun fuel _ tail follows => ?_
    cases fuel with
    | zero => rfl
    | succ fuel =>
        rcases follows.peek? ended.1 with nothing | marks
        · simp only [readRest, nothing]
        · simp only [readRest, marks]
          rfl

/-- A gap ends before a line that begins a document. -/
theorem read_stops
    (limit : Nat)
    (gap : Gap)
    {cursor : Cursor}
    (closed : cursor.Closed) :
    Stops (Gap.read limit gap) cursor :=
  (readRest_stops limit gap closed).stops (fun cursor => cursor.rest.length)
    fun tail => by simp

/-- A gap that has been read is a part of the text, and not empty where one begins. -/
theorem length_readRest
    {limit fuel : Nat}
    {gap read : Gap}
    {cursor next : Cursor}
    (found : readRest limit fuel gap cursor = some (read, next)) :
    next.rest.length ≤ cursor.rest.length
      ∧ (fuel ≠ 0 → cursor.peek?.any isGap = true →
        next.rest.length < cursor.rest.length) := by
  induction fuel generalizing gap cursor with
  | zero =>
      simp only [readRest, Option.some.injEq, Prod.mk.injEq] at found
      rw [found.2]
      exact ⟨Nat.le_refl _, fun impossible => absurd rfl impossible⟩
  | succ fuel shortens =>
      unfold readRest at found
      split at found
      next ended =>
        simp only [Option.some.injEq, Prod.mk.injEq] at found
        rw [← found.2, ended]
        exact ⟨Nat.le_refl _, fun _ impossible => nomatch impossible⟩
      next character begins =>
        obtain ⟨later, text⟩ := List.head?_eq_some_iff.1 begins
        have advanced : (cursor.advance 1).rest.length < cursor.rest.length := by
          simp [text]
        have strict : next.rest.length < cursor.rest.length ∨
            next = cursor ∧ isGap character = false := by
          split at found
          · split at found
            · split at found
              · contradiction
              · have := (shortens found).1
                omega
            · have := (shortens found).1
              omega
          · split at found
            next breaks =>
              have shorter := length_readBreak begins breaks
              simp only at found
              split at found
              · have := (shortens found).1
                omega
              · have := (shortens found).1
                omega
            next notBlank notBreak =>
              simp only [Option.some.injEq, Prod.mk.injEq] at found
              exact .inr ⟨found.2.symm, by simp [isGap, notBlank, notBreak]⟩
        rcases strict with shorter | ⟨rfl, notGap⟩
        · exact ⟨Nat.le_of_lt shorter, fun _ _ => shorter⟩
        · refine ⟨Nat.le_refl _, fun _ isGap => ?_⟩
          rw [begins] at isGap
          simp [notGap] at isGap

/-- A gap that begins with white space takes text away. -/
theorem length_read
    {limit : Nat}
    {gap read : Gap}
    {cursor next : Cursor}
    (found : Gap.read limit gap cursor = some (read, next))
    (begins : cursor.peek?.any isGap = true) :
    next.rest.length < cursor.rest.length := by
  refine (length_readRest found).2 ?_ begins
  intro empty
  rw [peek?, List.length_eq_zero_iff.1 empty] at begins
  contradiction

end Gap

/-! ## Plain scalars -/

/-- The characters of a plain scalar on a line do not depend on what comes after it. -/
theorem plainRun_append
    (inFlow : Bool)
    (taken text : List Char)
    {tail : List Char}
    (ends : EndsLine tail) :
    plainRun inFlow taken (text ++ tail) = plainRun inFlow taken text := by
  induction text generalizing taken with
  | nil =>
      rcases ends.cases with rfl | ⟨later, rfl⟩
      · rfl
      · rfl
  | cons first later runLater =>
      have any : ∀ kind : Char → Bool, kind '\n' = false →
          (later ++ tail).head?.any kind = later.head?.any kind := by
        intro kind fails
        cases later with
        | cons second later => rfl
        | nil => rcases ends.cases with rfl | ⟨later, rfl⟩ <;> simp [fails]
      have all : (later ++ tail).head?.all isGap = later.head?.all isGap := by
        cases later with
        | cons second later => rfl
        | nil => rcases ends.cases with rfl | ⟨later, rfl⟩ <;> rfl
      rw [List.cons_append, plainRun, plainRun, any _ (by decide), all, runLater]

/-- A run of a plain scalar is what comes next, up to white space or an indicator. -/
theorem plainRun_prefix
    {inFlow : Bool}
    {taken text run : List Char}
    (found : plainRun inFlow taken text = some run) :
    ∃ before later, run = taken.reverse ++ before ∧ text = before ++ later
      ∧ ∀ character ∈ before, isGap character = false := by
  induction text generalizing taken with
  | nil =>
      simp only [plainRun, Option.some.injEq] at found
      exact ⟨[], [], by simp [found], rfl, by simp⟩
  | cons first rest runLater =>
      have here : some taken.reverse = some run → ∃ before later,
          run = taken.reverse ++ before ∧ first :: rest = before ++ later
            ∧ ∀ character ∈ before, isGap character = false := by
        intro found
        exact ⟨[], first :: rest, by simpa using found.symm, rfl, by simp⟩
      unfold plainRun at found
      split at found
      · exact here found
      · next notGap =>
        split at found
        · contradiction
        · split at found
          · exact here found
          · split at found
            · exact here found
            · obtain ⟨before, later, same, text, noGap⟩ := runLater found
              refine ⟨first :: before, later, by simp [same], by rw [text]; rfl, ?_⟩
              exact List.forall_mem_cons.2 ⟨by simpa using notGap, noGap⟩

/-- A run of a plain scalar ends within its line, whatever follows the text. -/
theorem plainRun_open
    {cursor : Cursor}
    (isOpen : cursor.Open)
    (inFlow : Bool)
    (tail : List Char) :
    plainRun inFlow [] (cursor.followedBy tail).rest = plainRun inFlow [] cursor.rest := by
  obtain ⟨before, rfl⟩ := isOpen.eq_followedBy
  rw [← followedBy_append, rest_followedBy, rest_followedBy, List.singleton_append,
    plainRun_append _ _ _ (endsLine_cons tail), plainRun_append _ _ _ (endsLine_cons [])]

/-- The line goes on after the characters of a plain scalar. -/
theorem plainRun_length
    {cursor : Cursor}
    (isOpen : cursor.Open)
    {inFlow : Bool}
    {run : List Char}
    (found : plainRun inFlow [] cursor.rest = some run) :
    run.length < cursor.rest.length := by
  obtain ⟨before, later, same, text, noGap⟩ := plainRun_prefix found
  rw [List.reverse_nil, List.nil_append] at same
  subst same
  rw [text, List.length_append]
  cases later with
  | cons first later => simp
  | nil =>
      obtain ⟨line, ends⟩ := isOpen
      have present : '\n' ∈ run := by
        rw [List.append_nil] at text
        simp [← text, ends]
      exact absurd (noGap _ present) (by decide)

/-- The rest of a plain scalar as a value and the place after it. -/
def plainParts
    (inFlow : Bool)
    (indent fuel : Nat)
    (text : List Char)
    (gap : Gap)
    (cursor : Cursor) : Option ((List Char × Bool) × Cursor) :=
  (readPlainRest inFlow indent fuel text gap cursor).map fun plain =>
    ((plain.text, plain.broken), plain.cursor)

/-- What becomes of a plain scalar after the characters of a line. -/
def plainAfter
    (inFlow : Bool)
    (indent fuel : Nat)
    (text : List Char)
    (gap : Gap)
    (run : List Char)
    (cursor : Cursor) : Option ((List Char × Bool) × Cursor) :=
  let joined := if run.isEmpty then text else text ++ gap.text ++ run
  let gap : Gap := if run.isEmpty then gap else {}
  if !(cursor.peek?.any isGap) then some ((joined, gap.broken), cursor)
  else
    (Gap.read indent gap cursor).bind fun (gap, cursor) =>
      if !inFlow && cursor.column < indent then some ((joined, gap.broken), cursor)
      else plainParts inFlow indent fuel joined gap cursor

/-- A plain scalar is a run and what comes after it, unless it ends here. -/
theorem plainParts_succ
    (inFlow : Bool)
    (indent fuel : Nat)
    (text : List Char)
    (gap : Gap)
    (cursor : Cursor) :
    plainParts inFlow indent (fuel + 1) text gap cursor =
      if cursor.atDocumentMarker || cursor.isAt '#' then some ((text, gap.broken), cursor)
      else
        (plainRun inFlow [] cursor.rest).bind fun run =>
          plainAfter inFlow indent fuel text gap run (cursor.advance run.length) := by
  rw [plainParts, readPlainRest]
  split
  · rfl
  · cases plainRun inFlow [] cursor.rest with
    | none => rfl
    | some run =>
        simp only [Option.bind_some, bind, plainAfter]
        split
        · rfl
        · cases Gap.read indent (if run.isEmpty then gap else {}) (cursor.advance run.length) with
          | none => rfl
          | some found =>
              obtain ⟨gap, next⟩ := found
              simp only [Option.bind_some]
              split <;> rfl

/-- After the characters of a line a plain scalar ends, or goes on further down. -/
theorem plainAfter_stops
    {cursor : Cursor}
    (isOpen : cursor.Open)
    (inFlow : Bool)
    (indent : Nat)
    {least : Nat}
    (later : ∀ text gap (next : Cursor), next.Closed →
      next.rest.length < cursor.rest.length →
        StopsWithin (fun fuel => plainParts inFlow indent fuel text gap) least next)
    (text : List Char)
    (gap : Gap)
    (run : List Char) :
    StopsWithin (fun fuel => plainAfter inFlow indent fuel text gap run) least cursor := by
  unfold plainAfter
  generalize (if run.isEmpty then text else text ++ gap.text ++ run) = joined
  generalize (if run.isEmpty then gap else ({} : Gap)) = before
  obtain ⟨character, next, _⟩ := isOpen.peek
  by_cases gapNext : isGap character = true
  · refine .of_step
      (.bind
        (fun fuel (after : Gap) cursor =>
          if !inFlow && cursor.column < indent then some ((joined, after.broken), cursor)
          else plainParts inFlow indent fuel joined after cursor)
        ((Gap.read_stops indent before isOpen.closed).within least)
        fun after last closed found => ?_)
      (Nat.le_refl least) fun fuel tail _ => ?_
    · by_cases early : (!inFlow && decide (last.column < indent)) = true
      · refine .of_some (joined, after.broken) closed fun fuel _ tail _ => ?_
        rw [column_followedBy, if_pos early]
      · have here := next []
        rw [followedBy_nil] at here
        refine .of_step (later joined after last closed (Gap.length_read found ?_))
          (Nat.le_refl least) fun fuel tail _ => ?_
        · simp [here, gapNext]
        · rw [column_followedBy, if_neg early]
    · simp only [next, Option.any_some, gapNext]
      rfl
  · refine .of_some (joined, before.broken) isOpen.closed fun fuel _ tail _ => ?_
    simp [next, gapNext]

/-- A plain scalar ends before a line that begins a document. -/
theorem readPlainRest_stops
    (inFlow : Bool)
    (indent : Nat)
    (text : List Char)
    (gap : Gap)
    {cursor : Cursor}
    (closed : cursor.Closed) :
    StopsWithin (fun fuel => plainParts inFlow indent fuel text gap) (cursor.rest.length + 1)
      cursor := by
  induction length : cursor.rest.length using Nat.strongRecOn generalizing text gap cursor with
  | ind length readLater =>
  subst length
  refine .of_succ ?_
  change StopsWithin (fun fuel cursor => plainParts inFlow indent (fuel + 1) text gap cursor) _ _
  simp only [plainParts_succ]
  rcases closed with isOpen | ended
  · by_cases ends : (cursor.atDocumentMarker || cursor.isAt '#') = true
    · refine .of_some (text, gap.broken) isOpen.closed fun fuel _ tail _ => ?_
      rw [isOpen.atDocumentMarker_followedBy, isOpen.isAt_followedBy, if_pos ends]
    cases found : plainRun inFlow [] cursor.rest with
    | none =>
        refine .of_none fun fuel _ tail _ => ?_
        rw [isOpen.atDocumentMarker_followedBy, isOpen.isAt_followedBy, if_neg ends,
          plainRun_open isOpen, found, Option.bind_none]
    | some run =>
        have within := plainRun_length isOpen found
        refine .of_step (plainAfter_stops (isOpen.advance within) inFlow indent
          (fun text gap next closed shorter => ?_) text gap run) (Nat.le_refl _)
          fun fuel tail _ => ?_
        · have shorterHere : next.rest.length < cursor.rest.length := by
            rw [rest_advance, List.length_drop] at shorter
            omega
          exact (readLater _ shorterHere text gap closed rfl).mono shorterHere
        · rw [isOpen.atDocumentMarker_followedBy, isOpen.isAt_followedBy, if_neg ends,
            plainRun_open isOpen, found, Option.bind_some,
            advance_followedBy (Nat.le_of_lt within)]
  · refine .of_some (text, gap.broken) (.inr ended) fun fuel _ tail follows => ?_
    rcases follows with rfl | ⟨more, rfl⟩
    · simp [ended, atDocumentMarker, atMarker, isAt, peek?, plainRun, plainAfter, followedBy,
        advance]
    · simp [atDocumentMarker_marked ended]

/-- A plain scalar ends before a line that begins a document. -/
theorem readPlain_stops
    (inFlow : Bool)
    (indent : Nat)
    {cursor : Cursor}
    (closed : cursor.Closed) :
    Stops (fun cursor => (readPlain inFlow indent cursor).map fun plain =>
      ((plain.text, plain.broken), plain.cursor)) cursor :=
  (readPlainRest_stops inFlow indent [] {} closed).stops
    (fun cursor => cursor.rest.length + 1) fun tail => by simp

/-! ## Quoted scalars -/

/-- No number has a line break among its digits. -/
theorem hexNumber?_eq_none
    {digits : List Char}
    (broken : '\n' ∈ digits) :
    hexNumber? digits = none := by
  unfold hexNumber?
  generalize 0 = total
  induction digits generalizing total with
  | nil => contradiction
  | cons digit later none =>
      rw [List.foldlM_cons]
      rcases List.mem_cons.1 broken with rfl | broken
      · rfl
      · cases CodeSet.hexDigit? digit with
        | none => rfl
        | some value => exact none broken _

/-- Digits that are missing on a line are not found on the next one. -/
theorem take_append_endsLine
    {rest tail : List Char}
    (ends : EndsLine tail)
    {count : Nat}
    (missing : rest.length < count) :
    ((rest ++ tail).take count).length < count ∨ '\n' ∈ (rest ++ tail).take count := by
  rcases ends.cases with rfl | ⟨later, rfl⟩
  · left
    rw [List.append_nil, List.length_take]
    omega
  · right
    obtain ⟨less, isCount⟩ : ∃ less, count - rest.length = less + 1 :=
      ⟨count - rest.length - 1, by omega⟩
    rw [List.take_append, isCount, List.take_succ_cons]
    simp

/-- An escape ends within its line: a line feed is no digit, and too few digits are a fault. -/
theorem readEscape_inline : Inline readEscape := by
  intro cursor tail ends
  obtain ⟨rest, index, line, column⟩ := cursor
  cases rest with
  | nil =>
      rcases ends.cases with rfl | ⟨later, rfl⟩
      · rfl
      · rfl
  | cons letter rest =>
      simp only [readEscape, peek?, rest_followedBy, List.cons_append, List.head?_cons,
        Option.bind_some, bind]
      cases letterEscape? letter with
      | some character => rfl
      | none =>
          cases escapeLength? letter with
          | none => rfl
          | some length =>
              simp only [followedBy, Cursor.advance, List.cons_append, List.drop_succ_cons,
                List.drop_zero, Option.bind_some]
              by_cases within : length ≤ rest.length
              · rw [List.take_append_of_le_length within, List.drop_append_of_le_length within]
                split
                · rfl
                · cases hexNumber? (rest.take length) with
                  | none => rfl
                  | some code =>
                      simp only [Option.bind_some]
                      cases character? code <;> rfl
              · have missing := Nat.not_le.1 within
                have short : (rest.take length).length < length := by
                  rw [List.length_take]
                  omega
                rw [if_pos short]
                rcases take_append_endsLine ends missing with short | broken
                · rw [if_pos short]
                  rfl
                · rw [hexNumber?_eq_none broken]
                  split <;> rfl

/-- An escape never gives text back. -/
theorem length_readEscape
    {cursor next : Cursor}
    {character : Char}
    (found : readEscape cursor = some (character, next)) :
    next.rest.length ≤ cursor.rest.length := by
  have advanced : ∀ count, (cursor.advance count).rest.length ≤ cursor.rest.length := by
    intro count
    simp
  unfold readEscape at found
  cases first : cursor.peek? with
  | none => simp [first] at found
  | some letter =>
      simp only [first, Option.bind_some, bind] at found
      split at found
      · simp only [pure, Option.some.injEq, Prod.mk.injEq] at found
        rw [← found.2]
        exact advanced 1
      · cases isLength : escapeLength? letter with
        | none => simp [isLength] at found
        | some length =>
            simp only [isLength, Option.bind_some] at found
            split at found
            · contradiction
            · simp only [Option.bind_eq_some_iff, pure, Option.some.injEq, Prod.mk.injEq] at found
              obtain ⟨_, _, _, _, _, same⟩ := found
              rw [← same]
              simp

/-- The characters of a quoted scalar as a value and the place after them. -/
def quotedParts
    (single : Bool)
    (fuel : Nat)
    (taken : List Char)
    (cursor : Cursor) : Option ((List Char × Gap) × Cursor) :=
  (quotedRun single fuel taken cursor).map fun found => ((found.1, found.2.1), found.2.2)

/-- Further on in the text, the characters of a quoted scalar end inside of it. -/
def QuotedStopsAfter (single : Bool) (cursor : Cursor) : Prop :=
  ∀ further : Cursor, further.rest.length < cursor.rest.length → further.Open →
    ∀ taken, StopsWithin (fun fuel => quotedParts single fuel taken) further.rest.length further

/-- Two single quotes stand for one, and one of them ends the characters. -/
theorem quotedRun_stops_at_quote
    (taken : List Char)
    {cursor : Cursor}
    (isOpen : cursor.Open)
    (begins : cursor.peek? = some '\'')
    (later : QuotedStopsAfter true cursor)
    {least : Nat}
    (isLength : cursor.rest.length = least + 1) :
    StopsWithin (fun fuel => quotedParts true (fuel + 1) taken) least cursor := by
  obtain ⟨first, next, steps, shorter, stays, _⟩ := isOpen.peek
  obtain rfl : first = '\'' := by simpa [begins] using (next []).symm
  obtain ⟨second, nextSecond, stepsSecond, shorterSecond, staysSecond, _⟩ :=
    (stays (by decide)).peek
  have after : ∀ tail, (cursor.followedBy tail).peekAt? 1 = some second := by
    intro tail
    have found := nextSecond tail
    rwa [← steps, peek?, rest_advance, List.head?_drop] at found
  have gap : isGap '\'' = false := rfl
  by_cases doubled : second = '\''
  · have staysHere := staysSecond (by simp [doubled])
    refine .of_step
      (later _ (Nat.lt_trans shorterSecond shorter) staysHere ('\'' :: taken))
      (by omega) fun fuel tail _ => ?_
    have advanced : (cursor.followedBy tail).advance 2 =
        ((cursor.advance 1).advance 1).followedBy tail := by
      rw [← stepsSecond, ← steps]
      simp [advance]
    simp [quotedParts, quotedRun, next, gap, after, doubled, advanced]
  · refine .of_some (taken.reverse, {}) isOpen.closed fun fuel _ tail _ => ?_
    simp [quotedParts, quotedRun, next, gap, after, doubled]

/-- A backslash stands before an escape or a line break. -/
theorem quotedRun_stops_at_backslash
    (taken : List Char)
    {cursor : Cursor}
    (isOpen : cursor.Open)
    (begins : cursor.peek? = some '\\')
    (later : QuotedStopsAfter false cursor)
    {least : Nat}
    (isLength : cursor.rest.length = least + 1) :
    StopsWithin (fun fuel => quotedParts false (fuel + 1) taken) least cursor := by
  obtain ⟨first, next, steps, shorter, stays, _⟩ := isOpen.peek
  obtain rfl : first = '\\' := by simpa [begins] using (next []).symm
  have afterOpen := stays (by decide)
  obtain ⟨second, nextSecond, _⟩ := afterOpen.peek
  have gap : isGap '\\' = false := rfl
  by_cases breaks : isBreak second = true
  · refine .of_some (taken.reverse, { broken := true }) afterOpen.readBreak_closed
      fun fuel _ tail _ => ?_
    simp [quotedParts, quotedRun, next, gap, steps, nextSecond, breaks, skipBreak,
      readBreak_followedBy afterOpen]
  · have goesOn : ∀ fuel tail,
        quotedParts false (fuel + 1) taken (cursor.followedBy tail) =
          (readEscape ((cursor.advance 1).followedBy tail)).bind fun found =>
            quotedParts false fuel (found.1 :: taken) found.2 := by
      intro fuel tail
      cases found : readEscape ((cursor.advance 1).followedBy tail) <;>
        simp [quotedParts, quotedRun, next, gap, steps, nextSecond, breaks, found]
    rcases (Stops.of_inline readEscape_inline afterOpen).cases with
      fails | ⟨value, last, closed, found, reads⟩
    · refine .of_none fun fuel _ tail follows => ?_
      rw [goesOn, fails 0 (Nat.le_refl 0) tail follows]
      rfl
    · have lastOpen := (readEscape_inline.open afterOpen).2 value last found
      have shorterLast := Nat.lt_of_le_of_lt (length_readEscape found) shorter
      refine .of_step (later _ shorterLast lastOpen (value :: taken)) (by omega)
        fun fuel tail follows => ?_
      rw [goesOn, reads 0 (Nat.le_refl 0) tail follows]
      rfl

/-- The characters of a quoted scalar end inside the text. -/
theorem quotedRun_stops
    (single : Bool)
    (taken : List Char)
    {cursor : Cursor}
    (isOpen : cursor.Open) :
    StopsWithin (fun fuel => quotedParts single fuel taken) cursor.rest.length cursor := by
  induction length : cursor.rest.length using Nat.strongRecOn generalizing taken cursor with
  | ind length readLater =>
  subst length
  have later : QuotedStopsAfter single cursor :=
    fun further shorter isOpen taken => readLater _ shorter taken isOpen rfl
  obtain ⟨character, next, steps, shorter, stays, _⟩ := isOpen.peek
  obtain ⟨least, isLength⟩ := Nat.exists_eq_add_one.2 isOpen.length_pos
  have begins : cursor.peek? = some character := by simpa using next []
  rw [isLength]
  refine .of_succ ?_
  by_cases gap : isGap character = true
  · refine .of_some (taken.reverse, {}) isOpen.closed fun fuel _ tail _ => ?_
    simp [quotedParts, quotedRun, next, gap]
  have inside : character ≠ '\n' := by
    rintro rfl
    exact gap rfl
  have goesOn := later _ shorter (stays inside) (character :: taken)
  cases single with
  | true =>
      by_cases quote : character = '\''
      · exact quotedRun_stops_at_quote taken isOpen (quote ▸ begins) later isLength
      · refine .of_step goesOn (by omega) fun fuel tail _ => ?_
        simp [quotedParts, quotedRun, next, gap, quote, steps]
  | false =>
      by_cases quote : character = '"'
      · refine .of_some (taken.reverse, {}) isOpen.closed fun fuel _ tail _ => ?_
        simp [quotedParts, quotedRun, next, quote]
      by_cases escaped : character = '\\'
      · exact quotedRun_stops_at_backslash taken isOpen (escaped ▸ begins) later isLength
      · refine .of_step goesOn (by omega) fun fuel tail _ => ?_
        simp [quotedParts, quotedRun, next, gap, quote, escaped, steps]

theorem length_advance_lt
    {cursor : Cursor}
    {character : Char}
    (begins : cursor.peek? = some character)
    (count : Nat) :
    (cursor.advance (count + 1)).rest.length < cursor.rest.length := by
  obtain ⟨rest, text⟩ := List.head?_eq_some_iff.1 begins
  simp only [rest_advance, text, List.drop_succ_cons, List.length_drop, List.length_cons]
  omega

/-- Reading the characters of a quoted scalar passes over something, unless a gap or the
closing quote comes first. -/
theorem length_quotedRun
    {single : Bool}
    {fuel : Nat}
    {taken run : List Char}
    {gap : Gap}
    {cursor next : Cursor}
    (found : quotedRun single fuel taken cursor = some (run, gap, next)) :
    next.rest.length < cursor.rest.length ∨ next = cursor
      ∧ (fuel = 0 ∨ cursor.peek? = none ∨ cursor.peek?.any isGap = true
        ∨ cursor.isAt (if single then '\'' else '"') = true) := by
  have shorter : ∀ {before further : Cursor} {ends : Prop},
      further.rest.length < before.rest.length →
      next.rest.length < further.rest.length ∨ next = further ∧ ends →
      next.rest.length < before.rest.length := by
    rintro before further ends goesOn (later | ⟨rfl, _⟩)
    · exact Nat.lt_trans later goesOn
    · exact goesOn
  fun_induction quotedRun single fuel taken cursor with
  | case1 taken cursor =>
      simp only [Option.some.injEq, Prod.mk.injEq] at found
      exact .inr ⟨found.2.2.symm, .inl rfl⟩
  | case2 fuel taken cursor ended =>
      simp only [Option.some.injEq, Prod.mk.injEq] at found
      exact .inr ⟨found.2.2.symm, .inr (.inl ended)⟩
  | case3 fuel taken cursor character begins isGap =>
      simp only [Option.some.injEq, Prod.mk.injEq] at found
      exact .inr ⟨found.2.2.symm, .inr (.inr (.inl (by simp [begins, isGap])))⟩
  | case4 fuel taken cursor isSingle doubled begins _ shortens =>
      exact .inl (shorter (length_advance_lt begins 1) (shortens found))
  | case5 fuel taken cursor isSingle alone begins =>
      simp only [Option.some.injEq, Prod.mk.injEq] at found
      exact .inr ⟨found.2.2.symm, .inr (.inr (.inr (by simp [isAt, begins, isSingle])))⟩
  | case6 fuel taken cursor character begins _ isSingle other shortens =>
      exact .inl (shorter (length_advance_lt begins 0) (shortens found))
  | case7 fuel taken cursor isDouble begins =>
      simp only [Option.some.injEq, Prod.mk.injEq] at found
      exact .inr ⟨found.2.2.symm, .inr (.inr (.inr (by simp [isAt, begins, isDouble])))⟩
  | case8 fuel taken cursor isDouble after breaks begins =>
      simp only [Option.some.injEq, Prod.mk.injEq] at found
      rw [← found.2.2]
      exact .inl (Nat.lt_of_le_of_lt (length_skipBreak _) (length_advance_lt begins 0))
  | case9 => contradiction
  | case10 fuel taken cursor isDouble after noBreak escaped last read begins _ _ shortens =>
      exact .inl (shorter
        (Nat.lt_of_le_of_lt (length_readEscape read) (length_advance_lt begins 0))
        (shortens found))
  | case11 fuel taken cursor character begins _ isDouble _ _ shortens =>
      exact .inl (shorter (length_advance_lt begins 0) (shortens found))

/-- What becomes of a quoted scalar after characters of it. -/
def quotedAfter
    (single : Bool)
    (fuel : Nat)
    (text : List Char)
    (run : List Char × Gap)
    (cursor : Cursor) : Option (List Char × Cursor) :=
  if cursor.isAt (if single then '\'' else '"') then some (text ++ run.1, cursor.advance 1)
  else
    (Gap.read 0 run.2 cursor).bind fun gap =>
      readQuotedRest single fuel (text ++ run.1 ++ gap.1.text) gap.2

/-- A quoted scalar is a run and what comes after it, unless a document begins or ends here. -/
theorem readQuotedRest_succ
    (single : Bool)
    (fuel : Nat)
    (text : List Char)
    (cursor : Cursor) :
    readQuotedRest single (fuel + 1) text cursor =
      if cursor.atDocumentMarker || cursor.peek?.isNone then none
      else
        (quotedParts single cursor.rest.length [] cursor).bind fun found =>
          quotedAfter single fuel text found.1 found.2 := by
  rw [readQuotedRest]
  split
  · rfl
  · rw [quotedParts]
    cases quotedRun single cursor.rest.length [] cursor with
    | none => rfl
    | some found =>
        obtain ⟨run, gap, next⟩ := found
        simp only [Option.bind_some, bind, Option.map_some, quotedAfter]
        split
        · rfl
        · cases Gap.read 0 gap next <;> rfl

/-- Characters and the gap after them are not empty if no quote closes the scalar. -/
theorem length_quotedGap
    {single : Bool}
    {cursor last further : Cursor}
    (isOpen : cursor.Open)
    {run : List Char × Gap}
    (found : quotedParts single cursor.rest.length [] cursor = some (run, last))
    (quote : ¬last.isAt (if single then '\'' else '"') = true)
    {gap : Gap}
    (read : Gap.read 0 run.2 last = some (gap, further)) :
    further.rest.length < cursor.rest.length := by
  obtain ⟨character, next, _⟩ := isOpen.peek
  have here := next []
  rw [followedBy_nil] at here
  simp only [quotedParts, Option.map_eq_some_iff, Prod.mk.injEq] at found
  obtain ⟨⟨_, _, _⟩, ran, _, rfl⟩ := found
  rcases length_quotedRun ran with shorter | ⟨rfl, stops⟩
  · exact Nat.lt_of_le_of_lt (Gap.length_readRest read).1 shorter
  · rcases stops with empty | ended | gapNext | closes
    · exact absurd empty (Nat.ne_of_gt isOpen.length_pos)
    · rw [here] at ended
      contradiction
    · exact Gap.length_read read gapNext
    · exact absurd closes quote

/-- After characters of it a quoted scalar ends, or goes on behind the gap. -/
theorem quotedAfter_stops
    (single : Bool)
    (text : List Char)
    (run : List Char × Gap)
    {cursor : Cursor}
    (closed : cursor.Closed)
    {least : Nat}
    (later : ¬cursor.isAt (if single then '\'' else '"') = true →
      ∀ (gap : Gap) (next : Cursor), next.Closed → Gap.read 0 run.2 cursor = some (gap, next) →
        StopsWithin (fun fuel => readQuotedRest single fuel (text ++ run.1 ++ gap.text))
          least next) :
    StopsWithin (fun fuel => quotedAfter single fuel text run) least cursor := by
  have isQuote : ∀ tail, Follows tail →
      (cursor.followedBy tail).isAt (if single then '\'' else '"') =
        cursor.isAt (if single then '\'' else '"') :=
    fun tail follows => follows.isAt closed (by cases single <;> decide)
  by_cases quote : cursor.isAt (if single then '\'' else '"') = true
  · have isOpen : cursor.Open := by
      refine closed.resolve_right fun ended => ?_
      rw [isAt, peek?, ended.1] at quote
      contradiction
    refine .of_some (text ++ run.1)
      (isOpen.advance_one (beq_iff_eq.1 quote) (by cases single <;> decide)).closed
      fun fuel _ tail follows => ?_
    rw [quotedAfter, isQuote tail follows, if_pos quote, advance_followedBy isOpen.length_pos]
  · refine .of_step
      (.bind (fun fuel (gap : Gap) => readQuotedRest single fuel (text ++ run.1 ++ gap.text))
        ((Gap.read_stops 0 run.2 closed).within least) (later quote))
      (Nat.le_refl least) fun fuel tail follows => ?_
    rw [quotedAfter, isQuote tail follows, if_neg quote]

/-- A quoted scalar ends before a line that begins a document. -/
theorem readQuotedRest_stops
    (single : Bool)
    (text : List Char)
    {cursor : Cursor}
    (closed : cursor.Closed) :
    StopsWithin (fun fuel => readQuotedRest single fuel text) (cursor.rest.length + 1)
      cursor := by
  induction length : cursor.rest.length using Nat.strongRecOn generalizing text cursor with
  | ind length readLater =>
  subst length
  refine .of_succ ?_
  change StopsWithin (fun fuel cursor => readQuotedRest single (fuel + 1) text cursor) _ _
  simp only [readQuotedRest_succ]
  rcases closed with isOpen | ended
  · obtain ⟨character, next, _⟩ := isOpen.peek
    by_cases ends : cursor.atDocumentMarker = true
    · refine .of_none fun fuel _ tail _ => ?_
      rw [isOpen.atDocumentMarker_followedBy, ends]
      rfl
    have runStops := ((quotedRun_stops single [] isOpen).stops
      (fun cursor => cursor.rest.length) fun tail => by simp).within cursor.rest.length
    refine .of_step
      (.bind (fun fuel run => quotedAfter single fuel text run) runStops
        fun run last closed found =>
          quotedAfter_stops single text run closed fun quote gap further furtherClosed read => ?_)
      (Nat.le_refl _) fun fuel tail _ => ?_
    · have shorter := length_quotedGap isOpen found quote read
      exact (readLater _ shorter _ furtherClosed rfl).mono shorter
    · simp only [isOpen.atDocumentMarker_followedBy, ends, next]
      rfl
  · refine .of_none fun fuel _ tail follows => ?_
    rcases follows with rfl | ⟨more, rfl⟩
    · simp [peek?, ended]
    · simp [atDocumentMarker_marked ended]

/-- A quoted scalar ends before a line that begins a document, or is a fault. -/
theorem readQuoted_stops
    (single : Bool)
    {cursor : Cursor}
    (closed : cursor.Closed) :
    Stops (readQuoted single) cursor :=
  (readQuotedRest_stops single [] closed).stops (fun cursor => cursor.rest.length + 1)
    fun tail => by simp

/-! ## Block scalars -/

theorem chomping?_followedBy
    {tail : List Char}
    (ends : EndsLine tail)
    (cursor : Cursor) :
    chomping? (cursor.followedBy tail) = chomping? cursor := by
  rw [chomping?, chomping?, isAt_followedBy ends (by decide), isAt_followedBy ends (by decide)]

/-- The increment of a block is one digit of its line. -/
theorem readIncrement_inline : Inline readIncrement := by
  intro cursor tail ends
  obtain ⟨rest, index, line, column⟩ := cursor
  cases rest with
  | nil =>
      rcases ends.cases with rfl | ⟨later, rfl⟩
      · rfl
      · rfl
  | cons digit rest =>
      simp only [readIncrement, peek?, rest_followedBy, List.cons_append, List.head?_cons]
      split
      · rfl
      · split <;> rfl

theorem chomping?_length
    {cursor : Cursor}
    {chomping : Chomping}
    (found : chomping? cursor = some chomping) :
    1 ≤ cursor.rest.length := by
  cases text : cursor.rest with
  | nil => simp [chomping?, isAt, peek?, text] at found
  | cons first later => simp

/-- The header of a block ends within its line. -/
theorem readBlockHeader_inline : Inline readBlockHeader := by
  intro cursor tail ends
  rw [readBlockHeader, readBlockHeader, chomping?_followedBy ends]
  cases chomp : chomping? cursor with
  | some chomping =>
      simp only [bind]
      rw [advance_followedBy (chomping?_length chomp), readIncrement_inline _ tail ends]
      cases readIncrement (cursor.advance 1) <;> rfl
  | none =>
      simp only [bind]
      rw [readIncrement_inline _ tail ends]
      cases readIncrement cursor with
      | none => rfl
      | some found =>
          obtain ⟨increment, next⟩ := found
          simp only [Option.map_some, Option.bind_some, chomping?_followedBy ends]
          cases increment with
          | none => rfl
          | some increment =>
              cases chomp : chomping? next with
              | none => rfl
              | some chomping =>
                  simp only [pure, Option.map_some]
                  rw [advance_followedBy (chomping?_length chomp)]

/-- The end of a line after blanks and a comment. -/
def lineEnd (cursor : Cursor) : Option (Unit × Cursor) :=
  let cursor := cursor.skipWhile isSpaceOrTab
  let cursor :=
    if cursor.isAt '#' then cursor.skipWhile fun character => !isBreak character
    else cursor
  if cursor.atLineEnd then some ((), cursor) else none

/-- The rest of a line is passed over in two steps: up to its line break, and over it. -/
theorem skipToLineEnd_eq (cursor : Cursor) :
    skipToLineEnd cursor = (lineEnd cursor).map fun found => found.2.skipBreak := by
  unfold skipToLineEnd lineEnd
  simp only []
  split <;> split <;> rfl

/-- Blanks and a comment are passed over up to the end of the line at the latest. -/
theorem lineEnd_inline : Inline lineEnd := by
  intro cursor tail ends
  unfold lineEnd
  simp only [skipWhile_followedBy ends (by decide : isSpaceOrTab '\n' = false)]
  generalize cursor.skipWhile isSpaceOrTab = cursor
  rw [isAt_followedBy ends (by decide)]
  have comment : (if cursor.isAt '#' then
        (cursor.followedBy tail).skipWhile fun character => !isBreak character
      else cursor.followedBy tail) =
      (if cursor.isAt '#' then cursor.skipWhile fun character => !isBreak character
        else cursor).followedBy tail := by
    split
    · exact skipWhile_followedBy ends (by decide) cursor
    · rfl
  rw [comment]
  generalize (if cursor.isAt '#' then cursor.skipWhile fun character => !isBreak character
    else cursor) = cursor
  rw [atLineEnd, endsOr_followedBy ends (by decide) (Nat.zero_le _), atLineEnd]
  split <;> rfl

/-- The rest of a line ends inside the text. -/
theorem skipToLineEnd_stops
    {cursor : Cursor}
    (isOpen : cursor.Open) :
    Stops (fun cursor => (skipToLineEnd cursor).map fun next => ((), next)) cursor := by
  obtain ⟨same, stays⟩ := lineEnd_inline.open isOpen
  cases found : lineEnd cursor with
  | none =>
      refine .of_none fun _ _ tail _ => ?_
      rw [skipToLineEnd_eq, same, found]
      rfl
  | some result =>
      obtain ⟨_, next⟩ := result
      have nextOpen := stays () next found
      refine .of_some () nextOpen.readBreak_closed fun _ _ tail _ => ?_
      rw [skipToLineEnd_eq, same, found]
      simp [skipBreak, readBreak_followedBy nextOpen]

/-- The place in a line of a block behind the spaces of its indentation. -/
def indented (indent : Nat) (cursor : Cursor) : Cursor :=
  let spaces := (cursor.rest.takeWhile (· == ' ')).length
  cursor.advance (if indent = 0 then spaces else min spaces (indent - cursor.column))

/-- The spaces of an indentation are those of the line. -/
theorem indented_followedBy
    (indent : Nat)
    {cursor : Cursor}
    (isOpen : cursor.Open) :
    (∀ tail, indented indent (cursor.followedBy tail) =
        (indented indent cursor).followedBy tail)
      ∧ (indented indent cursor).Open := by
  obtain ⟨sameSpan, spanOpen⟩ := isOpen.spanWhile (· == ' ') (by decide)
  have sameSpaces : ∀ tail, (cursor.followedBy tail).rest.takeWhile (· == ' ') =
      cursor.rest.takeWhile (· == ' ') :=
    fun tail => congrArg Prod.fst (sameSpan tail)
  have within : (if indent = 0 then (cursor.rest.takeWhile (· == ' ')).length
      else min (cursor.rest.takeWhile (· == ' ')).length (indent - cursor.column)) <
      cursor.rest.length := by
    have positive := spanOpen.length_pos
    simp only [spanWhile, rest_advance, List.length_drop] at positive
    split <;> omega
  refine ⟨fun tail => ?_, isOpen.advance within⟩
  simp only [indented, sameSpaces, column_followedBy]
  exact advance_followedBy (Nat.le_of_lt within) tail

theorem length_indented
    (indent : Nat)
    (cursor : Cursor) :
    (indented indent cursor).rest.length ≤ cursor.rest.length := by
  simp [indented]

/-- The empty lines of a block as a value and the place after them. -/
def blockBreaks
    (indent fuel widest : Nat)
    (breaks : List Char)
    (cursor : Cursor) : Option ((List Char × Nat) × Cursor) :=
  (readBlockBreaks indent fuel widest breaks cursor).map fun found =>
    ((found.1, found.2.1), found.2.2)

/-- One line: a tab in its indentation is a fault, and one with a character ends the breaks. -/
theorem blockBreaks_succ
    (indent fuel widest : Nat)
    (breaks : List Char)
    (cursor : Cursor) :
    blockBreaks indent (fuel + 1) widest breaks cursor =
      let place := indented indent cursor
      if (indent = 0 ∨ place.column < indent) ∧ place.isAt '\t' then none
      else if place.peek?.any isBreak then
        blockBreaks indent fuel (max widest place.column) (breaks ++ place.readBreak.1)
          place.readBreak.2
      else some ((breaks, max widest place.column), place) := by
  simp only
  have oneLine : readBlockBreaks indent (fuel + 1) widest breaks cursor =
      if (indent = 0 ∨ (indented indent cursor).column < indent)
          ∧ (indented indent cursor).isAt '\t' then none
      else if (indented indent cursor).peek?.any isBreak then
        readBlockBreaks indent fuel (max widest (indented indent cursor).column)
          (breaks ++ (indented indent cursor).readBreak.1) (indented indent cursor).readBreak.2
      else some (breaks, max widest (indented indent cursor).column, indented indent cursor) :=
    rfl
  rw [blockBreaks, oneLine]
  split
  · rfl
  · split <;> rfl

/-- Empty lines end before a line that begins a document. -/
theorem readBlockBreaks_stops
    (indent widest : Nat)
    (breaks : List Char)
    {cursor : Cursor}
    (closed : cursor.Closed) :
    StopsWithin (fun fuel => blockBreaks indent fuel widest breaks) cursor.rest.length
      cursor := by
  induction length : cursor.rest.length using Nat.strongRecOn generalizing widest breaks cursor with
  | ind length readLater =>
  subst length
  rcases closed with isOpen | ended
  · obtain ⟨least, isLength⟩ := Nat.exists_eq_add_one.2 isOpen.length_pos
    rw [isLength]
    refine .of_succ ?_
    obtain ⟨same, hereOpen⟩ := indented_followedBy indent isOpen
    have atMost := length_indented indent cursor
    generalize indented indent cursor = place at same hereOpen atMost
    obtain ⟨character, next, _, _, _, breaksShorten⟩ := hereOpen.peek
    have sameTab := hereOpen.isAt_followedBy
    by_cases tab : (indent = 0 ∨ place.column < indent) ∧ place.isAt '\t'
    · refine .of_none fun fuel _ tail _ => ?_
      simp only [blockBreaks_succ, same, column_followedBy, sameTab]
      rw [if_pos tab]
    · by_cases breaking : isBreak character = true
      · have shorter := Nat.lt_of_lt_of_le (breaksShorten breaking) atMost
        refine .of_step (readLater _ shorter (max widest place.column)
          (breaks ++ place.readBreak.1) hereOpen.readBreak_closed rfl)
          (by omega) fun fuel tail _ => ?_
        simp only [blockBreaks_succ, same, column_followedBy, sameTab, next,
          Option.any_some, breaking, readBreak_followedBy hereOpen]
        rw [if_neg tab]
        rfl
      · refine .of_some (breaks, max widest place.column) hereOpen.closed
          fun fuel _ tail _ => ?_
        simp only [blockBreaks_succ, same, column_followedBy, sameTab, next,
          Option.any_some, breaking]
        rw [if_neg tab]
        rfl
  · refine .of_some (breaks, widest) (.inr ended) fun fuel _ tail follows => ?_
    cases fuel with
    | zero => rfl
    | succ fuel =>
        rcases follows with rfl | ⟨more, rfl⟩
        · simp [blockBreaks, readBlockBreaks, ended, isAt, peek?]
        · have marks : isBreak '-' = false := by decide
          simp [blockBreaks, readBlockBreaks, ended, isAt, peek?, marked, marks]

/-- Empty lines of a block never give text back. -/
theorem length_blockBreaks
    {indent fuel widest : Nat}
    {breaks : List Char}
    {read : List Char × Nat}
    {cursor next : Cursor}
    (found : blockBreaks indent fuel widest breaks cursor = some (read, next)) :
    next.rest.length ≤ cursor.rest.length := by
  induction fuel generalizing widest breaks cursor with
  | zero =>
      simp only [blockBreaks, readBlockBreaks, Option.map_some, Option.some.injEq,
        Prod.mk.injEq] at found
      exact Nat.le_of_eq (by rw [found.2])
  | succ fuel shortens =>
      have atMost := length_indented indent cursor
      simp only [blockBreaks_succ] at found
      split at found
      · contradiction
      · split at found
        · exact Nat.le_trans (shortens found) (Nat.le_trans (length_skipBreak _) atMost)
        · simp only [Option.some.injEq, Prod.mk.injEq] at found
          rwa [← found.2]

/-- The lines of a block with one more, and the breaks after it. -/
def BlockText.grow
    (literal : Bool)
    (block : BlockText)
    (character : Char)
    (line last trailing : List Char) : BlockText :=
  let blankLed := isSpaceOrTab character
  let folds := !literal && block.last == ['\n'] && !block.blankLed && !blankLed
  let joint := if folds then (if block.trailing.isEmpty then [' '] else []) else block.last
  ⟨block.text ++ joint ++ block.trailing ++ line, last, trailing, blankLed⟩

/-- A line of a block, with the line break and the empty lines after it. -/
theorem readBlockLines_succ
    (literal : Bool)
    {indent : Nat}
    (fuel : Nat)
    (block : BlockText)
    {cursor : Cursor}
    {character : Char}
    (next : cursor.peek? = some character)
    (inside : cursor.column = indent) :
    readBlockLines literal indent (fuel + 1) block cursor =
      let line := cursor.spanWhile fun character => !isBreak character
      let last := line.2.readBreak
      (blockBreaks indent last.2.rest.length 0 [] last.2).bind fun found =>
        readBlockLines literal indent fuel
          (block.grow literal character line.1 last.1 found.1.1) found.2 := by
  simp only [readBlockLines, next, inside, ne_eq, not_true, if_false, bind, blockBreaks]
  generalize (cursor.spanWhile fun character => !isBreak character) = line
  generalize line.2.readBreak = last
  cases readBlockBreaks indent last.2.rest.length 0 [] last.2 <;> rfl

/-- A line with the break that ends it has characters. -/
theorem length_line
    {cursor : Cursor}
    {character : Char}
    (here : cursor.peek? = some character) :
    (cursor.spanWhile fun character => !isBreak character).2.readBreak.2.rest.length <
      cursor.rest.length := by
  obtain ⟨rest, text⟩ := List.head?_eq_some_iff.1 here
  by_cases breaks : isBreak character = true
  · have stays : (cursor.spanWhile fun character => !isBreak character).2 = cursor := by
      simp [spanWhile, text, breaks]
    rw [stays]
    exact length_readBreak here breaks
  · refine Nat.lt_of_le_of_lt (length_skipBreak _) ?_
    simp only [spanWhile, text, rest_advance, List.takeWhile_cons, breaks, Bool.not_false,
      if_true, List.length_cons, List.drop_succ_cons, List.length_drop]
    omega

/-- The lines of a block end before a line that begins a document. -/
theorem readBlockLines_stops
    (literal : Bool)
    {indent : Nat}
    (indented : indent ≠ 0)
    (block : BlockText)
    {cursor : Cursor}
    (closed : cursor.Closed) :
    StopsWithin (fun fuel => readBlockLines literal indent fuel block) cursor.rest.length
      cursor := by
  induction length : cursor.rest.length using Nat.strongRecOn generalizing block cursor with
  | ind length readLater =>
  subst length
  rcases closed with isOpen | ended
  · obtain ⟨character, next, _⟩ := isOpen.peek
    obtain ⟨least, isLength⟩ := Nat.exists_eq_add_one.2 isOpen.length_pos
    rw [isLength]
    refine .of_succ ?_
    by_cases outside : cursor.column ≠ indent
    · refine .of_some block isOpen.closed fun fuel _ tail _ => ?_
      simp [readBlockLines, next, outside]
    obtain ⟨sameLine, lineOpen⟩ := isOpen.spanWhile (fun character => !isBreak character)
      (by decide)
    have here := next []
    rw [followedBy_nil] at here
    obtain ⟨line, isLine⟩ :
        ∃ line, line = cursor.spanWhile fun character => !isBreak character := ⟨_, rfl⟩
    rw [← isLine] at sameLine lineOpen
    have shorter : line.2.readBreak.2.rest.length < cursor.rest.length :=
      isLine ▸ length_line here
    refine .of_step
      (.bind
        (fun fuel (found : List Char × Nat) => readBlockLines literal indent fuel
          (block.grow literal character line.1 line.2.readBreak.1 found.1))
        (((readBlockBreaks_stops indent 0 [] lineOpen.readBreak_closed).stops
          (fun cursor => cursor.rest.length) fun tail => by simp).within least)
        fun found last closed read => ?_)
      (Nat.le_refl least) fun fuel tail _ => ?_
    · have shorterStill := Nat.lt_of_le_of_lt (length_blockBreaks read) shorter
      exact (readLater _ shorterStill _ closed rfl).mono (by omega)
    · rw [readBlockLines_succ literal fuel block (next tail) (by simpa using outside)]
      simp only [sameLine, readBreak_followedBy lineOpen]
  · refine .of_some block (.inr ended) fun fuel _ tail follows => ?_
    cases fuel with
    | zero => rfl
    | succ fuel =>
        have outside : cursor.column ≠ indent := by
          rw [ended.2]
          exact indented.symm
        rcases follows.peek? ended.1 with nothing | marks
        · simp [readBlockLines, nothing]
        · simp [readBlockLines, marks, outside]

/-- The indentation that the header of a block states, or zero. -/
def statedIndent (parent : Int) (header : BlockHeader) : Nat :=
  match header.increment with
  | some increment => (if 0 ≤ parent then parent.toNat + increment else increment)
  | none => 0

/-- The indentation of a block after its first empty lines. -/
def blockIndent (parent : Int) (stated widest : Nat) : Nat :=
  if stated = 0 then max (max widest (parent + 1).toNat) 1 else stated

theorem blockIndent_ne_zero (parent : Int) (stated widest : Nat) :
    blockIndent parent stated widest ≠ 0 := by
  unfold blockIndent
  split
  · omega
  · assumption

/-- The text of a block under its chomping. -/
def chomped (chomping : Chomping) (block : BlockText) : List Char :=
  block.text ++
    match chomping with
    | .strip => []
    | .clip => block.last
    | .keep => block.last ++ block.trailing

/-- The lines of a block after its first line breaks. -/
def blockLines
    (literal : Bool)
    (parent : Int)
    (header : BlockHeader)
    (breaks : List Char × Nat)
    (cursor : Cursor) : Option (List Char × Cursor) :=
  (readBlockLines literal (blockIndent parent (statedIndent parent header) breaks.2)
      cursor.rest.length { trailing := breaks.1 } cursor).bind fun lines =>
    some (chomped header.chomping lines.1, lines.2)

/-- The lines of a block with its first line breaks. -/
def blockBody
    (literal : Bool)
    (parent : Int)
    (header : BlockHeader)
    (cursor : Cursor) : Option (List Char × Cursor) :=
  (blockBreaks (statedIndent parent header) (cursor.rest.length + 1) 0 [] cursor).bind
    fun breaks => blockLines literal parent header breaks.1 breaks.2

/-- A block is its header, the rest of that line, and its body. -/
theorem readBlock_eq
    (literal : Bool)
    (parent : Int)
    (cursor : Cursor) :
    readBlock literal parent cursor =
      (readBlockHeader cursor).bind fun header =>
        ((skipToLineEnd header.2).map fun next => ((), next)).bind fun begun =>
          blockBody literal parent header.1 begun.2 := by
  unfold readBlock
  cases readBlockHeader cursor with
  | none => rfl
  | some found =>
      obtain ⟨header, next⟩ := found
      simp only [Option.bind_some, bind]
      cases skipToLineEnd next with
      | none => rfl
      | some begun =>
          simp only [Option.bind_some, Option.map_some, blockBody, blockBreaks, statedIndent]
          cases readBlockBreaks _ (begun.rest.length + 1) 0 [] begun with
          | none => rfl
          | some found =>
              obtain ⟨trailing, widest, next⟩ := found
              simp only [Option.bind_some, Option.map_some, blockLines, blockIndent, chomped]
              rfl

/-- The lines of a block end before a line that begins a document, as that is not indented. -/
theorem blockLines_stops
    (literal : Bool)
    (parent : Int)
    (header : BlockHeader)
    (breaks : List Char × Nat)
    {cursor : Cursor}
    (closed : cursor.Closed) :
    Stops (blockLines literal parent header breaks) cursor := by
  refine .bind (fun _ lines cursor => some (chomped header.chomping lines, cursor))
    ((readBlockLines_stops literal (blockIndent_ne_zero parent _ breaks.2)
      { trailing := breaks.1 } closed).stops (fun cursor => cursor.rest.length)
      fun tail => by simp)
    fun lines last lastClosed _ => ?_
  exact .of_some (chomped header.chomping lines) lastClosed fun _ _ _ _ => rfl

/-- So does its body, which is the empty lines before the first line and then the lines. -/
theorem blockBody_stops
    (literal : Bool)
    (parent : Int)
    (header : BlockHeader)
    {cursor : Cursor}
    (closed : cursor.Closed) :
    Stops (blockBody literal parent header) cursor :=
  .bind (fun _ breaks => blockLines literal parent header breaks)
    ((readBlockBreaks_stops (statedIndent parent header) 0 [] closed).stops
      (fun cursor => cursor.rest.length + 1) fun tail => by simp; omega)
    fun breaks _ nextClosed _ => blockLines_stops literal parent header breaks nextClosed

/-- A block scalar ends before a line that begins a document. -/
theorem readBlock_stops
    (literal : Bool)
    (parent : Int)
    {cursor : Cursor}
    (isOpen : cursor.Open) :
    Stops (readBlock literal parent) cursor := by
  refine .of_step
    (.bind
      (fun _ header cursor =>
        ((skipToLineEnd cursor).map fun next => ((), next)).bind fun begun =>
          blockBody literal parent header begun.2)
      (Stops.of_inline readBlockHeader_inline isOpen)
      fun header next _ found => ?_)
    (Nat.le_refl 0) fun _ tail _ => readBlock_eq literal parent _
  have headerOpen := (readBlockHeader_inline.open isOpen).2 header next found
  exact .bind (fun _ _ => blockBody literal parent header) (skipToLineEnd_stops headerOpen)
    fun _ _ begunClosed _ => blockBody_stops literal parent header begunClosed

end Yaml
end ManifestPolicy
