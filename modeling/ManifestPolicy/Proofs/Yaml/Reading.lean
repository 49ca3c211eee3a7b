import ManifestPolicy.Proofs.Yaml.Lexing

/-!
# What is read of the tokens of a document

The tokens of a document are followed by the line that begins the next one or by the end of
the text. What is read of them is the same in both cases, with any fuel that suffices, and
reading leaves no more flow collections open than it has found.
-/

namespace ManifestPolicy
namespace Yaml

/-- What may come after the tokens of a document. They stop without an end where the text is
at fault. -/
def Bounds (tail : List Token) : Prop :=
  tail = [] ∨ ∃ more, tail = .streamEnd :: more ∨ tail = .documentStart :: more

theorem bounds_nil : Bounds [] := .inl rfl

theorem bounds_streamEnd (more : List Token) : Bounds (.streamEnd :: more) :=
  .inr ⟨more, .inl rfl⟩

theorem bounds_documentStart (more : List Token) : Bounds (.documentStart :: more) :=
  .inr ⟨more, .inr rfl⟩

/-! ## Open flow collections -/

/-- More open collections stay more, since none can be closed that is not open. -/
theorem flowStep_le
    {less more : Nat}
    (atMost : less ≤ more)
    (token : Token) :
    flowStep less token ≤ flowStep more token := by
  cases token <;> simp only [flowStep] <;> omega

/-- The same of any number of tokens. -/
theorem flowDepth_le
    {less more : Nat}
    (atMost : less ≤ more)
    (tokens : List Token) :
    flowDepth less tokens ≤ flowDepth more tokens := by
  induction tokens generalizing less more with
  | nil => exact atMost
  | cons token rest deeper => exact deeper (flowStep_le atMost token)

/-- Tokens that are left leave at least as many flow collections open as the tokens did that
they are left of, when so many more collections have been opened before each. -/
def Closing (opened closed : Nat) (before after : List Token) : Prop :=
  ∀ depth, flowDepth (depth + opened) before ≤ flowDepth (depth + closed) after

namespace Closing

variable {opened closed : Nat} {before after : List Token}

theorem refl : Closing opened opened before before := fun _ => Nat.le_refl _

/-- Reading that closes collections may go on to close others. -/
theorem trans
    {between : Nat}
    {middle : List Token}
    (first : Closing opened between before middle)
    (second : Closing between closed middle after) :
    Closing opened closed before after :=
  fun depth => Nat.le_trans (first depth) (second depth)

/-- One more collection may be open around all. -/
theorem succ
    (closing : Closing opened closed before after) :
    Closing (opened + 1) (closed + 1) before after := by
  intro depth
  have inside := closing (depth + 1)
  rwa [Nat.add_right_comm depth 1 opened, Nat.add_right_comm depth 1 closed] at inside

end Closing

/-! ## Readers -/

namespace Reading

/-- The tokens still to be read, with more after them. -/
def followedBy (reading : Reading) (tail : List Token) : Reading :=
  { reading with tokens := reading.tokens ++ tail }

end Reading

namespace Reader

/-- With enough fuel, what is read is the same whatever comes after the tokens, or fails where
nothing does. Reading leaves off at one of the tokens or at their end. -/
def Keeps
    (read : Nat → Reader α)
    (least opened closed : Nat)
    (reading : Reading) : Prop :=
  ∃ outcome : Option (α × Reading),
    (∀ value next, outcome = some (value, next) →
      next.tokens <:+ reading.tokens ∧ Closing opened closed reading.tokens next.tokens)
      ∧ ∀ fuel, least ≤ fuel → ∀ tail, Bounds tail →
        read fuel (reading.followedBy tail) =
            outcome.map (fun found => (found.1, found.2.followedBy tail))
          ∨ tail = [] ∧ read fuel (reading.followedBy tail) = none

namespace Keeps

variable {least opened closed : Nat} {reading : Reading} {read : Nat → Reader α}

/-- A reader that fails keeps to the tokens. -/
theorem fails : Keeps (fun _ => (failure : Reader α)) least opened closed reading := by
  refine ⟨none, fun _ _ impossible => ?_, fun _ _ _ _ => .inl rfl⟩
  contradiction

/-- A reader that has what it needs keeps to the tokens. -/
theorem done (value : α) : Keeps (fun _ => pure value) least opened opened reading := by
  refine ⟨some (value, reading), fun _ _ same => ?_, fun _ _ _ _ => .inl rfl⟩
  obtain ⟨_, rfl⟩ := Prod.mk.inj (Option.some.inj same)
  exact ⟨List.suffix_refl _, .refl⟩

/-- A step that reads no tokens, and other things as they are with any tokens. -/
theorem aside
    (step : Reader α)
    (same : ∀ tail, step (reading.followedBy tail) =
      (step reading).map fun found => (found.1, found.2.followedBy tail))
    (stays : ∀ value next, step reading = some (value, next) → next.tokens = reading.tokens) :
    Keeps (fun _ => step) least opened opened reading := by
  refine ⟨step reading, fun value next found => ?_, fun _ _ tail _ => .inl (same tail)⟩
  rw [stays value next found]
  exact ⟨List.suffix_refl _, .refl⟩

/-- More fuel does not change what is read. -/
theorem mono
    (keeps : Keeps read least opened closed reading)
    {greater : Nat}
    (enough : least ≤ greater) :
    Keeps read greater opened closed reading := by
  obtain ⟨outcome, leaves, reads⟩ := keeps
  exact ⟨outcome, leaves, fun fuel isEnough => reads fuel (Nat.le_trans enough isEnough)⟩

/-- One more collection may be open around what is read. -/
theorem inside
    (keeps : Keeps read least opened closed reading) :
    Keeps read least (opened + 1) (closed + 1) reading := by
  obtain ⟨outcome, leaves, reads⟩ := keeps
  exact ⟨outcome, fun value next found =>
    ⟨(leaves value next found).1, (leaves value next found).2.succ⟩, reads⟩

/-- The first piece of fuel may be taken off. -/
theorem of_succ
    (keeps : Keeps (fun fuel => read (fuel + 1)) least opened closed reading) :
    Keeps read (least + 1) opened closed reading := by
  obtain ⟨outcome, leaves, reads⟩ := keeps
  refine ⟨outcome, leaves, fun fuel isEnough tail bounds => ?_⟩
  cases fuel with
  | zero => contradiction
  | succ fuel => exact reads fuel (Nat.le_of_succ_le_succ isEnough) tail bounds

/-- A choice that does not depend on what is read. -/
theorem ite
    {condition : Prop}
    [Decidable condition]
    {other : Nat → Reader α}
    (holds : condition → Keeps read least opened closed reading)
    (differs : ¬condition → Keeps other least opened closed reading) :
    Keeps (fun fuel => if condition then read fuel else other fuel) least opened closed
      reading := by
  by_cases decided : condition
  · simp only [if_pos decided]
    exact holds decided
  · simp only [if_neg decided]
    exact differs decided

/-- Two readers keep to the tokens one after the other: the second starts at what the first has
left, wherever that is. -/
theorem bind
    {between : Nat}
    {first : Nat → Reader β}
    (second : Nat → β → Reader α)
    (keeps : Keeps first least opened between reading)
    (keepsThen : ∀ value (next : Reading), next.tokens <:+ reading.tokens →
      Keeps (fun fuel => second fuel value) least between closed next) :
    Keeps (fun fuel => first fuel >>= second fuel) least opened closed reading := by
  obtain ⟨outcome, leaves, reads⟩ := keeps
  cases outcome with
  | none =>
      refine ⟨none, fun _ _ impossible => ?_, fun fuel enough tail bounds => .inl ?_⟩
      · contradiction
      have failed : first fuel (reading.followedBy tail) = none := by
        rcases reads fuel enough tail bounds with here | ⟨_, here⟩
        · exact here
        · exact here
      simp only [Bind.bind, StateT.bind, failed, Option.bind_none, Option.map_none]
  | some found =>
      obtain ⟨value, next⟩ := found
      obtain ⟨isSuffix, closing⟩ := leaves value next rfl
      obtain ⟨last, leavesThen, readsThen⟩ := keepsThen value next isSuffix
      refine ⟨last, fun result after isLast => ?_, fun fuel enough tail bounds => ?_⟩
      · obtain ⟨isSuffixThen, closingThen⟩ := leavesThen result after isLast
        exact ⟨isSuffixThen.trans isSuffix, closing.trans closingThen⟩
      · rcases reads fuel enough tail bounds with here | ⟨alone, here⟩
        · simp only [Bind.bind, StateT.bind, here, Option.map_some, Option.bind_some]
          exact readsThen fuel enough tail bounds
        · refine .inr ⟨alone, ?_⟩
          simp only [Bind.bind, StateT.bind, here, Option.bind_none]

/-- What comes next is one of the tokens or the first of what comes after them. -/
theorem peek
    {next : Nat → Token → Reader α}
    (atEnd : reading.tokens = [] →
      Keeps (fun fuel => next fuel .streamEnd) least opened closed reading
        ∧ ∀ fuel, next fuel .documentStart = next fuel .streamEnd)
    (within : ∀ token rest, reading.tokens = token :: rest →
      Keeps (fun fuel => next fuel token) least opened closed reading) :
    Keeps (fun fuel => Reader.peek >>= next fuel) least opened closed reading := by
  cases tokens : reading.tokens with
  | cons token rest =>
      obtain ⟨outcome, leaves, reads⟩ := within token rest tokens
      refine ⟨outcome, leaves, fun fuel enough tail bounds => ?_⟩
      have here : (Reader.peek >>= next fuel) (reading.followedBy tail) =
          next fuel token (reading.followedBy tail) := by
        simp [Reader.peek, Reading.followedBy, tokens, Bind.bind, StateT.bind]
      simp only [here]
      exact reads fuel enough tail bounds
  | nil =>
      obtain ⟨⟨outcome, leaves, reads⟩, same⟩ := atEnd tokens
      refine ⟨outcome, leaves, fun fuel enough tail bounds => ?_⟩
      rcases bounds with rfl | ⟨more, rfl | rfl⟩
      · refine .inr ⟨rfl, ?_⟩
        simp [Reader.peek, Reading.followedBy, tokens, Bind.bind, StateT.bind]
      · have here : (Reader.peek >>= next fuel) (reading.followedBy (.streamEnd :: more)) =
            next fuel .streamEnd (reading.followedBy (.streamEnd :: more)) := by
          simp [Reader.peek, Reading.followedBy, tokens, Bind.bind, StateT.bind]
        simp only [here]
        exact reads fuel enough _ (bounds_streamEnd more)
      · have here : (Reader.peek >>= next fuel) (reading.followedBy (.documentStart :: more)) =
            next fuel .streamEnd (reading.followedBy (.documentStart :: more)) := by
          rw [← same fuel]
          simp [Reader.peek, Reading.followedBy, tokens, Bind.bind, StateT.bind]
        simp only [here]
        exact reads fuel enough _ (bounds_documentStart more)

/-- It does not matter what comes next. -/
theorem peek_any
    {next : Nat → Token → Reader α}
    (atEnd : ∀ fuel, next fuel .documentStart = next fuel .streamEnd)
    (keeps : ∀ token, Keeps (fun fuel => next fuel token) least opened closed reading) :
    Keeps (fun fuel => Reader.peek >>= next fuel) least opened closed reading :=
  .peek (fun _ => ⟨keeps .streamEnd, atEnd⟩) fun token _ _ => keeps token

/-- A token that comes next may be passed over. -/
theorem skip
    {between : Nat}
    {token : Token}
    {rest : List Token}
    (tokens : reading.tokens = token :: rest)
    (next : Nat → Reader α)
    (step : ∀ depth, flowStep (depth + opened) token ≤ depth + between)
    (keeps : Keeps next least between closed { reading with tokens := rest }) :
    Keeps (fun fuel => Reader.skip >>= fun _ => next fuel) least opened closed reading := by
  obtain ⟨outcome, leaves, reads⟩ := keeps
  refine ⟨outcome, fun value after found => ?_, fun fuel enough tail bounds => ?_⟩
  · obtain ⟨isSuffix, closing⟩ := leaves value after found
    rw [tokens]
    refine ⟨isSuffix.trans (List.suffix_cons token rest), fun depth => ?_⟩
    exact Nat.le_trans (flowDepth_le (step depth) rest) (closing depth)
  · have here : (Reader.skip >>= fun _ => next fuel) (reading.followedBy tail) =
        next fuel (({ reading with tokens := rest } : Reading).followedBy tail) := by
      simp [Reader.skip, Reading.followedBy, tokens, Bind.bind, StateT.bind]
    simp only [here]
    exact reads fuel enough tail bounds

end Keeps

/-! ## Nodes -/

variable {least opened : Nat} {reading : Reading}

/-- An anchor is read if it comes next, and what follows the tokens is none. -/
theorem anchor_keeps : Keeps (fun _ => anchor?) least opened opened reading := by
  simp only [anchor?]
  refine .peek (fun _ => ⟨.done none, fun _ => rfl⟩) fun token rest tokens => ?_
  cases token with
  | anchor name =>
      refine .skip tokens _ (fun _ => Nat.le_refl _) ?_
      refine .bind _ (.aside _ (fun _ => rfl) fun _ _ found => ?_) fun number _ _ =>
        .done (some number)
      obtain ⟨_, rfl⟩ := Prod.mk.inj (Option.some.inj found)
      rfl
  | _ => exact .done none

/-- The same of a tag. -/
theorem tag_keeps : Keeps (fun _ => tag?) least opened opened reading := by
  simp only [tag?]
  refine .peek (fun _ => ⟨.done none, fun _ => rfl⟩) fun token rest tokens => ?_
  cases token with
  | tag handle suffix =>
      exact .skip tokens _ (fun _ => Nat.le_refl _) (.done (some (handle, suffix)))
  | _ => exact .done none

/-- A tag is expanded by the handles, which are the same whatever follows. -/
theorem expandTag_keeps (handle suffix : List UInt8) :
    Keeps (fun _ => expandTag handle suffix) least opened opened reading := by
  refine .aside _ (fun tail => ?_) fun value next found => ?_
  · unfold expandTag
    split
    · rfl
    · simp only [Reading.followedBy, Option.map_map]
      rfl
  · unfold expandTag at found
    split at found
    · obtain ⟨_, rfl⟩ := Prod.mk.inj (Option.some.inj found)
      rfl
    · obtain ⟨expansion, _, same⟩ := Option.map_eq_some_iff.1 found
      obtain ⟨_, rfl⟩ := Prod.mk.inj same
      rfl

/-- An alias is found among the anchors that have been read. -/
theorem findAnchor_keeps (name : List Char) :
    Keeps (fun _ => findAnchor name) least opened opened reading := by
  refine .aside _ (fun tail => ?_) fun value next found => ?_
  · simp only [findAnchor, Reading.followedBy, Option.map_map]
    rfl
  · obtain ⟨number, _, same⟩ := Option.map_eq_some_iff.1 found
    obtain ⟨_, rfl⟩ := Prod.mk.inj same
    rfl

/-- An anchor and a tag come in either order. -/
theorem mark_keeps : Keeps (fun _ => mark) least opened opened reading := by
  simp only [mark]
  refine .bind _ anchor_keeps fun first _ _ => .bind _ tag_keeps fun tag _ _ => ?_
  cases tag with
  | none =>
      exact .ite (fun _ => .bind _ (.done first) fun _ _ _ => .done _) fun _ =>
        .bind _ anchor_keeps fun _ _ _ => .done _
  | some written =>
      have expands : ∀ (anchor : Option Nat) (next : Reading),
          Keeps
            (fun _ => expandTag written.1 written.2 >>= fun expanded =>
              pure (Mark.mk anchor (some expanded)))
            least opened opened next :=
        fun _ _ => .bind _ (expandTag_keeps _ _) fun _ _ _ => .done _
      exact .ite (fun _ => .bind _ (.done first) fun anchor next _ => expands anchor next)
        fun _ => .bind _ anchor_keeps fun anchor next _ => expands anchor next

/-- Read a node after what stands in front of it. -/
def nodeAfter (fuel : Nat) (block indentless : Bool) (mark : Mark) : Reader Node := do
  match ← peek with
  | .scalar text plain => do
      skip
      return .scalar mark text plain
  | .flowSequenceStart => do
      skip
      return .sequence mark (← flowItems fuel true)
  | .flowMappingStart => do
      skip
      return .mapping mark (← flowEntries fuel true)
  | token =>
      if indentless && token == .entry then
        return .sequence mark (← indentlessItems fuel)
      else if block && token == .sequenceStart then do
        skip
        return .sequence mark (← blockItems fuel)
      else if block && token == .mappingStart then do
        skip
        return .mapping mark (← blockEntries fuel)
      else if mark.anchor.isSome || mark.tag.isSome then
        return .scalar mark [] true
      else failure

/-- A node is an alias, or what stands behind its anchor and tag. -/
theorem node_succ
    (fuel : Nat)
    (block indentless : Bool) :
    node (fuel + 1) block indentless =
      peek >>= fun token =>
        match token with
        | .alias name => skip >>= fun _ => findAnchor name >>= fun anchor => pure (.alias anchor)
        | _ => mark >>= nodeAfter fuel block indentless := by
  rw [node]
  rfl

/-- Read an item of a flow sequence and those after it, or the end. -/
def flowItem (fuel : Nat) : Reader (List Node) := do
  match ← peek with
  | .flowSequenceEnd => do
      skip
      return []
  | .key => do
      skip
      let entry ← flowPair fuel
      return .mapping {} [entry] :: (← flowItems fuel false)
  | _ => do
      let item ← node fuel false false
      return item :: (← flowItems fuel false)

/-- An item of a flow sequence comes at its start or behind a comma. -/
theorem flowItems_succ
    (fuel : Nat)
    (first : Bool) :
    flowItems (fuel + 1) first =
      peek >>= fun next =>
        if next == .flowSequenceEnd then skip >>= fun _ => pure []
        else if first then flowItem fuel
        else if next == .comma then skip >>= fun _ => flowItem fuel
        else failure := by
  rw [flowItems]
  rfl

/-- Read an entry of a flow mapping and those after it, or the end. -/
def flowEntry (fuel : Nat) : Reader (List (Node × Node)) := do
  match ← peek with
  | .flowMappingEnd => do
      skip
      return []
  | .key => do
      skip
      let next ← peek
      let key ←
        if next == .value || next == .comma || next == .flowMappingEnd then pure Node.blank
        else node fuel false false
      let value ← flowValue fuel
      return (key, value) :: (← flowEntries fuel false)
  | _ => do
      let key ← node fuel false false
      return (key, Node.blank) :: (← flowEntries fuel false)

/-- An entry of a flow mapping comes at its start or behind a comma. -/
theorem flowEntries_succ
    (fuel : Nat)
    (first : Bool) :
    flowEntries (fuel + 1) first =
      peek >>= fun next =>
        if next == .flowMappingEnd then skip >>= fun _ => pure []
        else if first then flowEntry fuel
        else if next == .comma then skip >>= fun _ => flowEntry fuel
        else failure := by
  rw [flowEntries]
  rfl

/-- Read the value of a single entry after its key. -/
def flowPairValue (fuel : Nat) (key : Node) : Reader (Node × Node) := do
  match ← peek with
  | .value => do
      skip
      let next ← peek
      if next == .comma || next == .flowSequenceEnd then return (key, Node.blank)
      else return (key, ← node fuel false false)
  | _ => return (key, Node.blank)

/-- A pair in a flow sequence may lack its key. -/
theorem flowPair_succ (fuel : Nat) :
    flowPair (fuel + 1) =
      peek >>= fun next =>
        if next == .value || next == .comma || next == .flowSequenceEnd then
          skip >>= fun _ => flowPairValue fuel Node.blank
        else node fuel false false >>= flowPairValue fuel := by
  rw [flowPair]
  rfl

/-- All readers of nodes and of parts of them, with one amount of fuel. Inside a flow
collection, one more is open before than after. -/
structure Held (least : Nat) (reading : Reading) : Prop where
  node : ∀ block indentless,
    Keeps (fun fuel => Reader.node fuel block indentless) least 0 0 reading
  blockItems : Keeps Reader.blockItems least 0 0 reading
  indentlessItems : Keeps Reader.indentlessItems least 0 0 reading
  blockEntries : Keeps Reader.blockEntries least 0 0 reading
  blockValue : Keeps Reader.blockValue least 0 0 reading
  flowItems : ∀ first, Keeps (fun fuel => Reader.flowItems fuel first) least 1 0 reading
  flowPair : Keeps Reader.flowPair least 0 0 reading
  flowEntries : ∀ first, Keeps (fun fuel => Reader.flowEntries fuel first) least 1 0 reading
  flowValue : Keeps Reader.flowValue least 0 0 reading

/-- All readers may be given more fuel. -/
theorem Held.mono
    (held : Held least reading)
    {greater : Nat}
    (enough : least ≤ greater) :
    Held greater reading where
  node block indentless := (held.node block indentless).mono enough
  blockItems := held.blockItems.mono enough
  indentlessItems := held.indentlessItems.mono enough
  blockEntries := held.blockEntries.mono enough
  blockValue := held.blockValue.mono enough
  flowItems first := (held.flowItems first).mono enough
  flowPair := held.flowPair.mono enough
  flowEntries first := (held.flowEntries first).mono enough
  flowValue := held.flowValue.mono enough

/-- An item is a node or a pair, and further items follow it inside the same collection. -/
theorem flowItem_keeps
    (isNode : Keeps (fun fuel => node fuel false false) least 0 0 reading)
    (items : ∀ next : Reading, next.tokens <:+ reading.tokens →
      Keeps (fun fuel => flowItems fuel false) least 1 0 next)
    (pair : ∀ token rest, reading.tokens = token :: rest →
      Keeps flowPair least 0 0 { reading with tokens := rest }) :
    Keeps flowItem least 1 0 reading := by
  have goesOn : ∀ item (next : Reading), next.tokens <:+ reading.tokens →
      Keeps (fun fuel => flowItems fuel false >>= fun items => pure (item :: items)) least 1 0
        next :=
    fun _ next isSuffix => .bind _ (items next isSuffix) fun _ _ _ => .done _
  have plain :
      Keeps
        (fun fuel => node fuel false false >>= fun item =>
          flowItems fuel false >>= fun items => pure (item :: items))
        least 1 0 reading :=
    .bind _ isNode.inside goesOn
  refine .peek (fun _ => ⟨plain, fun _ => rfl⟩) fun token rest tokens => ?_
  cases token with
  | flowSequenceEnd => exact .skip tokens _ (fun _ => Nat.le_refl _) (.done _)
  | key =>
      refine .skip tokens _ (fun _ => Nat.le_refl _) ?_
      refine .bind _ (pair _ _ tokens).inside fun entry next isSuffix => ?_
      exact goesOn _ next (isSuffix.trans (tokens ▸ List.suffix_cons _ _))
  | _ => exact plain

/-- An entry has a key, a value or neither, and further entries follow it inside the same
collection. -/
theorem flowEntry_keeps
    (isNode : ∀ next : Reading, next.tokens <:+ reading.tokens →
      Keeps (fun fuel => node fuel false false) least 0 0 next)
    (entries : ∀ next : Reading, next.tokens <:+ reading.tokens →
      Keeps (fun fuel => flowEntries fuel false) least 1 0 next)
    (value : ∀ token rest, reading.tokens = token :: rest →
      ∀ next : Reading, next.tokens <:+ rest → Keeps flowValue least 0 0 next) :
    Keeps flowEntry least 1 0 reading := by
  have goesOn : ∀ entry (next : Reading), next.tokens <:+ reading.tokens →
      Keeps (fun fuel => flowEntries fuel false >>= fun entries => pure (entry :: entries)) least
        1 0 next :=
    fun _ next isSuffix => .bind _ (entries next isSuffix) fun _ _ _ => .done _
  have plain :
      Keeps
        (fun fuel => node fuel false false >>= fun key =>
          flowEntries fuel false >>= fun entries => pure ((key, Node.blank) :: entries))
        least 1 0 reading :=
    .bind _ (isNode reading (List.suffix_refl _)).inside fun key => goesOn (key, Node.blank)
  refine .peek (fun _ => ⟨plain, fun _ => rfl⟩) fun token rest tokens => ?_
  cases token with
  | flowMappingEnd => exact .skip tokens _ (fun _ => Nat.le_refl _) (.done _)
  | key =>
      have behind : rest <:+ reading.tokens := tokens ▸ List.suffix_cons _ _
      have goesOnAfterKey : ∀ key (next : Reading), next.tokens <:+ rest →
          Keeps
            (fun fuel => flowValue fuel >>= fun value =>
              flowEntries fuel false >>= fun entries => pure ((key, value) :: entries))
            least 1 0 next :=
        fun key next isSuffix => .bind _ (value _ _ tokens next isSuffix).inside
          fun value last isSuffixThen =>
            goesOn (key, value) last ((isSuffixThen.trans isSuffix).trans behind)
      refine .skip tokens _ (fun _ => Nat.le_refl _) (.peek_any (fun _ => rfl) fun next => ?_)
      exact .ite (fun _ => .bind _ (.done _) goesOnAfterKey) fun _ =>
        .bind _ (isNode _ behind).inside goesOnAfterKey
  | _ => exact plain

section Parts

variable
  {size : Nat}
  (later : ∀ next : Reading, next.tokens.length < size → Held least next)
  (short : reading.tokens.length ≤ size)

include later short

/-- Behind a token there are fewer. -/
theorem held_behind
    {token : Token}
    {rest : List Token}
    (tokens : reading.tokens = token :: rest)
    {next : Reading}
    (isSuffix : next.tokens <:+ rest) :
    Held least next := by
  refine later next ?_
  have atMost := isSuffix.length_le
  rw [tokens, List.length_cons] at short
  omega

/-- The items of a block sequence, each of which may be left out. -/
theorem blockItems_keeps : Keeps blockItems (least + 1) 0 0 reading := by
  refine .of_succ ?_
  simp only [blockItems]
  refine .peek (fun _ => ⟨.fails, fun _ => rfl⟩) fun token rest tokens => ?_
  have behind := fun next => @held_behind _ _ _ later short _ _ tokens next
  cases token with
  | entry =>
      have goesOn : ∀ item (next : Reading), next.tokens <:+ rest →
          Keeps (fun fuel => blockItems fuel >>= fun items => pure (item :: items)) least 0 0
            next :=
        fun _ next isSuffix => .bind _ (behind next isSuffix).blockItems fun _ _ _ => .done _
      refine .skip tokens _ (fun _ => Nat.le_refl _) (.peek_any (fun _ => rfl) fun next => ?_)
      exact .ite (fun _ => .bind _ (.done _) goesOn) fun _ =>
        .bind _ ((behind _ (List.suffix_refl _)).node true false) goesOn
  | blockEnd => exact .skip tokens _ (fun _ => Nat.le_refl _) (.done _)
  | _ => exact .fails

/-- The items of a sequence that is not indented, which ends without a token of its own. -/
theorem indentlessItems_keeps : Keeps indentlessItems (least + 1) 0 0 reading := by
  refine .of_succ ?_
  simp only [indentlessItems]
  refine .peek (fun _ => ⟨.done _, fun _ => rfl⟩) fun token rest tokens => ?_
  have behind := fun next => @held_behind _ _ _ later short _ _ tokens next
  cases token with
  | entry =>
      have goesOn : ∀ item (next : Reading), next.tokens <:+ rest →
          Keeps (fun fuel => indentlessItems fuel >>= fun items => pure (item :: items)) least 0
            0 next :=
        fun _ next isSuffix =>
          .bind _ (behind next isSuffix).indentlessItems fun _ _ _ => .done _
      refine .skip tokens _ (fun _ => Nat.le_refl _) (.peek_any (fun _ => rfl) fun next => ?_)
      exact .ite (fun _ => .bind _ (.done _) goesOn) fun _ =>
        .bind _ ((behind _ (List.suffix_refl _)).node true false) goesOn
  | _ => exact .done _

/-- The value of an entry in a block, which may be left out. -/
theorem blockValue_keeps : Keeps blockValue (least + 1) 0 0 reading := by
  refine .of_succ ?_
  simp only [blockValue]
  refine .peek (fun _ => ⟨.done _, fun _ => rfl⟩) fun token rest tokens => ?_
  have behind := fun next => @held_behind _ _ _ later short _ _ tokens next
  cases token with
  | value =>
      refine .skip tokens _ (fun _ => Nat.le_refl _) (.peek_any (fun _ => rfl) fun next => ?_)
      exact .ite (fun _ => .done _) fun _ => (behind _ (List.suffix_refl _)).node true true
  | _ => exact .done _

/-- The entries of a block mapping, the keys of which may be left out. -/
theorem blockEntries_keeps : Keeps blockEntries (least + 1) 0 0 reading := by
  refine .of_succ ?_
  simp only [blockEntries]
  refine .peek (fun _ => ⟨.fails, fun _ => rfl⟩) fun token rest tokens => ?_
  have behind := fun next => @held_behind _ _ _ later short _ _ tokens next
  cases token with
  | key =>
      have goesOn : ∀ key (next : Reading), next.tokens <:+ rest →
          Keeps
            (fun fuel => blockValue fuel >>= fun value =>
              blockEntries fuel >>= fun entries => pure ((key, value) :: entries))
            least 0 0 next :=
        fun _ next isSuffix => .bind _ (behind next isSuffix).blockValue
          fun _ last isSuffixThen =>
            .bind _ (behind last (isSuffixThen.trans isSuffix)).blockEntries fun _ _ _ => .done _
      refine .skip tokens _ (fun _ => Nat.le_refl _) (.peek_any (fun _ => rfl) fun next => ?_)
      exact .ite (fun _ => .bind _ (.done _) goesOn) fun _ =>
        .bind _ ((behind _ (List.suffix_refl _)).node true true) goesOn
  | blockEnd => exact .skip tokens _ (fun _ => Nat.le_refl _) (.done _)
  | _ => exact .fails

/-- The value of an entry in a flow mapping, which may be left out. -/
theorem flowValue_keeps : Keeps flowValue (least + 1) 0 0 reading := by
  refine .of_succ ?_
  simp only [flowValue]
  refine .peek (fun _ => ⟨.done _, fun _ => rfl⟩) fun token rest tokens => ?_
  have behind := fun next => @held_behind _ _ _ later short _ _ tokens next
  cases token with
  | value =>
      refine .skip tokens _ (fun _ => Nat.le_refl _) (.peek_any (fun _ => rfl) fun next => ?_)
      exact .ite (fun _ => .done _) fun _ => (behind _ (List.suffix_refl _)).node false false
  | _ => exact .done _

/-- The content of a node by the token that it begins with; a flow collection has one more open
inside. -/
theorem nodeAfter_keeps
    (block indentless : Bool)
    (mark : Mark) :
    Keeps (fun fuel => nodeAfter fuel block indentless mark) (least + 1) 0 0 reading := by
  have unmarked :
      Keeps
        (fun _ =>
          if mark.anchor.isSome || mark.tag.isSome then pure (Node.scalar mark [] true)
          else failure)
        (least + 1) 0 0 reading :=
    .ite (fun _ => .done _) fun _ => .fails
  have begun : ∀ token rest, reading.tokens = token :: rest →
      Keeps
        (fun fuel =>
          if indentless && token == .entry then
            indentlessItems fuel >>= fun items => pure (Node.sequence mark items)
          else if block && token == .sequenceStart then
            skip >>= fun _ => blockItems fuel >>= fun items => pure (Node.sequence mark items)
          else if block && token == .mappingStart then
            skip >>= fun _ => blockEntries fuel >>= fun entries =>
              pure (Node.mapping mark entries)
          else if mark.anchor.isSome || mark.tag.isSome then pure (Node.scalar mark [] true)
          else failure)
        (least + 1) 0 0 reading := by
    intro token rest tokens
    have held : Held (least + 1) { reading with tokens := rest } :=
      (held_behind later short tokens (List.suffix_refl rest)).mono (Nat.le_succ least)
    refine .ite (fun _ => .bind _ (indentlessItems_keeps later short) fun _ _ _ => .done _)
      fun _ => .ite (fun isSequence => ?_) fun _ => .ite (fun isMapping => ?_) fun _ => unmarked
    · obtain rfl : token = .sequenceStart := by simpa using (Bool.and_eq_true_iff.1 isSequence).2
      exact .skip tokens _ (fun _ => Nat.le_refl _)
        (.bind _ held.blockItems fun _ _ _ => .done _)
    · obtain rfl : token = .mappingStart := by simpa using (Bool.and_eq_true_iff.1 isMapping).2
      exact .skip tokens _ (fun _ => Nat.le_refl _)
        (.bind _ held.blockEntries fun _ _ _ => .done _)
  simp only [nodeAfter]
  refine .peek (fun _ => ⟨?_, fun _ => rfl⟩) fun token rest tokens => ?_
  · simpa using unmarked
  have held : Held (least + 1) { reading with tokens := rest } :=
    (held_behind later short tokens (List.suffix_refl rest)).mono (Nat.le_succ least)
  cases token with
  | scalar text plain => exact .skip tokens _ (fun _ => Nat.le_refl _) (.done _)
  | flowSequenceStart =>
      exact .skip tokens _ (fun _ => Nat.le_refl _)
        (.bind _ (held.flowItems true) fun _ _ _ => .done _)
  | flowMappingStart =>
      exact .skip tokens _ (fun _ => Nat.le_refl _)
        (.bind _ (held.flowEntries true) fun _ _ _ => .done _)
  | _ => exact begun _ rest tokens

/-- A node keeps to the tokens, and needs fuel for itself and for what stands behind its marks. -/
theorem node_keeps
    (block indentless : Bool) :
    Keeps (fun fuel => node fuel block indentless) (least + 2) 0 0 reading := by
  refine .of_succ ?_
  simp only [node_succ]
  have content :
      Keeps (fun fuel => mark >>= nodeAfter fuel block indentless) (least + 1) 0 0 reading :=
    .bind _ mark_keeps fun mark next isSuffix =>
      nodeAfter_keeps later (Nat.le_trans isSuffix.length_le short) block indentless mark
  refine .peek (fun _ => ⟨content, fun _ => rfl⟩) fun token rest tokens => ?_
  cases token with
  | «alias» name =>
      exact .skip tokens _ (fun _ => Nat.le_refl _)
        (.bind _ (findAnchor_keeps name) fun _ _ _ => .done _)
  | _ => exact content

/-- Further items of a flow sequence, up to the token that closes it. -/
theorem flowItems_keeps : Keeps (fun fuel => flowItems fuel false) (least + 1) 1 0 reading := by
  refine .of_succ ?_
  simp only [flowItems_succ]
  refine .peek (fun _ => ⟨.fails, fun _ => rfl⟩) fun token rest tokens => ?_
  have behind := fun next => @held_behind _ _ _ later short _ _ tokens next
  cases token with
  | flowSequenceEnd => exact .skip tokens _ (fun _ => Nat.le_refl _) (.done _)
  | comma =>
      refine .skip tokens _ (fun _ => Nat.le_refl _) ?_
      refine flowItem_keeps ((behind _ (List.suffix_refl _)).node false false)
        (fun next isSuffix => (behind next isSuffix).flowItems false)
        fun token others isRest => (behind _ ⟨[token], ?_⟩).flowPair
      exact isRest.symm
  | _ => exact .fails

/-- All items of a flow sequence, the first of which needs no comma. -/
theorem flowItems_first_keeps :
    Keeps (fun fuel => flowItems fuel true) (least + 3) 1 0 reading := by
  refine .of_succ ?_
  simp only [flowItems_succ]
  have item : Keeps flowItem (least + 2) 1 0 reading :=
    flowItem_keeps (node_keeps later short false false)
      (fun next isSuffix =>
        (flowItems_keeps later (Nat.le_trans isSuffix.length_le short)).mono (Nat.le_succ _))
      fun token rest tokens =>
        (held_behind later short tokens (List.suffix_refl rest)).flowPair.mono
          (Nat.le_add_right _ _)
  refine .peek (fun _ => ⟨item, fun _ => rfl⟩) fun token rest tokens => ?_
  cases token with
  | flowSequenceEnd => exact .skip tokens _ (fun _ => Nat.le_refl _) (.done _)
  | _ => exact item

/-- Further entries of a flow mapping, up to the token that closes it. -/
theorem flowEntries_keeps :
    Keeps (fun fuel => flowEntries fuel false) (least + 1) 1 0 reading := by
  refine .of_succ ?_
  simp only [flowEntries_succ]
  refine .peek (fun _ => ⟨.fails, fun _ => rfl⟩) fun token rest tokens => ?_
  have behind := fun next => @held_behind _ _ _ later short _ _ tokens next
  cases token with
  | flowMappingEnd => exact .skip tokens _ (fun _ => Nat.le_refl _) (.done _)
  | comma =>
      refine .skip tokens _ (fun _ => Nat.le_refl _) ?_
      refine flowEntry_keeps (fun next isSuffix => (behind next isSuffix).node false false)
        (fun next isSuffix => (behind next isSuffix).flowEntries false)
        fun token others isRest next isSuffix =>
          (behind next (isSuffix.trans ⟨[token], ?_⟩)).flowValue
      exact isRest.symm
  | _ => exact .fails

/-- All entries of a flow mapping, the first of which needs no comma. -/
theorem flowEntries_first_keeps :
    Keeps (fun fuel => flowEntries fuel true) (least + 3) 1 0 reading := by
  refine .of_succ ?_
  simp only [flowEntries_succ]
  have entry : Keeps flowEntry (least + 2) 1 0 reading :=
    flowEntry_keeps
      (fun next isSuffix =>
        node_keeps later (Nat.le_trans isSuffix.length_le short) false false)
      (fun next isSuffix =>
        (flowEntries_keeps later (Nat.le_trans isSuffix.length_le short)).mono (Nat.le_succ _))
      fun token rest tokens next isSuffix =>
        (held_behind later short tokens isSuffix).flowValue.mono (Nat.le_add_right _ _)
  refine .peek (fun _ => ⟨entry, fun _ => rfl⟩) fun token rest tokens => ?_
  cases token with
  | flowMappingEnd => exact .skip tokens _ (fun _ => Nat.le_refl _) (.done _)
  | _ => exact entry

theorem flowPairValue_keeps (key : Node) :
    Keeps (fun fuel => flowPairValue fuel key) least 0 0 reading := by
  simp only [flowPairValue]
  refine .peek (fun _ => ⟨.done _, fun _ => rfl⟩) fun token rest tokens => ?_
  have behind := fun next => @held_behind _ _ _ later short _ _ tokens next
  cases token with
  | value =>
      refine .skip tokens _ (fun _ => Nat.le_refl _) (.peek_any (fun _ => rfl) fun next => ?_)
      exact .ite (fun _ => .done _) fun _ =>
        .bind _ ((behind _ (List.suffix_refl _)).node false false) fun _ _ _ => .done _
  | _ => exact .done _

/-- A pair in a flow sequence, which may lack its key or its value. -/
theorem flowPair_keeps : Keeps flowPair (least + 3) 0 0 reading := by
  refine .of_succ ?_
  simp only [flowPair_succ]
  have plain :
      Keeps (fun fuel => node fuel false false >>= flowPairValue fuel) (least + 2) 0 0 reading :=
    .bind _ (node_keeps later short false false) fun key next isSuffix =>
      (flowPairValue_keeps later (Nat.le_trans isSuffix.length_le short) key).mono
        (Nat.le_add_right _ _)
  refine .peek (fun _ => ⟨plain, fun _ => rfl⟩) fun token rest tokens => ?_
  refine .ite (fun ends => ?_) fun _ => plain
  -- The token is a colon, a comma or the end of the sequence, and opens nothing.
  have opensNothing : ∀ depth, flowStep (depth + 0) token ≤ depth + 0 := by
    cases token <;> simp [flowStep] at ends ⊢
  refine .skip tokens _ opensNothing ?_
  have shorter : rest.length ≤ size := by
    rw [tokens, List.length_cons] at short
    omega
  exact (@flowPairValue_keeps least { reading with tokens := rest } size later shorter _).mono
    (Nat.le_add_right _ _)

/-- All parts of nodes are read with fuel that grows with the tokens that are left. -/
theorem held_of_later : Held (least + 3) reading where
  node block indentless := (node_keeps later short block indentless).mono (Nat.le_succ _)
  blockItems := (blockItems_keeps later short).mono (Nat.le_add_right _ 2)
  indentlessItems := (indentlessItems_keeps later short).mono (Nat.le_add_right _ 2)
  blockEntries := (blockEntries_keeps later short).mono (Nat.le_add_right _ 2)
  blockValue := (blockValue_keeps later short).mono (Nat.le_add_right _ 2)
  flowItems first := by
    cases first with
    | true => exact flowItems_first_keeps later short
    | false => exact (flowItems_keeps later short).mono (Nat.le_add_right _ 2)
  flowPair := flowPair_keeps later short
  flowEntries first := by
    cases first with
    | true => exact flowEntries_first_keeps later short
    | false => exact (flowEntries_keeps later short).mono (Nat.le_add_right _ 2)
  flowValue := (flowValue_keeps later short).mono (Nat.le_add_right _ 2)

end Parts

/-- All readers keep to the tokens with three times as much fuel as there are tokens: none reads
on without passing a token in three steps. -/
theorem held_of_length
    (size : Nat) :
    ∀ reading : Reading, reading.tokens.length < size → Held (3 * size) reading := by
  induction size with
  | zero => exact fun reading impossible => absurd impossible (Nat.not_lt_zero _)
  | succ size later =>
      intro reading short
      exact held_of_later later (Nat.le_of_lt_succ short)

end Reader
end Yaml
end ManifestPolicy
