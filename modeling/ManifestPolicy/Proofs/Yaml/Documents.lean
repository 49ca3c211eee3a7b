import ManifestPolicy.Proofs.Yaml.Joining
import ManifestPolicy.Proofs.Yaml.Reading
import ManifestPolicy.Yaml.Value
import Mathlib.Data.List.Forall2

/-!
# Documents of texts that are joined

Texts without directives and without lines that begin or end documents are joined by lines
that begin documents. The documents that are read of the result are those that are read of
the texts.
-/

namespace ManifestPolicy
namespace Yaml

/-- Read the content of a document and the documents after it. -/
def readFrom (explicit : Bool) (fuel : Nat) (tokens : List Token) : Stream :=
  match Reader.content explicit { tokens, handles := Reader.standardHandles } with
  | none => ⟨[], false⟩
  | some (root, reading) =>
      let rest :=
        match reading.tokens with
        | .documentEnd :: rest => rest
        | rest => rest
      let later := readDocuments fuel false rest
      ⟨root :: later.documents, later.complete⟩

/-- The first document may begin without a line that says so. -/
theorem readDocuments_implicit
    (fuel : Nat)
    {token : Token}
    (inner : Reader.endsDocument token = false)
    (rest : List Token) :
    readDocuments (fuel + 1) true (token :: rest) = readFrom false fuel (token :: rest) := by
  cases token <;> first | rfl | contradiction

/-- Every document may begin with a line that says so. -/
theorem readDocuments_explicit
    (fuel : Nat)
    (first : Bool)
    (rest : List Token) :
    readDocuments (fuel + 1) first (.documentStart :: rest) = readFrom true fuel rest := by
  cases first <;> rfl

/-- Later documents begin with a line that says so. -/
theorem complete_of_inner
    (fuel : Nat)
    {token : Token}
    (inner : Reader.endsDocument token = false)
    (rest : List Token) :
    (readDocuments fuel false (token :: rest)).complete = false := by
  cases fuel with
  | zero => rfl
  | succ fuel => cases token <;> first | rfl | contradiction

/-- A stream without an end is not complete. -/
theorem complete_nil
    (fuel : Nat)
    (first : Bool) :
    (readDocuments fuel first []).complete = false := by
  cases fuel <;> cases first <;> rfl

/-! ## The content of one document -/

/-- Tokens stand for one document: whatever ends it, they are its content and nothing is left
of them. -/
structure Whole (body : List Token) (root : Node) : Prop where
  level : flowDepth 0 body = 0
  reads : ∀ fuel explicit tail, (explicit = true ∨ body ≠ []) → Bounds tail → tail ≠ [] →
    readFrom explicit fuel (body ++ tail) =
      ⟨root :: (readDocuments fuel false tail).documents,
        (readDocuments fuel false tail).complete⟩
  /-- Without an end there is a fault after them. -/
  stops : ∀ fuel explicit, (readFrom explicit fuel body).complete = false

/-- Tokens stand for no document: they are at fault or go on behind its content. -/
def Broken (body : List Token) : Prop :=
  ∀ fuel explicit tail, Bounds tail → (readFrom explicit fuel (body ++ tail)).complete = false

/-- No tokens are the content of an empty document, if a line begins it. -/
theorem whole_nil : Whole [] Node.blank where
  level := rfl
  reads fuel explicit tail isExplicit bounds remains := by
    rw [isExplicit.resolve_right fun other => other rfl]
    rcases bounds with rfl | ⟨more, rfl | rfl⟩
    · contradiction
    · rfl
    · rfl
  stops fuel explicit := rfl

/-- Tokens that stand for a document are not at fault. -/
theorem Whole.not_broken
    {body : List Token}
    {root : Node}
    (whole : Whole body root) :
    ¬Broken body := by
  intro broken
  have holds := whole.reads 1 true [.streamEnd] (.inl rfl) (bounds_streamEnd []) (by simp)
  have fails := broken 1 true [.streamEnd] (bounds_streamEnd [])
  rw [holds] at fails
  contradiction

/-- Tokens stand for one document at most. -/
theorem Whole.unique
    {body : List Token}
    {root other : Node}
    (whole : Whole body root)
    (isOther : Whole body other) :
    root = other := by
  have holds := whole.reads 1 true [.streamEnd] (.inl rfl) (bounds_streamEnd []) (by simp)
  have same := isOther.reads 1 true [.streamEnd] (.inl rfl) (bounds_streamEnd []) (by simp)
  rw [holds, Stream.mk.injEq, List.cons.injEq] at same
  exact same.1.1

/-- The content of a document that is not empty is that of a node. -/
theorem content_eq_node
    (explicit : Bool)
    {token : Token}
    (inner : Reader.endsDocument token = false)
    (rest : List Token)
    (handles : List (List UInt8 × List UInt8)) :
    Reader.content explicit { tokens := token :: rest, handles } =
      Reader.node (Reader.fuelFor (token :: rest)) true false
        { tokens := token :: rest, handles } := by
  simp [Reader.content, Reader.peek, Bind.bind, StateT.bind, inner]

/-- Whatever ends the tokens of a document, its content is read with one outcome. Without an
end there may be a fault instead. -/
def ContentIs (body : List Token) (outcome : Option (Node × Reading)) : Prop :=
  ∀ explicit tail, Bounds tail →
    Reader.content explicit { tokens := body ++ tail, handles := Reader.standardHandles } =
        outcome.map (fun found => (found.1, found.2.followedBy tail))
      ∨ tail = [] ∧ Reader.content explicit
        { tokens := body ++ tail, handles := Reader.standardHandles } = none

/-- The content of a document leaves off at one of its tokens, or at their end and outside of
flow collections. -/
theorem exists_contentIs
    {body : List Token}
    (inner : ∀ token ∈ body, Reader.endsDocument token = false)
    (remains : body ≠ []) :
    ∃ outcome, ContentIs body outcome
      ∧ ∀ root next, outcome = some (root, next) →
        next.tokens <:+ body ∧ (next.tokens = [] → flowDepth 0 body = 0) := by
  obtain ⟨first, rest, rfl⟩ := List.exists_cons_of_ne_nil remains
  have firstInner := inner first List.mem_cons_self
  have held := Reader.held_of_length (first :: rest).length.succ
    { tokens := first :: rest, handles := Reader.standardHandles } (Nat.lt_succ_self _)
  obtain ⟨outcome, leaves, reads⟩ := held.node true false
  refine ⟨outcome, fun explicit tail bounds => ?_, fun root next found => ?_⟩
  · have enough : 3 * (first :: rest).length.succ ≤
        Reader.fuelFor (first :: (rest ++ tail)) := by
      simp only [Reader.fuelFor, List.length_cons, List.length_append]
      omega
    rw [List.cons_append, content_eq_node explicit firstInner]
    exact reads _ enough tail bounds
  · obtain ⟨isSuffix, closing⟩ := leaves root next found
    refine ⟨isSuffix, fun empty => ?_⟩
    have closed := closing 0
    rw [empty] at closed
    exact Nat.le_zero.1 closed

/-- Content that fails or leaves tokens is no document. -/
theorem broken_of_contentIs
    {body : List Token}
    (inner : ∀ token ∈ body, Reader.endsDocument token = false)
    {outcome : Option (Node × Reading)}
    (isContent : ContentIs body outcome)
    (left : ∀ root next, outcome = some (root, next) →
      next.tokens <:+ body ∧ next.tokens ≠ []) :
    Broken body := by
  intro fuel explicit tail bounds
  rcases isContent explicit tail bounds with same | ⟨_, same⟩
  · cases outcome with
    | none =>
        rw [readFrom, same]
        rfl
    | some found =>
        obtain ⟨root, next⟩ := found
        obtain ⟨isSuffix, remains⟩ := left root next rfl
        obtain ⟨token, others, isLeft⟩ := List.exists_cons_of_ne_nil remains
        have tokenInner : Reader.endsDocument token = false :=
          inner token (isSuffix.subset (isLeft ▸ List.mem_cons_self))
        rw [readFrom, same]
        simp only [Option.map_some, Reading.followedBy, isLeft, List.cons_append]
        have noEnd : ∀ later, token :: (others ++ tail) ≠ .documentEnd :: later := by
          rintro later isEnd
          rw [(List.cons.inj isEnd).1] at tokenInner
          contradiction
        split
        next later isEnd => exact absurd isEnd (noEnd later)
        next => exact complete_of_inner fuel tokenInner _
  · rw [readFrom, same]

/-- Content that leaves no tokens is a document. -/
theorem whole_of_contentIs
    {body : List Token}
    {root : Node}
    {next : Reading}
    (isContent : ContentIs body (some (root, next)))
    (level : flowDepth 0 body = 0)
    (empty : next.tokens = []) :
    Whole body root where
  level := level
  reads fuel explicit tail _ bounds present := by
    have same := (isContent explicit tail bounds).resolve_right fun alone => present alone.1
    rw [readFrom, same]
    simp only [Option.map_some, Reading.followedBy, empty, List.nil_append]
    rcases bounds with rfl | ⟨more, rfl | rfl⟩
    · contradiction
    · rfl
    · rfl
  stops fuel explicit := by
    have same := isContent explicit [] bounds_nil
    rw [List.append_nil] at same
    rcases same with same | ⟨_, same⟩
    · rw [readFrom, same]
      simp only [Option.map_some, Reading.followedBy, empty, List.nil_append]
      exact complete_nil fuel false
    · rw [readFrom, same]

/-- The tokens of a document stand for one, or for none. -/
theorem whole_or_broken
    {body : List Token}
    (inner : ∀ token ∈ body, Reader.endsDocument token = false)
    (remains : body ≠ []) :
    (∃ root, Whole body root) ∨ Broken body := by
  obtain ⟨outcome, isContent, leaves⟩ := exists_contentIs inner remains
  cases outcome with
  | none =>
      refine .inr (broken_of_contentIs inner isContent fun _ _ impossible => ?_)
      contradiction
  | some found =>
      obtain ⟨root, next⟩ := found
      obtain ⟨isSuffix, level⟩ := leaves root next rfl
      by_cases empty : next.tokens = []
      · exact .inl ⟨root, whole_of_contentIs isContent (level empty) empty⟩
      · refine .inr (broken_of_contentIs inner isContent fun other left same => ?_)
        obtain ⟨_, rfl⟩ := Prod.mk.inj (Option.some.inj same)
        exact ⟨isSuffix, empty⟩

/-- Tokens that stop at a fault hold no document that can be read in full. -/
theorem complete_of_fault
    {tokens : List Token}
    (inner : ∀ token ∈ tokens, Reader.endsDocument token = false)
    (fuel : Nat)
    (explicit : Bool) :
    (readFrom explicit fuel tokens).complete = false := by
  by_cases empty : tokens = []
  · rw [empty]
    rfl
  · rcases whole_or_broken inner empty with ⟨root, whole⟩ | broken
    · exact whole.stops fuel explicit
    · have fails := broken fuel explicit [] bounds_nil
      rwa [List.append_nil] at fails

/-! ## Joined texts -/

open Lexer

/-- A text is cut into the tokens of one document and the end. -/
def Holds (text : List Char) (root : Node) : Prop :=
  ∃ body, (lexed text).toList = body ++ [.streamEnd]
    ∧ (∀ token ∈ body, Reader.endsDocument token = false) ∧ Whole body root

/-- Texts with a line that begins a document between each two. -/
def joined : List (List Char) → List Char
  | [] => []
  | [last] => last
  | text :: rest => text ++ '\n' :: marked (joined rest)

/-- Joined texts, each with the line break that ends it. The last one has none. -/
def pieces : List (List Char) → List (List Char)
  | [] => []
  | [last] => [last]
  | text :: rest => (text ++ ['\n']) :: pieces rest

/-- Neither a text nor the text with a line break after it has a line that begins with a
mark. -/
def Tidy (text : List Char) : Prop :=
  (fresh text).cursor.Unmarked ∧ (fresh (text ++ ['\n'])).cursor.Unmarked

/-- No text has a fault and an end. -/
theorem inner_of_append
    {body : List Token}
    {tokens : Array Token}
    (isBody : tokens.toList = body ++ [.streamEnd])
    (inner : ∀ token ∈ tokens, Reader.endsDocument token = false) :
    False := by
  have ends := inner .streamEnd (by simp [← Array.mem_toList_iff, isBody])
  contradiction

/-- A text with the tokens of one document holds it if and only if they stand for it. -/
theorem holds_iff
    {text : List Char}
    {body : List Token}
    (inner : ∀ token ∈ body, Reader.endsDocument token = false)
    (isBody : (lexed text).toList = body ++ [.streamEnd])
    (root : Node) :
    Holds text root ↔ Whole body root := by
  constructor
  · rintro ⟨other, isOther, _, whole⟩
    rw [isBody] at isOther
    rwa [List.append_cancel_right isOther]
  · exact fun whole => ⟨body, isBody, inner, whole⟩

/-- A text of which the tokens stop at a fault holds no document. -/
theorem not_holds_of_fault
    {text : List Char}
    (inner : ∀ token ∈ lexed text, Reader.endsDocument token = false)
    (root : Node) :
    ¬Holds text root := by
  rintro ⟨body, isBody, _⟩
  exact inner_of_append isBody inner

/-- Documents are read in full, and they are these. -/
def Stream.Is (stream : Stream) (roots : List Node) : Prop :=
  stream.complete = true ∧ stream.documents = roots

/-- A stream is made of some documents if it begins with the first of them and goes on with the
others. -/
theorem Stream.is_cons_iff
    {root : Node}
    {later : Stream}
    (roots : List Node) :
    Stream.Is ⟨root :: later.documents, later.complete⟩ roots ↔
      ∃ others, roots = root :: others ∧ later.Is others := by
  constructor
  · rintro ⟨complete, rfl⟩
    exact ⟨later.documents, rfl, complete, rfl⟩
  · rintro ⟨others, rfl, complete, rfl⟩
    exact ⟨complete, rfl⟩

/-- A stream at fault is made of no documents. -/
theorem Stream.not_is_of_incomplete
    {stream : Stream}
    (incomplete : stream.complete = false)
    (roots : List Node) :
    ¬stream.Is roots := by
  intro is
  rw [is.1] at incomplete
  contradiction

/-- What comes after the tokens of a text that holds a document is read, after that
document. -/
theorem readFrom_is_iff
    {text : List Char}
    {body tail : List Token}
    (inner : ∀ token ∈ body, Reader.endsDocument token = false)
    (isBody : (lexed text).toList = body ++ [.streamEnd])
    {fuel : Nat}
    {explicit : Bool}
    (isExplicit : explicit = true ∨ body ≠ [])
    (bounds : Bounds tail)
    (present : tail ≠ [])
    (roots : List Node) :
    (readFrom explicit fuel (body ++ tail)).Is roots ↔
      ∃ root others, roots = root :: others ∧ Holds text root
        ∧ (readDocuments fuel false tail).Is others := by
  have wholeOrBroken : (∃ root, Whole body root) ∨ Broken body := by
    by_cases empty : body = []
    · exact .inl ⟨Node.blank, empty ▸ whole_nil⟩
    · exact whole_or_broken inner empty
  rcases wholeOrBroken with ⟨root, whole⟩ | broken
  · rw [whole.reads fuel explicit tail isExplicit bounds present, Stream.is_cons_iff]
    constructor
    · rintro ⟨others, same, is⟩
      exact ⟨root, others, same, (holds_iff inner isBody root).2 whole, is⟩
    · rintro ⟨other, others, same, holds, is⟩
      rw [whole.unique ((holds_iff inner isBody other).1 holds)]
      exact ⟨others, same, is⟩
  · constructor
    · exact fun is => absurd is
        (Stream.not_is_of_incomplete (broken fuel explicit tail bounds) roots)
    · rintro ⟨root, others, _, holds, _⟩
      exact absurd broken ((holds_iff inner isBody root).1 holds).not_broken

/-- At the end of a text there are no more documents. -/
theorem readDocuments_streamEnd
    (fuel : Nat)
    (first : Bool)
    (roots : List Node) :
    (readDocuments (fuel + 1) first [.streamEnd]).Is roots ↔ roots = [] := by
  have ends : readDocuments (fuel + 1) first [.streamEnd] = ⟨[], true⟩ := by
    cases first <;> rfl
  rw [ends]
  exact ⟨fun is => is.2.symm, fun same => ⟨rfl, same.symm⟩⟩

/-- A text and what is after the line behind it are read one after the other. -/
theorem readFrom_joined_iff
    {text more : List Char}
    (joined : Joined text more)
    {fuel : Nat}
    {explicit : Bool}
    (isExplicit : explicit = true ∨ lexed text ≠ #[.streamEnd])
    (roots : List Node) :
    (readFrom explicit fuel (lexed (text ++ marked more)).toList).Is roots ↔
      ∃ root others, roots = root :: others ∧ Holds text root
        ∧ (readDocuments fuel false (.documentStart :: (lexed more).toList)).Is others := by
  cases joined with
  | fault inner same =>
      have fails : (readFrom explicit fuel (lexed text).toList).complete = false :=
        complete_of_fault (by simpa using inner) fuel explicit
      rw [same]
      constructor
      · exact fun is => absurd is (Stream.not_is_of_incomplete fails roots)
      · rintro ⟨root, others, _, holds, _⟩
        exact absurd holds (not_holds_of_fault inner root)
  | ends body later inner isBody goesOn isLater =>
      have starts : explicit = true ∨ body ≠ [] := by
        refine isExplicit.imp_right fun isOther empty => isOther ?_
        rw [← Array.toList_inj, isBody, empty]
        rfl
      rw [goesOn, readFrom_is_iff inner isBody starts (bounds_documentStart later) (by simp)]
      constructor
      all_goals
        rintro ⟨root, others, same, holds, is⟩
        have level := ((holds_iff inner isBody root).1 holds).level
        refine ⟨root, others, same, holds, ?_⟩
      · rwa [← isLater level]
      · rwa [isLater level]

/-- Nothing but the end is read after a text that stands alone. -/
theorem readFrom_single_iff
    {text : List Char}
    (single : Single text)
    {fuel : Nat}
    (enough : (lexed text).size ≤ fuel)
    {explicit : Bool}
    (isExplicit : explicit = true ∨ lexed text ≠ #[.streamEnd])
    (roots : List Node) :
    (readFrom explicit fuel (lexed text).toList).Is roots ↔
      ∃ root, roots = [root] ∧ Holds text root := by
  cases single with
  | fault inner =>
      have fails : (readFrom explicit fuel (lexed text).toList).complete = false :=
        complete_of_fault (by simpa using inner) fuel explicit
      constructor
      · exact fun is => absurd is (Stream.not_is_of_incomplete fails roots)
      · rintro ⟨root, _, holds⟩
        exact absurd holds (not_holds_of_fault inner root)
  | ends body inner isBody =>
      have starts : explicit = true ∨ body ≠ [] := by
        refine isExplicit.imp_right fun isOther empty => isOther ?_
        rw [← Array.toList_inj, isBody, empty]
        rfl
      obtain ⟨fuel, rfl⟩ : ∃ less, fuel = less + 1 := by
        rw [← Array.length_toList, isBody, List.length_append, List.length_singleton] at enough
        exact ⟨fuel - 1, by omega⟩
      rw [isBody, readFrom_is_iff inner isBody starts (bounds_streamEnd []) (by simp)]
      simp only [readDocuments_streamEnd]
      constructor
      · rintro ⟨root, _, same, holds, rfl⟩
        exact ⟨root, same, holds⟩
      · rintro ⟨root, same, holds⟩
        exact ⟨root, [], same, holds, rfl⟩

theorem closed_of_line (text : List Char) : (fresh (text ++ ['\n'])).cursor.Closed :=
  .inl ⟨text, rfl⟩

/-- What is joined is the first text on lines of its own, a line that begins a document, and what
is joined of the others. -/
theorem joined_cons_cons
    (text next : List Char)
    (rest : List (List Char)) :
    joined (text :: next :: rest) = (text ++ ['\n']) ++ marked (joined (next :: rest)) :=
  (List.append_assoc text ['\n'] (marked (joined (next :: rest)))).symm

/-- The end of a text becomes the line that begins a document. -/
theorem size_lexed_joined
    {text more : List Char}
    (joined : Joined text more)
    {root : Node}
    (holds : Holds text root) :
    (lexed (text ++ marked more)).size = (lexed text).size + (lexed more).size := by
  cases joined with
  | fault inner same => exact absurd holds (not_holds_of_fault inner root)
  | ends body later inner isBody goesOn isLater =>
      have isRest := isLater ((holds_iff inner isBody root).1 holds).level
      simp only [← Array.length_toList, goesOn, isBody, isRest, List.length_append,
        List.length_cons, List.length_nil]
      omega

/-- A text that holds a document has tokens. -/
theorem Holds.size_pos
    {text : List Char}
    {root : Node}
    (holds : Holds text root) :
    0 < (lexed text).size := by
  obtain ⟨body, isBody, _⟩ := holds
  rw [← Array.length_toList, isBody, List.length_append]
  exact Nat.succ_pos _

/-- Joined texts behind a line that begins a document hold what each of them holds. -/
theorem readDocuments_joined_iff
    {texts : List (List Char)}
    (present : texts ≠ [])
    (tidy : ∀ text ∈ texts, Tidy text)
    {fuel : Nat}
    (enough : (lexed (joined texts)).size + 1 < fuel)
    (roots : List Node) :
    (readDocuments fuel false (.documentStart :: (lexed (joined texts)).toList)).Is roots ↔
      List.Forall₂ Holds (pieces texts) roots := by
  induction texts generalizing fuel roots with
  | nil => contradiction
  | cons text rest readRest =>
      obtain ⟨fuel, rfl⟩ : ∃ less, fuel = less + 2 := ⟨fuel - 2, by omega⟩
      rw [readDocuments_explicit]
      cases rest with
      | nil =>
          have single := lexed_single (tidy text List.mem_cons_self).1
          rw [joined] at enough
          rw [joined, readFrom_single_iff single (by omega) (.inl rfl), pieces,
            List.forall₂_cons_left_iff]
          simp only [List.forall₂_nil_left_iff]
          constructor
          · rintro ⟨root, same, holds⟩
            exact ⟨root, [], holds, rfl, same⟩
          · rintro ⟨root, _, holds, rfl, same⟩
            exact ⟨root, same, holds⟩
      | cons next others =>
          have isJoined := lexed_joined (closed_of_line text) (tidy text List.mem_cons_self).2
            (joined (next :: others))
          have later := fun fuel enough roots => @readRest (by simp)
            (fun text present => tidy text (List.mem_cons_of_mem _ present)) fuel enough roots
          rw [joined_cons_cons, readFrom_joined_iff isJoined (.inl rfl), pieces,
            List.forall₂_cons_left_iff]
          · constructor
            all_goals
              intro holdsAll
            · obtain ⟨root, rest, same, holds, is⟩ := holdsAll
              have positive := holds.size_pos
              rw [joined_cons_cons, size_lexed_joined isJoined holds] at enough
              exact ⟨root, rest, holds, (later _ (by omega) _).1 is, same⟩
            · obtain ⟨root, rest, holds, is, same⟩ := holdsAll
              have positive := holds.size_pos
              rw [joined_cons_cons, size_lexed_joined isJoined holds] at enough
              exact ⟨root, rest, same, holds, (later _ (by omega) _).2 is⟩
          · exact List.cons_ne_nil _ _

/-! ## Values of joined texts -/

/-- A text is read in full, and its documents have these values. -/
def ReadsAs (text : List Char) (values : List Value) : Prop :=
  (stream text).complete = true ∧ (stream text).documents.mapM Node.value? = some values

/-- A text may be written and holds a document with a value. -/
def Means (text : List Char) (value : Value) : Prop :=
  text.all isAllowed = true ∧ ∃ root, Holds text root ∧ root.value? = some value

/-- Reading every item of a list succeeds if each of them is read, in order. -/
theorem mapM_eq_some_iff
    {read : α → Option β}
    {items : List α}
    {values : List β} :
    items.mapM read = some values ↔
      List.Forall₂ (fun item value => read item = some value) items values := by
  induction items generalizing values with
  | nil =>
      rw [List.mapM_nil, List.forall₂_nil_left_iff]
      exact ⟨fun same => (Option.some.inj same).symm, fun same => same ▸ rfl⟩
  | cons item rest readRest =>
      rw [List.mapM_cons, List.forall₂_cons_left_iff]
      simp only [bind, pure, Option.bind_eq_some_iff, Option.some.injEq, readRest]
      constructor
      · rintro ⟨value, isValue, others, areOthers, rfl⟩
        exact ⟨value, others, isValue, areOthers, rfl⟩
      · rintro ⟨value, others, isValue, areOthers, rfl⟩
        exact ⟨value, isValue, others, areOthers, rfl⟩

/-- What the documents of a text are if no document of it stands for nothing. -/
def documentsOf (text : List Char) : Stream :=
  readDocuments ((tokens text).length + 1) true (tokens text)

theorem value?_blank : Node.blank.value? = some (.scalar none .null) := rfl

/-- A document that says nothing is the only one that is read where there is none. -/
theorem readsAs_iff
    {text : List Char}
    {values : List Value}
    (present : values ≠ [])
    (speaking : ∀ value ∈ values, value.isNull = false) :
    ReadsAs text values ↔
      ∃ roots, (documentsOf text).Is roots
        ∧ List.Forall₂ (fun root value => Node.value? root = some value) roots values := by
  have isStream : stream text =
      if (documentsOf text).complete && (documentsOf text).documents.isEmpty then
        ⟨[Node.blank], true⟩
      else documentsOf text := rfl
  rw [ReadsAs, isStream]
  split
  next empty =>
    have noDocuments : (documentsOf text).documents = [] := by
      simpa using (Bool.and_eq_true_iff.1 empty).2
    constructor
    · rintro ⟨_, isBlank⟩
      simp only [List.mapM_cons, value?_blank, List.mapM_nil] at isBlank
      have isNull := speaking (.scalar none .null)
        (by rw [← Option.some.inj isBlank]; exact List.mem_cons_self)
      contradiction
    · rintro ⟨roots, ⟨_, areRoots⟩, readsAll⟩
      rw [← areRoots, noDocuments, List.forall₂_nil_left_iff] at readsAll
      contradiction
  next =>
    rw [mapM_eq_some_iff]
    constructor
    · rintro ⟨complete, readsAll⟩
      exact ⟨_, ⟨complete, rfl⟩, readsAll⟩
    · rintro ⟨_, ⟨complete, rfl⟩, readsAll⟩
      exact ⟨complete, readsAll⟩

/-- The tokens of a text with no characters that are not allowed. -/
theorem tokens_of_allowed
    {text : List Char}
    (allowed : text.all isAllowed = true) :
    tokens text = (lexed text).toList := by
  rw [tokens, if_pos allowed]
  rfl

/-- A text with a character that may not stand in a text is at fault. -/
theorem complete_of_not_allowed
    {text : List Char}
    (notAllowed : text.all isAllowed = false) :
    (documentsOf text).complete = false := by
  have none : tokens text = [] := by
    rw [tokens, if_neg (by rw [notAllowed]; exact Bool.false_ne_true)]
  rw [documentsOf, none]
  rfl

/-- A text that begins with no line that begins a document has a document first. -/
theorem documentsOf_is_iff
    {text : List Char}
    (allowed : text.all isAllowed = true)
    (inner : ∀ first ∈ (lexed text).toList.head?, Reader.endsDocument first = false)
    (roots : List Node) :
    (documentsOf text).Is roots ↔
      (readFrom false (lexed text).size (lexed text).toList).Is roots := by
  rw [documentsOf, tokens_of_allowed allowed, ← Array.length_toList]
  cases isTokens : (lexed text).toList with
  | nil =>
      have fails := Stream.not_is_of_incomplete (complete_nil 1 true) roots
      exact ⟨fun is => absurd is fails, fun is => absurd is.1 Bool.false_ne_true⟩
  | cons first rest =>
      rw [readDocuments_implicit _ (inner first (by rw [isTokens]; rfl)) rest]

/-- A text without tokens but the end holds nothing but null. -/
theorem isNull_of_means
    {text : List Char}
    (isEnd : (lexed text).toList = [.streamEnd])
    {value : Value}
    (means : Means text value) :
    value.isNull = true := by
  obtain ⟨_, root, ⟨body, isBody, _, whole⟩, isValue⟩ := means
  have empty : [] = body := by
    rw [isEnd] at isBody
    exact List.append_cancel_right (isBody : [] ++ [Token.streamEnd] = body ++ [.streamEnd])
  rw [(empty ▸ whole : Whole [] root).unique whole_nil, value?_blank] at isValue
  rw [← Option.some.inj isValue]
  rfl

/-- The only document of a text with a value of its own is the one that it holds. -/
theorem readsAs_singleton_iff
    {text : List Char}
    (unmarked : (fresh text).cursor.Unmarked)
    {value : Value}
    (speaking : value.isNull = false) :
    ReadsAs text [value] ↔ Means text value := by
  rw [readsAs_iff (by simp) (by simpa using speaking)]
  cases allowed : text.all isAllowed with
  | false =>
      have fails := complete_of_not_allowed allowed
      constructor
      · rintro ⟨roots, is, _⟩
        exact absurd is (Stream.not_is_of_incomplete fails roots)
      · rintro ⟨isAllowed, _⟩
        rw [allowed] at isAllowed
        contradiction
  | true =>
      have single := lexed_single unmarked
      by_cases isEnd : lexed text = #[.streamEnd]
      · constructor
        · rintro ⟨roots, is, readsAll⟩
          rw [documentsOf, tokens_of_allowed allowed, isEnd, readDocuments_streamEnd] at is
          rw [is, List.forall₂_nil_left_iff] at readsAll
          contradiction
        · intro means
          rw [isNull_of_means (by rw [isEnd]) means] at speaking
          contradiction
      · have isFirst : ∀ roots, (documentsOf text).Is roots ↔
            ∃ root, roots = [root] ∧ Holds text root := fun roots => by
          rw [documentsOf_is_iff allowed (single.begins isEnd),
            readFrom_single_iff single (Nat.le_refl _) (.inr isEnd)]
        simp only [isFirst, Means, allowed, true_and]
        constructor
        · rintro ⟨_, ⟨root, rfl, holds⟩, readsAll⟩
          rw [List.forall₂_cons] at readsAll
          exact ⟨root, holds, readsAll.1⟩
        · rintro ⟨root, holds, isValue⟩
          exact ⟨[root], ⟨root, rfl, holds⟩, .cons isValue .nil⟩

theorem length_pieces (texts : List (List Char)) : (pieces texts).length = texts.length := by
  induction texts with
  | nil => rfl
  | cons text rest lengthRest =>
      cases rest with
      | nil => rfl
      | cons next others => exact congrArg (· + 1) lengthRest

/-- Joined texts have no characters but theirs and those of the lines between them. -/
theorem allowed_joined_iff (texts : List (List Char)) :
    (joined texts).all isAllowed = true ↔
      ∀ piece ∈ pieces texts, piece.all isAllowed = true := by
  induction texts with
  | nil => simp [joined, pieces]
  | cons text rest allowedRest =>
      cases rest with
      | nil => simp [joined, pieces]
      | cons next others =>
          have line : (marked (joined (next :: others))).all isAllowed =
              (joined (next :: others)).all isAllowed := rfl
          have isPieces : pieces (text :: next :: others) =
              (text ++ ['\n']) :: pieces (next :: others) := rfl
          rw [joined_cons_cons, List.all_append, Bool.and_eq_true_iff, line, allowedRest,
            isPieces, List.forall_mem_cons]

/-- Texts hold documents with values if and only if they are allowed and the documents that
they hold have them. -/
theorem forall₂_means_iff
    {texts : List (List Char)}
    {values : List Value} :
    List.Forall₂ Means texts values ↔
      (∀ text ∈ texts, text.all isAllowed = true)
        ∧ ∃ roots, List.Forall₂ Holds texts roots
          ∧ List.Forall₂ (fun root value => Node.value? root = some value) roots values := by
  induction texts generalizing values with
  | nil =>
      constructor
      · rintro ⟨⟩
        exact ⟨by simp, [], .nil, .nil⟩
      · rintro ⟨_, _, ⟨⟩, ⟨⟩⟩
        exact .nil
  | cons text rest meansRest =>
      rw [List.forall_mem_cons]
      constructor
      · rintro (_ | ⟨⟨allowed, root, holds, isValue⟩, others⟩)
        obtain ⟨allowedRest, roots, holdsRest, areValues⟩ := meansRest.1 others
        exact ⟨⟨allowed, allowedRest⟩, root :: roots, .cons holds holdsRest,
          .cons isValue areValues⟩
      · rintro ⟨⟨allowed, allowedRest⟩, _, _ | ⟨holds, holdsRest⟩, _ | ⟨isValue, areValues⟩⟩
        exact .cons ⟨allowed, _, holds, isValue⟩
          (meansRest.2 ⟨allowedRest, _, holdsRest, areValues⟩)

/-- The documents of joined texts are the documents of the texts, unless the first one holds
nothing. -/
theorem documentsOf_joined_iff
    {text next : List Char}
    {others : List (List Char)}
    (tidy : ∀ piece ∈ text :: next :: others, Tidy piece)
    (allowed : (joined (text :: next :: others)).all isAllowed = true)
    (begins : lexed (text ++ ['\n']) ≠ #[.streamEnd])
    (roots : List Node) :
    (documentsOf (joined (text :: next :: others))).Is roots ↔
      List.Forall₂ Holds (pieces (text :: next :: others)) roots := by
  have isJoined := lexed_joined (closed_of_line text) (tidy text List.mem_cons_self).2
    (joined (next :: others))
  have later := fun fuel enough roots => @readDocuments_joined_iff (next :: others) (by simp)
    (fun text present => tidy text (List.mem_cons_of_mem _ present)) fuel enough roots
  have isPieces : pieces (text :: next :: others) =
      (text ++ ['\n']) :: pieces (next :: others) := rfl
  have inner := isJoined.begins begins
  rw [← joined_cons_cons] at inner
  rw [documentsOf_is_iff allowed inner, joined_cons_cons,
    readFrom_joined_iff isJoined (.inr begins), isPieces, List.forall₂_cons_left_iff]
  have enough : ∀ root, Holds (text ++ ['\n']) root →
      (lexed (joined (next :: others))).size + 1 <
        (lexed (text ++ ['\n'] ++ marked (joined (next :: others)))).size := by
    intro root holds
    rw [size_lexed_joined isJoined holds]
    obtain ⟨body, isBody, _⟩ := holds
    have remains : body ≠ [] := by
      rintro rfl
      exact begins (by rw [← Array.toList_inj, isBody]; rfl)
    have positive := List.length_pos_iff.2 remains
    have size : (lexed (text ++ ['\n'])).size = body.length + 1 := by
      rw [← Array.length_toList, isBody, List.length_append, List.length_singleton]
    omega
  constructor
  · rintro ⟨root, rest, same, holds, is⟩
    exact ⟨root, rest, holds, (later _ (enough root holds) _).1 is, same⟩
  · rintro ⟨root, rest, holds, is, same⟩
    exact ⟨root, rest, same, holds, (later _ (enough root holds) _).2 is⟩

/-- A text without tokens leaves the documents to the texts after it. -/
theorem documentsOf_joined_of_blank
    {text next : List Char}
    {others : List (List Char)}
    (tidy : ∀ piece ∈ text :: next :: others, Tidy piece)
    (allowed : (joined (text :: next :: others)).all isAllowed = true)
    (blank : lexed (text ++ ['\n']) = #[.streamEnd])
    (roots : List Node) :
    (documentsOf (joined (text :: next :: others))).Is roots ↔
      List.Forall₂ Holds (pieces (next :: others)) roots := by
  have isJoined := lexed_joined (closed_of_line text) (tidy text List.mem_cons_self).2
    (joined (next :: others))
  have isTokens : (lexed (joined (text :: next :: others))).toList =
      .documentStart :: (lexed (joined (next :: others))).toList := by
    rw [joined_cons_cons]
    cases isJoined with
    | fault inner same =>
        have impossible := inner .streamEnd (by simp [blank])
        contradiction
    | ends body later inner isBody goesOn isLater =>
        have empty : [] = body := by
          rw [blank] at isBody
          exact List.append_cancel_right (isBody : [] ++ [Token.streamEnd] = body ++ [.streamEnd])
        rw [goesOn, ← empty, isLater (by rw [← empty]; rfl)]
        rfl
  rw [documentsOf, tokens_of_allowed allowed, isTokens, readDocuments_explicit,
    ← readDocuments_explicit _ false]
  refine readDocuments_joined_iff (by simp)
    (fun text present => tidy text (List.mem_cons_of_mem _ present)) ?_ roots
  simp

/-- Texts that are joined by more than one line hold documents with values if and only if the
result is read as the values. -/
theorem readsAs_joined_iff_means
    {text next : List Char}
    {others : List (List Char)}
    (tidy : ∀ piece ∈ text :: next :: others, Tidy piece)
    {values : List Value}
    (same : (text :: next :: others).length = values.length)
    (speaking : ∀ value ∈ values, value.isNull = false) :
    ReadsAs (joined (text :: next :: others)) values ↔
      List.Forall₂ Means (pieces (text :: next :: others)) values := by
  have present : values ≠ [] := by
    rintro rfl
    contradiction
  rw [readsAs_iff present speaking]
  cases allowed : (joined (text :: next :: others)).all isAllowed with
  | false =>
      have fails := complete_of_not_allowed allowed
      constructor
      · rintro ⟨roots, is, _⟩
        exact absurd is (Stream.not_is_of_incomplete fails roots)
      · intro means
        have isAllowed := (allowed_joined_iff _).2 (forall₂_means_iff.1 means).1
        rw [allowed] at isAllowed
        contradiction
  | true =>
      by_cases blank : lexed (text ++ ['\n']) = #[.streamEnd]
      · constructor
        · rintro ⟨roots, is, areValues⟩
          have holds := (documentsOf_joined_of_blank tidy allowed blank roots).1 is
          have fewer := holds.length_eq.trans areValues.length_eq
          rw [length_pieces, ← same] at fewer
          exact absurd fewer (Nat.ne_of_lt (Nat.lt_succ_self _))
        · intro means
          obtain ⟨value, rest, first, _, rfl⟩ := List.forall₂_cons_left_iff.1 means
          have isNull := isNull_of_means (by rw [blank]) first
          rw [speaking value List.mem_cons_self] at isNull
          contradiction
      · rw [forall₂_means_iff]
        simp only [documentsOf_joined_iff tidy allowed blank]
        have allAllowed := (allowed_joined_iff _).1 allowed
        exact ⟨fun found => ⟨allAllowed, found⟩, fun found => found.2⟩

/-- No line of a piece begins a document, as none of the texts has one. -/
theorem unmarked_of_mem_pieces
    {texts : List (List Char)}
    (tidy : ∀ text ∈ texts, Tidy text) :
    ∀ piece ∈ pieces texts, (fresh piece).cursor.Unmarked := by
  induction texts with
  | nil => simp [pieces]
  | cons text rest unmarkedRest =>
      rw [List.forall_mem_cons] at tidy
      cases rest with
      | nil => simpa [pieces] using tidy.1.1
      | cons next others =>
          exact List.forall_mem_cons.2 ⟨tidy.1.2, unmarkedRest tidy.2⟩

/-- Texts without lines that begin documents are read as one value each if they hold one document
each, with that value. -/
theorem forall₂_readsAs_iff
    {texts : List (List Char)}
    (unmarked : ∀ text ∈ texts, (fresh text).cursor.Unmarked)
    {values : List Value}
    (speaking : ∀ value ∈ values, value.isNull = false) :
    List.Forall₂ (fun text value => ReadsAs text [value]) texts values ↔
      List.Forall₂ Means texts values := by
  induction texts generalizing values with
  | nil => rw [List.forall₂_nil_left_iff, List.forall₂_nil_left_iff]
  | cons text rest readsRest =>
      rw [List.forall_mem_cons] at unmarked
      cases values with
      | nil => simp
      | cons value others =>
          rw [List.forall_mem_cons] at speaking
          rw [List.forall₂_cons, List.forall₂_cons, readsRest unmarked.2 speaking.2,
            readsAs_singleton_iff unmarked.1 speaking.1]

/-- Joined texts are read as the values of the texts if and only if each text, with the line
break that ends it, is read as its value alone. -/
theorem readsAs_joined_iff
    {texts : List (List Char)}
    (tidy : ∀ text ∈ texts, Tidy text)
    {values : List Value}
    (same : texts.length = values.length)
    (present : values ≠ [])
    (speaking : ∀ value ∈ values, value.isNull = false) :
    ReadsAs (joined texts) values ↔
      List.Forall₂ (fun piece value => ReadsAs piece [value]) (pieces texts) values := by
  match texts, values, same with
  | [], _, same => exact absurd (List.length_eq_zero_iff.1 same.symm) present
  | [text], [value], _ => simp [joined, pieces]
  | text :: next :: others, values, same =>
      rw [readsAs_joined_iff_means tidy same speaking,
        forall₂_readsAs_iff (unmarked_of_mem_pieces tidy) speaking]

end Yaml
end ManifestPolicy
