import ManifestPolicy.Operation
import ManifestPolicy.Proofs.Violation
import ManifestPolicy.Request

/-!
# Records are read back as they are written

An operation that has been read is read back as it was. The only operations that are not are
those with a response of null, which comes back as no response; that makes no difference to
how far the operation has come or to its violations. Contents and violations are read back as
they were.
-/

namespace ManifestPolicy

namespace Status

/-- The code of an error fits into 32 bits. -/
def InRange (status : Status) : Prop :=
  -Int.pow 2 31 ≤ status.code ∧ status.code < Int.pow 2 31

/-- A code is read as it is if it has 32 bits. -/
theorem readCode_of_inRange
    {code : Int}
    (inRange : -Int.pow 2 31 ≤ code ∧ code < Int.pow 2 31)
    {draft : Draft}
    (shown : draft.value? = some (.integer code)) :
    draft.readCode = .ok code := by
  rw [Draft.eq_draft_of_value? shown (by simp) (by simp), Json.draft, Draft.readCode,
    if_pos inRange]

theorem inRange_of_readCode
    {draft : Draft}
    {code : Int}
    (reads : draft.readCode = .ok code) :
    -Int.pow 2 31 ≤ code ∧ code < Int.pow 2 31 := by
  cases draft with
  | integer value =>
      rw [Draft.readCode] at reads
      split at reads
      next inRange => rwa [← Except.ok.inj reads]
      next => contradiction
  | _ => contradiction

/-- An error that has been read has a code in range. -/
theorem inRange_of_read
    {draft : Draft}
    {status : Status}
    (reads : shape.read draft = .ok status) :
    status.InRange := by
  have atStart : shape.start.InRange := ⟨by decide, by decide⟩
  refine RecordShape.read_preserves InRange atStart ?_ reads
  simp only [shape, List.forall_mem_cons]
  refine ⟨?_, ?_, by simp⟩
  · intro draft change isChange record inRange
    obtain ⟨code, isCode, rfl⟩ := map_eq_ok isChange
    exact inRange_of_readCode isCode
  · intro draft change isChange record inRange
    obtain ⟨text, _, rfl⟩ := map_eq_ok isChange
    exact inRange

/-- An error with a code in range is read back as it was. -/
theorem read_toJson
    {status : Status}
    (inRange : status.InRange)
    {draft : Draft}
    (shown : draft.value? = some status.toJson) :
    shape.read draft = .ok status := by
  obtain ⟨drafted, ending, rfl, complete, shown⟩ := Draft.exists_of_value?_object shown
  have reads : RecordShape.readMembers shape.fields shape.start [] drafted =
      .ok (status, ["message", "code"]) := by
    refine shape.readMembers_of_shows shown (by decide) rfl
      (fun _ shown => readCode_of_inRange inRange shown) fun _ shown => ?_
    refine shape.readText_of_shows shown (by decide) rfl fun _ shown => ?_
    exact RecordShape.readMembers_of_shows_nil shown _ _
  exact RecordShape.read_object complete reads rfl

end Status

namespace Content

/-- A content is read back as it was. -/
theorem read_toJson
    {content : Content}
    {draft : Draft}
    (shown : draft.value? = some content.toJson) :
    shape.read draft = .ok content := by
  obtain ⟨drafted, ending, rfl, complete, shown⟩ := Draft.exists_of_value?_object shown
  have reads : RecordShape.readMembers shape.fields shape.start [] drafted =
      .ok (content, ["data", "contentType"]) := by
    refine shape.readText_of_shows shown (by decide) rfl fun _ shown => ?_
    refine shape.readText_of_shows shown (by decide) rfl fun _ shown => ?_
    exact RecordShape.readMembers_of_shows_nil shown _ _
  exact RecordShape.read_object complete reads rfl

end Content

namespace Operation

/-- An operation as it is kept: the code of its error has 32 bits, and its response is in
order, as values are when they have been read. -/
structure Plain (operation : Operation) : Prop where
  inRange : ∀ status, operation.error = some status → status.InRange
  ordered : ∀ response, operation.response = some response → response.Ordered

/-- The operation without a response of null. -/
def withoutNull (operation : Operation) : Operation :=
  { operation with response := operation.response.filter (· ≠ .null) }

theorem readJson_of_ordered
    {response : Json}
    (ordered : response.Ordered)
    {draft : Draft}
    (shown : draft.value? = some response) :
    draft.readJson = .ok response := by
  rw [Draft.readJson, Draft.toJson_of_value? shown, Json.sorted_of_ordered ordered]
  rfl

theorem readError_of_value?
    {status : Status}
    (inRange : status.InRange)
    {draft : Draft}
    (shown : draft.value? = some status.toJson) :
    draft.readOptional Status.shape.read = .ok (some status) := by
  have present : draft ≠ .null := by
    rintro rfl
    simp [Draft.value?, Status.toJson] at shown
  exact Draft.readOptional_of_present present (Status.read_toJson inRange shown)

/-- A response of null is read as no response. -/
theorem readResponse_of_value?
    {response : Json}
    (ordered : response.Ordered)
    {draft : Draft}
    (shown : draft.value? = some response) :
    draft.readOptional Draft.readJson = .ok ((some response).filter (· ≠ .null)) := by
  by_cases isNull : response = .null
  · subst isNull
    rw [Draft.eq_draft_of_value? shown (by simp) (by simp)]
    rfl
  · have present : draft ≠ .null := by
      rintro rfl
      exact isNull (Option.some.inj shown).symm
    rw [Draft.readOptional_of_present present (readJson_of_ordered ordered shown),
      Option.filter_some, if_pos (decide_eq_true isNull)]

theorem readBoolean_of_value?
    {value : Bool}
    {draft : Draft}
    (shown : draft.value? = some (.boolean value)) :
    draft.readBoolean = .ok value := by
  rw [Draft.eq_draft_of_value? shown (by simp) (by simp), Json.draft, Draft.readBoolean]

/-- The members that may be missing at the end are read if they are there. -/
theorem readMembers_of_shows_response
    {drafted : List (Except Flaw String × Draft)}
    {response : Option Json}
    (shown : List.Forall₂ Draft.ShowsMember drafted
      (response.toList.map fun response => ("response", response)))
    (ordered : ∀ value, response = some value → value.Ordered)
    {record : Operation}
    (noResponse : record.response = none)
    {seen : List String}
    (fresh : "response" ∉ seen) :
    RecordShape.readMembers shape.fields record seen drafted =
      .ok ({ record with response := response.filter (· ≠ .null) },
        (response.toList.map fun _ => "response") ++ seen) := by
  cases response with
  | none =>
      obtain ⟨name, done, error, response⟩ := record
      obtain rfl := noResponse
      exact RecordShape.readMembers_of_shows_nil shown _ _
  | some response =>
      refine shape.readMembers_of_shows shown fresh rfl
        (fun _ shown => readResponse_of_value? (ordered response rfl) shown) fun _ shown => ?_
      exact RecordShape.readMembers_of_shows_nil shown _ _

/-- A plain operation is read back as it was, but for a response of null. -/
theorem read_toJson
    {operation : Operation}
    (plain : operation.Plain)
    {draft : Draft}
    (shown : draft.value? = some operation.toJson) :
    shape.read draft = .ok operation.withoutNull := by
  obtain ⟨drafted, ending, rfl, complete, shown⟩ := Draft.exists_of_value?_object shown
  obtain ⟨name, done, error, response⟩ := operation
  have reads : RecordShape.readMembers shape.fields shape.start [] drafted =
      .ok (withoutNull ⟨name, done, error, response⟩,
        (response.toList.map fun _ => "response")
          ++ ((error.toList.map fun _ => "error") ++ ["done", "name"])) := by
    refine shape.readText_of_shows shown (by decide) rfl fun _ shown => ?_
    refine shape.readMembers_of_shows shown (by decide) rfl
      (fun _ shown => readBoolean_of_value? shown) fun _ shown => ?_
    cases error with
    | none => exact readMembers_of_shows_response shown plain.ordered rfl (by decide)
    | some status =>
        refine shape.readMembers_of_shows shown (by decide) rfl
          (fun _ shown => readError_of_value? (plain.inRange status rfl) shown) fun _ shown => ?_
        exact readMembers_of_shows_response shown plain.ordered rfl (by decide)
  refine RecordShape.read_object complete reads ?_
  cases error <;> cases response <;> rfl

/-- An operation that has been read is plain, and its response is not null. -/
theorem plain_of_read
    {draft : Draft}
    {operation : Operation}
    (reads : shape.read draft = .ok operation) :
    operation.Plain ∧ operation.response ≠ some .null := by
  refine RecordShape.read_preserves
    (fun operation => operation.Plain ∧ operation.response ≠ some .null)
    ⟨⟨by rintro _ ⟨⟩, by rintro _ ⟨⟩⟩, by simp [shape]⟩ ?_ reads
  simp only [shape, List.forall_mem_cons]
  refine ⟨?_, ?_, ?_, ?_, by simp⟩
  · rintro draft change isChange record ⟨plain, notNull⟩
    obtain ⟨name, _, rfl⟩ := map_eq_ok isChange
    exact ⟨⟨plain.inRange, plain.ordered⟩, notNull⟩
  · rintro draft change isChange record ⟨plain, notNull⟩
    obtain ⟨done, _, rfl⟩ := map_eq_ok isChange
    exact ⟨⟨plain.inRange, plain.ordered⟩, notNull⟩
  · rintro draft change isChange record ⟨plain, notNull⟩
    obtain ⟨error, isError, rfl⟩ := map_eq_ok isChange
    refine ⟨⟨?_, plain.ordered⟩, notNull⟩
    rintro status rfl
    rcases Draft.readOptional_eq_ok isError with ⟨_, isNone⟩ | ⟨_, _, isStatus, same⟩
    · contradiction
    · obtain rfl := Option.some.inj same
      exact Status.inRange_of_read isStatus
  · rintro draft change isChange record ⟨plain, _⟩
    obtain ⟨response, isResponse, rfl⟩ := map_eq_ok isChange
    rcases Draft.readOptional_eq_ok isResponse with ⟨_, rfl⟩ | ⟨present, value, isValue, rfl⟩
    · exact ⟨⟨plain.inRange, by rintro _ ⟨⟩⟩, by simp⟩
    · have isValue := mapError_eq_ok_iff.1 isValue
      refine ⟨⟨plain.inRange, ?_⟩, ?_⟩
      · rintro _ ⟨⟩
        exact Draft.ordered_of_toJson isValue
      · rintro ⟨⟩
        exact present (Draft.eq_null_of_toJson isValue)

/-- Only a response of null is lost. -/
theorem withoutNull_of_response_ne_null
    {operation : Operation}
    (notNull : operation.response ≠ some .null) :
    operation.withoutNull = operation := by
  obtain ⟨name, done, error, response⟩ := operation
  cases response with
  | none => rfl
  | some response =>
      have kept : (some response).filter (· ≠ .null) = some response := by
        simpa using fun isNull => notNull (congrArg some isNull)
      rw [withoutNull, kept]

theorem state_withoutNull (operation : Operation) :
    operation.withoutNull.state = operation.state :=
  rfl

/-- A response of null has no violations to lose. -/
theorem violations_withoutNull (operation : Operation) :
    operation.withoutNull.violations = operation.violations := by
  by_cases isNull : operation.response = some .null
  · obtain ⟨name, done, error, response⟩ := operation
    obtain rfl := isNull
    rfl
  · rw [withoutNull_of_response_ne_null isNull]

/-- The violations in a response are plain. -/
theorem plain_of_violations
    {operation : Operation}
    {violations : List Violation}
    (decodes : operation.violations = .ok violations) :
    ∀ violation ∈ violations, violation.Plain := by
  rw [Operation.violations] at decodes
  split at decodes
  · obtain rfl := Except.ok.inj decodes
    exact List.forall_mem_nil _
  · obtain rfl := Except.ok.inj decodes
    exact List.forall_mem_nil _
  · refine RecordShape.read_preserves (fun violations => ∀ violation ∈ violations, violation.Plain)
      (List.forall_mem_nil _) ?_ decodes
    refine List.forall_mem_singleton.2 ?_
    intro draft change isChange record _
    obtain ⟨violations, areViolations, rfl⟩ := map_eq_ok isChange
    exact Draft.forall_of_readList (fun _ _ => Violation.plain_of_read) areViolations

end Operation

/-- Reading and writing agree, for values in memory and for texts in which nothing is at fault.

A violation that was read from an object writes its policy and its message, its resource with
exactly its four parts if it was not null, and every other member as it was, with the members
of inner objects in order. A violation whose details have none of the three names is read
back as it was, and every violation that was read is one of these. An operation that was read
is read back as it was, and any other operation but for a response of null, which makes no
difference to what follows from it. Contents are read back as they were. -/
theorem records_read_back :
    (∀ value : Json, value.draft.value? = some value)
    ∧ (∀ (draft : Draft) members violation,
      draft.value? = some (.object members) → (members.map Prod.fst).Nodup →
      Violation.read draft = .ok violation →
      (violation.toMembers.map Prod.fst).Nodup
        ∧ violation.toJson.get? "policyName" =
          some (((Json.object members).get? "policyName").getD (.text ""))
        ∧ violation.toJson.get? "message" =
          some (((Json.object members).get? "message").getD (.text ""))
        ∧ violation.toJson.get? "resourceKey" =
          ((Json.object members).get? "resourceKey").bind Violation.writtenResource
        ∧ ∀ name ∉ Violation.named,
          violation.toJson.get? name = ((Json.object members).get? name).map Json.sorted)
    ∧ (∀ value : Json, value.Ordered → value.sorted = value)
    ∧ (∀ (draft : Draft) (violation : Violation),
      violation.Plain → draft.value? = some violation.toJson →
      Violation.read draft = .ok violation)
    ∧ (∀ draft violation, Violation.read draft = .ok violation → violation.Plain)
    ∧ (∀ (draft written : Draft) operation,
      Operation.shape.read draft = .ok operation → written.value? = some operation.toJson →
      Operation.shape.read written = .ok operation)
    ∧ (∀ operation : Operation, operation.Plain →
      (∀ draft : Draft, draft.value? = some operation.toJson →
        Operation.shape.read draft = .ok operation.withoutNull)
      ∧ operation.withoutNull.state = operation.state
      ∧ operation.withoutNull.violations = operation.violations)
    ∧ ∀ (draft : Draft) (content : Content), draft.value? = some content.toJson →
      Content.shape.read draft = .ok content := by
  refine ⟨Draft.value?_draft, ?_, ?_, ?_, ?_, ?_, ?_, ?_⟩
  · intro draft members violation shown distinct reads
    exact Violation.toJson_of_read shown distinct reads
  · exact fun value => Json.sorted_of_ordered
  · exact fun draft violation plain => Violation.read_toJson plain
  · exact fun draft violation => Violation.plain_of_read
  · intro draft written operation reads shown
    obtain ⟨plain, notNull⟩ := Operation.plain_of_read reads
    rw [Operation.read_toJson plain shown, Operation.withoutNull_of_response_ne_null notNull]
  · intro operation plain
    refine ⟨fun draft => Operation.read_toJson plain, ?_, ?_⟩
    · exact Operation.state_withoutNull operation
    · exact Operation.violations_withoutNull operation
  · exact fun draft content => Content.read_toJson

end ManifestPolicy
