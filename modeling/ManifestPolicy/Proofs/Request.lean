import ManifestPolicy.Proofs.Base64.Canonical
import ManifestPolicy.Request
import Mathlib.Algebra.Order.Floor.Div

/-!
# Encoding manifests

A manifest becomes a request exactly when its text stays below the size limit: the length that
is computed beforehand is the length of the text. Manifests that are encoded together do not
bear on each other: the requests are those of the manifests that fit, and each of the others
leaves a notice.
-/

namespace ManifestPolicy
namespace Request

/-- Whether the text of a manifest stays below the size limit. -/
def fits (manifest : ByteArray) : Bool := Base64.encodedLength manifest.size < sizeLimit

/-- A manifest that fits is carried whole. -/
theorem ofManifest_of_fits
    {manifest : ByteArray}
    (isSmall : fits manifest = true)
    (resource : String) :
    ofManifest resource manifest =
      .ok ⟨resource, ⟨Content.yamlType, Base64.encode manifest⟩⟩ := by
  rw [fits, decide_eq_true_eq] at isSmall
  rw [ofManifest]
  exact if_neg (Nat.not_le.2 isSmall)

/-- A manifest that does not is refused with its size and the limit. -/
theorem ofManifest_of_not_fits
    {manifest : ByteArray}
    (isLarge : fits manifest = false)
    (resource : String) :
    ofManifest resource manifest =
      .error ⟨resource, Base64.encodedLength manifest.size, sizeLimit⟩ := by
  rw [fits, decide_eq_false_iff_not, Nat.not_lt] at isLarge
  rw [ofManifest]
  exact if_pos isLarge

theorem fits_of_ofManifest
    {resource : String}
    {manifest : ByteArray}
    {request : Request}
    (made : ofManifest resource manifest = .ok request) :
    fits manifest = true := by
  by_contra isLarge
  rw [Bool.not_eq_true] at isLarge
  rw [ofManifest_of_not_fits isLarge] at made
  contradiction

theorem not_fits_of_ofManifest
    {resource : String}
    {manifest : ByteArray}
    {error : PayloadTooLarge}
    (refused : ofManifest resource manifest = .error error) :
    fits manifest = false := by
  by_contra isSmall
  rw [Bool.not_eq_false] at isSmall
  rw [ofManifest_of_fits isSmall] at refused
  contradiction

/-- The requests are those of the manifests that fit, in order. -/
theorem ofManifests_fst (manifests : List (String × ByteArray)) :
    (ofManifests manifests).1 =
      (manifests.filter fun entry => fits entry.2).map fun entry =>
        ⟨entry.1, ⟨Content.yamlType, Base64.encode entry.2⟩⟩ := by
  induction manifests with
  | nil => rfl
  | cons entry rest requestsRest =>
      rw [ofManifests]
      cases isSmall : fits entry.2 with
      | true => simp [ofManifest_of_fits isSmall, isSmall, requestsRest]
      | false => simp [ofManifest_of_not_fits isSmall, isSmall, requestsRest]

/-- The notices are those of the manifests that are too large, in order. -/
theorem ofManifests_snd (manifests : List (String × ByteArray)) :
    (ofManifests manifests).2 =
      (manifests.filter fun entry => !fits entry.2).map fun entry =>
        .skippedManifest entry.1
          (PayloadTooLarge.message ⟨entry.1, Base64.encodedLength entry.2.size, sizeLimit⟩) := by
  induction manifests with
  | nil => rfl
  | cons entry rest noticesRest =>
      rw [ofManifests]
      cases isSmall : fits entry.2 with
      | true => simp [ofManifest_of_fits isSmall, isSmall, noticesRest]
      | false => simp [ofManifest_of_not_fits isSmall, isSmall, noticesRest]

/-- A manifest fits if and only if its encoding stays below 32 MiB. -/
theorem fits_eq (manifest : ByteArray) :
    fits manifest = decide ((Base64.encode manifest).utf8ByteSize < 33554432) := by
  rw [Base64.utf8ByteSize_encode]
  rfl

theorem ceilDiv_eq (count : Nat) : 4 * (count ⌈/⌉ 3) = Base64.encodedLength count := by
  rw [Nat.ceilDiv_eq_add_pred_div, Base64.encodedLength]
  congr 1

/-- A manifest is encoded exactly when its text is shorter than 32 MiB. The length of the text
is the one that is computed from the number of bytes, and the text consists of digits of the
alphabet with complete padding and is the only one that the manifest is decoded from; when it
is too long, the error tells its length. Of several manifests, those that fit become requests
in their order, each of the others leaves one warning, and it leaves the requests as they are
without it. -/
theorem encodes_below_limit
    (resource : String)
    (manifest : ByteArray)
    (manifests : List (String × ByteArray)) :
    let text := Base64.encode manifest
    text.utf8ByteSize = 4 * (manifest.size ⌈/⌉ 3)
      ∧ Base64.encodedLength manifest.size = text.utf8ByteSize
      ∧ ((∃ request, ofManifest resource manifest = .ok request) ↔
        text.utf8ByteSize < 33554432)
      ∧ (∀ request, ofManifest resource manifest = .ok request →
        request = ⟨resource, ⟨Content.yamlType, text⟩⟩
          ∧ (∃ digits padding, text.toList = digits ++ List.replicate padding '='
            ∧ (∀ character ∈ digits, character ∈ Base64.alphabet)
            ∧ padding < 3 ∧ 3 ∣ manifest.size + padding)
          ∧ ∀ other, Base64.decode? other = some manifest ↔ other = text)
      ∧ (∀ error, ofManifest resource manifest = .error error →
        error = ⟨resource, text.utf8ByteSize, 33554432⟩)
      ∧ (ofManifests manifests).1 =
        (manifests.filter fun entry => (Base64.encode entry.2).utf8ByteSize < 33554432).map
          (fun entry => ⟨entry.1, ⟨Content.yamlType, Base64.encode entry.2⟩⟩)
      ∧ (ofManifests manifests).2 =
        (manifests.filter fun entry => ¬ (Base64.encode entry.2).utf8ByteSize < 33554432).map
          (fun entry => .skippedManifest entry.1 (PayloadTooLarge.message
            ⟨entry.1, (Base64.encode entry.2).utf8ByteSize, 33554432⟩))
      ∧ (∀ notice ∈ (ofManifests manifests).2, notice.level = .warning)
      ∧ ∀ before after, ¬ text.utf8ByteSize < 33554432 →
        (ofManifests (before ++ (resource, manifest) :: after)).1 =
          (ofManifests (before ++ after)).1 := by
  intro text
  have isLength : text.utf8ByteSize = Base64.encodedLength manifest.size :=
    Base64.utf8ByteSize_encode manifest
  have isSmall : fits manifest = true ↔ text.utf8ByteSize < 33554432 := by
    rw [fits_eq, decide_eq_true_eq]
  have isLarge : fits manifest = false ↔ ¬ text.utf8ByteSize < 33554432 := by
    rw [fits_eq, decide_eq_false_iff_not]
  refine ⟨by rw [isLength, ceilDiv_eq], isLength.symm, ⟨?made, ?short⟩, ?request, ?error,
    ?requests, ?notices, ?warnings, ?others⟩
  case made =>
    rintro ⟨request, made⟩
    exact isSmall.1 (fits_of_ofManifest made)
  case short =>
    intro short
    exact ⟨_, ofManifest_of_fits (isSmall.2 short) resource⟩
  case request =>
    intro request made
    rw [ofManifest_of_fits (fits_of_ofManifest made)] at made
    obtain ⟨digits, isText, inAlphabet⟩ := Base64.exists_encode_eq manifest
    refine ⟨(Except.ok.inj made).symm, ⟨digits, _, isText, inAlphabet, ?_, ?_⟩, fun _ =>
      Base64.decode?_eq_some_iff⟩
    · exact Nat.mod_lt _ (by decide)
    · rw [Base64.padding]
      omega
  case error =>
    intro error refused
    rw [ofManifest_of_not_fits (not_fits_of_ofManifest refused)] at refused
    rw [← Except.error.inj refused, isLength]
    rfl
  case requests =>
    rw [ofManifests_fst]
    simp only [fits_eq]
  case notices =>
    rw [ofManifests_snd]
    simp only [fits_eq, Base64.utf8ByteSize_encode, decide_not]
    rfl
  case warnings =>
    rw [ofManifests_snd, List.forall_mem_map]
    exact fun _ _ => rfl
  case others =>
    intro before after long
    rw [ofManifests_fst, ofManifests_fst, List.filter_append, List.filter_append,
      List.filter_cons_of_neg (by simp [isLarge.2 long])]

/-! ## A manifest at the limit -/

/-- The smallest manifest whose text reaches the limit. -/
def largeManifest : ByteArray := ⟨Array.replicate 25165824 97⟩

theorem size_largeManifest : largeManifest.size = 25165824 := Array.size_replicate

theorem large_manifest_skipped :
    let small := "a: 1".toUTF8
    (Base64.encode largeManifest).utf8ByteSize = 33554432
      ∧ (∀ request, ofManifest "large" largeManifest ≠ .ok request)
      ∧ (∃ request, ofManifest "small" small = .ok request
        ∧ Base64.decode? request.content.data = some small)
      ∧ (ofManifests [("first", small), ("large", largeManifest), ("last", small)]).1 =
        (ofManifests [("first", small), ("last", small)]).1 := by
  intro small
  obtain ⟨_, computed, succeeds, _, _, _, _, _, others⟩ :=
    encodes_below_limit "large" largeManifest []
  have isLength : (Base64.encode largeManifest).utf8ByteSize = 33554432 := by
    rw [← computed, size_largeManifest]
    rfl
  have isLong : ¬ (Base64.encode largeManifest).utf8ByteSize < 33554432 := by
    rw [isLength]
    decide
  obtain ⟨isShort, _, accepts, contents, _⟩ := encodes_below_limit "small" small []
  obtain ⟨request, made⟩ := accepts.2 (by rw [isShort]; decide)
  obtain ⟨rfl, _, decodes⟩ := contents request made
  exact ⟨isLength, fun request made => isLong (succeeds.1 ⟨request, made⟩),
    ⟨_, made, (decodes _).2 rfl⟩, others [("first", small)] [("last", small)] isLong⟩

end Request
end ManifestPolicy
