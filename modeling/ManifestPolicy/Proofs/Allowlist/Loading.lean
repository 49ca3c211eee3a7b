import ManifestPolicy.Configuration
import ManifestPolicy.Proofs.FileTree.Walk
import ManifestPolicy.Proofs.Review
import ManifestPolicy.Proofs.Traversal

/-!
# Loading an allowlist

An allowlist is made of the violations that all files below a directory list, in the order of
the walk. If any entry of the walk is an error, or any file of the allowlist cannot be read or
decoded, then nothing of it is used: the allowlist that is loaded is the empty one, which
leaves every violation to be reported.
-/

namespace ManifestPolicy

namespace AllowlistFormat

/-- Whether an entry met on a walk is an error or a file of an allowlist. -/
def matters : Walked → Bool
  | .error _ => true
  | .ok file => (ofFile? file).isSome

end AllowlistFormat

namespace Allowlist

/-- What an entry met on a walk lists: a file of an allowlist what it is decoded as in its
format, and another file nothing. An error lists nothing that could be used. -/
inductive Lists : Walked → List Violation → Prop
  | accepted
      {file : WalkedFile}
      {format : AllowlistFormat}
      {violations : List Violation}
      (belongs : AllowlistFormat.ofFile? file = some format)
      (readable : file.fault = none)
      (decodes : format.decode file.data = .ok violations) :
      Lists (.ok file) violations
  | other
      {file : WalkedFile}
      (foreign : AllowlistFormat.ofFile? file = none) :
      Lists (.ok file) []

/-- An entry of the walk is read exactly as what it lists. -/
theorem readEntry_eq_ok_iff
    {root : FilePath}
    {entry : Walked}
    {violations : List Violation} :
    readEntry root entry = .ok violations ↔ Lists entry violations := by
  constructor
  · intro reads
    cases entry with
    | error error => contradiction
    | ok file =>
        cases belongs : AllowlistFormat.ofFile? file with
        | none =>
            simp only [readEntry, belongs] at reads
            obtain rfl := Except.ok.inj reads
            exact .other belongs
        | some format =>
            simp only [readEntry, belongs] at reads
            obtain ⟨data, isData, reads⟩ := bind_eq_ok reads
            obtain ⟨readable, rfl⟩ := WalkedFile.contents_eq_ok_iff.1 isData
            exact .accepted belongs readable (mapError_eq_ok_iff.1 reads)
  · intro lists
    cases lists with
    | accepted belongs readable decodes =>
        simp [readEntry, belongs, WalkedFile.contents_of_readable readable, decodes, bind,
          Except.bind, Except.mapError]
    | other foreign => simp only [readEntry, foreign]

/-- An allowlist is loaded from the lists of all entries of the walk, in order. -/
theorem tryLoad_eq_ok_iff
    {tree : FileTree}
    {root : FilePath}
    {allowlist : Allowlist} :
    tryLoad tree root = .ok allowlist ↔
      ∃ lists, List.Forall₂ Lists (tree.walk root) lists ∧ allowlist = ofList lists.flatten := by
  rw [tryLoad]
  constructor
  · intro loads
    obtain ⟨lists, reads, same⟩ := bind_eq_ok loads
    refine ⟨lists, ?_, (Except.ok.inj same).symm⟩
    exact (forall₂_of_mapM reads).imp fun _ _ => readEntry_eq_ok_iff.1
  · rintro ⟨lists, listed, rfl⟩
    rw [mapM_eq_ok_of_forall₂ (listed.imp fun _ _ => readEntry_eq_ok_iff.2)]
    rfl

/-- Every entry lists something exactly when no entry is an error and every file of the
allowlist can be read and decoded. -/
theorem exists_lists_iff
    (walked : List Walked) :
    (∃ lists, List.Forall₂ Lists walked lists) ↔
      (∀ error, .error error ∉ walked)
        ∧ ∀ file, .ok file ∈ walked → ∀ format, AllowlistFormat.ofFile? file = some format →
          file.fault = none ∧ ∃ violations, format.decode file.data = .ok violations := by
  constructor
  · rintro ⟨lists, listed⟩
    constructor
    · intro error met
      obtain ⟨violations, _, lists⟩ := exists_of_forall₂ listed met
      cases lists
    · intro file met format belongs
      obtain ⟨violations, _, lists⟩ := exists_of_forall₂ listed met
      cases lists with
      | accepted belongs' readable decodes =>
          obtain rfl := Option.some.inj (belongs.symm.trans belongs')
          exact ⟨readable, violations, decodes⟩
      | other foreign => exact absurd (foreign.symm.trans belongs) (by simp)
  · rintro ⟨clear, usable⟩
    refine exists_forall₂ ?_
    intro entry met
    cases entry with
    | error error => exact absurd met (clear error)
    | ok file =>
        cases belongs : AllowlistFormat.ofFile? file with
        | none => exact ⟨[], .other belongs⟩
        | some format =>
            obtain ⟨readable, violations, decodes⟩ := usable file met format belongs
            exact ⟨violations, .accepted belongs readable decodes⟩

/-- An allowlist is loaded if every entry of the walk lists something or nothing. -/
theorem exists_tryLoad_iff
    {tree : FileTree}
    {root : FilePath} :
    (∃ allowlist, tryLoad tree root = .ok allowlist) ↔
      ∃ lists, List.Forall₂ Lists (tree.walk root) lists := by
  simp only [tryLoad_eq_ok_iff]
  constructor
  · rintro ⟨_, lists, listed, _⟩
    exact ⟨lists, listed⟩
  · rintro ⟨lists, listed⟩
    exact ⟨ofList lists.flatten, lists, listed, rfl⟩

theorem load_of_tryLoad
    {tree : FileTree}
    {root : FilePath}
    {allowlist : Allowlist}
    (loads : tryLoad tree root = .ok allowlist) :
    (load tree root).1 = allowlist := by
  rw [load, loads]

/-- When an allowlist cannot be loaded, nothing that was read before the failure is kept. -/
theorem load_of_failure
    {tree : FileTree}
    {root : FilePath}
    (fails : ¬∃ allowlist, tryLoad tree root = .ok allowlist) :
    (load tree root).1 = empty := by
  rw [load]
  cases loads : tryLoad tree root with
  | ok allowlist => exact absurd ⟨allowlist, loads⟩ fails
  | error failure => rfl

/-- Without accepted violations all are reported. -/
theorem filter_empty (violations : List Violation) :
    empty.filter violations = violations :=
  rfl

/-- A file of no known format is passed over unread, be it readable or not. -/
theorem readEntry_of_not_matters
    (root : FilePath)
    (entry : Walked)
    (foreign : AllowlistFormat.matters entry = false) :
    readEntry root entry = .ok [] := by
  cases entry with
  | error error => contradiction
  | ok file =>
      exact readEntry_eq_ok_iff.2
        (.other (Option.isNone_iff_eq_none.1 (Option.isSome_eq_false_iff.1 foreign)))

theorem tryLoad_eq
    (tree : FileTree)
    (root : FilePath) :
    tryLoad tree root =
      (((tree.walk root).mapM (readEntry root)).map List.flatten).map ofList := by
  rw [tryLoad]
  cases (tree.walk root).mapM (readEntry root) <;> rfl

/-- Only errors and files of the allowlist have a say in what is loaded. -/
theorem tryLoad_eq_of_filter_matters
    {tree other : FileTree}
    {root : FilePath}
    (sameFiles : (tree.walk root).filter AllowlistFormat.matters =
      (other.walk root).filter AllowlistFormat.matters) :
    tryLoad tree root = tryLoad other root := by
  have others := flatten_mapM_filter (readEntry_of_not_matters root)
  rw [tryLoad_eq, tryLoad_eq, ← others, sameFiles, others]

/-- An allowlist is loaded completely or not at all. It is loaded exactly when no entry of
the walk is an error and every JSON and YAML file is readable and decodes, and then it
accepts what all of them list, in the order of the walk, and no directory was sealed.
Otherwise nothing is accepted and everything is reported. Other files have no say in it, and a configuration fails or loads
with an allowlist as it does without one. -/
theorem load_whole_or_empty
    (tree : FileTree)
    (root : FilePath) :
    (∀ allowlist, tryLoad tree root = .ok allowlist ↔
      ∃ lists, List.Forall₂ Lists (tree.walk root) lists ∧ allowlist = ofList lists.flatten)
    ∧ ((∃ allowlist, tryLoad tree root = .ok allowlist) ↔
      (∀ error, .error error ∉ tree.walk root)
        ∧ ∀ file, .ok file ∈ tree.walk root →
          ∀ format, AllowlistFormat.ofFile? file = some format →
            file.fault = none ∧ ∃ violations, format.decode file.data = .ok violations)
    ∧ (∀ allowlist, tryLoad tree root = .ok allowlist →
      (load tree root).1 = allowlist
        ∧ ¬ tree.SealedBelow root
        ∧ ∀ file, .ok file ∈ tree.walk root ↔ tree.Below root file)
    ∧ ((¬∃ allowlist, tryLoad tree root = .ok allowlist) →
      (load tree root).1 = empty
        ∧ ∀ violations, (load tree root).1.filter violations = violations)
    ∧ (∀ other : FileTree,
      (tree.walk root).filter AllowlistFormat.matters =
        (other.walk root).filter AllowlistFormat.matters →
      tryLoad tree root = tryLoad other root)
    ∧ ∀ focusComponents,
      (Configuration.load tree ⟨some root, focusComponents⟩).1 =
        (Configuration.load tree ⟨none, focusComponents⟩).1.map fun configuration =>
          { configuration with allowlist := (load tree root).1 } := by
  have loadable := exists_tryLoad_iff.trans (exists_lists_iff (tree.walk root))
  refine ⟨fun _ => tryLoad_eq_ok_iff, loadable, ?_, ?_, ?_, ?_⟩
  · intro allowlist loads
    have clear := (loadable.1 ⟨allowlist, loads⟩).1
    exact ⟨load_of_tryLoad loads, FileTree.not_sealedBelow_of_clear clear,
      fun file => FileTree.mem_walk_iff_below clear⟩
  · intro fails
    rw [load_of_failure fails]
    exact ⟨rfl, filter_empty⟩
  · exact fun other => tryLoad_eq_of_filter_matters
  · intro focusComponents
    simp only [Configuration.load, Configuration.loadAllowlist]
    cases Configuration.loadFocus tree focusComponents <;> rfl

end Allowlist
end ManifestPolicy
