import ManifestPolicy.Violation

/-!
# Accepted violations and what they leave

An allowlist holds violations that were accepted earlier, under the keys of
their resources; a violation is accepted when its key is there, whatever its
message. Violations without a resource are never accepted.
-/

namespace ManifestPolicy

/-- Accepted violations by key. -/
structure Allowlist where
  entries : SortedMap ResourceKey (List Violation)
  deriving DecidableEq, Inhabited

namespace Allowlist

/-- The allowlist that accepts nothing. -/
def empty : Allowlist := ⟨.empty⟩

/-- Accept one more violation, if it names a resource. -/
def add (allowlist : Allowlist) (violation : Violation) : Allowlist :=
  match violation.key? with
  | some key => ⟨allowlist.entries.push key violation⟩
  | none => allowlist

/-- The allowlist of a list of violations. -/
def ofList (violations : List Violation) : Allowlist := violations.foldl add empty

/-- The violations accepted under a key, in the order in which they were given. -/
def get (allowlist : Allowlist) (key : ResourceKey) : List Violation :=
  (allowlist.entries.get? key).getD []

/-- Whether a violation is accepted. -/
def contains (allowlist : Allowlist) (violation : Violation) : Bool :=
  violation.key?.any allowlist.entries.contains

/-- Whether nothing is accepted. -/
def isEmpty (allowlist : Allowlist) : Bool := allowlist.entries.isEmpty

/-- The number of keys. -/
def size (allowlist : Allowlist) : Nat := allowlist.entries.size

/-- The violations that are not accepted. -/
def filter (allowlist : Allowlist) (violations : List Violation) : List Violation :=
  if allowlist.isEmpty then violations
  else violations.filter fun violation => !allowlist.contains violation

end Allowlist

end ManifestPolicy
