import ManifestPolicy.Allowlist.Directory
import ManifestPolicy.Focus

/-!
# Configuration

What a run is told beforehand: which violations are accepted and which resources
matter. An allowlist that cannot be loaded accepts nothing, so that everything is
reported; focus components that cannot be loaded stop the run.
-/

namespace ManifestPolicy

/-- Where the configuration is kept. -/
structure ConfigurationPaths where
  allowlistDirectory : Option FilePath := none
  focusComponents : Option FilePath := none
  deriving DecidableEq, Repr, Inhabited

/-- What is loaded once, before a run. -/
structure Configuration where
  allowlist : Allowlist := .empty
  focus : Focus := .empty

namespace Configuration

/-- Load the allowlist, if there is one. -/
def loadAllowlist (tree : FileTree) (path : Option FilePath) : Allowlist × List Notice :=
  match path with
  | some path => Allowlist.load tree path
  | none => (.empty, [.noAllowlist])

/-- Load the focus components, if there are any. -/
def loadFocus
    (tree : FileTree)
    (path : Option FilePath) : Except Failure (Focus × List Notice) :=
  match path with
  | some path => Focus.load tree path
  | none => .ok (.empty, [.noFocusComponents])

/-- Load the configuration, and what is told about it. -/
def load
    (tree : FileTree)
    (paths : ConfigurationPaths) : Except Failure Configuration × List Notice :=
  let (allowlist, told) := loadAllowlist tree paths.allowlistDirectory
  match loadFocus tree paths.focusComponents with
  | .ok (focus, notices) => (.ok { allowlist, focus }, told ++ notices)
  | .error failure => (.error failure, told)

end Configuration

end ManifestPolicy
