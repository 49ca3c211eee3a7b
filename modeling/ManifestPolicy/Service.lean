import ManifestPolicy.Failure
import ManifestPolicy.Operation
import ManifestPolicy.Request

/-!
# The validation service

A service takes encoded manifests and answers with operations, and tells later
how far an operation has come. Each call may fail and takes some time. What a
service does may depend on the calls it has had before, which its state records.
-/

namespace ManifestPolicy

/-- What a call to a service comes to, and how many milliseconds it takes. -/
structure Reply where
  outcome : Except Failure Operation
  delay : Nat := 0

/-- A service with states of a given type. -/
structure Service (σ : Type) where
  submit : Content → σ → Reply × σ
  fetch : String → σ → Reply × σ

end ManifestPolicy
