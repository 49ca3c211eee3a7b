import ManifestPolicy.Notice
import ManifestPolicy.Service

/-!
# Submission

Requests are submitted in order, one at a time, up to the first that fails. The
record of what was sent determines everything else: the pending operations, the
failure and the notices.
-/

namespace ManifestPolicy

/-- A submitted operation and the resource whose manifest it validates. -/
structure Pending where
  operation : String
  resource : String
  deriving DecidableEq, Repr, Inhabited

/-- A request that was sent, and what came of it. -/
structure Delivery where
  request : Request
  reply : Reply

namespace Service

/-- Submit requests in order until one fails. -/
def deliver (service : Service σ) : List Request → σ → List Delivery × σ
  | [], state => ([], state)
  | request :: rest, state =>
      let (reply, state) := service.submit request.content state
      match reply.outcome with
      | .error _ => ([⟨request, reply⟩], state)
      | .ok _ =>
          let (later, state) := deliver service rest state
          (⟨request, reply⟩ :: later, state)

end Service

namespace Delivery

/-- The pending operations of what was sent, or the failure that ended it. -/
def pending : List Delivery → Except Failure (List Pending)
  | [] => .ok []
  | delivery :: rest => do
      let operation ← delivery.reply.outcome.mapError
        (·.within ("failed to submit " ++ delivery.request.resource))
      let later ← pending rest
      return ⟨operation.name, delivery.request.resource⟩ :: later

/-- The notice of a request that was accepted. -/
def notice? (delivery : Delivery) : Option Notice :=
  match delivery.reply.outcome with
  | .ok operation => some (.submitted delivery.request.resource operation.name)
  | .error _ => none

/-- The notices of what was sent. -/
def notices (deliveries : List Delivery) : List Notice := deliveries.filterMap notice?

/-- How long it took to send. -/
def duration (deliveries : List Delivery) : Nat :=
  deliveries.foldr (fun delivery total => delivery.reply.delay + total) 0

end Delivery

end ManifestPolicy
