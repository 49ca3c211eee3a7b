import ManifestPolicy.Configuration
import ManifestPolicy.ManifestDirectory
import ManifestPolicy.Proofs.FileTree
import ManifestPolicy.Proofs.Polling.Accounts
import ManifestPolicy.Proofs.Review
import ManifestPolicy.Proofs.Submission
import ManifestPolicy.Proofs.Validation.Verdict

/-!
# What a passing run has established

A run whose policy counts every operation without a result passes only when each
request was taken, each operation was fetched until it succeeded, and each violation
found is accepted under the name of its request.
-/

namespace ManifestPolicy

namespace Allowlist

/-- A violation of a resource is accepted: it names one, and its key under the name of
the resource is in the allowlist. -/
def Accepts (allowlist : Allowlist) (resource : String) (violation : Violation) : Prop :=
  ∃ reference, violation.resource = some reference
    ∧ allowlist.entries.contains ⟨violation.policyName, reference.group, reference.kind,
      resource, reference.version⟩ = true

/-- To accept a finding of a resource is to contain it under that name. -/
theorem accepts_iff
    {allowlist : Allowlist}
    {resource : String}
    {violation : Violation} :
    allowlist.Accepts resource violation
      ↔ allowlist.contains (violation.stampResource resource) = true := by
  unfold Accepts
  rw [contains_iff]
  cases named : violation.resource <;> simp [Violation.stampResource, named]

/-- An empty allowlist accepts nothing. -/
theorem not_accepts_empty
    (resource : String)
    (violation : Violation) :
    ¬empty.Accepts resource violation := by
  rintro ⟨reference, _, accepted⟩
  contradiction

end Allowlist

namespace Configuration

/-- Nothing was given as the allowlist, or what was given cannot be loaded. -/
def LacksAllowlist (tree : FileTree) (path : Option FilePath) : Prop :=
  ∀ directory ∈ path, ∃ failure, Allowlist.tryLoad tree directory = .error failure

/-- The allowlist of a configuration is the one of its directory alone. -/
theorem allowlist_of_load
    {tree : FileTree}
    {paths : ConfigurationPaths}
    {configuration : Configuration}
    (loaded : (load tree paths).1 = .ok configuration) :
    configuration.allowlist = (loadAllowlist tree paths.allowlistDirectory).1 := by
  unfold load at loaded
  cases focus : loadFocus tree paths.focusComponents with
  | error failure => simp [focus] at loaded
  | ok found =>
      simp only [focus, Except.ok.injEq] at loaded
      rw [← loaded]

/-- Where there is no allowlist to load, an empty one stands in for it. -/
theorem loadAllowlist_of_lacking
    {tree : FileTree}
    {path : Option FilePath}
    (lacking : LacksAllowlist tree path) :
    (loadAllowlist tree path).1 = .empty := by
  cases path with
  | none => rfl
  | some directory =>
      obtain ⟨failure, failed⟩ := lacking directory rfl
      simp [loadAllowlist, Allowlist.load, failed]

end Configuration

namespace Polling

/-- When a review reports nothing, all that was found is accepted. -/
theorem accepts_of_reported
    {polling : Polling}
    {allowlist : Allowlist}
    (nothingReported :
      Review.reportedCount
        (({ allowlist } : Reviewer).reviewAll polling.results) = 0)
    {check : Check}
    (checked : check ∈ polling.checks)
    {violations : List Violation}
    (succeeds : check.reply.Succeeds violations) :
    ∀ violation ∈ violations, allowlist.Accepts check.entry.resource violation := by
  intro violation present
  have reviewed := Reviewer.reportedCount_reviewAll_eq_zero_iff.1 nothingReported
  have isResult := List.mem_filterMap.2 ⟨check, checked, Check.result?_of_succeeds succeeds⟩
  exact Allowlist.accepts_iff.2 (reviewed _ isResult _ (List.mem_map_of_mem present))

/-- When nothing is failed or unresolved, the last fetch for each entry succeeded; when a
review reports nothing, what it found is accepted. -/
theorem accepted_of_complete
    {polling : Polling}
    {pending : List Pending}
    (accounts : polling.Accounts pending)
    (noneFailed : polling.failed = [])
    (noneUnresolved : polling.unresolved = [])
    {allowlist : Allowlist}
    (nothingReported :
      Review.reportedCount
        (({ allowlist } : Reviewer).reviewAll polling.results) = 0)
    {place : Nat}
    {entry : Pending}
    (atPlace : pending[place]? = some entry) :
    ∃ check ∈ (polling.history pending place).getLast?,
      check.entry = entry
        ∧ ∃ violations, check.reply.Succeeds violations
          ∧ ∀ violation ∈ violations, allowlist.Accepts entry.resource violation := by
  have inside := (List.getElem?_eq_some_iff.1 atPlace).1
  obtain ⟨check, last, violations, succeeds⟩ :=
    succeeded_of_complete accounts noneFailed noneUnresolved inside
  obtain ⟨checked, ofEntry⟩ := mem_checks_of_history accounts (List.mem_of_getLast? last)
  obtain rfl : check.entry = entry := by
    rw [atPlace] at ofEntry
    exact (Option.some.inj ofEntry).symm
  exact ⟨check, last, rfl, violations, succeeds,
    accepts_of_reported nothingReported checked succeeds⟩

end Polling

namespace Validation

/-- The record of a run in which a service took and validated every request, and all that
was found is accepted. The service goes from one state to another in the run, and `pending` are
the operations of the requests. -/
structure Cleared
    (run : Validation)
    (service : Service σ)
    (state final : σ)
    (requests : List Request)
    (pending : List Pending)
    (polling : Polling)
    (allowlist : Allowlist) : Prop where
  /-- Every request was submitted once, in order, and nothing else was. -/
  submitted : run.deliveries.map Delivery.request = requests
  /-- What came of the requests is what the service answered to their contents. -/
  answered :
    service.answers (requests.map Request.content) state =
      run.deliveries.map fun delivery => delivery.reply.outcome
  accepted : ∀ delivery ∈ run.deliveries, delivery.Accepted
  pending_eq : pending.map some = run.deliveries.map Delivery.entry?
  polled : run.polling = some polling
  calls_eq :
    run.calls = (requests.map fun request => .submit request.content)
      ++ polling.checks.map fun check => .fetch check.entry.operation
  /-- The replies of the checks are what the service answered to their fetches, after it had
  taken the requests. -/
  replied :
    service.fetchAll (polling.checks.map fun check => check.entry.operation)
        (service.stateAfter (requests.map Request.content) state) =
      (polling.checks.map Check.reply, final)
  accounts : polling.Accounts pending
  /-- The last fetch for a request told of an operation that is done without an error,
  and of violations that are all accepted. -/
  validated :
    ∀ place, ∀ request ∈ requests[place]?,
      ∃ check ∈ (polling.history pending place).getLast?,
        pending[place]? = some check.entry ∧ check.entry.resource = request.resource
          ∧ ∃ violations, check.reply.Succeeds violations
            ∧ ∀ violation ∈ violations, allowlist.Accepts request.resource violation
  found_accepted :
    ∀ check ∈ polling.checks, ∀ violations, check.reply.Succeeds violations →
      ∀ violation ∈ violations, allowlist.Accepts check.entry.resource violation

end Validation

namespace Validator

variable {σ : Type}

/-- A run that passes was prepared, submitted, polled to an end, and judged without a
count against it. -/
theorem polled_of_passes
    {validator : Validator}
    {service : Service σ}
    {shutdown : Option Nat}
    {preparation : Preparation}
    {state : σ}
    (passes :
      (validator.validate service shutdown preparation state).1.verdict = .ok ()) :
    ∃ requests pending polling,
      preparation.outcome = .ok requests
        ∧ Delivery.pending (service.deliver requests state).1 = .ok pending
        ∧ polling = (validator.poller.poll service shutdown
          (Delivery.duration (service.deliver requests state).1) pending
          (service.deliver requests state).2).1
        ∧ (validator.validate service shutdown preparation state).1.polling = some polling
        ∧ Review.reportedCount (validator.reviewer.reviewAll polling.results) = 0
        ∧ Validation.countedFailures validator.policy polling = []
        ∧ Validation.countedUnresolved validator.policy polling = [] := by
  cases prepared : preparation.outcome with
  | error failure =>
      rw [validate_of_unprepared prepared] at passes
      contradiction
  | ok requests =>
      cases submitted : Delivery.pending (service.deliver requests state).1 with
      | error failure =>
          rw [(validate_of_refused prepared validator service shutdown state submitted).1]
            at passes
          contradiction
      | ok pending =>
          obtain ⟨polled, _, calledOff, judged⟩ :=
            validate_of_submitted prepared validator service shutdown state submitted
          refine ⟨requests, pending, _, rfl, submitted, rfl, polled, ?_⟩
          rw [Review.reportedCount_eq_sum]
          refine (judged ?_).passes_iff.1 passes
          intro cancelled
          obtain ⟨failure, verdict, _⟩ := (calledOff cancelled).verdict
          rw [passes] at verdict
          contradiction

/-- A passing run clears its requests when its policy counts all operations without
results and violations are reviewed as they are. -/
theorem cleared_of_passes
    {validator : Validator}
    {allowlist : Allowlist}
    (accepting : validator.reviewer = { allowlist })
    (strict : validator.policy = ⟨true, true⟩)
    {service : Service σ}
    {shutdown : Option Nat}
    {preparation : Preparation}
    {state : σ}
    (passes :
      (validator.validate service shutdown preparation state).1.verdict = .ok ()) :
    ∃ requests pending polling,
      preparation.outcome = .ok requests
        ∧ (validator.validate service shutdown preparation state).1.Cleared service state
          (validator.validate service shutdown preparation state).2 requests pending polling
          allowlist := by
  obtain ⟨requests, pending, polling, prepared, submitted, isPolling, polled, nothingReported,
    noneCounted, noneLeft⟩ := polled_of_passes passes
  have sent := validate_deliveries prepared validator service shutdown state
  have accepted := Delivery.accepted_of_pending submitted
  have accounts : polling.Accounts pending := by
    rw [isPolling]
    exact validator.poller.accounts_of_poll service shutdown _ pending _
  have contents := Service.map_deliver_of_accepted accepted Request.content
  have answered := (service.deliver_answers requests state).1
  have replied := replies_of_validate prepared validator service shutdown state submitted
  rw [contents] at answered replied
  rw [accepting] at nothingReported
  rw [strict] at noneCounted noneLeft
  have noneFailed : polling.failed = [] := List.map_eq_nil_iff.1 noneCounted
  have noneUnresolved : polling.unresolved = [] := noneLeft
  have resources : pending.map Pending.resource = requests.map Request.resource := by
    rw [Delivery.resource_of_pending submitted]
    exact Service.map_deliver_of_accepted accepted Request.resource
  refine ⟨requests, pending, polling, prepared,
    { submitted := by rw [sent, (service.deliver_requests requests state).2 accepted]
      answered := by rw [answered, sent]
      accepted := by rwa [sent]
      pending_eq := by rw [sent, Delivery.entries_of_pending submitted]
      polled := polled
      calls_eq := ?_
      replied := by rwa [isPolling]
      accounts := accounts
      validated := ?_
      found_accepted := fun check checked violations succeeds =>
        Polling.accepts_of_reported nothingReported checked succeeds }⟩
  · rw [Validation.calls, sent, polled, ← Service.map_deliver_of_accepted accepted]
    rfl
  · intro place request found
    have located := congrArg (·[place]?) resources
    simp only [List.getElem?_map, Option.mem_def.1 found, Option.map_some,
      Option.map_eq_some_iff] at located
    obtain ⟨entry, atPlace, sameResource⟩ := located
    obtain ⟨check, last, rfl, violations, succeeds, accepts⟩ :=
      Polling.accepted_of_complete accounts noneFailed noneUnresolved nothingReported atPlace
    refine ⟨check, last, atPlace, sameResource, violations, succeeds, ?_⟩
    rwa [← sameResource]

/-- A passing run of the manifests in a directory, with the allowlist that was loaded and
a policy that counts every operation without a result, has cleared all requests. The
service saw exactly the calls on record, and the answers on record are those that it gave to
them. Without a usable allowlist no operation has
shown any violation. -/
theorem passing_run_cleared
    {settings : FileTree}
    {paths : ConfigurationPaths}
    {configuration : Configuration}
    (loaded : (Configuration.load settings paths).1 = .ok configuration)
    {validator : Validator}
    (accepting : validator.reviewer = { allowlist := configuration.allowlist })
    (strict : validator.policy = ⟨true, true⟩)
    (tree : FileTree)
    (root : FilePath)
    (service : Service σ)
    (shutdown : Option Nat)
    (state : σ) :
    let preparation := (⟨root, configuration.focus⟩ : ManifestDirectory).prepare tree
    let validated := validator.validate service shutdown preparation state
    let run := validated.1
    run.verdict = .ok () →
      ∃ requests pending polling,
        preparation.outcome = .ok requests
          ∧ run.Cleared service state validated.2 requests pending polling
            configuration.allowlist
          ∧ (validator.validate service.recording shutdown preparation (state, [])).2.2 =
            run.calls
          ∧ (Configuration.LacksAllowlist settings paths.allowlistDirectory →
            ∀ check ∈ polling.checks, ∀ violations, check.reply.Succeeds violations →
              violations = []) := by
  intro preparation validated run passes
  obtain ⟨requests, pending, polling, prepared, cleared⟩ :=
    cleared_of_passes accepting strict passes
  refine ⟨requests, pending, polling, prepared, cleared, ?_, ?_⟩
  · rw [validate_recording, List.nil_append]
  · intro lacking check checked violations succeeds
    rw [List.eq_nil_iff_forall_not_mem]
    intro violation present
    have accepted := cleared.found_accepted check checked violations succeeds violation present
    rw [Configuration.allowlist_of_load loaded,
      Configuration.loadAllowlist_of_lacking lacking] at accepted
    exact Allowlist.not_accepts_empty _ _ accepted

/-! ## One passing run

A manifest whose operation is pending when it is first fetched, and then shows a
violation that is on the list of accepted ones under the name of the manifest. -/

namespace PodRun

/-- The file of accepted violations. -/
def settings : FileTree where
  entries := [(Utf8.encode "known.yaml",
    .file "- policyName: deny\n  resourceKey:\n    name: pod.yaml\n".toUTF8)]

def paths : ConfigurationPaths where
  allowlistDirectory := some [0x2E]

def configuration : Configuration where
  allowlist := .ofList [{ policyName := "deny", resource := some { name := "pod.yaml" } }]

/-- The file of manifests. -/
def tree : FileTree where
  entries := [(Utf8.encode "pod.yaml", .file "kind: Pod\n".toUTF8)]

def directory : ManifestDirectory := ⟨[0x2E], configuration.focus⟩

/-- What the service finds, under a name of its own for the resource. -/
def response : Json :=
  .object [("violations", .array [.object [
    ("policyName", .text "deny"), ("resourceKey", .object [("name", .text "object")])]])]

/-- A service that is done at the second fetch. -/
def service : Service Nat where
  submit _ fetches := (⟨.ok { name := "operations/1" }, 3⟩, fetches)
  fetch name fetches :=
    (⟨.ok { name, done := fetches != 0, response := some response }, 4⟩, fetches + 1)

def validator : Validator where
  poller := ⟨⟨1000⟩, ⟨60000⟩, by decide⟩
  reviewer := { allowlist := configuration.allowlist }
  policy := ⟨true, true⟩

theorem configuration_loaded :
    (Configuration.load settings paths).1 = .ok configuration := by
  have read :
      Allowlist.readEntry [0x2E]
        (.ok {
          path := FilePath.join [0x2E] (Utf8.encode "known.yaml")
          names := [Utf8.encode "known.yaml"]
          data := "- policyName: deny\n  resourceKey:\n    name: pod.yaml\n".toUTF8 }) =
        .ok [{ policyName := "deny", resource := some { name := "pod.yaml" } }] := by
    decide +kernel
  simp only [Configuration.load, Configuration.loadAllowlist, paths, Allowlist.load,
    Allowlist.tryLoad, settings, FileTree.walk_dot_file, List.mapM_cons, read]
  rfl

/-- The run passes after two fetches. -/
theorem passes :
    let validated := validator.validate service none (directory.prepare tree) 0
    validated.1.verdict = .ok () ∧ validated.2 = 2 := by
  have documents : directory.documents tree = .ok [("pod.yaml", "kind: Pod")] := by
    rw [ManifestDirectory.documents, tree, directory, FileTree.walk_dot_file]
    decide +kernel
  simp only [ManifestDirectory.prepare, documents]
  decide +kernel

end PodRun

theorem pod_run_cleared :
    (Configuration.load PodRun.settings PodRun.paths).1 = .ok PodRun.configuration
      ∧ ∃ requests pending polling,
        (PodRun.directory.prepare PodRun.tree).outcome = .ok requests
          ∧ (PodRun.validator.validate PodRun.service none
            (PodRun.directory.prepare PodRun.tree) 0).1.Cleared PodRun.service 0 2 requests
              pending polling PodRun.configuration.allowlist := by
  obtain ⟨requests, pending, polling, prepared, cleared, _⟩ :=
    passing_run_cleared PodRun.configuration_loaded rfl rfl PodRun.tree [0x2E] PodRun.service
      none 0 PodRun.passes.1
  rw [← PodRun.passes.2]
  exact ⟨PodRun.configuration_loaded, requests, pending, polling, prepared, cleared⟩

end Validator
end ManifestPolicy
