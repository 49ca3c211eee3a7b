import ManifestPolicy.Proofs.Polling.Names
import ManifestPolicy.Proofs.Polling.Passes
import ManifestPolicy.Proofs.Review
import Mathlib.Data.Finset.Card
import Mathlib.Data.Finset.Dedup

/-!
# How many violations are new

A review counts every violation without a resource, and of the others one for each way of
telling them apart that is not accepted under the name of the pending entry. The name that
the service gave to a resource is replaced before anything looks at it, so it has no part in
the count, nor in what is dropped or accepted.
-/

namespace ManifestPolicy

/-- What tells violations of one pending entry apart: an identity without the name of the
resource. -/
structure Trait where
  policy : String
  group : String
  kind : String
  version : String
  message : String
  deriving DecidableEq, Repr

namespace Trait

/-- The key of a violation with a trait, under the name of a resource. -/
def key (resource : String) (trait : Trait) : ResourceKey :=
  ⟨trait.policy, trait.group, trait.kind, resource, trait.version⟩

/-- The identity of a violation with a trait, under the name of a resource. -/
def finding (resource : String) (trait : Trait) : Finding :=
  ⟨trait.key resource, trait.message⟩

theorem finding_injective (resource : String) : Function.Injective (finding resource) := by
  intro left right same
  cases left
  cases right
  simpa [finding, key, and_assoc] using same

end Trait

namespace Violation

/-- The trait of a violation that names a resource, whatever the name is. -/
def trait? (violation : Violation) : Option Trait :=
  violation.resource.map fun reference =>
    ⟨violation.policyName, reference.group, reference.kind, reference.version,
      violation.message⟩

/-- The number of violations in the response about an entry that are new: those without a
resource, and the different traits of the others that are not accepted for the entry. -/
def newCount (allowlist : Allowlist) (resource : String) (violations : List Violation) : Nat :=
  violations.countP (·.resource.isNone)
    + ((violations.filterMap trait?).toFinset.filter fun trait =>
        allowlist.entries.contains (trait.key resource) = false).card

theorem finding?_stampResource
    (resource : String)
    (violation : Violation) :
    (violation.stampResource resource).finding? =
      violation.trait?.map (Trait.finding resource) := by
  cases named : violation.resource <;>
    simp [finding?, key?, stampResource, trait?, Trait.finding, Trait.key, named]

theorem resource_stampResource_isNone
    (resource : String)
    (violation : Violation) :
    (violation.stampResource resource).resource.isNone = violation.resource.isNone := by
  cases named : violation.resource <;> simp [stampResource, named]

/-- The identities under which violations are filed are those that they have. -/
theorem mem_keys_byFinding_iff
    {violations : List Violation}
    {finding : Finding} :
    finding ∈ (byFinding violations).keys ↔ finding ∈ violations.filterMap finding? := by
  rw [SortedMap.mem_keys_iff, get?_byFinding, List.find?_isSome, List.mem_filterMap]
  simp only [beq_iff_eq]

/-- Under an identity there is a violation that has it. -/
theorem finding?_of_mem_entries
    {violations : List Violation}
    {entry : Finding × Violation}
    (present : entry ∈ (byFinding violations).entries) :
    entry.2.finding? = some entry.1 := by
  have found := SortedMap.mem_entries_iff.1 present
  rw [get?_byFinding] at found
  simpa using List.find?_some found

/-- Of the violations that are filed by their identities, as many pass a test on the
identity as there are different identities that pass it. -/
theorem length_filter_byFinding
    (violations : List Violation)
    {keep : Violation → Bool}
    {keepFinding : Finding → Bool}
    (byIdentity :
      ∀ violation finding, violation.finding? = some finding →
        keep violation = keepFinding finding) :
    ((byFinding violations).values.filter keep).length =
      ((violations.filterMap finding?).toFinset.filter (keepFinding · = true)).card := by
  have sameCount :
      ((byFinding violations).values.filter keep).length =
        ((byFinding violations).keys.filter keepFinding).length := by
    rw [SortedMap.values, SortedMap.keys, ← List.countP_eq_length_filter,
      ← List.countP_eq_length_filter, List.countP_map, List.countP_map]
    refine List.countP_congr ?_
    intro entry present
    simp only [Function.comp, byIdentity _ _ (finding?_of_mem_entries present)]
  have sameFindings :
      ((byFinding violations).keys.filter keepFinding).toFinset =
        (violations.filterMap finding?).toFinset.filter (keepFinding · = true) := by
    ext finding
    simp only [List.mem_toFinset, List.mem_filter, Finset.mem_filter, mem_keys_byFinding_iff]
  rw [sameCount, ← sameFindings, List.toFinset_card_of_nodup]
  exact (SortedMap.keys_nodup _).filter _

/-- What is left of violations without repeats and accepted ones, by count. -/
theorem length_filter_dedup
    (allowlist : Allowlist)
    (violations : List Violation) :
    (allowlist.filter (dedup violations)).length =
      violations.countP (·.resource.isNone)
        + ((violations.filterMap finding?).toFinset.filter fun finding =>
            (!allowlist.entries.contains finding.key) = true).card := by
  have keyless :
      ((violations.filter (·.resource.isNone)).filter fun violation =>
        !allowlist.contains violation) = violations.filter (·.resource.isNone) := by
    refine List.filter_eq_self.2 ?_
    intro violation present
    have named := (List.mem_filter.1 present).2
    simp [Allowlist.contains, key?_eq_none_iff.2 (Option.isNone_iff_eq_none.1 named)]
  rw [Allowlist.filter_eq, dedup, List.filter_append, List.length_append, keyless,
    List.countP_eq_length_filter]
  congr 1
  refine length_filter_byFinding violations ?_
  intro violation finding isFinding
  rw [Allowlist.contains, (finding?_eq_some_iff.1 isFinding).1]
  rfl

/-- A review of violations under the name of an entry reports as many as are new. -/
theorem length_filter_dedup_stampResource
    (allowlist : Allowlist)
    (resource : String)
    (violations : List Violation) :
    (allowlist.filter (dedup (violations.map (stampResource resource)))).length =
      newCount allowlist resource violations := by
  have keyless :
      (violations.map (stampResource resource)).countP (·.resource.isNone) =
        violations.countP (·.resource.isNone) := by
    rw [List.countP_map]
    exact List.countP_congr fun violation _ => by
      rw [Function.comp, resource_stampResource_isNone]
  have findings :
      ((violations.map (stampResource resource)).filterMap finding?).toFinset =
        (violations.filterMap trait?).toFinset.image (Trait.finding resource) := by
    have each : (violations.map (stampResource resource)).filterMap finding? =
        (violations.filterMap trait?).map (Trait.finding resource) := by
      rw [List.filterMap_map, List.map_filterMap]
      exact List.filterMap_congr fun violation _ => finding?_stampResource resource violation
    ext finding
    simp [each]
  rw [length_filter_dedup, keyless, findings, Finset.filter_image,
    Finset.card_image_of_injective _ (Trait.finding_injective resource), newCount]
  simp only [Bool.not_eq_true', Trait.finding]

end Violation

namespace Check

/-- The number of new violations that a check has found. -/
def newCount (allowlist : Allowlist) (check : Check) : Nat :=
  match check.finish with
  | .succeeded violations => Violation.newCount allowlist check.entry.resource violations
  | _ => 0

end Check

namespace Polling

/-- The reviews of a run report as many violations as its checks have found new ones. -/
theorem reportedCount_results
    (polling : Polling)
    (allowlist : Allowlist) :
    Review.reportedCount (({ allowlist } : Reviewer).reviewAll polling.results) =
      (polling.checks.map (Check.newCount allowlist)).sum := by
  rw [Review.reportedCount_eq_sum, Reviewer.reviewAll, results, List.map_map]
  induction polling.checks with
  | nil => rfl
  | cons check later countLater =>
      rw [List.map_cons, List.sum_cons, ← countLater, List.filterMap_cons]
      unfold Check.result? Check.newCount
      cases check.finish with
      | succeeded violations =>
          simp only [List.map_cons, List.sum_cons, Function.comp, Reviewer.review, List.map_id]
          rw [Violation.length_filter_dedup_stampResource]
      | unreachable failure => simp
      | pending => simp
      | failed error => simp

end Polling

namespace Poller

/-- The exact count of new violations of a run whose violations are reviewed as they are: the
sum of what its checks have found in the answers of the service, under the names of the
entries. The run passes its review when the sum is zero and fails with it otherwise. The names
that the service gives to resources change nothing about the reviews. -/
theorem verdict_counts_new
    (poller : Poller)
    (service : Service σ)
    (shutdown : Option Nat)
    (now : Nat)
    (pending : List Pending)
    (state : σ)
    (allowlist : Allowlist) :
    let run := poller.poll service shutdown now pending state
    let polling := run.1
    let count := (polling.checks.map (Check.newCount allowlist)).sum
    let reviews := ({ allowlist } : Reviewer).reviewAll polling.results
    service.fetchAll (polling.checks.map fun check => check.entry.operation) state =
        (polling.checks.map Check.reply, run.2)
      ∧ (∀ check ∈ polling.checks, check.entry ∈ pending)
      ∧ Review.reportedCount reviews = count
      ∧ Review.verdict reviews =
        (if count = 0 then .ok () else .error { outermost := .newViolations count })
      ∧ ∀ other : Service σ, service.SameButNames other →
        ({ allowlist } : Reviewer).reviewAll
            (poller.poll other shutdown now pending state).1.results = reviews := by
  intro run polling count reviews
  have counted : Review.reportedCount reviews = count := polling.reportedCount_results allowlist
  refine ⟨poller.poll_replies service shutdown now pending state, ?_, counted,
    by rw [Review.verdict, counted], ?_⟩
  · exact fun check checked =>
      (poller.pollFrom_rotation service shutdown _ now now pending state).entry_mem checked
  · intro other sameButNames
    rw [poll, ← results_pollFrom_of_sameButNames sameButNames]
    rfl

/-! ## A run with repeated violations

One operation finds the same violation in two pods, another one in a role, for which it is
accepted, and twice one that names no resource. -/

namespace RepeatedRun

def pending : List Pending := [⟨"operations/1", "web"⟩]

def poller : Poller := ⟨⟨250⟩, ⟨60000⟩, by decide⟩

def allowlist : Allowlist :=
  .ofList [{ policyName := "deny", resource := some { kind := "Role", name := "web" } }]

/-- A violation of a resource, which the service knows by a name of its own. -/
def found (kind name : String) : Json :=
  .object [("policyName", .text "deny"),
    ("resourceKey", .object [("kind", .text kind), ("name", .text name)])]

/-- How the operation ends when the service names the first pod and the role in one way. -/
def ended (name : String) : Operation where
  name := "operations/1"
  done := true
  response := some (.object [("violations", .array [found "Pod" name, found "Pod" "pod-1",
    found "Role" name, .object [], .object []])])

def service (name : String) : Service Unit where
  submit _ state := (⟨.ok { name := "" }, 0⟩, state)
  fetch _ state := (⟨.ok (ended name), 3⟩, state)

end RepeatedRun

theorem repeated_run_counts_new :
    let run (name : String) :=
      (RepeatedRun.poller.poll (RepeatedRun.service name) none 0 RepeatedRun.pending ()).1
    let reviewer : Reviewer := { allowlist := RepeatedRun.allowlist }
    (RepeatedRun.service "pod-0").SameButNames (RepeatedRun.service "web")
      ∧ Review.verdict (reviewer.reviewAll (run "pod-0").results) =
        .error { outermost := .newViolations 3 }
      ∧ reviewer.reviewAll (run "web").results = reviewer.reviewAll (run "pod-0").results := by
  intro run reviewer
  have nameless : (Check.finishOf (RepeatedRun.ended "pod-0")).withoutNames =
      (Check.finishOf (RepeatedRun.ended "web")).withoutNames := by
    decide +kernel
  have sameButNames : (RepeatedRun.service "pod-0").SameButNames (RepeatedRun.service "web") :=
    fun _ _ => ⟨⟨rfl, nameless⟩, rfl⟩
  obtain ⟨_, _, _, verdict, unnamed⟩ :=
    verdict_counts_new RepeatedRun.poller (RepeatedRun.service "pod-0") none 0
      RepeatedRun.pending () RepeatedRun.allowlist
  have three : ((run "pod-0").checks.map (Check.newCount RepeatedRun.allowlist)).sum = 3 := by
    decide +kernel
  rw [three] at verdict
  exact ⟨sameButNames, verdict, unnamed _ sameButNames⟩

end Poller
end ManifestPolicy
