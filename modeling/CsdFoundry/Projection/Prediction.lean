import CsdFoundry.Projection.Alone

/-! The plan of an adapter predicts the commit: the root that it reports is the root of the committed
heads with the events of the plan, as D5 derives it and as the appends leave it. -/
namespace CsdFoundry.Projection
open Registry Storage RegistryStore Prog Generation
open Temporal (isToken ClockClaim)

variable {D : Type} [LinearOrder D] [DigestText D] [Sha256 D] {s t : RegistryStore D}
  {type : RegistryType} {event : RegistryEvent D} {items : List (RegistryEvent D)} {heads : List (RegistryEntityHead D)} {store : CommittedStore D}

/-! ### Impact receipts only read -/

theorem still_affectedIds (dependencyIds : State D type → List String) (entityId : String) :
    (affectedIds type dependencyIds entityId).Still :=
  .bind (.bind still_reconstructSnapshot fun _ => .bind (.done _) fun _ => .done _) fun _ => .done _

theorem still_evidenceImpact (impactResolver : ImpactResolver D .evidenceUnit)
    (previous current : Evidence.EvidenceUnit D) (event : RegistryEvent D) :
    (evidenceImpact impactResolver previous current event).Still :=
  .bind (.atomically rfl) fun _ => .bind (.bind (still_affectedIds _ _) fun _ => .done _) fun _ =>
    .bind still_snapshot fun _ => .bind (.done _) fun _ => .done _

theorem still_assumptionImpact (impactResolver : ImpactResolver D .assumption)
    (previous current : Assumptions.Assumption D) (event : RegistryEvent D) :
    (assumptionImpact impactResolver previous current event).Still :=
  .bind (.atomically rfl) fun _ => .bind (.bind (still_affectedIds _ _) fun _ => .done _) fun _ =>
    .bind still_snapshot fun _ => .bind (.done _) fun _ => .done _

theorem still_alternativeModelImpact (impactResolver : ImpactResolver D .alternativeModel)
    (previous current : AlternativeModels.AlternativeModel D) (event : RegistryEvent D) :
    (alternativeModelImpact impactResolver previous current event).Still :=
  .bind (.atomically rfl) fun _ => .bind still_snapshot fun _ => .bind (.done _) fun _ => .done _

/-! ### The prediction -/

/-- The root is the one that D5 derives from the heads and the events, and the one that any store
with these heads has after it has appended the events. -/
structure Predicts (type : RegistryType) (heads : List (RegistryEntityHead D))
    (events : List (RegistryEvent D)) (root : D) : Prop where
  derived : snapshotRoot type (projectedHeads heads events type) = root
  appends : ∀ t : RegistryStore D, t.Valid → Shows type heads t → ∃ u snap,
    (appendAll events).exec t = (.ok (), u) ∧ (snapshot type).exec u = (.ok snap, u) ∧
      snap.rootDigest = root

/-- What is applied to the clone of what is shown can be appended wherever the heads are the same. -/
theorem predicts_of_applied {events : List (RegistryEvent D)} {clone : RegistryStore D}
    (valid : clone.Valid) (shows_ : Shows type heads clone) (applied : AllApplied type events clone) :
    Predicts type heads events (snapshotRoot type ((appended events clone).typeHeads type)) := by
  have after : (appended events clone).Valid := applied.fit.valid valid
  constructor
  · rw [projectedHeads_eq shows_ after applied.typed]
  · intro t valid' shows'
    have alike : Alike type clone t := fun entityId =>
      (shows_ entityId).symm.trans (shows' entityId)
    obtain ⟨fit, same⟩ := alike.fit applied.typed applied.fit
    have after' : (appended events t).Valid := fit.valid valid'
    have accepted := exec_appendAll valid' fit fun event member => (applied.checked event member).2
    obtain ⟨snap, taken, -, root⟩ : ∃ snap : RegistrySnapshot D,
      (snapshot type).exec _ = _ ∧ _ := exec_snapshot after'
    refine ⟨_, snap, accepted, taken, root.trans ?_⟩
    rw [after.typeHeads_congr after' same]

section Staged
variable {Decision Impact Bindings : Type} {staging : Staging D type Decision Impact}

theorem projectStaged_predicts
    {resolve : RegistryStore D → Except RegistryError (List (RegistryEvent D))}
    {verify : D → List (RegistryEvent D) → Except RegistryError Bindings}
    {request : ProjectionRequest D} {plan : ProjectionPlan D Impact}
    {staged : Staged D type Decision Impact Bindings}
    (reads : ∀ previous current event, (staging.impact previous current event).Still)
    (valid : s.Valid) (committed : Committed type s store heads)
    (ran : (projectStaged staging resolve verify request store).exec s = (.ok (plan, staged), t)) :
    plan.predecessorRootDigest = snapshotRoot type heads ∧
      Predicts type heads plan.events plan.projectedRootDigest := by
  obtain ⟨histories, shown, rfl, stages⟩ := projectStaged_ok reads valid committed ran
  have applied := AllApplied.append.mpr ⟨stages.explicit, stages.expiry⟩
  refine ⟨rfl, ?_⟩
  change Predicts type heads _ staged.projectedRoot
  rw [stages.root]
  exact predicts_of_applied (cloned_valid valid shown) (cloned_shows valid shown) applied

end Staged

/-- An adapter reads the committed store, and its plan predicts the commit. -/
def PlansPredict {Impact Plan : Type} (type : RegistryType)
    (project : CommittedStore D → RegistryM D Plan) (common : Plan → ProjectionPlan D Impact) : Prop :=
  ∀ s store heads, s.Valid → Committed type s store heads →
    (project store).Still ∧ ∀ plan t, (project store).exec s = (.ok plan, t) → t = s ∧
      (common plan).predecessorRootDigest = snapshotRoot type heads ∧
      Predicts type heads (common plan).events (common plan).projectedRootDigest

theorem StagedEvidenceProjectionAdapter.staging_reads
    (adapter : StagedEvidenceProjectionAdapter D) (previous current : State D .evidenceUnit)
    (event : RegistryEvent D) : (adapter.staging.impact previous current event).Still :=
  still_evidenceImpact _ previous current event

theorem StagedEvidenceProjectionAdapter.project_predicts
    (adapter : StagedEvidenceProjectionAdapter D) (request : ProjectionRequest D) :
    PlansPredict .evidenceUnit (adapter.project request) (·.toProjectionPlan) := by
  intro s store heads valid committed
  have still : (adapter.project request store).Still :=
    .bind (.done _) fun _ => .bind (projectStaged_still committed.still) fun _ => .done _
  refine ⟨still, fun plan t ran => ⟨(still.same ran).symm, ?_⟩⟩
  unfold project at ran
  obtain ⟨_, s₁, checked, rest⟩ := exec_bind_ok_iff.mp ran
  obtain ⟨-, rfl⟩ := exec_lift_iff.mp checked
  obtain ⟨⟨common, staged⟩, s₂, attempt, last⟩ := exec_bind_ok_iff.mp rest
  obtain rfl := Except.ok.inj (Prod.mk.inj last).1
  exact projectStaged_predicts adapter.staging_reads valid committed attempt

theorem StagedAssumptionProjectionAdapter.staging_reads
    (adapter : StagedAssumptionProjectionAdapter D) (previous current : State D .assumption)
    (event : RegistryEvent D) : (adapter.staging.impact previous current event).Still :=
  still_assumptionImpact _ previous current event

theorem StagedAssumptionProjectionAdapter.project_predicts
    (adapter : StagedAssumptionProjectionAdapter D) (request : ProjectionRequest D) (root : D)
    (governed : List (GovernedAdmitAuthorization D)) :
    PlansPredict .assumption (fun store => adapter.project request store root governed)
      (·.toProjectionPlan) := by
  intro s store heads valid committed
  have still : (adapter.project request store root governed).Still :=
    .bind (.done _) fun _ => .bind (.done _) fun _ =>
      .bind (projectStaged_still committed.still) fun _ => .done _
  refine ⟨still, fun plan t ran => ⟨(still.same ran).symm, ?_⟩⟩
  dsimp only at ran
  unfold project at ran
  obtain ⟨_, s₁, checked, rest⟩ := exec_bind_ok_iff.mp ran
  obtain ⟨-, rfl⟩ := exec_lift_iff.mp checked
  obtain ⟨_, s₁, shaped, rest⟩ := exec_bind_ok_iff.mp rest
  obtain ⟨-, rfl⟩ := exec_lift_iff.mp shaped
  obtain ⟨⟨common, staged⟩, s₂, attempt, last⟩ := exec_bind_ok_iff.mp rest
  obtain rfl := Except.ok.inj (Prod.mk.inj last).1
  exact projectStaged_predicts adapter.staging_reads valid committed attempt

theorem StagedAlternativeModelProjectionAdapter.staging_reads
    (adapter : StagedAlternativeModelProjectionAdapter D) (previous current : State D .alternativeModel)
    (event : RegistryEvent D) : (adapter.staging.impact previous current event).Still :=
  still_alternativeModelImpact _ previous current event

theorem StagedAlternativeModelProjectionAdapter.project_predicts
    (adapter : StagedAlternativeModelProjectionAdapter D) (request : ProjectionRequest D)
    (evidenceRoot assumptionRoot : D)
    (governed : List (GovernedAlternativeModelAuthorization D × ComparisonReceipt D)) :
    PlansPredict .alternativeModel
      (fun store => adapter.project request store evidenceRoot assumptionRoot governed)
      (·.toProjectionPlan) := by
  intro s store heads valid committed
  have still : (adapter.project request store evidenceRoot assumptionRoot governed).Still :=
    .bind (.done _) fun _ => .bind (projectStaged_still committed.still) fun _ => .done _
  refine ⟨still, fun plan t ran => ⟨(still.same ran).symm, ?_⟩⟩
  dsimp only at ran
  unfold project at ran
  obtain ⟨_, s₁, checked, rest⟩ := exec_bind_ok_iff.mp ran
  obtain ⟨-, rfl⟩ := exec_lift_iff.mp checked
  obtain ⟨⟨common, staged⟩, s₂, attempt, last⟩ := exec_bind_ok_iff.mp rest
  obtain rfl := Except.ok.inj (Prod.mk.inj last).1
  exact projectStaged_predicts adapter.staging_reads valid committed attempt

/-- The plans of the three adapters predict the commit, and making them changes nothing. -/
theorem projection_plans_predict :
    (∀ (adapter : StagedEvidenceProjectionAdapter D) (request : ProjectionRequest D),
      PlansPredict .evidenceUnit (adapter.project request) (·.toProjectionPlan)) ∧
    (∀ (adapter : StagedAssumptionProjectionAdapter D) (request : ProjectionRequest D)
      (evidenceRoot : D) (governed : List (GovernedAdmitAuthorization D)),
      PlansPredict .assumption (fun store => adapter.project request store evidenceRoot governed)
        (·.toProjectionPlan)) ∧
    ∀ (adapter : StagedAlternativeModelProjectionAdapter D) (request : ProjectionRequest D)
      (evidenceRoot assumptionRoot : D)
      (governed : List (GovernedAlternativeModelAuthorization D × ComparisonReceipt D)),
      PlansPredict .alternativeModel
        (fun store => adapter.project request store evidenceRoot assumptionRoot governed)
        (·.toProjectionPlan) :=
  ⟨fun adapter request => adapter.project_predicts request,
    fun adapter request root governed => adapter.project_predicts request root governed,
    fun adapter request evidenceRoot assumptionRoot governed =>
      adapter.project_predicts request evidenceRoot assumptionRoot governed⟩

theorem StagedAssumptionProjectionAdapter.exec_project (adapter : StagedAssumptionProjectionAdapter D)
    (request : ProjectionRequest D) (root : D) (governed : List (GovernedAdmitAuthorization D))
    {plan : AssumptionProjectionPlan D} (valid : s.Valid) (committed : Committed .assumption s store heads)
    (made : ((adapter.project request store root governed).exec s).1 = .ok plan) :
    (adapter.project request store root governed).exec s = (.ok plan, s) :=
  Prod.ext made (adapter.project_predicts request root governed s store heads valid
    committed).1.exec_store

/-- The assumption of a history. -/
def assumptionOf (items : List (RegistryEvent D)) :
    Except String (Option (Assumptions.Assumption D)) := Registry.project .assumption items

/-- The assumption after an event. -/
def assumptionAfter (previous : Option (Assumptions.Assumption D)) (event : RegistryEvent D) :
    Except String (Assumptions.Assumption D) := reduce .assumption previous event

theorem assumptionOf_concat {previous : Option (Assumptions.Assumption D)}
    {next : Assumptions.Assumption D} (projected : assumptionOf items = .ok previous)
    (after : assumptionAfter previous event = .ok next) :
    assumptionOf (items ++ [event]) = .ok (some next) :=
  project_concat.mpr ⟨previous, next, projected, after, rfl⟩

theorem assumptionAfter_last {previous : Option (Assumptions.Assumption D)}
    {next : Assumptions.Assumption D} (projected : assumptionOf items = .ok previous)
    (whole : assumptionOf (items ++ [event]) = .ok (some next)) :
    assumptionAfter previous event = .ok next := by
  obtain ⟨before, after, first, reduced, same⟩ := project_concat.mp whole
  obtain rfl := Except.ok.inj (projected.symm.trans first)
  obtain rfl := Option.some.inj same
  exact reduced

/-- The checks ask nothing else of the current receipt, and nothing of the current event. -/
theorem postInit_receipt {D : Type} [DecidableEq D] [DigestText D] (a : Assumptions.Assumption D)
    {receipt : String} (digest : D)
    (old : DigestText.isDigest D a.currentSourceReceiptDigest = true)
    (new : DigestText.isDigest D receipt = true) :
    Assumptions.Assumption.postInit { a with
      currentSourceReceiptDigest := receipt, currentEventDigest := digest } = a.postInit := by
  have before : ∀ code, check (DigestText.isDigest D a.currentSourceReceiptDigest = true) code =
      .ok () := fun _ => if_pos old
  have after : ∀ code, check (DigestText.isDigest D receipt = true) code = .ok () :=
    fun _ => if_pos new
  unfold Assumptions.Assumption.postInit
  simp only [before, after]
  rfl

/-! An assumption that was admitted at clock 2 and expires at clock 3, which is projected. -/
section Sample

def sampleProposal : JsonObject :=
  [("assumption_dependency_ids", .arr []), ("evidence_dependency_ids", .arr []),
    ("expires_at_sequence", .int 3), ("limitations", .arr []), ("materiality", .str "MATERIAL"),
    ("maximum_reuse_class", .str "D1"), ("operation", .str "PROPOSE"),
    ("proposed_at_sequence", .int 1), ("proposer_authority_id", .str "proposer"),
    ("proposition_id", .str "p"), ("scope_ids", .arr [.str "scope"]),
    ("valid_from_sequence", .int 1)]

/-- The last of these is not committed. -/
def sampleHistory : List (RegistryEvent (List Nat)) :=
  Assumptions.sampleChain [sampleProposal,
    [("admission_receipt_digest", .str "sha256:admission"),
      ("admitting_authority_id", .str "admitting"), ("operation", .str "ADMIT")],
    [("confirmation_receipt_digest", .str "sha256:confirmation"),
      ("confirming_authority_id", .str "confirming"), ("operation", .str "CONFIRM")]] 0 none

def sampleAppends : List (RegistryM (List Nat) (Registry.Answer (List Nat)) × Nat) :=
  (sampleHistory.take 2).map fun event => ((append event).map fun _ => .silent, 100)

def sampleCommitted : RegistryStore (List Nat) := history sampleAppends .initial

theorem history_valid {calls : List (RegistryM D (Registry.Answer D) × Nat)}
    (known : ∀ call ∈ calls, Registry.Call call.1) : (history calls .initial).Valid := by
  have run : Pool.Reaches Registry.Call (.idle .initial : RegistryPool Unit D) _ :=
    Pool.history_reaches () known .initial
  exact (run_sound run).valid

theorem sampleCommitted_valid : sampleCommitted.Valid := by
  apply history_valid
  intro call member
  obtain ⟨event, -, rfl⟩ := List.mem_map.mp member
  exact .append event

/-- The authority lets every assumption expire. -/
def sampleAuthority : ExpiryAuthority (List Nat) where
  expiryAuthorityId := "expiry"
  expiryAuthorization entityId clockSequence :=
    if valid : isToken entityId = true ∧ 1 ≤ clockSequence then
      .ok (some ⟨entityId, clockSequence, "expiry", [1], valid.1, valid.2, by decide⟩)
    else .error (fail .assumption "EXPIRY_AUTH_ID_INVALID")

def sampleAdapter (explicit : List (RegistryEvent (List Nat))) :
    StagedAssumptionProjectionAdapter (List Nat) where
  expiryAuthority := sampleAuthority
  intentResolver _ _ _ := .ok explicit
  impactResolver := emptyImpactResolver .assumption

def sampleClaim : ClockClaim (List Nat) where
  attemptId := "attempt"
  previousCommittedSequence := 2
  previousCompletionDigest := some [1]
  proposedSequence := 3
  validatedEventDigest := [2]
  claimantId := "claimant"
  claimPolicyDigest := [3]
  successor := rfl

def sampleRequest : ProjectionRequest (List Nat) where
  claim := sampleClaim
  validatedEventDigest := [2]
  semanticReceipt := {
    clockClaimDigest := sampleClaim.digest
    validatedEventDigest := [2]
    projectionSequence := 3
    preStateDigest := [4]
    postStateDigest := [5]
    semanticTraceDigest := [6]
    semanticPolicyDigest := [7] }

def sampleProjection (explicit : List (RegistryEvent (List Nat))) :
    Except RegistryError (AssumptionProjectionPlan (List Nat)) :=
  (((sampleAdapter explicit).project sampleRequest (live .assumption) [] []).exec sampleCommitted).1

/-- The assumption with the events of the plan: its standing, its expiry and its last clock. -/
def sampleOutcome (explicit : List (RegistryEvent (List Nat))) :
    Option (Assumptions.Standing × Option Nat × Nat) :=
  match sampleProjection explicit, ((reconstructEntity .assumption "a").exec sampleCommitted).1 with
  | .ok plan, .ok items =>
      match assumptionOf (items ++ plan.events.filter (fun event => event.entityId = "a")) with
      | .ok (some state) => some (state.standing, state.expiresAtSequence, state.lastClockSequence)
      | .ok none | .error _ => none
  | _, _ => none

def sampleAdmission : List Nat := ((sampleHistory[1]?).map (·.digest)).getD []

def sampleAdmitted (admission : List Nat) : Assumptions.Assumption (List Nat) where
  assumptionId := "a"
  propositionId := "p"
  scopeIds := ["scope"]
  materiality := "MATERIAL"
  proposerAuthorityId := "proposer"
  admittingAuthorityId := some "admitting"
  confirmingAuthorityId := none
  proposedAtSequence := 1
  validFromSequence := 1
  expiresAtSequence := some 3
  assumptionDependencyIds := []
  evidenceDependencyIds := []
  limitations := []
  maximumReuseClass := "D1"
  standing := .admitted
  activeChallenges := []
  supersededById := none
  proposalSourceReceiptDigest := "sha256:receipt"
  currentSourceReceiptDigest := "sha256:receipt"
  currentEventDigest := admission
  currentEntitySequence := 2
  lastClockSequence := 2

set_option maxRecDepth 100000 in
/-- The assumption is the only one, and was admitted. -/
theorem sampleCommitted_facts :
    ((reconstructEntity .assumption "a").exec sampleCommitted).1 = .ok (sampleHistory.take 2) ∧
    (∀ file ∈ sampleCommitted.heads, file.head.entityId = "a") ∧
    assumptionOf (sampleHistory.take 2) = .ok (some (sampleAdmitted sampleAdmission)) := by decide +kernel

/-- The payload that the authority gives. -/
def sampleExpiryPayload : JsonObject :=
  [("expiry_authority_id", .str "expiry"),
    ("expiry_receipt_digest", Policy.digestValue ([1] : List Nat)), ("operation", .str "EXPIRE")]

theorem sampleAuthority_authorization {entityId : String} {clockSequence : Nat}
    (named : isToken entityId = true) (positive : 1 ≤ clockSequence) :
    sampleAuthority.expiryAuthorization entityId clockSequence =
      .ok (some ⟨entityId, clockSequence, "expiry", [1], named, positive, by decide⟩) :=
  dif_pos ⟨named, positive⟩

theorem sampleAuthority_payload : sampleAuthority.authorize .assumption
    "EXPIRY_AUTH_ASSUMPTION_MISMATCH" "a" 3 = .ok (some sampleExpiryPayload) := by
  unfold ExpiryAuthority.authorize
  rw [sampleAuthority_authorization (by decide) (by decide)]
  rfl

/-- The event that the planner proposes, for a source digest. -/
def sampleExpiry (admission source : List Nat) : RegistryEvent (List Nat) where
  registryType := .assumption
  entityId := "a"
  entitySequence := 3
  previousEntityEventDigest := some admission
  clockSequence := 3
  projectionPhase := .assumptionRegistry
  sourceReceiptDigest := DigestText.text source
  payloadSchemaVersion := Assumptions.payloadSchemaVersion
  payload := sampleExpiryPayload
  token := Assumptions.sampleToken_a
  positive := by decide
  clock := by decide
  sourced := by simp [schemaDigest, DigestText.isDigest_text]
  version := Assumptions.payloadSchemaVersion_token

def sampleExpired (admission source : List Nat) : Assumptions.Assumption (List Nat) :=
  { sampleAdmitted admission with
    standing := .expired
    currentSourceReceiptDigest := DigestText.text source
    currentEventDigest := (sampleExpiry admission source).digest
    currentEntitySequence := 3
    lastClockSequence := 3 }

/-- The source digest is not looked into, as it may be long. -/
theorem sampleExpiry_reduced {admission source : List Nat}
    (fresh : (sampleExpiry admission source).digest ≠ admission) : assumptionAfter (some (sampleAdmitted admission))
    (sampleExpiry admission source) = .ok (sampleExpired admission source) := by
  have operation : requiredToken sampleExpiryPayload "operation" "ASSUMPTION_OPERATION_INVALID" =
      .ok "EXPIRE" := by decide
  have authority : requiredToken sampleExpiryPayload "expiry_authority_id"
      "ASSUMPTION_EXPIRY_AUTHORITY_INVALID" = .ok "expiry" := by decide
  have receipt : requiredDigest (List Nat) sampleExpiryPayload "expiry_receipt_digest"
      "ASSUMPTION_EXPIRY_RECEIPT_INVALID" = .ok (DigestText.text ([1] : List Nat)) := by
    change requireDigest _ _ (.str (DigestText.text ([1] : List Nat))) = _
    simp only [requireDigest, DigestText.isDigest_text, if_true]
  have keys : Assumptions.keys (sampleExpiry admission source) ["operation", "expiry_authority_id",
      "expiry_receipt_digest"] = .ok () := rfl
  have created : (sampleExpired admission source).create = .ok (sampleExpired admission source) := by
    let ended : Assumptions.Assumption (List Nat) := { sampleAdmitted [] with
      standing := .expired, currentEntitySequence := 3, lastClockSequence := 3 }
    have plain : ended.postInit = .ok () := by decide +kernel
    have checked := postInit_receipt ended (sampleExpiry admission source).digest
      (show DigestText.isDigest (List Nat) "sha256:receipt" = true by decide)
      (DigestText.isDigest_text source)
    exact except_bind_ok.mpr ⟨(), checked.trans plain, rfl⟩
  refine except_bind_ok.mpr ⟨(), rfl, except_bind_ok.mpr ⟨"EXPIRE", operation,
    except_bind_ok.mpr ⟨(), ?chained, except_bind_ok.mpr ⟨(), rfl, ?expired⟩⟩⟩⟩
  case chained =>
    exact except_bind_ok.mpr ⟨(), rfl, except_bind_ok.mpr ⟨(), rfl, except_bind_ok.mpr
      ⟨(), if_pos rfl, except_bind_ok.mpr ⟨(), rfl, if_pos fresh⟩⟩⟩⟩
  case expired =>
    exact except_bind_ok.mpr ⟨(), rfl, except_bind_ok.mpr ⟨(), keys, except_bind_ok.mpr
      ⟨_, authority, except_bind_ok.mpr ⟨_, receipt, except_bind_ok.mpr ⟨(), rfl, created⟩⟩⟩⟩⟩

theorem sampleCommitted_alone : Lone .assumption "a" (sampleHistory.take 2) sampleCommitted :=
  .of_files sampleCommitted_valid (by decide) sampleCommitted_facts.1 (List.cons_ne_nil _ _)
    sampleCommitted_facts.2.1

/-- The expiry of the assumption is due. -/
theorem samplePlanner_plans (explicit items : List (RegistryEvent (List Nat)))
    {admission source : List Nat} (fresh : (sampleExpiry admission source).digest ≠ admission)
    (projected : assumptionOf items = .ok (some (sampleAdmitted admission))) :
    (sampleAdapter explicit).staging.planner.planEntity items 3
      (DigestText.text source) = .ok (some (sampleExpiry admission source)) := by
  have due : @eligibleForExpiry _ .assumption (some (sampleAdmitted admission)) 3 = true :=
    show @eligibleForExpiry _ .assumption (some (sampleAdmitted [])) 3 = true by decide +kernel
  have sourced : schemaDigest (List Nat) (DigestText.text source) = true :=
    (sampleExpiry admission source).sourced
  have built : RegistryEvent.build .assumption "a" 3 (some admission) 3 (DigestText.text source)
      Assumptions.payloadSchemaVersion sampleExpiryPayload = .ok (sampleExpiry admission source) :=
    dif_pos ⟨by decide, by decide, by decide, sourced, by decide⟩
  have authorized : (sampleAdapter explicit).staging.planner.authorize (sampleAdmitted admission) 3 =
      .ok (some sampleExpiryPayload) := sampleAuthority_payload
  have required : (sampleAdapter explicit).staging.planner.require (sampleExpiry admission source)
      (some (sampleAdmitted admission)) = .ok () := rfl
  have reduced : assumptionAfter (some (sampleAdmitted admission)) (sampleExpiry admission source) =
      .ok (sampleExpired admission source) := sampleExpiry_reduced fresh
  exact ExpiryPlanner.planEntity_expires projected due authorized built required reduced

/-- The plan of the sample, when the explicit events leave the registry to this one entity. -/
theorem sampleOutcome_eq {explicit expiry : List (RegistryEvent (List Nat))}
    {state : Assumptions.Assumption (List Nat)} {plan : AssumptionProjectionPlan (List Nat)}
    (ran : ((sampleAdapter explicit).project sampleRequest (live .assumption) [] []).exec
      sampleCommitted = (.ok plan, sampleCommitted)) (events : plan.events = explicit ++ expiry)
    (own : ∀ event ∈ explicit ++ expiry, event.entityId = "a")
    (projected : assumptionOf (sampleHistory.take 2 ++ (explicit ++ expiry)) = .ok (some state)) :
    sampleOutcome explicit = some (state.standing, state.expiresAtSequence, state.lastClockSequence) := by
  have made : sampleProjection explicit = .ok plan := by
    unfold sampleProjection
    rw [ran]
  unfold sampleOutcome
  rw [made, sampleCommitted_facts.1]
  simp only [events]
  rw [List.filter_eq_self.mpr fun event member => by simpa using own event member, projected]

theorem sampleExpiry_operates (admission source : List Nat) :
    eventOperation .assumption (sampleExpiry admission source) = .ok "EXPIRE" := by
  have operation : requiredToken sampleExpiryPayload "operation" "PROJECTION_EVENT_OPERATION_INVALID" =
      .ok "EXPIRE" := by decide
  exact congrArg (Except.mapError (fail .assumption)) operation

set_option maxRecDepth 100000 in
theorem sampleRequest_context : verifyContext .assumption sampleRequest = .ok () :=
  Results.ensure_bind.mpr ⟨rfl, Results.ensure_bind.mpr ⟨rfl, Results.ensure_bind.mpr ⟨rfl, if_pos rfl⟩⟩⟩

/-- Without explicit events the projection lets the assumption expire. -/
theorem sampleProjection_expires {items : List (RegistryEvent (List Nat))} {admission : List Nat}
    {s : RegistryStore (List Nat)} (lone : Lone .assumption "a" items s)
    (accepted : ∀ event ∈ items, verifyEvent event = .ok ())
    (fresh : ∀ source, (sampleExpiry admission source).digest ≠ admission)
    (projected : assumptionOf items = .ok (some (sampleAdmitted admission))) :
    ∃ source plan, ((sampleAdapter []).project sampleRequest (live .assumption) [] []).exec s =
        (.ok plan, s) ∧ plan.events = [] ++ [sampleExpiry admission source] := by
  let source := projectionSourceDigest .assumption sampleRequest
  have clone := lone.clone.2
  have made := samplePlanner_plans [] items (fresh source) projected
  have reduced := sampleExpiry_reduced (fresh source)
  have checked : verifyEvent (sampleExpiry admission source) = .ok () := rfl
  have named : isToken (sampleExpiry admission source).entityId = true :=
    show isToken "a" = true by decide
  obtain ⟨outcomes, applied, left⟩ := clone.exec_applyAssumption (sampleAdapter []) rfl
    named checked projected reduced (sampleExpiry_operates _ _) (by decide) rfl
  refine ⟨source, lone.exec_project (sampleAdapter []) sampleRequest_context fun predecessorRoot => ?_⟩
  exact lone.exec_stage accepted rfl rfl (verified_unadmitted _ fun _ member => absurd member List.not_mem_nil) rfl clone
    (DigestText.isDigest_text _) (by decide) made (by rintro _ ⟨⟩; exact named) applied left.valid

theorem sampleExpiry_fresh (source : List Nat) :
    (sampleExpiry sampleAdmission source).digest ≠ sampleAdmission := by
  intro same
  have second : sampleAdmission = RegistryEvent.digest (Assumptions.sampleEvent 1 _ _) := rfl
  have one : 3 = 2 :=
    congrArg RegistryEvent.entitySequence (RegistryEvent.digest_inj (same.trans second))
  exact absurd one (by decide)

theorem sampleChain_verified (payloads : List JsonObject) :
    ∀ (place : Nat) (previous : Option (List Nat)),
      ∀ event ∈ Assumptions.sampleChain payloads place previous, verifyEvent event = .ok () := by
  induction payloads with
  | nil => exact fun _ _ => List.forall_mem_nil _
  | cons payload payloads ih =>
      intro place previous event member
      rcases List.mem_cons.mp member with rfl | later
      · rfl
      · exact ih _ _ event later

/-- Without explicit events the assumption expires. -/
theorem sampleOutcome_expired : sampleOutcome [] = some (.expired, some 3, 3) := by
  have lone := sampleCommitted_alone
  have fresh := sampleExpiry_fresh
  have accepted : ∀ event ∈ sampleHistory.take 2, verifyEvent event = .ok () := fun event member =>
    sampleChain_verified _ 0 none event (List.mem_of_mem_take member)
  obtain ⟨source, plan, made, events⟩ :=
    sampleProjection_expires lone accepted fresh sampleCommitted_facts.2.2
  have projected : assumptionOf (sampleHistory.take 2 ++ ([] ++ [sampleExpiry sampleAdmission source])) =
      .ok (some (sampleExpired sampleAdmission source)) :=
    assumptionOf_concat sampleCommitted_facts.2.2 (sampleExpiry_reduced (fresh source))
  exact sampleOutcome_eq made events (by simp [sampleExpiry]) projected

theorem sampleOutcome_ok {explicit : List (RegistryEvent (List Nat))} {standing : Assumptions.Standing}
    {expires : Option Nat} {clock : Nat}
    (outcome : sampleOutcome explicit = some (standing, expires, clock)) :
    ∃ plan items state, sampleProjection explicit = .ok plan ∧
      ((reconstructEntity .assumption "a").exec sampleCommitted).1 = .ok items ∧
      assumptionOf (items ++ plan.events.filter (fun event => event.entityId = "a")) =
        .ok (some state) ∧
      state.standing = standing ∧ state.expiresAtSequence = expires ∧
      state.lastClockSequence = clock := by
  unfold sampleOutcome at outcome
  split at outcome
  · rename_i plan items made read
    split at outcome
    · rename_i state projected
      simp only [Option.some.injEq, Prod.mk.injEq] at outcome
      exact ⟨plan, items, state, made, read, projected, outcome⟩
    · cases outcome
    · cases outcome
  · cases outcome

/-- The event of the plan is appended to the store that was projected. -/
theorem projection_plans_predict_sample : ∃ plan u snap,
    ((sampleAdapter []).project sampleRequest (live .assumption) [] []).exec sampleCommitted =
      (.ok plan, sampleCommitted) ∧
    snapshotRoot .assumption (projectedHeads (sampleCommitted.typeHeads .assumption) plan.events
      .assumption) = plan.projectedRootDigest ∧
    (appendAll plan.events).exec sampleCommitted = (.ok (), u) ∧
    (snapshot .assumption).exec u = (.ok snap, u) ∧ snap.rootDigest = plan.projectedRootDigest := by
  obtain ⟨plan, items, state, made, -⟩ := sampleOutcome_ok sampleOutcome_expired
  rw [sampleProjection] at made
  have valid := sampleCommitted_valid
  generalize sampleCommitted = s at made valid ⊢
  generalize sampleAdapter [] = adapter at made ⊢
  have ran := adapter.exec_project sampleRequest [] [] valid .live made
  have predicted := projection_plans_predict.2.1 adapter sampleRequest [] [] s (live .assumption) _
    valid .live
  have met := (predicted.2 plan s ran).2.2
  obtain ⟨u, snap, appended, taken, root⟩ := met.appends s valid (typeHeads_shows valid)
  exact ⟨plan, u, snap, ran, met.derived, appended, taken, root⟩

end Sample
end CsdFoundry.Projection
