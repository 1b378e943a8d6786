import CsdFoundry.Assumptions.Lifecycle
import CsdFoundry.AlternativeModels.Lifecycle
import CsdFoundry.Registry.Store

/-! Governed ADMIT appends. The two implementations run the same steps under the registry
lock; what they differ in is a `Governance`. The separation-of-duty ledger and the
dependency validation are a review of the store that was read under the lock. -/
namespace CsdFoundry.Registry
open Storage

/-- `evidenceRoot` is bound by the assumption authorization alone. `basis` stands for the
members that only enter the digest: scopes, materiality, decisions and receipts. -/
structure Authorization (D : Type) where
  entityId : String
  candidatePredecessorEventDigest : D
  eventSequence : Nat
  admittingAuthorityId : String
  registryRoot : D
  evidenceRoot : Option D
  receiptDigest : String
  basis : Json
  deriving DecidableEq

structure AdmitRequest (D : Type) where
  entityId : String
  admittingAuthorityId : String
  eventSequence : Nat
  retryAuthorization : Option (Authorization D)

structure GovernedAdmitResult (D P : Type) [DigestText D] where
  event : RegistryEvent D
  head : RegistryEntityHead D
  applied : Bool
  reason : String
  registryRoot : D
  evidenceRoot : Option D
  projected : P
  authorization : Authorization D

/-- `review` gives the receipt digest and the basis of the authorization, or denies;
`offeredReceipt` is the digest of a receipt that came with the request. -/
structure Governance (D P : Type) [DigestText D] where
  registryType : RegistryType
  code : String → String
  entityName : String
  rootName : String
  authorizationDomain : String
  payloadSchemaVersion : String
  bindsEvidence : Bool
  arguments : AdmitRequest D → Except RegistryError Unit
  offeredReceipt : Option String
  project : List (RegistryEvent D) → Except String (Option P)
  reduce : Option P → RegistryEvent D → Except String P
  proposed : P → Bool
  admitted : P → Bool
  currentEntitySequence : P → Nat
  lastClockSequence : P → Nat
  currentEventDigest : P → D
  review : AdmitRequest D → RegistryStore D → List (RegistryEvent D) → P →
    Except RegistryError (String × Json)
  authorize : Authorization D → Except RegistryError Unit
  sourceReceipt : Authorization D → D → String
  payload : Authorization D → D → JsonObject

variable {D P : Type} [LinearOrder D] [DigestText D] [Sha256 D] (g : Governance D P)

def Governance.fail (name : String) (detail : Option String) : RegistryError :=
  .governed (g.code name) detail

def authorizationDigest (a : Authorization D) : D :=
  Sha256.sha256 g.authorizationDomain [.str a.admittingAuthorityId, .str a.entityId,
    .digest a.candidatePredecessorEventDigest, .nat a.eventSequence, .digest a.registryRoot,
    .optional a.evidenceRoot, .str a.receiptDigest, .json a.basis]

/-- `_build_admit_event`. -/
def buildAdmitEvent (a : Authorization D) : Except RegistryError (RegistryEvent D) :=
  RegistryEvent.build g.registryType a.entityId 2 (some a.candidatePredecessorEventDigest) a.eventSequence
    (g.sourceReceipt a (authorizationDigest g a)) g.payloadSchemaVersion
    (g.payload a (authorizationDigest g a))

/-- The head of one entity in a list of heads, or that head added. -/
def replaceIn (entityId : String) (head : RegistryEntityHead D)
    (heads : List (RegistryEntityHead D)) : List (RegistryEntityHead D) :=
  if heads.any (fun other => other.entityId = entityId) then
    heads.map (fun other => if other.entityId = entityId then head else other)
  else heads ++ [head]

def computePredictedPostRoot (entityId : String) (predicted : RegistryEntityHead D) :
    RegistryM D D := do
  let snap ← snapshotUnlocked g.registryType
  return snapshotRoot g.registryType (byEntity (replaceIn entityId predicted snap.heads))

/-- `_commit_prepared`: a failure past the replacement of the head leaves the outcome open. -/
def commitPrepared (event : RegistryEvent D) (expectedCurrentHead : Option (RegistryEntityHead D))
    (predictedHead : RegistryEntityHead D) : RegistryM D Unit := do
  let current ← readHead event.registryType event.entityId
  .require (current = expectedCurrentHead) (.conflict "GOVERNED_ADMIT_INTERNAL_CONFLICT" none)
  install event
  Prog.write .os (.replaceHead predictedHead)
  -- the directory is synchronised after the commit point
  .read (.store "GOVERNED_ADMIT_COMMIT_DURABILITY_UNCERTAIN") (fun _ => .ok ())
  let actual ← tryCatch (readHead event.registryType event.entityId)
    (fun _ => throw (.store "GOVERNED_ADMIT_COMMIT_DURABILITY_UNCERTAIN"))
  .require (actual = some predictedHead) (.store "GOVERNED_ADMIT_COMMIT_DURABILITY_UNCERTAIN")

/-- The ADMIT event at sequence 2, if that is where the head is. -/
def admittedEvent (head : RegistryEntityHead D) : RegistryM D (Option (RegistryEvent D)) := do
  if head.entitySequence = 2 then
    match ← getEvent head.eventDigest with
    | some event =>
        return if event.payload.get "operation" = .str "ADMIT" then some event else none
    | none => return none
  else return none

def mismatch (detail : String) : RegistryError := g.fail "RETRY_SNAPSHOT_MISMATCH" (some detail)

/-- The evidence root, for a governance that binds it. -/
def evidenceRoot : RegistryM D (Option D) := do
  if g.bindsEvidence = true then
    let snap ← snapshotUnlocked .evidenceUnit
    return some snap.rootDigest
  else return none

/-- `RegistryEntityHead(type, id, 1, digest)`. -/
def predecessorHead (entityId : String) (digest : D) :
    Except RegistryError (RegistryEntityHead D) :=
  if named : entityId ≠ "" then .ok ⟨g.registryType, entityId, 1, digest, named, Nat.one_pos⟩
  else .error (.store "REGISTRY_ENTITY_ID_INVALID")

def entityError (result : Except String α) : RegistryM D α :=
  lift (result.mapError .entity)

/-- `_handle_retry`. It reads only: the root before the ADMIT is computed from the present
heads with the entity's own head rolled back. -/
def handleRetry (request : AdmitRequest D) (retry : Authorization D)
    (currentHead : RegistryEntityHead D) : RegistryM D (GovernedAdmitResult D P) := do
  .require (retry.entityId = request.entityId) (mismatch g g.entityName)
  .require (retry.admittingAuthorityId = request.admittingAuthorityId) (mismatch g "authority_id")
  .require (retry.eventSequence = request.eventSequence) (mismatch g "event_sequence")
  .require (∀ offered ∈ g.offeredReceipt, offered = retry.receiptDigest)
    (mismatch g "structural_difference_receipt")
  match ← getEvent currentHead.eventDigest with
  | none => throw (mismatch g "event missing")
  | some existing =>
      let rebuilt ← lift (buildAdmitEvent g retry)
      .require (rebuilt = existing) (mismatch g "event bytes")
      .require (rebuilt.digest = currentHead.eventDigest) (mismatch g "digest")
      let currentEvidence ← evidenceRoot g
      .require (currentEvidence = retry.evidenceRoot) (mismatch g "evidence root")
      let snap ← snapshotUnlocked g.registryType
      match existing.previousEntityEventDigest with
      | none => throw (mismatch g "no predecessor")
      | some predecessor =>
          let before ← lift (predecessorHead g request.entityId predecessor)
          let heads := byEntity (snap.heads.map
            (fun other => if other.entityId = request.entityId then before else other))
          .require (snapshotRoot g.registryType heads = retry.registryRoot) (mismatch g g.rootName)
          let history ← reconstructEntityUnlocked g.registryType request.entityId
          let proposal ← entityError (g.project (history.take 1))
          let projected ← entityError (g.reduce proposal existing)
          return ⟨existing, currentHead, false, "IDEMPOTENT_APPEND", snap.rootDigest,
            currentEvidence, projected, retry⟩

/-- The proposal that is to be admitted, with its history. -/
def candidate (request : AdmitRequest D) : RegistryM D (List (RegistryEvent D) × P) := do
  let history ← reconstructEntityUnlocked g.registryType request.entityId
  .require (history ≠ []) (g.fail "NOT_PROPOSED" (some "no history"))
  match ← lift ((g.project history).mapError (fun code => g.fail "NOT_PROPOSED" (some code))) with
  | none => throw (g.fail "NOT_PROPOSED" (some "empty projection"))
  | some state =>
      .require (g.proposed state = true ∧ g.currentEntitySequence state = 1)
        (g.fail "NOT_PROPOSED" none)
      .require (g.lastClockSequence state < request.eventSequence) (g.fail "NOT_PROPOSED" none)
      return (history, state)

/-- The append of a first ADMIT. Everything is decided before the commit. -/
def admitCandidate (request : AdmitRequest D) (currentHead : Option (RegistryEntityHead D)) :
    RegistryM D (GovernedAdmitResult D P) := do
  let (history, state) ← candidate g request
  let snap ← snapshotUnlocked g.registryType
  let evidence ← evidenceRoot g
  let (receiptDigest, basis) ← (.read .os (fun s => g.review request s history state) :
    RegistryM D (String × Json))
  let authorization : Authorization D := {
    entityId := request.entityId
    candidatePredecessorEventDigest := g.currentEventDigest state
    eventSequence := request.eventSequence
    admittingAuthorityId := request.admittingAuthorityId
    registryRoot := snap.rootDigest
    evidenceRoot := evidence
    receiptDigest := receiptDigest
    basis := basis }
  lift (g.authorize authorization)
  let event ← lift (buildAdmitEvent g authorization)
  let projected ← entityError (g.reduce (some state) event)
  let postRoot ← computePredictedPostRoot g request.entityId event.head
  .require (g.admitted projected = true) (.entity (g.code "RESULT_NOT_ADMITTED"))
  commitPrepared event currentHead event.head
  return ⟨event, event.head, true, "APPENDED", postRoot, evidence, projected, authorization⟩

def governedLocked (request : AdmitRequest D) : RegistryM D (GovernedAdmitResult D P) := do
  match ← readHead g.registryType request.entityId with
  | none => admitCandidate g request none
  | some head =>
      match ← admittedEvent head with
      | none => admitCandidate g request (some head)
      | some _ =>
          match request.retryAuthorization with
          | some retry => handleRetry g request retry head
          | none => throw (g.fail "ALREADY_ADMITTED" (some request.entityId))

def governedAdmit (request : AdmitRequest D) : RegistryM D (GovernedAdmitResult D P) := do
  lift (g.arguments request)
  .locked (governedLocked g request)

/-- `append_governed_admit_assumption`, for the decisions of a ledger. -/
def assumptionGovernance
    (review : AdmitRequest D → RegistryStore D → List (RegistryEvent D) →
      Assumptions.Assumption D → Except RegistryError (String × Json))
    (authorize : Authorization D → Except RegistryError Unit) :
    Governance D (Assumptions.Assumption D) where
  registryType := .assumption
  code name := "GOVERNED_ADMIT_" ++ name
  entityName := "assumption_id"
  rootName := "assumption root"
  authorizationDomain := "ASSUMPTION_GOVERNED_ADMIT_AUTHORIZATION"
  payloadSchemaVersion := Assumptions.payloadSchemaVersion
  bindsEvidence := true
  arguments _ := .ok ()
  offeredReceipt := none
  project := Assumptions.projectAssumptionHistory
  reduce := Assumptions.reduceAssumption
  proposed state := state.standing = .proposed
  admitted state := state.standing = .admitted
  currentEntitySequence := (·.currentEntitySequence)
  lastClockSequence := (·.lastClockSequence)
  currentEventDigest := (·.currentEventDigest)
  review := review
  authorize := authorize
  sourceReceipt a _ := a.receiptDigest
  payload a digest := [("admission_receipt_digest", .str (DigestText.text digest)),
    ("admitting_authority_id", .str a.admittingAuthorityId), ("operation", .str "ADMIT")]

structure StructuralDifferenceReceipt where
  hasMaterialDifference : Bool
  primaryGraphDigest : String
  shadowGraphDigest : String
  declaredDifferenceDigest : String
  receiptDigest : String

/-- The checks of the receipt against the proposed model. -/
def reviewReceipt (receipt : StructuralDifferenceReceipt) (model : AlternativeModels.AlternativeModel D) :
    Except RegistryError (String × Json) :=
  if receipt.hasMaterialDifference = false then
    .error (.governed "GOVERNED_ALT_MODEL_NO_MATERIAL_DIFFERENCE" none)
  else if receipt.shadowGraphDigest ≠ model.graphDigest then
    .error (.governed "GOVERNED_ALT_MODEL_SHADOW_GRAPH_MISMATCH"
      (some "receipt shadow digest != model graph digest"))
  else if receipt.declaredDifferenceDigest ≠ model.declaredDifferenceDigest then
    .error (.governed "GOVERNED_ALT_MODEL_DECLARED_DIFFERENCE_MISMATCH"
      (some "receipt declared digest != model declared digest"))
  else .ok (receipt.receiptDigest, .obj [
    ("assumption_ids", .arr (model.assumptionIds.map .str)),
    ("evidence_ids", .arr (model.evidenceIds.map .str)), ("materiality", .str model.materiality),
    ("primary_graph_digest", .str receipt.primaryGraphDigest),
    ("primary_model_id", .str model.primaryModelId), ("scope_ids", .arr (model.scopeIds.map .str)),
    ("shadow_graph_digest", .str receipt.shadowGraphDigest)])

/-- `append_governed_alternative_model_admit`, for the receipt of a request. -/
def alternativeModelGovernance (receipt : StructuralDifferenceReceipt)
    (authorize : Authorization D → Except RegistryError Unit) :
    Governance D (AlternativeModels.AlternativeModel D) where
  registryType := .alternativeModel
  code name := "GOVERNED_ALT_MODEL_" ++ name
  entityName := "model_id"
  rootName := "pre-root"
  authorizationDomain := "ALTERNATIVE_MODEL_GOVERNED_ADMIT_AUTHORIZATION"
  payloadSchemaVersion := AlternativeModels.payloadSchemaVersion
  bindsEvidence := false
  arguments request :=
    if request.entityId = "" then .error (.governed "GOVERNED_ALT_MODEL_MODEL_ID_INVALID" none)
    else if request.admittingAuthorityId = "" then
      .error (.governed "GOVERNED_ALT_MODEL_AUTHORITY_INVALID" none)
    else if request.eventSequence < 1 then
      .error (.governed "GOVERNED_ALT_MODEL_EVENT_SEQUENCE_INVALID" none)
    else .ok ()
  offeredReceipt := some receipt.receiptDigest
  project := AlternativeModels.projectAlternativeModelHistory
  reduce := AlternativeModels.reduceAlternativeModel
  proposed model := model.separationStatus = .proposed
  admitted model := model.separationStatus = .unverified
  currentEntitySequence := (·.currentEntitySequence)
  lastClockSequence := (·.lastClockSequence)
  currentEventDigest := (·.currentEventDigest)
  review _ _ _ model := reviewReceipt receipt model
  authorize := authorize
  sourceReceipt _ digest := DigestText.text digest
  payload a _ := [("admitting_authority_id", .str a.admittingAuthorityId),
    ("operation", .str "ADMIT")]

end CsdFoundry.Registry
