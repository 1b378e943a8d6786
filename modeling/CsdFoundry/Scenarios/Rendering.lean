import CsdFoundry.Scenarios.Spec
import CsdFoundry.Synthesis.ChoicePaths
import Mathlib.Data.List.Permutation

/-! Scenarios rendered with labels for identities and with offsets for times. A rendering is
`none` where the source meets an identity without a label. -/
namespace CsdFoundry.Scenarios
open Kernel
open Admission (Value)
open Admission.Value
open Synthesis.Choices (jsonText jsonNat jsonDict)

def maxCanonicalLabelings : Nat := 250000

/-- The labels of the five namespaces. -/
structure IdMap where
  evidence : List (String × String)
  bases : List (String × String)
  dependencies : List (String × String)
  requests : List (String × String)
  profiles : List (String × String)

/-- `_label_map`. -/
def labelMap (order : List String) (letter : String) : List (String × String) :=
  order.zipIdx.map fun entry => (entry.1, letter ++ Nat.repr entry.2)

/-- The products of the orders of the namespaces. -/
def labelings (ids : NamespaceIds) : List IdMap :=
  (sortedSet ids.evidence).permutations.flatMap fun evidenceOrder =>
    (sortedSet ids.bases).permutations.flatMap fun basisOrder =>
      (sortedSet ids.dependencies).permutations.flatMap fun dependencyOrder =>
        (sortedSet ids.requests).permutations.flatMap fun requestOrder =>
          (sortedSet ids.profiles).permutations.map fun profileOrder => {
            evidence := labelMap evidenceOrder "E"
            bases := labelMap basisOrder "B"
            dependencies := labelMap dependencyOrder "D"
            requests := labelMap requestOrder "R"
            profiles := labelMap profileOrder "P" }

/-- `_mapped`. -/
def mapped (labels : List (String × String)) (identifier : String) : Option String :=
  labels.lookup identifier

/-- `None` stays; anything else is rendered. -/
def optionally {α β : Type} (render : α → Option β) : Option α → Option (Option β)
  | none => some none
  | some value => (render value).map some

def LabelLe {α : Type} (label : α → String) (a b : α) : Prop := label a ≤ label b

instance {α : Type} (label : α → String) : DecidableRel (LabelLe label) :=
  fun a b => inferInstanceAs (Decidable (label a ≤ label b))

/-- The renderings of all items, sorted by their labels. -/
def renderSorted {α β : Type} (label : β → String) (render : α → Option β) (items : List α) :
    Option (List β) :=
  (items.mapM render).map (List.insertionSort (LabelLe label))

/-- The labels of some identities, sorted. -/
def mappedSorted (labels : List (String × String)) (identifiers : List String) :
    Option (List String) :=
  renderSorted id (mapped labels) identifiers

def mappedSet (labels : List (String × String)) (identifiers : Finset String) :
    Option (List String) :=
  mappedSorted labels (sortedSet identifiers)

/-- `str.isspace` of a character. -/
def isSpace (c : Char) : Bool :=
  let code := c.toNat
  (9 ≤ code && code ≤ 13) || (28 ≤ code && code ≤ 32) || code = 0x85 || code = 0xa0 ||
    code = 0x1680 || (0x2000 ≤ code && code ≤ 0x200a) || code = 0x2028 || code = 0x2029 ||
    code = 0x202f || code = 0x205f || code = 0x3000

/-- `bool(value.strip())`. -/
def hasText (value : String) : Bool := value.toList.any fun c => !isSpace c

structure RenderedEvidence where
  evidenceId : String
  dimension : String
  status : EvidenceStatus
  dependencies : List String
  outcome : Option String
  issuedOffset : Int
  expiryOffset : Option Int
  profileId : Option String
  profileVersion : Option Int

/-- `_render_evidence`. -/
def renderEvidence (ids : IdMap) (logicalTime : Int) (item : Evidence) :
    Option RenderedEvidence := do
  let evidenceId ← mapped ids.evidence item.evidenceId
  let dependencies ← mappedSet ids.dependencies item.dependencies
  let profileId ← optionally (mapped ids.profiles) item.profileId
  some {
    evidenceId := evidenceId
    dimension := item.dimension
    status := item.status
    dependencies := dependencies
    outcome := item.outcome
    issuedOffset := item.issuedAt - logicalTime
    expiryOffset := item.expiresAt.map (· - logicalTime)
    profileId := profileId
    profileVersion := item.profileVersion }

structure RenderedBasis where
  basisId : String
  kind : BasisKind
  claim : String
  memberEvidenceIds : List String
  approved : Bool

/-- `_render_basis`. -/
def renderBasis (ids : IdMap) (item : Basis) : Option RenderedBasis := do
  let basisId ← mapped ids.bases item.basisId
  let memberEvidenceIds ← mappedSet ids.evidence item.memberEvidenceIds
  some {
    basisId := basisId
    kind := item.kind
    claim := item.claim
    memberEvidenceIds := memberEvidenceIds
    approved := item.approved }

structure RenderedRequest where
  requestId : String
  status : RequestStatus
  requestedOffset : Int
  dueOffset : Int
  closedOffset : Option Int
  reasonPresent : Bool

def renderRequest (ids : IdMap) (logicalTime : Int) (request : ReassessmentRequest) :
    Option RenderedRequest := do
  let requestId ← mapped ids.requests request.requestId
  some {
    requestId := requestId
    status := request.status
    requestedOffset := request.requestedAt - logicalTime
    dueOffset := request.dueAt - logicalTime
    closedOffset := request.closedAt.map (· - logicalTime)
    reasonPresent := hasText request.reason }

structure RenderedHeartbeat where
  interval : Int
  lastRecordedOffset : Int
  dueOffset : Int

def renderHeartbeat (logicalTime : Int) (heartbeat : HeartbeatState) : RenderedHeartbeat where
  interval := heartbeat.interval
  lastRecordedOffset := heartbeat.lastRecordedAt - logicalTime
  dueOffset := heartbeat.dueAt - logicalTime

/-- An audit event as it is rendered: its type and the sorted names of its details. -/
def outline (item : AuditEvent) : String × List String :=
  (item.eventType, (item.details.map (·.1)).insertionSort (· ≤ ·))

structure RenderedState where
  obligation : ObligationStatus
  sourceState : SourceState
  assurance : Assurance
  evidence : List RenderedEvidence
  bases : List RenderedBasis
  currentSourceBasisIds : List String
  currentVerdictBasisIds : List String
  history : List (String × List String)
  requiredProfileId : Option String
  requiredProfileVersion : Option Int
  reassessmentRequests : List RenderedRequest
  heartbeat : Option RenderedHeartbeat

/-- `_render_state`. -/
def renderState (ids : IdMap) (state : ControlState) : Option RenderedState := do
  let evidence ← renderSorted RenderedEvidence.evidenceId (renderEvidence ids state.logicalTime)
    state.evidence
  let bases ← renderSorted RenderedBasis.basisId (renderBasis ids) state.bases
  let requests ← renderSorted RenderedRequest.requestId (renderRequest ids state.logicalTime)
    state.reassessmentRequests
  let currentSourceBasisIds ← mappedSet ids.bases state.currentSourceBasisIds
  let currentVerdictBasisIds ← mappedSet ids.bases state.currentVerdictBasisIds
  let requiredProfileId ← optionally (mapped ids.profiles) state.requiredProfileId
  some {
    obligation := state.obligation
    sourceState := state.sourceState
    assurance := state.assurance
    evidence := evidence
    bases := bases
    currentSourceBasisIds := currentSourceBasisIds
    currentVerdictBasisIds := currentVerdictBasisIds
    history := state.history.map outline
    requiredProfileId := requiredProfileId
    requiredProfileVersion := state.requiredProfileVersion
    reassessmentRequests := requests
    heartbeat := state.heartbeat.map (renderHeartbeat state.logicalTime) }

inductive RenderedEvent where
  | dependencyChange (dependencyId : String) (apparentDirection : Option String)
  | reassess (newEvidence : List RenderedEvidence) (newBases : List RenderedBasis)
      (sourceState : Option SourceState) (assurance : Option Assurance) (authority : String)
      (closeRequestIds : List String)
  | retireControl (retirementEvidence : RenderedEvidence) (authority : String)
  | advanceClock (targetOffset : Int)
  | profileChange (profileId : String) (profileVersion : Int) (authority : String)
      (requestId : Option String) (requestDueOffset : Option Int)
  | requestReassessment (requestId : String) (reasonPresent : Bool) (dueOffset : Int)
      (authority : String)
  | recordHeartbeat (atOffset : Int) (interval : Option Int) (authority : String)

/-- `_render_event`, at the logical time of the state before it. -/
def renderEvent (ids : IdMap) (logicalTime : Int) : CsdEvent → Option RenderedEvent
  | .dependencyChange event => do
      let dependencyId ← mapped ids.dependencies event.dependencyId
      some (.dependencyChange dependencyId event.apparentDirection)
  | .reassess event => do
      let evidence ← renderSorted RenderedEvidence.evidenceId (renderEvidence ids logicalTime)
        event.newEvidence
      let bases ← renderSorted RenderedBasis.basisId (renderBasis ids) event.newBases
      let closeRequestIds ← mappedSorted ids.requests event.closeRequestIds
      some (.reassess evidence bases event.sourceState event.assurance event.authority
        closeRequestIds)
  | .retireControl event => do
      let evidence ← renderEvidence ids logicalTime event.retirementEvidence
      some (.retireControl evidence event.authority)
  | .advanceClock event => some (.advanceClock (event.targetTime - logicalTime))
  | .profileChange event => do
      let profileId ← mapped ids.profiles event.profileId
      let requestId ← optionally (mapped ids.requests) event.requestId
      some (.profileChange profileId event.profileVersion event.authority requestId
        (event.requestDueAt.map (· - logicalTime)))
  | .requestReassessment event => do
      let requestId ← mapped ids.requests event.requestId
      some (.requestReassessment requestId (hasText event.reason) (event.dueAt - logicalTime)
        event.authority)
  | .recordHeartbeat event =>
      some (.recordHeartbeat (event.atTime - logicalTime) event.interval event.authority)

structure RenderedExpectation where
  obligation : Option ObligationStatus
  sourceState : Option SourceState
  assurance : Option Assurance
  evidenceStatuses : List (String × EvidenceStatus)
  evidenceOutcomes : List (String × Option String)
  basisClaims : List (String × String)
  currentSourceBasisIds : Option (List String)
  currentVerdictBasisIds : Option (List String)
  historyLength : Option Int
  historyEventTypes : Option (List String)

/-- A pair of an identity and what is expected of it. -/
def renderPair {α : Type} (labels : List (String × String)) (pair : String × α) :
    Option (String × α) :=
  (mapped labels pair.1).map fun label => (label, pair.2)

/-- `_render_expectation`. -/
def renderExpectation (ids : IdMap) (expected : StateExpectation) :
    Option RenderedExpectation := do
  let evidenceStatuses ← renderSorted Prod.fst (renderPair ids.evidence) expected.evidenceStatuses
  let evidenceOutcomes ← renderSorted Prod.fst (renderPair ids.evidence) expected.evidenceOutcomes
  let basisClaims ← renderSorted Prod.fst (renderPair ids.bases) expected.basisClaims
  let currentSourceBasisIds ← optionally (mappedSet ids.bases) expected.currentSourceBasisIds
  let currentVerdictBasisIds ← optionally (mappedSet ids.bases) expected.currentVerdictBasisIds
  some {
    obligation := expected.obligation
    sourceState := expected.sourceState
    assurance := expected.assurance
    evidenceStatuses := evidenceStatuses
    evidenceOutcomes := evidenceOutcomes
    basisClaims := basisClaims
    currentSourceBasisIds := currentSourceBasisIds
    currentVerdictBasisIds := currentVerdictBasisIds
    historyLength := expected.historyLength
    historyEventTypes := expected.historyEventTypes }

inductive RenderedCase where
  | transition (before : RenderedState) (event : RenderedEvent) (expected : RenderedExpectation)
      (expectedInvalidatedEvidence expectedSurvivingBases : Option (List String))
      (requiredTraceRules : List String)
  | observation (state : RenderedState) (expected : RenderedExpectation)
  | rejectedTransition (before proposedAfter : RenderedState) (event : Option RenderedEvent)
      (expectedInvariants : List String)

/-- `_render_case`. -/
def renderCase (ids : IdMap) : ScenarioCase → Option RenderedCase
  | .transition body => do
      let before ← renderState ids body.before
      let event ← renderEvent ids body.before.logicalTime body.event
      let expected ← renderExpectation ids body.expected
      let invalidated ← optionally (mappedSet ids.evidence) body.expectedInvalidatedEvidence
      let surviving ← optionally (mappedSet ids.bases) body.expectedSurvivingBases
      some (.transition before event expected invalidated surviving
        (sortedSet body.requiredTraceRules))
  | .observation body => do
      let state ← renderState ids body.state
      let expected ← renderExpectation ids body.expected
      some (.observation state expected)
  | .rejectedTransition body => do
      let before ← renderState ids body.before
      let proposedAfter ← renderState ids body.proposedAfter
      let event ← optionally (renderEvent ids body.before.logicalTime) body.event
      some (.rejectedTransition before proposedAfter event (sortedSet body.expectedInvariants))

/-- One part of a case id: its ordinal, and the label of the rest. -/
structure CoordinatePart where
  ordinal : Option Nat
  equivalence : String

structure Coordinate where
  position : Nat
  path : List CoordinatePart

structure RenderedScenario where
  mode : ScenarioMode
  ruleIds : List String
  cases : List (Coordinate × RenderedCase)

/-- `_render_scenario`. There is a coordinate for every case. -/
def renderScenario (spec : ScenarioSpec) (ids : IdMap) (coordinates : List Coordinate) :
    Option RenderedScenario := do
  let cases ← spec.cases.mapM (renderCase ids)
  some {
    mode := spec.mode
    ruleIds := sortedSet spec.ruleIds
    cases := coordinates.zip cases }

/-! The renderings as JSON. -/

def jsonOption {α : Type} (json : α → Value) : Option α → Value
  | none => .null
  | some value => json value

def jsonList {α : Type} (json : α → Value) (values : List α) : Value := .list (values.map json)

def obligationValue : ObligationStatus → String
  | .current => "current"
  | .planned => "planned"
  | .retired => "retired"

def requestStatusValue : RequestStatus → String
  | .pending => "pending"
  | .closed => "closed"

def RenderedEvidence.json (item : RenderedEvidence) : Value :=
  jsonDict [
    ("evidence_id", jsonText item.evidenceId),
    ("dimension", jsonText item.dimension),
    ("status", jsonText item.status.value),
    ("dependencies", jsonList jsonText item.dependencies),
    ("outcome", jsonOption jsonText item.outcome),
    ("issued_offset", .int item.issuedOffset),
    ("expiry_offset", jsonOption .int item.expiryOffset),
    ("profile_id", jsonOption jsonText item.profileId),
    ("profile_version", jsonOption .int item.profileVersion)]

def RenderedBasis.json (item : RenderedBasis) : Value :=
  jsonDict [
    ("basis_id", jsonText item.basisId),
    ("kind", jsonText item.kind.value),
    ("claim", jsonText item.claim),
    ("member_evidence_ids", jsonList jsonText item.memberEvidenceIds),
    ("approved", .bool item.approved)]

def RenderedRequest.json (request : RenderedRequest) : Value :=
  jsonDict [
    ("request_id", jsonText request.requestId),
    ("status", jsonText (requestStatusValue request.status)),
    ("requested_offset", .int request.requestedOffset),
    ("due_offset", .int request.dueOffset),
    ("closed_offset", jsonOption .int request.closedOffset),
    ("reason_present", .bool request.reasonPresent)]

def RenderedHeartbeat.json (heartbeat : RenderedHeartbeat) : Value :=
  jsonDict [
    ("interval", .int heartbeat.interval),
    ("last_recorded_offset", .int heartbeat.lastRecordedOffset),
    ("due_offset", .int heartbeat.dueOffset)]

def outlineJson (item : String × List String) : Value :=
  jsonDict [("event_type", jsonText item.1), ("detail_keys", jsonList jsonText item.2)]

def RenderedState.json (state : RenderedState) : Value :=
  jsonDict [
    ("obligation", jsonText (obligationValue state.obligation)),
    ("source_state", jsonText state.sourceState.value),
    ("assurance", jsonText state.assurance.value),
    ("evidence", jsonList RenderedEvidence.json state.evidence),
    ("bases", jsonList RenderedBasis.json state.bases),
    ("current_source_basis_ids", jsonList jsonText state.currentSourceBasisIds),
    ("current_verdict_basis_ids", jsonList jsonText state.currentVerdictBasisIds),
    ("history", jsonList outlineJson state.history),
    ("required_profile_id", jsonOption jsonText state.requiredProfileId),
    ("required_profile_version", jsonOption .int state.requiredProfileVersion),
    ("reassessment_requests", jsonList RenderedRequest.json state.reassessmentRequests),
    ("heartbeat", jsonOption RenderedHeartbeat.json state.heartbeat)]

def RenderedEvent.json : RenderedEvent → Value
  | .dependencyChange dependencyId apparentDirection => jsonDict [
      ("event_type", jsonText "DependencyChange"),
      ("dependency_id", jsonText dependencyId),
      ("apparent_direction", jsonOption jsonText apparentDirection)]
  | .reassess newEvidence newBases sourceState assurance authority closeRequestIds => jsonDict [
      ("event_type", jsonText "Reassess"),
      ("new_evidence", jsonList RenderedEvidence.json newEvidence),
      ("new_bases", jsonList RenderedBasis.json newBases),
      ("source_state", jsonOption (fun source => jsonText source.value) sourceState),
      ("assurance", jsonOption (fun value => jsonText value.value) assurance),
      ("authority", jsonText authority),
      ("close_request_ids", jsonList jsonText closeRequestIds)]
  | .retireControl retirementEvidence authority => jsonDict [
      ("event_type", jsonText "RetireControl"),
      ("retirement_evidence", retirementEvidence.json),
      ("authority", jsonText authority)]
  | .advanceClock targetOffset => jsonDict [
      ("event_type", jsonText "AdvanceClock"),
      ("target_offset", .int targetOffset)]
  | .profileChange profileId profileVersion authority requestId requestDueOffset => jsonDict [
      ("event_type", jsonText "ProfileChange"),
      ("profile_id", jsonText profileId),
      ("profile_version", .int profileVersion),
      ("authority", jsonText authority),
      ("request_id", jsonOption jsonText requestId),
      ("request_due_offset", jsonOption .int requestDueOffset)]
  | .requestReassessment requestId reasonPresent dueOffset authority => jsonDict [
      ("event_type", jsonText "RequestReassessment"),
      ("request_id", jsonText requestId),
      ("reason_present", .bool reasonPresent),
      ("due_offset", .int dueOffset),
      ("authority", jsonText authority)]
  | .recordHeartbeat atOffset interval authority => jsonDict [
      ("event_type", jsonText "RecordHeartbeat"),
      ("at_offset", .int atOffset),
      ("interval", jsonOption .int interval),
      ("authority", jsonText authority)]

def statusJson (pair : String × EvidenceStatus) : Value :=
  jsonDict [("evidence_id", jsonText pair.1), ("status", jsonText pair.2.value)]

def outcomeJson (pair : String × Option String) : Value :=
  jsonDict [("evidence_id", jsonText pair.1), ("outcome", jsonOption jsonText pair.2)]

def claimJson (pair : String × String) : Value :=
  jsonDict [("basis_id", jsonText pair.1), ("claim", jsonText pair.2)]

def RenderedExpectation.json (expected : RenderedExpectation) : Value :=
  jsonDict [
    ("obligation", jsonOption (fun value => jsonText (obligationValue value)) expected.obligation),
    ("source_state", jsonOption (fun value => jsonText value.value) expected.sourceState),
    ("assurance", jsonOption (fun value => jsonText value.value) expected.assurance),
    ("evidence_statuses", jsonList statusJson expected.evidenceStatuses),
    ("evidence_outcomes", jsonList outcomeJson expected.evidenceOutcomes),
    ("basis_claims", jsonList claimJson expected.basisClaims),
    ("current_source_basis_ids", jsonOption (jsonList jsonText) expected.currentSourceBasisIds),
    ("current_verdict_basis_ids", jsonOption (jsonList jsonText) expected.currentVerdictBasisIds),
    ("history_length", jsonOption .int expected.historyLength),
    ("history_event_types", jsonOption (jsonList jsonText) expected.historyEventTypes)]

def RenderedCase.json : RenderedCase → Value
  | .transition before event expected invalidated surviving rules => jsonDict [
      ("case_kind", jsonText "transition"),
      ("before", before.json),
      ("event", event.json),
      ("expected", expected.json),
      ("expected_invalidated_evidence", jsonOption (jsonList jsonText) invalidated),
      ("expected_surviving_bases", jsonOption (jsonList jsonText) surviving),
      ("required_trace_rules", jsonList jsonText rules)]
  | .observation state expected => jsonDict [
      ("case_kind", jsonText "observation"),
      ("state", state.json),
      ("expected", expected.json)]
  | .rejectedTransition before proposedAfter event invariants => jsonDict [
      ("case_kind", jsonText "rejected_transition"),
      ("before", before.json),
      ("proposed_after", proposedAfter.json),
      ("event", jsonOption RenderedEvent.json event),
      ("expected_invariants", jsonList jsonText invariants)]

def CoordinatePart.json (part : CoordinatePart) : Value :=
  jsonDict [
    ("ordinal", jsonOption jsonNat part.ordinal),
    ("equivalence", jsonText part.equivalence)]

def Coordinate.json (coordinate : Coordinate) : Value :=
  jsonDict [
    ("position", jsonNat coordinate.position),
    ("path", jsonList CoordinatePart.json coordinate.path)]

def placedJson (placed : Coordinate × RenderedCase) : Value :=
  jsonDict [("coordinate", placed.1.json), ("case", placed.2.json)]

def familySchemaVersion : String := "e1-symbolic-family/1"

def RenderedScenario.json (scenario : RenderedScenario) : Value :=
  jsonDict [
    ("schema_version", jsonText familySchemaVersion),
    ("mode", jsonText scenario.mode.value),
    ("rule_ids", jsonList jsonText scenario.ruleIds),
    ("cases", jsonList placedJson scenario.cases)]

end CsdFoundry.Scenarios
