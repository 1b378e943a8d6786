import CsdFoundry.Kernel.Temporal

/-! Deterministic state transitions of the executable kernel, and for each of them what an
accepted event does to the state. -/
namespace CsdFoundry.Kernel

/-- `_basis_is_current`, which does not look at profiles. -/
def basisIsCurrent (state : ControlState) (basisId : String) : Bool :=
  (state.basesById basisId).any (Basis.supportedBy state.evidenceById Evidence.isCurrent)

def basisMatchesClaim (kind : BasisKind) (claim : String) (basis : Basis) : Bool :=
  basis.kind = kind && basis.claim = claim

def Evidence.affectedBy (item : Evidence) (event : DependencyChange) : Bool :=
  item.isCurrent && event.dependencyId ∈ item.dependencies

/-- The state with the dependent evidence invalidated, before its claims are recomputed. -/
def dependencyInterim (state : ControlState) (event : DependencyChange) : ControlState :=
  { state with evidence := state.evidence.map (fun item =>
      if item.affectedBy event then item.invalidate else item) }

def dependencyClaims (state interim : ControlState) : Claims :=
  let sourceSurvivors :=
    state.currentSourceBasisIds.filter (fun basisId => basisIsCurrent interim basisId)
  let verdictSurvivors :=
    state.currentVerdictBasisIds.filter (fun basisId => basisIsCurrent interim basisId)
  { sourceState := supportedSource state.sourceState sourceSurvivors
    assurance :=
      if state.obligation ≠ .current then .na
      else if state.assurance.substantive && verdictSurvivors = ∅ then .stale
      else state.assurance
    sourceBases := sourceSurvivors
    verdictBases := verdictSurvivors }

def dependencyAudit (event : DependencyChange) : AuditEvent :=
  .create "DependencyChange" [
    ("dependency_id", event.dependencyId),
    ("apparent_direction", textOr event.apparentDirection "unspecified")]

def applyDependencyChange (state : ControlState) (event : DependencyChange) :
    ControlState × TransitionTrace :=
  let interim := dependencyInterim state event
  let claims := dependencyClaims state interim
  let removed := (state.currentBasisIds \ claims.sourceBases) \ claims.verdictBases
  let invalidated := ((state.evidence.filter (fun item => item.affectedBy event)).map
    Evidence.evidenceId).toFinset
  let post := interim.claiming claims (dependencyAudit event)
  (post, {
    eventType := "DependencyChange"
    invalidatedEvidence := sortedSet invalidated
    preservedEvidence := currentIds post.evidence
    removedBases := sortedSet removed
    survivingBases := sortedSet (claims.sourceBases ∪ claims.verdictBases)
    previousSourceState := state.sourceState.value
    resultingSourceState := post.sourceState.value
    previousAssurance := state.assurance.value
    resultingAssurance := post.assurance.value
    forbiddenInferences := ["replacement substantive state or verdict"]
    rulesFired := ["INV-11", "INV-12", "INV-13", "INV-14", "INV-15", "INV-16", "SYM-01"]
    nextGovernedStep := some (if post.sourceState = .unknown ∨ post.assurance = .stale then
        "governed reassessment with new evidence and new approved basis"
      else "none required for surviving current claims") })

/-- The checks that a new basis has to pass. -/
def checkNewBasis (evidenceIds : Finset String) (source : SourceState) (assurance : Assurance)
    (basis : Basis) : Except KernelError Unit :=
  if basis.approved = false then .error (.transition "new basis must be approved")
  else if basis.memberEvidenceIds = ∅ then
    .error (.transition "new basis must contain evidence")
  else if ¬ basis.memberEvidenceIds ⊆ evidenceIds then
    .error (.transition "basis references unknown evidence")
  else if basis.kind = .source ∧ basis.claim ≠ source.value then
    .error (.transition "source basis claim does not match reassessed source state")
  else if basis.kind = .verdict ∧ basis.claim ≠ assurance.value then
    .error (.transition "verdict basis claim does not match reassessed assurance")
  else .ok ()

def Reassess.resultingSource (event : Reassess) (state : ControlState) : SourceState :=
  event.sourceState.getD state.sourceState

def Reassess.resultingAssurance (event : Reassess) (state : ControlState) : Assurance :=
  event.assurance.getD state.assurance

def Reassess.evidenceIds (event : Reassess) : Finset String :=
  Keyed.keys Evidence.evidenceId event.newEvidence

def Reassess.basisIds (event : Reassess) : Finset String :=
  Keyed.keys Basis.basisId event.newBases

/-- Current bases whose claim still holds, and the new bases of the kind. -/
def retainedBases (state : ControlState) (event : Reassess) (current : Finset String)
    (kind : BasisKind) (claim : String) : Finset String :=
  current.filter (fun basisId => (state.basesById basisId).any (basisMatchesClaim kind claim)) ∪
    ((event.newBases.filter (fun basis => basis.kind = kind)).map Basis.basisId).toFinset

def reassessedClaims (state : ControlState) (event : Reassess) : Claims :=
  let source := event.resultingSource state
  let assurance := event.resultingAssurance state
  { sourceState := source
    assurance := assurance
    sourceBases := if source = .unknown then ∅
      else retainedBases state event state.currentSourceBasisIds .source source.value
    verdictBases := if assurance.substantive = false then ∅
      else retainedBases state event state.currentVerdictBasisIds .verdict assurance.value }

/-- The audit event lists each identity once. -/
def reassessAudit (event : Reassess) : AuditEvent :=
  .create "Reassess" ([
    ("authority", event.authority),
    ("evidence_ids", commaJoined (sortedSet event.evidenceIds)),
    ("basis_ids", commaJoined (sortedSet event.basisIds))] ++
    if event.closeRequestIds = [] then []
    else [("closed_request_ids", commaJoined (event.closeRequestIds.insertionSort (· ≤ ·)))])

def reassessInterim (state : ControlState) (event : Reassess)
    (requests : List ReassessmentRequest) : ControlState :=
  { state with
    evidence := state.evidence ++ event.newEvidence
    bases := state.bases ++ event.newBases
    reassessmentRequests := requests }

def applyReassess (state : ControlState) (event : Reassess) : Transition :=
  if event.authority ≠ "I3" then
    .error (.transition "reassessment requires I3 authority")
  else if state.evidenceIds ∩ event.evidenceIds ≠ ∅ then
    .error (.transition "reassessment must use new evidence identities")
  else if state.basisIds ∩ event.basisIds ≠ ∅ then
    .error (.transition "reassessment must use new basis identities")
  else if event.newEvidence.any (fun item => !item.isCurrent) then
    .error (.transition "new reassessment evidence must be current")
  else if event.newEvidence.any (state.logicalTime < ·.issuedAt) then
    .error (.transition "new reassessment evidence cannot be issued in the future")
  else do
    event.newBases.forM (checkNewBasis (state.evidenceIds ∪ event.evidenceIds)
      (event.resultingSource state) (event.resultingAssurance state))
    let requests ← closeReassessmentRequests state event.closeRequestIds
    let claims := reassessedClaims state event
    let post := (reassessInterim state event requests).claiming claims (reassessAudit event)
    .ok (post, {
      eventType := "Reassess"
      preservedEvidence := sortedSet state.evidenceIds
      survivingBases := sortedSet (claims.sourceBases ∪ claims.verdictBases)
      previousSourceState := state.sourceState.value
      resultingSourceState := post.sourceState.value
      previousAssurance := state.assurance.value
      resultingAssurance := post.assurance.value
      rulesFired :=
        ["INV-18", "INV-19", "G-INV-06", "G-INV-09", "G-INV-10", "G-INV-11", "R-INV-03"]
      nextGovernedStep :=
        some "publish the new current view while retaining superseded history" })

def retireAudit (event : RetireControl) : AuditEvent :=
  .create "RetireControl" [
    ("authority", event.authority),
    ("evidence_id", event.retirementEvidence.evidenceId)]

def retireInterim (state : ControlState) (event : RetireControl) : ControlState :=
  { state with
    obligation := .retired
    evidence := state.evidence ++ [event.retirementEvidence] }

def applyRetire (state : ControlState) (event : RetireControl) : Transition :=
  if event.authority ≠ "I3" then
    .error (.transition "retirement requires I3 authority")
  else if event.retirementEvidence.evidenceId ∈ state.evidenceIds then
    .error (.transition "retirement evidence must use a new identity")
  else if event.retirementEvidence.status ≠ .current then
    .error (.transition "retirement evidence must be current")
  else
    let post := (retireInterim state event).claiming ⟨.unknown, .na, ∅, ∅⟩ (retireAudit event)
    .ok (post, {
      eventType := "RetireControl"
      preservedEvidence := (state.evidence.map Evidence.evidenceId).insertionSort (· ≤ ·)
      removedBases := sortedSet state.currentBasisIds
      previousSourceState := state.sourceState.value
      resultingSourceState := post.sourceState.value
      previousAssurance := state.assurance.value
      resultingAssurance := post.assurance.value
      rulesFired := ["INV-04", "INV-19", "G-INV-11", "G-INV-12", "G-INV-13"]
      nextGovernedStep := some "none unless the obligation is reintroduced through governance" })

def applyEvent (state : ControlState) : CsdEvent → Transition
  | .dependencyChange event => .ok (applyDependencyChange state event)
  | .reassess event => applyReassess state event
  | .retireControl event => applyRetire state event
  | .advanceClock event => applyAdvanceClock state event
  | .profileChange event => applyProfileChange state event
  | .requestReassessment event => applyRequestReassessment state event
  | .recordHeartbeat event => applyRecordHeartbeat state event

/-! What an accepted event does. -/

variable {state post : ControlState} {trace : TransitionTrace}

theorem forM_ok {α : Type} {items : List α} {check : α → Except KernelError Unit}
    (checked : items.forM check = .ok ()) : ∀ item ∈ items, check item = .ok () := by
  induction items with
  | nil => exact fun item member => absurd member List.not_mem_nil
  | cons head tail ih =>
      change (check head >>= fun _ => tail.forM check) = .ok () at checked
      cases first : check head with
      | error e => rw [first] at checked; cases checked
      | ok done =>
          rw [first] at checked
          intro item member
          rcases List.mem_cons.mp member with rfl | member
          · exact first
          · exact ih checked item member

/-- What the kernel checks before a reassessment. -/
structure Reassess.Admissible (state : ControlState) (event : Reassess) : Prop where
  evidence : Disjoint state.evidenceIds event.evidenceIds
  basisIds : Disjoint state.basisIds event.basisIds
  current : ∀ item ∈ event.newEvidence, item.status = .current
  bases : ∀ basis ∈ event.newBases,
    checkNewBasis (state.evidenceIds ∪ event.evidenceIds) (event.resultingSource state)
      (event.resultingAssurance state) basis = .ok ()
  distinct : event.closeRequestIds.toFinset.card = event.closeRequestIds.length
  known : event.closeRequestIds.toFinset \ state.requestIds = ∅
  pending : closedIds state event.closeRequestIds.toFinset = ∅

/-- The requests after a reassessment. -/
def Reassess.requests (state : ControlState) (event : Reassess) : List ReassessmentRequest :=
  state.reassessmentRequests.map (closing state.logicalTime event.closeRequestIds.toFinset)

theorem applyReassess_ok (accepted : applyReassess state event = .ok (post, trace)) :
    event.Admissible state ∧
      post = (reassessInterim state event (event.requests state)).claiming
        (reassessedClaims state event) (reassessAudit event) := by
  simp only [applyReassess] at accepted
  split at accepted
  · cases accepted
  split at accepted
  · cases accepted
  split at accepted
  · cases accepted
  split at accepted
  · cases accepted
  split at accepted
  · cases accepted
  · case isFalse authority evidence basisIds current past =>
      cases checked : event.newBases.forM (checkNewBasis (state.evidenceIds ∪ event.evidenceIds)
          (event.resultingSource state) (event.resultingAssurance state)) with
      | error e => rw [checked] at accepted; cases accepted
      | ok done =>
          rw [checked] at accepted
          cases closed : closeReassessmentRequests state event.closeRequestIds with
          | error e => rw [closed] at accepted; cases accepted
          | ok requests =>
              obtain ⟨distinct, known, pending, rfl⟩ := closeReassessmentRequests_ok closed
              rw [closed] at accepted
              cases accepted
              refine ⟨⟨?_, ?_, ?_, forM_ok checked, distinct, known, pending⟩, rfl⟩
              · exact Finset.disjoint_iff_inter_eq_empty.mpr (not_not.mp evidence)
              · exact Finset.disjoint_iff_inter_eq_empty.mpr (not_not.mp basisIds)
              · intro item member
                by_contra other
                apply current
                rw [List.any_eq_true]
                exact ⟨item, member, by simpa [Evidence.isCurrent] using other⟩

theorem applyRetire_ok (accepted : applyRetire state event = .ok (post, trace)) :
    event.retirementEvidence.evidenceId ∉ state.evidenceIds ∧
      event.retirementEvidence.status = .current ∧
      post = (retireInterim state event).claiming ⟨.unknown, .na, ∅, ∅⟩ (retireAudit event) := by
  simp only [applyRetire] at accepted
  split at accepted
  · cases accepted
  split at accepted
  · cases accepted
  split at accepted
  · cases accepted
  · case isFalse fresh current =>
      cases accepted
      exact ⟨fresh, not_not.mp current, rfl⟩

end CsdFoundry.Kernel
