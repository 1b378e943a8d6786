import CsdFoundry.Kernel.Acceptance

/-! Reassessments. The verifier recomputes which bases are supported after one, from
whichever old evidence a proposed result leaves current. -/
namespace CsdFoundry.Kernel

variable {state : ControlState} {event : Reassess}

def ControlState.currentEvidenceIds (state : ControlState) : Finset String :=
  state.evidenceIds.filter (fun evidenceId =>
    (state.evidenceById evidenceId).any Evidence.isCurrent)

namespace Reassess

/-- The state with the new evidence and bases. -/
def merged (state : ControlState) (event : Reassess) : ControlState :=
  reassessInterim state event state.reassessmentRequests

/-- Bases of the kind with the claim whose members are new or among those kept current. -/
def supportedBases (state : ControlState) (event : Reassess) (kept current : Finset String)
    (kind : BasisKind) (claim : String) : Finset String :=
  (current ∪ event.basisIds).filter (fun basisId =>
    ((event.merged state).basesById basisId).any (fun basis =>
      basis.kind = kind && basis.claim = claim &&
        (basis.approved && basis.memberEvidenceIds ≠ ∅ &&
          basis.memberEvidenceIds ⊆ kept ∪ event.evidenceIds)))

/-- The claims of the event, with the bases that the kept evidence supports. -/
def supportedClaims (state : ControlState) (event : Reassess) (kept : Finset String) : Claims :=
  let source := event.resultingSource state
  let assurance := event.resultingAssurance state
  { sourceState := source
    assurance := assurance
    sourceBases := event.supportedBases state kept state.currentSourceBasisIds .source
      source.value
    verdictBases := event.supportedBases state kept state.currentVerdictBasisIds .verdict
      assurance.value }

/-- Keeping just this old evidence current supports the claims of the event, by bases that
fit the required profile. -/
structure Supports (state : ControlState) (event : Reassess) (kept : Finset String) : Prop where
  profile : ∀ basisId ∈ (event.supportedClaims state kept).sourceBases ∪
      (event.supportedClaims state kept).verdictBases,
    ∀ basis, (event.merged state).basesById basisId = some basis →
      ∀ member ∈ basis.memberEvidenceIds, ∀ item,
        (event.merged state).evidenceById member = some item →
          item.matchesProfile state.requiredProfileId state.requiredProfileVersion = true
  source : event.resultingSource state ≠ .unknown →
    (event.supportedClaims state kept).sourceBases ≠ ∅
  verdict : (event.resultingAssurance state).substantive = true →
    (event.supportedClaims state kept).verdictBases ≠ ∅

/-- The new evidence is well timed. -/
def Timely (state : ControlState) (event : Reassess) : Prop :=
  ∀ evidenceId item, Keyed.find Evidence.evidenceId event.newEvidence evidenceId = some item →
    item.Issued state.logicalTime ∧ item.allows state.logicalTime .current

theorem Admissible.newCurrent (admissible : event.Admissible state)
    (found : Keyed.find Evidence.evidenceId event.newEvidence evidenceId = some item) :
    item.status = .current :=
  admissible.current item (Keyed.mem_of_find found)

/-- Old evidence is looked up as before. -/
theorem merged_old (admissible : event.Admissible state)
    (found : state.evidenceById evidenceId = some old) :
    Keyed.find Evidence.evidenceId event.newEvidence evidenceId = none := by
  rw [Keyed.find_eq_none]
  intro item member same
  have known : evidenceId ∈ state.evidenceIds := Keyed.mem_keys_iff_find.mpr ⟨old, found⟩
  apply Finset.disjoint_left.mp admissible.evidence known
  exact Keyed.mem_keys.mpr ⟨item, member, same⟩

theorem merged_evidence (evidenceId : String) : (event.merged state).evidenceById evidenceId =
    (Keyed.find Evidence.evidenceId event.newEvidence evidenceId).or
      (state.evidenceById evidenceId) :=
  Keyed.find_append _ _

theorem merged_bases (basisId : String) : (event.merged state).basesById basisId =
    (Keyed.find Basis.basisId event.newBases basisId).or (state.basesById basisId) :=
  Keyed.find_append _ _

end Reassess

/-- What the verifier expects depends on the result by its bases and by the evidence that is
current in it. -/
theorem expectedReassessClaims_eq {after : ControlState}
    (bases : ∀ basisId, after.basesById basisId = (event.merged state).basesById basisId)
    (current : ∀ member, (after.evidenceById member).any Evidence.isCurrent = true ↔
      member ∈ kept ∪ event.evidenceIds) :
    expectedReassessClaims state event after = event.supportedClaims state kept := by
  have supported : ∀ basis : Basis, basisIsSupported after.evidenceById basis =
      (basis.approved && basis.memberEvidenceIds ≠ ∅ &&
        basis.memberEvidenceIds ⊆ kept ∪ event.evidenceIds) := by
    intro basis
    simp only [basisIsSupported, Basis.supportedBy, current, Finset.subset_iff]
  have same : ∀ currentIds kind claim, reassessedBases event after currentIds kind claim =
      event.supportedBases state kept currentIds kind claim := by
    intro currentIds kind claim
    simp only [reassessedBases, Reassess.supportedBases, bases, supported]
  simp only [expectedReassessClaims, same]
  rfl

/-- The bases that a result claims as the verifier expects are there and supported. -/
theorem mem_reassessedBases {after : ControlState}
    (member : basisId ∈ reassessedBases event after current kind claim)
    (found : after.basesById basisId = some basis) :
    basis.kind = kind ∧ basis.claim = claim ∧
      basisIsSupported after.evidenceById basis = true := by
  have checked := (Finset.mem_filter.mp member).2
  rw [found, Option.any_some] at checked
  simp only [Bool.and_eq_true, decide_eq_true_eq] at checked
  exact ⟨checked.1.1, checked.1.2, checked.2⟩

theorem basisIsCurrent_of_reassessed {after : ControlState}
    (member : basisId ∈ reassessedBases event after current kind claim) :
    basisIsCurrent after basisId = true := by
  obtain ⟨basis, found, -⟩ := any_iff.mp (Finset.mem_filter.mp member).2
  exact any_iff.mpr ⟨basis, found, (mem_reassessedBases member found).2.2⟩

theorem revises_closing : Revises time (closing time requested) := by
  intro request
  simp only [closing]
  split
  · exact revises_close request
  · exact .inl rfl

theorem reassessRequests_find (found : state.requestsById requestId = some old) :
    Keyed.find ReassessmentRequest.requestId (event.requests state) requestId =
      some (closing state.logicalTime event.closeRequestIds.toFinset old) := by
  rw [Reassess.requests, Keyed.find_map revises_closing.requestId]
  exact congrArg (Option.map _) found

/-- The kernel closes the requests as the verifier expects. -/
theorem reassessRequests_closed {after : ControlState} (admissible : event.Admissible state)
    (requests : after.reassessmentRequests = event.requests state) :
    RequestsClosed state event after where
  distinct := admissible.distinct
  known := admissible.known
  pending := by
    rw [Finset.eq_empty_iff_forall_notMem]
    intro requestId member
    simp only [nonpendingIds, Finset.mem_filter, Finset.mem_inter] at member
    obtain ⟨⟨requested, -⟩, nonpending⟩ := member
    obtain ⟨request, found, status⟩ := any_iff.mp nonpending
    apply Finset.eq_empty_iff_forall_notMem.mp admissible.pending requestId
    refine Finset.mem_filter.mpr ⟨requested, any_iff.mpr ⟨request, found, ?_⟩⟩
    cases is : request.status with
    | pending => simp [is] at status
    | closed => rfl
  requestIds := by
    rw [ControlState.requestIds, requests]
    exact Keyed.keys_map revises_closing.requestId
  requests := by
    intro requestId old new found located
    rw [ControlState.requestsById, requests, reassessRequests_find found] at located
    cases located
    have named : old.requestId = requestId := Keyed.key_of_find found
    rw [closing, named]

/-- The old evidence that the statuses leave current. -/
def keptIds (state : ControlState) (status : Evidence → EvidenceStatus) : Finset String :=
  state.evidenceIds.filter (fun evidenceId =>
    (state.evidenceById evidenceId).any (fun item => status item = .current))

/-- A result with statuses of one's own for the old evidence, and each new item once. -/
def reassessCandidate (state : ControlState) (event : Reassess)
    (status : Evidence → EvidenceStatus) (obligation : ObligationStatus) : ControlState :=
  let interim := { state with
    obligation := obligation
    evidence := restatus status state.evidence ++
      Keyed.entries Evidence.evidenceId event.newEvidence
    bases := state.bases ++ Keyed.entries Basis.basisId event.newBases
    reassessmentRequests := event.requests state }
  interim.claiming (event.supportedClaims state (keptIds state status))
    (expectedReassessAudit event)

theorem reassessCandidate_extends (admissible : event.Admissible state) :
    Extends state (reassessCandidate state event status obligation) status
      (Keyed.entries Evidence.evidenceId event.newEvidence)
      (Keyed.entries Basis.basisId event.newBases) where
  evidence := rfl
  bases := rfl
  freshEvidence := by
    rw [Keyed.keys_entries]
    exact admissible.evidence
  freshBases := by
    rw [Keyed.keys_entries]
    exact admissible.basisIds
  distinctEvidence := Keyed.nodup_entries
  distinctBases := Keyed.nodup_entries

theorem reassessCandidate_evidence (admissible : event.Admissible state) (evidenceId : String) :
    (reassessCandidate state event status obligation).evidenceById evidenceId =
      (Keyed.find Evidence.evidenceId event.newEvidence evidenceId).or
        ((state.evidenceById evidenceId).map (fun item => item.withStatus (status item))) := by
  rw [(reassessCandidate_extends admissible).find_evidence, Keyed.find_entries]

theorem reassessCandidate_bases (basisId : String) :
    (reassessCandidate state event status obligation).basesById basisId =
      (event.merged state).basesById basisId := by
  change Keyed.find _ (_ ++ _) basisId = Keyed.find _ (_ ++ _) basisId
  rw [Keyed.find_append, Keyed.find_entries, Keyed.find_append]

theorem reassessCandidate_current (admissible : event.Admissible state) (member : String) :
    ((reassessCandidate state event status obligation).evidenceById member).any
        Evidence.isCurrent = true ↔ member ∈ keptIds state status ∪ event.evidenceIds := by
  rw [reassessCandidate_evidence admissible, Finset.mem_union]
  cases added : Keyed.find Evidence.evidenceId event.newEvidence member with
  | some item =>
      have new : member ∈ event.evidenceIds := Keyed.mem_keys_iff_find.mpr ⟨item, added⟩
      simp [Evidence.isCurrent, admissible.newCurrent added, new]
  | none =>
      have old : member ∉ event.evidenceIds := by
        rintro new
        obtain ⟨item, found⟩ := Keyed.mem_keys_iff_find.mp new
        cases found.symm.trans added
      rw [Option.none_or, or_iff_left old, keptIds, Finset.mem_filter]
      cases found : state.evidenceById member with
      | none => simp
      | some item =>
          have known : member ∈ state.evidenceIds := Keyed.mem_keys_iff_find.mpr ⟨item, found⟩
          simp only [Option.map_some, Option.any_some, known, true_and, decide_eq_true_eq]
          exact decide_eq_true_iff

theorem reassessCandidate_claims (admissible : event.Admissible state) :
    (reassessCandidate state event status obligation).claims =
      expectedReassessClaims state event (reassessCandidate state event status obligation) :=
  (expectedReassessClaims_eq reassessCandidate_bases
    (reassessCandidate_current admissible)).symm

/-- Every member of a basis claimed by the candidate fits the profile. -/
theorem reassessCandidate_profile (admissible : event.Admissible state)
    (supports : event.Supports state (keptIds state status))
    (known : basisId ∈ (reassessCandidate state event status obligation).currentBasisIds)
    (found : (reassessCandidate state event status obligation).basesById basisId = some basis)
    (supported : basisIsSupported
      (reassessCandidate state event status obligation).evidenceById basis = true) :
    basisIsSupportedUnder state.requiredProfileId state.requiredProfileVersion
      (reassessCandidate state event status obligation).evidenceById basis = true := by
  simp only [basisIsSupported, basisIsSupportedUnder, Basis.supportedBy, Bool.and_eq_true,
    decide_eq_true_eq] at supported ⊢
  refine ⟨supported.1, fun member inside => ?_⟩
  obtain ⟨item, located, current⟩ := any_iff.mp (supported.2 member inside)
  refine any_iff.mpr ⟨item, located, ?_⟩
  rw [Bool.and_eq_true]
  refine ⟨current, ?_⟩
  have fits := supports.profile basisId known basis (reassessCandidate_bases basisId ▸ found)
    member inside
  rw [Option.mem_def, reassessCandidate_evidence admissible] at located
  cases added : Keyed.find Evidence.evidenceId event.newEvidence member with
  | some new =>
      rw [added, Option.some_or] at located
      cases located
      exact fits item (by rw [Reassess.merged_evidence, added, Option.some_or])
  | none =>
      rw [added, Option.none_or, Option.map_eq_some_iff] at located
      obtain ⟨old, found', rfl⟩ := located
      exact fits old (by rw [Reassess.merged_evidence, added, Option.none_or, found'])

theorem reassessCandidate_accepted (valid : ValidState state)
    (admissible : event.Admissible state) (timely : event.Timely state)
    (alive : state.heartbeatMissed state.logicalTime = true →
      (event.resultingAssurance state).substantive = false)
    (supports : event.Supports state (keptIds state status))
    (admits : Admits state.logicalTime state.evidence status)
    (unseen : obligation = .current ∨ event.resultingAssurance state = .na) :
    Accepted state (.reassess event) (reassessCandidate state event status obligation) := by
  have extension : Extends state (reassessCandidate state event status obligation) status _ _ :=
    reassessCandidate_extends admissible
  have claims : (reassessCandidate state event status obligation).claims = _ :=
    reassessCandidate_claims admissible
  have sources : (reassessCandidate state event status obligation).currentSourceBasisIds = _ :=
    congrArg Claims.sourceBases claims
  have verdicts : (reassessCandidate state event status obligation).currentVerdictBasisIds = _ :=
    congrArg Claims.verdictBases claims
  have supported : ∀ basisId ∈
      (reassessCandidate state event status obligation).currentBasisIds,
      basisIsCurrent (reassessCandidate state event status obligation) basisId = true := by
    intro basisId known
    rcases Finset.mem_union.mp known with source | verdict
    · rw [sources] at source
      exact basisIsCurrent_of_reassessed source
    · rw [verdicts] at verdict
      exact basisIsCurrent_of_reassessed verdict
  refine ⟨⟨?_, ?_⟩, ?_, ?_, ?_⟩
  · constructor
    · exact extension.nodupEvidence valid.core.evidence
    · exact extension.nodupBases valid.core.bases
    · exact supported
    · intro basisId known basis found
      rw [sources] at known
      obtain ⟨kind, claim, -⟩ := mem_reassessedBases known found
      exact ⟨kind, claim⟩
    · intro basisId known basis found
      rw [verdicts] at known
      obtain ⟨kind, claim, -⟩ := mem_reassessedBases known found
      exact ⟨kind, claim⟩
    · exact supports.source
    · exact fun _ => supports.verdict
    · intro other
      rcases unseen with current | na
      · exact absurd current other
      · exact na
  · constructor
    · exact valid.temporal.time
    · exact valid.temporal.profile
    · apply extension.wellTimed valid.temporal (Int.le_refl _)
      · exact fun item member => (admits item member).1
      · intro item member
        have found := Keyed.mem_entries.mp member
        rw [admissible.newCurrent found]
        exact timely _ item found
    · intro basisId known basis found
      have current := supported basisId known
      rw [basisIsCurrent, found, Option.any_some] at current
      exact reassessCandidate_profile admissible supports known found current
    · change ((state.reassessmentRequests.map _).map ReassessmentRequest.requestId).Nodup
      rw [List.map_map]
      have sameIds : ReassessmentRequest.requestId ∘ closing state.logicalTime
          event.closeRequestIds.toFinset = ReassessmentRequest.requestId :=
        funext revises_closing.requestId
      rw [sameIds]
      exact valid.temporal.distinct
    · intro request member
      obtain ⟨old, known, rfl⟩ := List.mem_map.mp member
      exact revises_closing.valid (valid.temporal.requests old known)
    · exact valid.temporal.heartbeat
    · exact alive
  · exact extension.corePreserved (List.prefix_append _ _)
      (fun item member => (admits item member).2)
  · constructor
    · exact Int.le_refl _
    · exact fun _ _ _ found located => extension.sameMetadata found located
    · intro requestId old found
      exact ⟨_, reassessRequests_find found, revises_closing old⟩
    · intro _ old set new set'
      cases set.symm.trans set'
      exact Int.le_refl _
  · refine ⟨⟨?_, ?_, ?_, ?_, claims⟩, ⟨rfl, ⟨rfl, rfl⟩, rfl⟩, reassessRequests_closed admissible rfl,
      rfl⟩
    · rw [extension.evidenceIds, Keyed.keys_entries]
      exact Finset.union_sdiff_cancel_left admissible.evidence
    · intro evidenceId item found
      rw [reassessCandidate_evidence admissible, found, Option.some_or]
    · rw [extension.basisIds, Keyed.keys_entries]
      exact Finset.union_sdiff_cancel_left admissible.basisIds
    · intro basisId basis found
      rw [reassessCandidate_bases, Reassess.merged_bases, found, Option.some_or]

end CsdFoundry.Kernel
