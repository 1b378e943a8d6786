import CsdFoundry.Kernel.Candidates

/-! What an event takes away from a control: the evidence it withdraws, the bases it leaves,
and the claims that remain. Weakenings compose, and their order does not matter. -/
namespace CsdFoundry.Kernel

/-- The claims that remain when the bases are kept that fit, and the verdict bases are dropped
of a control that is not current (`clears`) or of a substantive verdict (`forces`). -/
def Claims.weaken (obligation : ObligationStatus) (keeps : String → Bool) (clears forces : Bool)
    (claims : Claims) : Claims :=
  let sourceBases := claims.sourceBases.filter (fun basisId => keeps basisId)
  let verdictBases :=
    if (clears = true ∧ obligation ≠ .current) ∨
        (forces = true ∧ obligation = .current ∧ claims.assurance.substantive = true) then ∅
    else claims.verdictBases.filter (fun basisId => keeps basisId)
  { sourceState := supportedSource claims.sourceState sourceBases
    assurance :=
      if obligation ≠ .current then .na
      else if claims.assurance.substantive && verdictBases = ∅ then .stale
      else claims.assurance
    sourceBases := sourceBases
    verdictBases := verdictBases }

/-- A substantive claim has a basis, and a control that is not current has no assurance. -/
structure Claims.Coherent (obligation : ObligationStatus) (claims : Claims) : Prop where
  sourced : claims.sourceState ≠ .unknown → claims.sourceBases ≠ ∅
  verified : obligation = .current → claims.assurance.substantive = true →
    claims.verdictBases ≠ ∅
  inapplicable : obligation ≠ .current → claims.assurance = .na

namespace Claims
variable {claims : Claims} {obligation : ObligationStatus} {keeps keeps' : String → Bool}

theorem weaken_congr (same : ∀ basisId ∈ claims.sourceBases ∪ claims.verdictBases,
    keeps basisId = keeps' basisId) :
    claims.weaken obligation keeps clears forces = claims.weaken obligation keeps' clears forces := by
  have sources : claims.sourceBases.filter (fun basisId => keeps basisId) =
      claims.sourceBases.filter (fun basisId => keeps' basisId) :=
    Finset.filter_congr fun basisId member => by rw [same basisId (Finset.mem_union_left _ member)]
  have verdicts : claims.verdictBases.filter (fun basisId => keeps basisId) =
      claims.verdictBases.filter (fun basisId => keeps' basisId) :=
    Finset.filter_congr fun basisId member => by rw [same basisId (Finset.mem_union_right _ member)]
  simp only [weaken, sources, verdicts]

theorem supportedSource_twice (source : SourceState) (bases : Finset String) :
    supportedSource (supportedSource source (bases.filter (fun basisId => keeps basisId)))
        (bases.filter (fun basisId => keeps basisId = true ∧ keeps' basisId = true)) =
      supportedSource source
        (bases.filter (fun basisId => keeps basisId = true ∧ keeps' basisId = true)) := by
  by_cases lost : bases.filter (fun basisId => keeps basisId) = ∅
  · rw [← Finset.filter_filter, lost, Finset.filter_empty]
    by_cases unknown : source = .unknown <;> simp [supportedSource, unknown]
  · by_cases unknown : source = .unknown <;> simp [supportedSource, unknown, lost]

/-- One weakening after another is a single one. -/
theorem weaken_weaken (claims : Claims) :
    (claims.weaken obligation keeps clears forces).weaken obligation keeps' clears' forces' =
      claims.weaken obligation (fun basisId => keeps basisId && keeps' basisId)
        (clears || clears') (forces || forces') := by
  have stale : Assurance.stale.substantive = false := rfl
  simp only [weaken, Finset.filter_filter, supportedSource_twice, Bool.and_eq_true]
  by_cases current : obligation = .current
  · by_cases substantive : claims.assurance.substantive = true
    · cases forces with
      | true => simp [current, substantive, stale]
      | false =>
          by_cases lost : claims.verdictBases.filter (fun basisId => keeps basisId) = ∅
          · have lost' : claims.verdictBases.filter
                (fun basisId => keeps basisId = true ∧ keeps' basisId = true) = ∅ := by
              rw [← Finset.filter_filter, lost, Finset.filter_empty]
            simp [current, substantive, lost, lost', stale]
          · simp [current, substantive, lost, Finset.filter_filter]
    · simp [current, substantive, Finset.filter_filter]
  · cases clears <;> simp [current, Finset.filter_filter]

theorem weaken_coherent :
    (claims.weaken obligation keeps clears forces).Coherent obligation where
  sourced := by
    simp only [Claims.weaken, supportedSource]
    split <;> simp_all
  verified := by
    intro current substantive
    simp only [Claims.weaken, current, ne_eq, not_true_eq_false, if_false] at substantive ⊢
    intro lost
    rw [lost] at substantive
    have stale : Assurance.stale.substantive = false := rfl
    by_cases was : claims.assurance.substantive = true
    · simp [was, stale] at substantive
    · simp [was] at substantive
  inapplicable := by
    intro other
    simp [Claims.weaken, other]

/-- Keeping every basis changes nothing. -/
theorem weaken_nothing (coherent : claims.Coherent obligation)
    (kept : ∀ basisId ∈ claims.sourceBases ∪ claims.verdictBases, keeps basisId = true) :
    claims.weaken obligation keeps false false = claims := by
  have sources : claims.sourceBases.filter (fun basisId => keeps basisId) = claims.sourceBases :=
    Finset.filter_true_of_mem fun basisId member => kept basisId (Finset.mem_union_left _ member)
  have verdicts : claims.verdictBases.filter (fun basisId => keeps basisId) =
      claims.verdictBases :=
    Finset.filter_true_of_mem fun basisId member => kept basisId (Finset.mem_union_right _ member)
  have source : supportedSource claims.sourceState claims.sourceBases = claims.sourceState := by
    rw [supportedSource, if_neg fun lost => coherent.sourced lost.1 lost.2]
  simp only [weaken, sources, verdicts, source, Bool.false_eq_true, false_and, or_self, if_false]
  by_cases current : obligation = .current
  · by_cases substantive : claims.assurance.substantive = true
    · simp [current, substantive, coherent.verified current substantive]
    · simp [current, substantive]
  · rw [if_pos current, ← coherent.inapplicable current]

theorem weaken_bases : (claims.weaken obligation keeps clears forces).sourceBases ∪
    (claims.weaken obligation keeps clears forces).verdictBases ⊆
      (claims.sourceBases ∪ claims.verdictBases).filter (fun basisId => keeps basisId) := by
  intro basisId member
  rw [Finset.mem_filter, Finset.mem_union]
  rcases Finset.mem_union.mp member with source | verdict
  · exact ⟨.inl (Finset.mem_filter.mp source).1, (Finset.mem_filter.mp source).2⟩
  · simp only [weaken] at verdict
    split at verdict
    · cases Finset.notMem_empty _ verdict
    · exact ⟨.inr (Finset.mem_filter.mp verdict).1, (Finset.mem_filter.mp verdict).2⟩

end Claims

/-! ### The events that only take away -/

namespace CsdEvent

/-- The evidence that supports no basis any more after the event. -/
def affects : CsdEvent → Evidence → Bool
  | .dependencyChange event, item => event.dependencyId ∈ item.dependencies
  | .advanceClock event, item => item.due event.targetTime
  | .profileChange event, item =>
      !item.matchesProfile (some event.profileId) (some event.profileVersion)
  | _, _ => false

/-- The status of an old item after the event. -/
def status : CsdEvent → Evidence → EvidenceStatus
  | .dependencyChange event, item => dependencyStatus event item
  | .advanceClock event, item => clockStatus event item
  | _, item => item.status

def clears : CsdEvent → Bool
  | .advanceClock _ | .profileChange _ => true
  | _ => false

/-- A missed heartbeat. -/
def forces (heartbeat : Option HeartbeatState) : CsdEvent → Bool
  | .advanceClock event => heartbeat.any (·.dueAt ≤ event.targetTime)
  | _ => false

/-- The event adds no evidence and no basis. -/
def weakens : CsdEvent → Bool
  | .reassess _ | .retireControl _ => false
  | _ => true

end CsdEvent

/-- No member of the basis is affected by the event. -/
def ControlState.keeps (state : ControlState) (event : CsdEvent) (basisId : String) : Bool :=
  (state.basesById basisId).any (fun basis =>
    decide (∀ member ∈ basis.memberEvidenceIds,
      ((state.evidenceById member).any event.affects) = false))

/-- Every current basis is supported under the required profile, and the claims cohere. -/
structure Coherent (state : ControlState) : Prop where
  supported : ∀ basisId ∈ state.currentBasisIds, basisIsCurrentUnderProfile state basisId = true
  claims : state.claims.Coherent state.obligation

theorem ValidState.coherent (valid : ValidState state) : Coherent state where
  supported := by
    intro basisId member
    obtain ⟨basis, found, -⟩ := any_iff.mp (valid.core.supported basisId member)
    exact any_iff.mpr ⟨basis, found, valid.temporal.bases basisId member basis found⟩
  claims := ⟨valid.core.sourced, valid.core.verified, valid.core.inapplicable⟩

/-- A basis that was supported is supported afterwards unless the event affects a member. -/
theorem keeps_iff {state after : ControlState} {event : CsdEvent} {acceptable : Evidence → Bool}
    (supported : basisIsCurrentUnderProfile state basisId = true)
    (bases : after.bases = state.bases)
    (evidence : after.evidence = restatus event.status state.evidence)
    (accepts : ∀ item : Evidence, item.status = .current →
      item.matchesProfile state.requiredProfileId state.requiredProfileVersion = true →
      acceptable (item.withStatus (event.status item)) = !event.affects item) :
    (after.basesById basisId).any (Basis.supportedBy after.evidenceById acceptable) =
      state.keeps event basisId := by
  obtain ⟨basis, found, before⟩ := any_iff.mp supported
  simp only [Basis.supportedBy, Bool.and_eq_true, decide_eq_true_eq] at before
  obtain ⟨⟨approved, complete⟩, members⟩ := before
  have same : after.basesById basisId = some basis := by
    rw [ControlState.basesById, bases]
    exact found
  have located : ∀ member ∈ basis.memberEvidenceIds,
      (after.evidenceById member).any acceptable = true ↔
        (state.evidenceById member).any event.affects = false := by
    intro member inside
    obtain ⟨item, known, fits⟩ := any_iff.mp (members member inside)
    rw [Bool.and_eq_true, Evidence.isCurrent_iff] at fits
    have known' : state.evidenceById member = some item := known
    rw [ControlState.evidenceById, evidence, find_restatus, ← ControlState.evidenceById, known',
      Option.map_some, Option.any_some, Option.any_some, accepts item fits.1 fits.2]
    cases event.affects item <;> simp
  rw [Option.mem_def] at found
  rw [ControlState.keeps, same, found, Option.any_some, Option.any_some, Basis.supportedBy,
    approved, Bool.true_and, decide_eq_true complete, Bool.true_and]
  exact decide_eq_decide.mpr (forall₂_congr located)

/-- What an event that only takes away leaves. -/
structure Weakened (state : ControlState) (event : CsdEvent) (after : ControlState) : Prop where
  controlId : after.controlId = state.controlId
  obligation : after.obligation = state.obligation
  evidence : after.evidence = restatus event.status state.evidence
  bases : after.bases = state.bases
  claims : after.claims = state.claims.weaken state.obligation (state.keeps event) event.clears
    (event.forces state.heartbeat)
  coherent : Coherent after

theorem current_after_dependency {item : Evidence} (current : item.status = .current) :
    (item.withStatus ((CsdEvent.dependencyChange event).status item)).isCurrent =
      !(CsdEvent.dependencyChange event).affects item := by
  by_cases depends : event.dependencyId ∈ item.dependencies <;>
    simp [CsdEvent.status, CsdEvent.affects, dependencyStatus, Evidence.affectedBy,
      Evidence.isCurrent, current, depends]

theorem current_after_clock {item : Evidence} (current : item.status = .current) :
    (item.withStatus ((CsdEvent.advanceClock event).status item)).isCurrent =
      !(CsdEvent.advanceClock event).affects item := by
  by_cases due : item.due event.targetTime = true <;>
    simp [CsdEvent.status, CsdEvent.affects, clockStatus, Evidence.isCurrent, current, due]

theorem ControlState.mem_currentBases {state : ControlState} :
    state.currentBasisIds = state.claims.sourceBases ∪ state.claims.verdictBases := rfl

variable {state after : ControlState} {event : CsdEvent} {trace : TransitionTrace}

/-- The bases that are left are supported under the profile that is required now. -/
theorem supported_after (coherent : Coherent state) (bases : after.bases = state.bases)
    (evidence : after.evidence = restatus event.status state.evidence)
    (claims : after.claims = state.claims.weaken state.obligation (state.keeps event) clears forces)
    (accepts : ∀ item : Evidence, item.status = .current →
      item.matchesProfile state.requiredProfileId state.requiredProfileVersion = true →
      ((item.withStatus (event.status item)).isCurrent &&
        item.matchesProfile after.requiredProfileId after.requiredProfileVersion) =
          !event.affects item) :
    ∀ basisId ∈ after.currentBasisIds, basisIsCurrentUnderProfile after basisId = true := by
  intro basisId member
  rw [ControlState.mem_currentBases, claims] at member
  obtain ⟨before, kept⟩ := Finset.mem_filter.mp (Claims.weaken_bases member)
  rw [basisIsCurrentUnderProfile, keeps_iff (coherent.supported basisId before) bases evidence]
  · exact kept
  · exact accepts

theorem dependencyClaims_weaken {event : DependencyChange} :
    dependencyClaims state (dependencyInterim state event) = state.claims.weaken state.obligation
      (basisIsCurrent (dependencyInterim state event)) false false := by
  simp [dependencyClaims, Claims.weaken, ControlState.claims]

theorem canonicalClaims_weaken {interim : ControlState} {forceStale : Bool}
    (sources : interim.currentSourceBasisIds = state.currentSourceBasisIds)
    (verdicts : interim.currentVerdictBasisIds = state.currentVerdictBasisIds) :
    canonicalClaims state interim forceStale = state.claims.weaken state.obligation
      (basisIsCurrentUnderProfile interim) true forceStale := by
  simp only [canonicalClaims, survivingBases, Claims.weaken, ControlState.claims, sources, verdicts]
  generalize state.currentVerdictBasisIds.filter
    (fun basisId => basisIsCurrentUnderProfile interim basisId) = survivors
  by_cases current : state.obligation = .current
  · by_cases substantive : state.assurance.substantive = true
    · by_cases lost : survivors = ∅ <;> cases forceStale <;> simp [current, substantive, lost]
    · simp [current, substantive]
  · simp [current]

theorem dependency_weakens {change : DependencyChange} (coherent : Coherent state) :
    Weakened state (.dependencyChange change) (applyDependencyChange state change).1 := by
  have evidence : (applyDependencyChange state change).1.evidence =
      restatus (CsdEvent.dependencyChange change).status state.evidence :=
    List.map_congr_left fun item _ => invalidate_affected
  have claims : (applyDependencyChange state change).1.claims = state.claims.weaken
      state.obligation (state.keeps (.dependencyChange change)) false false := by
    refine Eq.trans (@dependencyClaims_weaken state change) (Claims.weaken_congr ?_)
    intro basisId member
    exact keeps_iff (coherent.supported basisId member) rfl evidence
      fun item current _ => current_after_dependency current
  refine ⟨rfl, rfl, evidence, rfl, claims, ?_, ?_⟩
  · refine supported_after coherent rfl evidence claims fun item current fits => ?_
    rw [current_after_dependency current]
    exact (Bool.and_eq_left_iff_imp).mpr fun _ => fits
  · rw [claims]
    exact Claims.weaken_coherent

theorem clock_weakens {event : AdvanceClock} (coherent : Coherent state)
    (accepted : applyAdvanceClock state event = .ok (after, trace)) :
    Weakened state (.advanceClock event) after := by
  obtain ⟨-, rfl⟩ := applyAdvanceClock_ok accepted
  have evidence : (clockInterim state event).evidence =
      restatus (CsdEvent.advanceClock event).status state.evidence :=
    List.map_congr_left fun item _ => expire_due
  have accepts : ∀ item : Evidence, item.status = .current →
      item.matchesProfile state.requiredProfileId state.requiredProfileVersion = true →
      ((item.withStatus ((CsdEvent.advanceClock event).status item)).isCurrent &&
        item.matchesProfile state.requiredProfileId state.requiredProfileVersion) =
          !(CsdEvent.advanceClock event).affects item := by
    intro item current fits
    rw [current_after_clock current, fits, Bool.and_true]
  have claims : canonicalClaims state (clockInterim state event)
      (state.heartbeatMissed event.targetTime) = state.claims.weaken state.obligation
        (state.keeps (.advanceClock event)) true (state.heartbeatMissed event.targetTime) := by
    have canonical : canonicalClaims state (clockInterim state event)
      (state.heartbeatMissed event.targetTime) = _ := canonicalClaims_weaken rfl rfl
    refine canonical.trans (Claims.weaken_congr fun basisId member => ?_)
    exact keeps_iff (coherent.supported basisId member) rfl evidence accepts
  refine ⟨rfl, rfl, evidence, rfl, claims, ?_, ?_⟩
  · exact supported_after coherent rfl evidence claims accepts
  · rw [claiming_claims, claims]
    exact Claims.weaken_coherent

theorem profile_weakens {event : ProfileChange} (coherent : Coherent state)
    (accepted : applyProfileChange state event = .ok (after, trace)) :
    Weakened state (.profileChange event) after := by
  obtain ⟨-, rfl⟩ := applyProfileChange_ok accepted
  set interim := profileInterim state event (state.reassessmentRequests ++
    (event.request state.logicalTime).toList) with defined
  have evidence : interim.evidence =
      restatus (CsdEvent.profileChange event).status state.evidence := restatus_same.symm
  have accepts : ∀ item : Evidence, item.status = .current →
      item.matchesProfile state.requiredProfileId state.requiredProfileVersion = true →
      ((item.withStatus ((CsdEvent.profileChange event).status item)).isCurrent &&
        item.matchesProfile (some event.profileId) (some event.profileVersion)) =
          !(CsdEvent.profileChange event).affects item := by
    intro item current _
    simp [CsdEvent.status, CsdEvent.affects, Evidence.isCurrent, current]
  have claims : canonicalClaims state interim false = state.claims.weaken state.obligation
      (state.keeps (.profileChange event)) true false := by
    have canonical : canonicalClaims state interim false = _ := canonicalClaims_weaken rfl rfl
    refine canonical.trans (Claims.weaken_congr fun basisId member => ?_)
    exact keeps_iff (coherent.supported basisId member) rfl evidence accepts
  refine ⟨rfl, rfl, evidence, rfl, claims, ?_, ?_⟩
  · exact supported_after coherent rfl evidence claims accepts
  · rw [claiming_claims, claims]
    exact Claims.weaken_coherent

/-- An event that touches neither evidence nor bases nor claims. -/
theorem idle_weakens (coherent : Coherent state) (controlId : after.controlId = state.controlId)
    (substance : SameSubstance state after) (profile : SameProfile state after)
    (affects : ∀ item, event.affects item = false) (status : event.status = Evidence.status)
    (clears : event.clears = false) (forces : event.forces state.heartbeat = false) :
    Weakened state event after := by
  have kept : ∀ basisId ∈ state.claims.sourceBases ∪ state.claims.verdictBases,
      state.keeps event basisId = true := by
    intro basisId member
    obtain ⟨basis, found, -⟩ := any_iff.mp (coherent.supported basisId member)
    rw [Option.mem_def] at found
    rw [ControlState.keeps, found, Option.any_some, decide_eq_true_eq]
    intro member _
    cases state.evidenceById member with
    | none => rfl
    | some item => exact affects item
  have claims : after.claims = state.claims.weaken state.obligation (state.keeps event)
      event.clears (event.forces state.heartbeat) := by
    rw [substance.claims, clears, forces, Claims.weaken_nothing coherent.claims kept]
  have evidence : after.evidence = restatus event.status state.evidence := by
    rw [substance.evidence, status, restatus_same]
  refine ⟨controlId, substance.obligation, evidence, substance.bases, claims, ?_, ?_⟩
  · refine supported_after coherent substance.bases evidence claims fun item current fits => ?_
    rw [status, withStatus_same, profile.profileId, profile.profileVersion, fits, affects item,
      Evidence.isCurrent_iff.mpr current]
    rfl
  · rw [claims, substance.obligation]
    exact Claims.weaken_coherent

/-- What every event does that adds neither evidence nor bases. -/
theorem applyEvent_weakens (coherent : Coherent state) (weakens : event.weakens = true)
    (accepted : applyEvent state event = .ok (after, trace)) : Weakened state event after := by
  cases event with
  | dependencyChange event =>
      cases accepted
      exact dependency_weakens coherent
  | reassess event => cases weakens
  | retireControl event => cases weakens
  | advanceClock event => exact clock_weakens coherent accepted
  | profileChange event => exact profile_weakens coherent accepted
  | requestReassessment event =>
      obtain ⟨-, request, -, rfl⟩ := applyRequestReassessment_ok accepted
      exact idle_weakens coherent rfl ⟨rfl, rfl, rfl, rfl⟩ ⟨rfl, rfl⟩ (fun _ => rfl) rfl rfl rfl
  | recordHeartbeat event =>
      obtain ⟨-, -, interval, -, -, rfl⟩ := applyRecordHeartbeat_ok accepted
      exact idle_weakens coherent rfl ⟨rfl, rfl, rfl, rfl⟩ ⟨rfl, rfl⟩ (fun _ => rfl) rfl rfl rfl

end CsdFoundry.Kernel
