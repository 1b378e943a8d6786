import CsdFoundry.Kernel.Candidates

/-! For each event, a result that the verifier accepts on a valid state. -/
namespace CsdFoundry.Kernel

variable {state : ControlState}

theorem ReassessmentRequest.Valid.later {request : ReassessmentRequest}
    (valid : request.Valid time) (later : time ≤ time') : request.Valid time' where
  notNegative := valid.notNegative
  notFuture := valid.notFuture.trans later
  due := valid.due
  pending := valid.pending
  closed status := by
    obtain ⟨closedAt, before, set⟩ := valid.closed status
    exact ⟨closedAt, before.trans later, set⟩

theorem HeartbeatState.Valid.later {heartbeat : HeartbeatState} (valid : heartbeat.Valid time)
    (later : time ≤ time') : heartbeat.Valid time' where
  positive := valid.positive
  notFuture := valid.notFuture.trans later
  deadline := valid.deadline

theorem basisIsCurrent_of_profile (current : basisIsCurrentUnderProfile state basisId = true) :
    basisIsCurrent state basisId = true := by
  obtain ⟨basis, found, supported⟩ := any_iff.mp current
  refine any_iff.mpr ⟨basis, found, Basis.supportedBy_mono ?_ supported⟩
  intro item accepted
  simp only [Bool.and_eq_true] at accepted
  exact accepted.1

/-- Nothing about the requests changes. -/
theorem TemporalPreserved.ofSame {before after : ControlState}
    (extension : Extends before after status newEvidence newBases)
    (time : before.logicalTime ≤ after.logicalTime)
    (requests : after.reassessmentRequests = before.reassessmentRequests)
    (profile : SameProfile before after) : TemporalPreserved before after where
  time := time
  evidence _ _ _ found located := extension.sameMetadata found located
  requests requestId old found := by
    refine ⟨old, ?_, .inl rfl⟩
    rwa [ControlState.requestsById, requests]
  profile _ old set new set' := by
    rw [profile.profileVersion, Option.mem_def.mp set] at set'
    cases set'
    exact Int.le_refl old

section DependencyChange

/-- The kernel's result, under any obligation. -/
def dependencyCandidate (state : ControlState) (event : DependencyChange)
    (obligation : ObligationStatus) : ControlState :=
  { (applyDependencyChange state event).1 with obligation := obligation }

theorem dependencyCandidate_extends :
    Extends state (dependencyCandidate state event obligation) (dependencyStatus event) [] [] := by
  apply Extends.same
  · simp only [dependencyCandidate, applyDependencyChange, claiming_evidence, dependencyInterim,
      restatus, invalidate_affected]
  · rfl

theorem dependencyCandidate_claims :
    (dependencyCandidate state event obligation).claims =
      expectedDependencyClaims state (dependencyCandidate state event obligation) := by
  have split : ∀ bases : Finset String,
      (if state.obligation ≠ .current then Assurance.na
        else if state.assurance.substantive && bases = ∅ then .stale else state.assurance) =
      if state.obligation ≠ .current then .na
        else if state.assurance.substantive = true ∧ bases = ∅ then .stale
        else state.assurance := by
    intro bases
    simp
  change dependencyClaims state (dependencyInterim state event) = _
  simp only [dependencyClaims, split]
  rfl

/-- The verifier accepts the result; it does not see the obligation where no verdict applies. -/
theorem dependencyCandidate_accepted (valid : ValidState state)
    (unseen : obligation = state.obligation ∨ state.assurance = .na) :
    Accepted state (.dependencyChange event) (dependencyCandidate state event obligation) := by
  have extension : Extends state (dependencyCandidate state event obligation) _ [] [] :=
    dependencyCandidate_extends
  have claims : (dependencyCandidate state event obligation).claims = _ :=
    dependencyCandidate_claims
  have same : SameProfile state (dependencyCandidate state event obligation) := ⟨rfl, rfl⟩
  refine ⟨⟨?_, ?_⟩, ?_, ?_, ?_⟩
  · apply valid.core.expected claims (extension.nodupEvidence valid.core.evidence) rfl
      (Finset.filter_subset _ _) (Finset.filter_subset _ _) ?_ unseen
    intro basisId survives
    rcases Finset.mem_union.mp survives with source | verdict
    · exact (Finset.mem_filter.mp source).2
    · exact (Finset.mem_filter.mp verdict).2
  · constructor
    · exact valid.temporal.time
    · exact valid.temporal.profile
    · apply extension.wellTimed valid.temporal (Int.le_refl _)
      · intro item member
        simp only [dependencyStatus]
        split
        · trivial
        · exact (valid.temporal.evidence item member).2
      · simp
    · intro basisId survives basis found
      have kept : basisId ∈ state.currentBasisIds ∧
          basisIsCurrent (dependencyCandidate state event obligation) basisId = true := by
        rcases Finset.mem_union.mp survives with source | verdict
        · obtain ⟨known, current⟩ := Finset.mem_filter.mp source
          exact ⟨Finset.mem_union_left _ known, current⟩
        · obtain ⟨known, current⟩ := Finset.mem_filter.mp verdict
          exact ⟨Finset.mem_union_right _ known, current⟩
      have supported := kept.2
      rw [basisIsCurrent, found, Option.any_some] at supported
      exact extension.underProfile valid same kept.1 found supported
    · exact valid.temporal.distinct
    · exact valid.temporal.requests
    · exact valid.temporal.heartbeat
    · intro missed
      apply expectedClaims_unverified claims
      intro substantive
      have dead := valid.temporal.alive missed
      exact absurd (dead.symm.trans substantive) Bool.false_ne_true
  · apply extension.corePreserved (List.prefix_append _ _)
    intro item _ current
    simp only [dependencyStatus] at current
    split at current
    · cases current
    · exact current
  · exact .ofSame extension (Int.le_refl _) rfl same
  · refine ⟨⟨?_, rfl, ?_, claims⟩, ⟨rfl, same, rfl⟩, rfl⟩
    · rw [extension.evidenceIds]
      simp [Keyed.keys]
    · exact fun _ _ _ found located => extension.statuses found located

end DependencyChange

section AdvanceClock

/-- The clock gives every item a status that its deadline allows. -/
theorem clockStatus_allowed {item : Evidence} {event : AdvanceClock}
    (forward : time ≤ event.targetTime) (allowed : item.allows time item.status) :
    item.allows event.targetTime (clockStatus event item) := by
  simp only [clockStatus]
  split
  · case isTrue due =>
      simp only [Bool.and_eq_true, Evidence.due] at due
      obtain ⟨deadline, set, passed⟩ := any_iff.mp due.2
      intro other set'
      rw [Option.mem_def.mp set] at set'
      cases set'
      simpa using passed
  · case isFalse notDue =>
      cases status : item.status with
      | invalidated => trivial
      | expired =>
          rw [status] at allowed
          exact fun deadline set => (allowed deadline set).trans forward
      | current =>
          intro deadline set
          simp only [Evidence.isCurrent, status, Evidence.due, decide_true, Bool.true_and,
            not_any_iff, decide_eq_true_eq, Int.not_le] at notDue
          exact notDue deadline set

/-- The bases that survive the clock in the verifier's account. -/
def clockSurvivors (state : ControlState) (event : AdvanceClock) :
    Finset String × Finset String :=
  let (source, verdict) := survivingBases (clockInterim state event)
  (source, if state.heartbeatMissed event.targetTime then ∅ else verdict)

/-- The result that the verifier asks for, under any obligation. -/
def clockCandidate (state : ControlState) (event : AdvanceClock)
    (obligation : ObligationStatus) : ControlState :=
  { (clockInterim state event).claiming (expectedClaims state (clockSurvivors state event))
      (advanceAudit state event) with obligation := obligation }

theorem clockCandidate_extends :
    Extends state (clockCandidate state event obligation) (clockStatus event) [] [] := by
  apply Extends.same
  · simp only [clockCandidate, claiming_evidence, clockInterim, restatus, expire_due]
  · rfl

theorem mem_clockSurvivors
    (survives : basisId ∈ (clockSurvivors state event).1 ∪ (clockSurvivors state event).2) :
    basisId ∈ state.currentBasisIds ∧
      basisIsCurrentUnderProfile (clockInterim state event) basisId = true := by
  rcases Finset.mem_union.mp survives with source | verdict
  · obtain ⟨known, current⟩ := Finset.mem_filter.mp source
    exact ⟨Finset.mem_union_left _ known, current⟩
  · simp only [clockSurvivors] at verdict
    split at verdict
    · cases verdict
    · obtain ⟨known, current⟩ := Finset.mem_filter.mp verdict
      exact ⟨Finset.mem_union_right _ known, current⟩

theorem clockCandidate_accepted (valid : ValidState state)
    (forward : state.logicalTime ≤ event.targetTime)
    (unseen : obligation = state.obligation ∨ state.assurance = .na) :
    Accepted state (.advanceClock event) (clockCandidate state event obligation) := by
  have extension : Extends state (clockCandidate state event obligation) _ [] [] :=
    clockCandidate_extends
  have same : SameProfile state (clockCandidate state event obligation) := ⟨rfl, rfl⟩
  have claims : (clockCandidate state event obligation).claims =
      expectedClaims state (clockSurvivors state event) := rfl
  refine ⟨⟨?_, ?_⟩, ?_, ?_, ?_⟩
  · apply valid.core.expected claims (extension.nodupEvidence valid.core.evidence) rfl
      (Finset.filter_subset _ _) ?_ ?_ unseen
    · simp only [clockSurvivors]
      split
      · exact Finset.empty_subset _
      · exact Finset.filter_subset _ _
    · exact fun basisId survives => basisIsCurrent_of_profile (mem_clockSurvivors survives).2
  · constructor
    · exact valid.temporal.time.trans forward
    · exact valid.temporal.profile
    · apply extension.wellTimed valid.temporal forward
      · intro item member
        obtain ⟨-, allowed⟩ := valid.temporal.evidence item member
        exact clockStatus_allowed forward allowed
      · simp
    · intro basisId survives basis found
      have supported := (mem_clockSurvivors survives).2
      have located : (clockInterim state event).basesById basisId = some basis := found
      rwa [basisIsCurrentUnderProfile, located, Option.any_some] at supported
    · exact valid.temporal.distinct
    · exact fun request member => (valid.temporal.requests request member).later forward
    · exact fun heartbeat recorded => (valid.temporal.heartbeat heartbeat recorded).later forward
    · intro missed
      apply expectedClaims_unverified claims
      intro _
      simp only [clockSurvivors]
      exact if_pos missed
  · apply extension.corePreserved (List.prefix_append _ _)
    intro item _ current
    simp only [clockStatus] at current
    split at current
    · cases current
    · exact current
  · exact .ofSame extension forward rfl same
  · refine ⟨forward, rfl, ?_, rfl, ?_, rfl, same, rfl, rfl, rfl⟩
    · rw [extension.evidenceIds]
      simp [Keyed.keys]
    · exact fun _ _ _ found located => extension.statuses found located

end AdvanceClock

section ProfileChange

@[simp] theorem close_requestId {request : ReassessmentRequest} :
    (request.close time).requestId = request.requestId := by
  simp only [ReassessmentRequest.close]
  split <;> rfl

theorem closed_valid {request : ReassessmentRequest} (valid : request.Valid time) :
    (request.close time).Valid time := by
  simp only [ReassessmentRequest.close]
  split
  · exact valid
  · constructor
    · exact valid.notNegative
    · exact valid.notFuture
    · exact valid.due
    · exact fun pending => by cases pending
    · exact fun _ => ⟨time, Int.le_refl time, rfl⟩

/-- What a transition at the given time may do to the old requests. -/
def Revises (time : Int) (revise : ReassessmentRequest → ReassessmentRequest) : Prop :=
  ∀ request, revise request = request ∨
    (request.status = .pending ∧ revise request = request.close time)

theorem revises_id : Revises time id := fun _ => .inl rfl

theorem revises_close : Revises time (ReassessmentRequest.close time) := by
  intro request
  cases status : request.status with
  | pending => exact .inr ⟨rfl, rfl⟩
  | closed => exact .inl (by simp [ReassessmentRequest.close, status])

namespace Revises
variable (revises : Revises time revise)
include revises

theorem requestId (request : ReassessmentRequest) :
    (revise request).requestId = request.requestId := by
  rcases revises request with same | ⟨-, closed⟩
  · rw [same]
  · rw [closed, close_requestId]

theorem valid {request : ReassessmentRequest} (valid : request.Valid time) :
    (revise request).Valid time := by
  rcases revises request with same | ⟨-, closed⟩
  · rwa [same]
  · rw [closed]
    exact closed_valid valid

end Revises

/-- The result that the verifier asks for, whatever happens to the old requests. -/
def profileCandidate (state : ControlState) (event : ProfileChange)
    (revise : ReassessmentRequest → ReassessmentRequest) : ControlState :=
  let interim := profileInterim state event (state.reassessmentRequests.map revise ++
    (event.request state.logicalTime).toList)
  interim.claiming (expectedClaims state (survivingBases interim)) (profileAudit state event)

theorem profileCandidate_requests (revises : Revises state.logicalTime revise)
    (requestId : String) : (profileCandidate state event revise).requestsById requestId =
      (Keyed.find ReassessmentRequest.requestId
          (event.request state.logicalTime).toList requestId).or
        ((state.requestsById requestId).map revise) := by
  change Keyed.find _ (_ ++ _) requestId = _
  rw [Keyed.find_append, Keyed.find_map revises.requestId]
  rfl

theorem profileCandidate_requestIds (revises : Revises state.logicalTime revise) :
    (profileCandidate state event revise).requestIds = state.requestIds ∪
      Keyed.keys ReassessmentRequest.requestId (event.request state.logicalTime).toList := by
  change Keyed.keys _ (_ ++ _) = _
  rw [Keyed.keys_append, Keyed.keys_map revises.requestId]
  rfl

theorem profileRequest_valid {event : ProfileChange} {request : ReassessmentRequest}
    (valid : ValidState state) (admissible : event.Admissible state)
    (filed : event.request state.logicalTime = some request) :
    request.Valid state.logicalTime := by
  obtain ⟨-, due⟩ := admissible.request request filed
  simp only [ProfileChange.request] at filed
  split at filed
  · cases filed
    exact ⟨valid.temporal.time, Int.le_refl _, due, fun _ => rfl, fun closed => by cases closed⟩
  · cases filed

theorem profileRequest_ids {event : ProfileChange} (admissible : event.Admissible state) :
    Keyed.keys ReassessmentRequest.requestId (event.request time).toList =
      event.requestId.toFinset := by
  have paired := admissible.paired
  cases named : event.requestId <;> cases dated : event.requestDueAt <;>
    simp_all [ProfileChange.request, Keyed.keys]

theorem profileCandidate_accepted (valid : ValidState state)
    (admissible : event.Admissible state) (revises : Revises state.logicalTime revise) :
    Accepted state (.profileChange event) (profileCandidate state event revise) := by
  have extension : Extends state (profileCandidate state event revise) Evidence.status [] [] := by
    apply Extends.same
    · rw [restatus_same]
      rfl
    · rfl
  have located : ∀ requestId, (profileCandidate state event revise).requestsById requestId = _ :=
    profileCandidate_requests revises
  refine ⟨⟨?_, ?_⟩, ?_, ?_, ?_⟩
  · apply valid.core.expected rfl (extension.nodupEvidence valid.core.evidence) rfl
      (Finset.filter_subset _ _) (Finset.filter_subset _ _) ?_ (.inl rfl)
    intro basisId survives
    rcases Finset.mem_union.mp survives with source | verdict
    · exact basisIsCurrent_of_profile (Finset.mem_filter.mp source).2
    · exact basisIsCurrent_of_profile (Finset.mem_filter.mp verdict).2
  · constructor
    · exact valid.temporal.time
    · exact ⟨rfl, fun version set => Option.mem_some_iff.mp set ▸ admissible.positive⟩
    · exact valid.temporal.evidence
    · intro basisId survives basis found
      have supported : basisIsCurrentUnderProfile (profileCandidate state event revise) basisId
          = true := by
        rcases Finset.mem_union.mp survives with source | verdict
        · exact (Finset.mem_filter.mp source).2
        · exact (Finset.mem_filter.mp verdict).2
      rwa [basisIsCurrentUnderProfile, found, Option.any_some] at supported
    · change ((_ ++ _ : List ReassessmentRequest).map _).Nodup
      have sameIds : (state.reassessmentRequests.map revise).map ReassessmentRequest.requestId =
          state.reassessmentRequests.map ReassessmentRequest.requestId := by
        rw [List.map_map]
        exact List.map_congr_left (fun request _ => revises.requestId request)
      rw [List.map_append, sameIds]
      cases filed : event.request state.logicalTime with
      | none => simpa using valid.temporal.distinct
      | some request =>
          obtain ⟨fresh, -⟩ := admissible.request request filed
          apply valid.temporal.distinct.append (List.nodup_singleton _)
          simpa [ControlState.requestIds, Keyed.keys] using fresh
    · intro request member
      rcases List.mem_append.mp member with old | new
      · obtain ⟨request, known, rfl⟩ := List.mem_map.mp old
        exact revises.valid (valid.temporal.requests request known)
      · have filed : request ∈ event.request state.logicalTime := Option.mem_toList.mp new
        have fresh : request.Valid state.logicalTime := profileRequest_valid valid admissible filed
        exact fresh
    · exact valid.temporal.heartbeat
    · intro missed
      apply expectedClaims_unverified rfl
      intro substantive
      have dead := valid.temporal.alive missed
      exact absurd (dead.symm.trans substantive) Bool.false_ne_true
  · exact extension.corePreserved (List.prefix_append _ _) (fun _ _ current => current)
  · constructor
    · exact Int.le_refl _
    · exact fun _ _ _ found located => extension.sameMetadata found located
    · intro requestId old found
      refine ⟨revise old, ?_, revises old⟩
      have unfiled : Keyed.find ReassessmentRequest.requestId
          (event.request state.logicalTime).toList requestId = none := by
        rw [Keyed.find_eq_none]
        intro request filed same
        obtain ⟨fresh, -⟩ := admissible.request request (Option.mem_toList.mp filed)
        exact fresh (same ▸ Keyed.mem_keys_iff_find.mpr ⟨old, found⟩)
      rw [located, unfiled, found]
      rfl
    · intro same old set new set'
      cases set'
      exact Int.le_of_lt (admissible.advances same old set)
  · refine ⟨admissible.authority, rfl, rfl, rfl, rfl, rfl, rfl, rfl, ?_, ?_, rfl, rfl⟩
    · rw [profileCandidate_requestIds revises, Finset.union_sdiff_cancel_left]
      · exact profileRequest_ids admissible
      · rw [Finset.disjoint_right]
        intro requestId filed
        obtain ⟨request, member, rfl⟩ := Keyed.mem_keys.mp filed
        exact (admissible.request request (Option.mem_toList.mp member)).1
    · intro request filed
      rw [located, Option.mem_def.mp filed, Option.toList_some, Keyed.find_singleton]
      simp

end ProfileChange

section Records

/-- Changes outside evidence, bases, claims and obligation leave the core validators content. -/
theorem CoreValid.sameSubstance {after : ControlState} (valid : CoreValid state)
    (same : SameSubstance state after) : CoreValid after := by
  obtain ⟨evidence, bases, claims, obligation⟩ := same
  cases after
  cases state
  simp only [ControlState.claims, Claims.mk.injEq] at evidence bases claims obligation
  obtain ⟨rfl, rfl, rfl, rfl⟩ := claims
  subst evidence bases obligation
  exact ⟨valid.evidence, valid.bases, valid.supported, valid.sources, valid.verdicts,
    valid.sourced, valid.verified, valid.inapplicable⟩

theorem requestReassessment_accepted (valid : ValidState state)
    (fresh : event.requestId ∉ state.requestIds)
    (created : requestFromEvent event state.logicalTime = .ok request) :
    Accepted state (.requestReassessment event) { state with
      reassessmentRequests := state.reassessmentRequests ++ [request]
      history := state.history ++ [requestAudit event] } := by
  obtain ⟨authority, -, due, rfl⟩ := requestFromEvent_ok created
  have substance : SameSubstance state { state with
      reassessmentRequests := state.reassessmentRequests ++ [event.request state.logicalTime]
      history := state.history ++ [requestAudit event] } := ⟨rfl, rfl, rfl, rfl⟩
  have extension : Extends state { state with
      reassessmentRequests := state.reassessmentRequests ++ [event.request state.logicalTime]
      history := state.history ++ [requestAudit event] } Evidence.status [] [] := by
    apply Extends.same
    · rw [restatus_same]
    · rfl
  have kept : ∀ requestId old, state.requestsById requestId = some old →
      Keyed.find ReassessmentRequest.requestId
        (state.reassessmentRequests ++ [event.request state.logicalTime]) requestId =
          some old := by
    intro requestId old found
    have other : (event.request state.logicalTime).requestId ≠ requestId := by
      rintro rfl
      exact fresh (Keyed.mem_keys_iff_find.mpr ⟨old, found⟩)
    rw [Keyed.find_append, Keyed.find_singleton, if_neg other, Option.none_or]
    exact found
  refine ⟨⟨valid.core.sameSubstance substance, ?_⟩, ?_, ?_, ?_⟩
  · constructor
    · exact valid.temporal.time
    · exact valid.temporal.profile
    · exact valid.temporal.evidence
    · exact valid.temporal.bases
    · rw [List.map_append]
      apply valid.temporal.distinct.append (List.nodup_singleton _)
      simpa [ControlState.requestIds, Keyed.keys] using fresh
    · intro request member
      rcases List.mem_append.mp member with old | new
      · exact valid.temporal.requests request old
      · rw [List.mem_singleton.mp new]
        exact ⟨valid.temporal.time, Int.le_refl _, due, fun _ => rfl, fun closed => by cases closed⟩
    · exact valid.temporal.heartbeat
    · exact valid.temporal.alive
  · exact extension.corePreserved (List.prefix_append _ _) (fun _ _ current => current)
  · constructor
    · exact Int.le_refl _
    · exact fun _ _ _ found located => extension.sameMetadata found located
    · exact fun requestId old found => ⟨old, kept requestId old found, .inl rfl⟩
    · intro _ old set new set'
      cases set.symm.trans set'
      exact Int.le_refl _
  · refine ⟨⟨rfl, ⟨rfl, rfl⟩, rfl⟩, authority, substance, ?_, ?_, kept, rfl⟩
    · change Keyed.keys _ (_ ++ _) \ _ = _
      rw [Keyed.keys_append]
      change (state.requestIds ∪ {event.requestId}) \ state.requestIds = {event.requestId}
      apply Finset.union_sdiff_cancel_left
      exact Finset.disjoint_singleton_right.mpr fresh
    · change Keyed.find _ (_ ++ _) event.requestId = _
      rw [Keyed.find_append, Keyed.find_singleton, if_pos rfl, Option.some_or]
      rfl

theorem recordHeartbeat_accepted (valid : ValidState state) (authority : event.authority = "I3")
    (now : event.atTime = state.logicalTime)
    (chosen : heartbeatInterval state event = some interval) (positive : 0 < interval) :
    Accepted state (.recordHeartbeat event) { state with
      heartbeat := some ⟨interval, event.atTime, event.atTime + interval⟩
      history := state.history ++ [heartbeatAudit event interval] } := by
  have substance : SameSubstance state { state with
      heartbeat := some ⟨interval, event.atTime, event.atTime + interval⟩
      history := state.history ++ [heartbeatAudit event interval] } := ⟨rfl, rfl, rfl, rfl⟩
  have extension : Extends state { state with
      heartbeat := some ⟨interval, event.atTime, event.atTime + interval⟩
      history := state.history ++ [heartbeatAudit event interval] } Evidence.status [] [] := by
    apply Extends.same
    · rw [restatus_same]
    · rfl
  refine ⟨⟨valid.core.sameSubstance substance, ?_⟩, ?_, ?_, ?_⟩
  · constructor
    · exact valid.temporal.time
    · exact valid.temporal.profile
    · exact valid.temporal.evidence
    · exact valid.temporal.bases
    · exact valid.temporal.distinct
    · exact valid.temporal.requests
    · intro heartbeat recorded
      cases recorded
      exact ⟨positive, Int.le_of_eq now, rfl⟩
    · intro missed
      simp only [ControlState.heartbeatMissed, Option.any_some, decide_eq_true_eq] at missed
      omega
  · exact extension.corePreserved (List.prefix_append _ _) (fun _ _ current => current)
  · exact .ofSame extension (Int.le_refl _) rfl ⟨rfl, rfl⟩
  · exact ⟨authority, rfl, ⟨rfl, rfl⟩, rfl, substance, interval, chosen, rfl, rfl⟩

end Records

section RetireControl

/-- Statuses that the verifier lets old evidence have when no event accounts for them. -/
def Admits (time : Int) (items : List Evidence) (status : Evidence → EvidenceStatus) : Prop :=
  ∀ item ∈ items, item.allows time (status item) ∧
    (status item = .current → item.status = .current)

theorem ValidState.admits (valid : ValidState state) :
    Admits state.logicalTime state.evidence Evidence.status :=
  fun item member => ⟨(valid.temporal.evidence item member).2, id⟩

/-- One item gets another status. -/
def restated (item : Evidence) (value : EvidenceStatus) (status : Evidence → EvidenceStatus)
    (other : Evidence) : EvidenceStatus :=
  if other = item then value else status other

theorem Admits.restated (admits : Admits time items status) (inactive : value ≠ .current)
    (allowed : item.allows time value) : Admits time items (restated item value status) := by
  intro other member
  by_cases same : other = item
  · rw [Kernel.restated, if_pos same]
    exact ⟨same ▸ allowed, fun active => absurd active inactive⟩
  · rw [Kernel.restated, if_neg same]
    exact admits other member

/-- The kernel's result, with statuses of one's own for the old evidence. -/
def retireCandidate (state : ControlState) (event : RetireControl)
    (status : Evidence → EvidenceStatus) : ControlState :=
  { (retireInterim state event).claiming ⟨.unknown, .na, ∅, ∅⟩ (retireAudit event) with
    evidence := restatus status state.evidence ++ [event.retirementEvidence] }

theorem retireCandidate_extends (fresh : event.retirementEvidence.evidenceId ∉ state.evidenceIds) :
    Extends state (retireCandidate state event status) status [event.retirementEvidence] [] where
  evidence := rfl
  bases := (List.append_nil _).symm
  freshEvidence := by simpa [Keyed.keys] using fresh
  freshBases := by simp [Keyed.keys]
  distinctEvidence := List.nodup_singleton _
  distinctBases := List.nodup_nil

theorem retireCandidate_accepted (valid : ValidState state)
    (fresh : event.retirementEvidence.evidenceId ∉ state.evidenceIds)
    (issued : event.retirementEvidence.Issued state.logicalTime)
    (allowed : event.retirementEvidence.allows state.logicalTime event.retirementEvidence.status)
    (admits : Admits state.logicalTime state.evidence status) :
    Accepted state (.retireControl event) (retireCandidate state event status) := by
  have extension : Extends state (retireCandidate state event status) status
      [event.retirementEvidence] [] := retireCandidate_extends fresh
  have same : SameProfile state (retireCandidate state event status) := ⟨rfl, rfl⟩
  refine ⟨⟨?_, ?_⟩, ?_, ?_, ?_⟩
  · constructor
    · exact extension.nodupEvidence valid.core.evidence
    · exact valid.core.bases
    · exact fun basisId known => absurd known (Finset.notMem_empty basisId)
    · exact fun basisId known => absurd known (Finset.notMem_empty basisId)
    · exact fun basisId known => absurd known (Finset.notMem_empty basisId)
    · exact fun substantive => absurd rfl substantive
    · exact fun _ substantive => by cases substantive
    · exact fun _ => rfl
  · constructor
    · exact valid.temporal.time
    · exact valid.temporal.profile
    · apply extension.wellTimed valid.temporal (Int.le_refl _)
      · exact fun item member => (admits item member).1
      · intro item member
        rw [List.mem_singleton.mp member]
        exact ⟨issued, allowed⟩
    · exact fun basisId known => absurd known (Finset.notMem_empty basisId)
    · exact valid.temporal.distinct
    · exact valid.temporal.requests
    · exact valid.temporal.heartbeat
    · exact fun _ => rfl
  · exact extension.corePreserved (List.prefix_append _ _)
      (fun item member => (admits item member).2)
  · exact .ofSame extension (Int.le_refl _) rfl same
  · refine ⟨⟨?_, ?_, rfl, rfl, rfl⟩, ⟨rfl, same, rfl⟩, rfl⟩
    · rw [extension.evidenceIds]
      change (state.evidenceIds ∪ {event.retirementEvidence.evidenceId}) \ _ = _
      apply Finset.union_sdiff_cancel_left
      exact Finset.disjoint_singleton_right.mpr fresh
    · rw [extension.find_evidence, Keyed.find_singleton, if_pos rfl, Option.some_or]

end RetireControl
end CsdFoundry.Kernel
