import CsdFoundry.Kernel.Agreement
import CsdFoundry.Kernel.Reassessment

/-! Where the verifier pins the result of an event, any two results that pass it agree. -/
namespace CsdFoundry.Kernel

variable {state post candidate other : ControlState} {trace : TransitionTrace}

/-- Two results agree on everything but their history: the claims are source state, assurance
and the current basis ids. -/
structure Agrees (candidate post : ControlState) : Prop where
  obligation : candidate.obligation = post.obligation
  claims : candidate.claims = post.claims
  evidence : candidate.evidenceById = post.evidenceById
  bases : candidate.basesById = post.basesById
  requests : candidate.requestsById = post.requestsById
  time : candidate.logicalTime = post.logicalTime
  profileId : candidate.requiredProfileId = post.requiredProfileId
  profileVersion : candidate.requiredProfileVersion = post.requiredProfileVersion
  heartbeat : candidate.heartbeat = post.heartbeat

namespace Accepted

/-- Old evidence is found in an accepted result, unchanged but for its status. -/
theorem oldEvidence (accepted : Accepted state event candidate)
    (found : state.evidenceById evidenceId = some old) :
    ∃ status, candidate.evidenceById evidenceId = some (old.withStatus status) ∧
      (status = .current → old.status = .current) ∧
      old.allows candidate.logicalTime status := by
  obtain ⟨new, located, inactive, dimension, dependencies, outcome⟩ :=
    accepted.corePreserved.evidence evidenceId old found
  obtain ⟨issuedAt, expiresAt, profileId, profileVersion⟩ :=
    accepted.temporalPreserved.evidence evidenceId old new found located
  have named : new.evidenceId = old.evidenceId :=
    (Keyed.key_of_find located).trans (Keyed.key_of_find found).symm
  have same : new = old.withStatus new.status := by
    cases new
    cases old
    simp_all [Evidence.withStatus]
  refine ⟨new.status, same ▸ located, inactive, ?_⟩
  have allowed := (accepted.valid.temporal.evidence new (Keyed.mem_of_find located)).2
  rw [same] at allowed
  cases status : new.status <;> rw [status] at allowed <;> exact allowed

theorem evidence_eq {status : Evidence → EvidenceStatus}
    (accepted : Accepted state event candidate)
    (ids : candidate.evidenceIds = state.evidenceIds)
    (statuses : ∀ evidenceId old new, state.evidenceById evidenceId = some old →
      candidate.evidenceById evidenceId = some new → new.status = status old)
    (evidenceId : String) : candidate.evidenceById evidenceId =
      (state.evidenceById evidenceId).map (fun item => item.withStatus (status item)) := by
  apply Keyed.find_eq_map ids
  intro k item found
  obtain ⟨given, located, -⟩ := accepted.oldEvidence found
  have pinned := statuses k item _ found located
  rw [withStatus_status] at pinned
  rw [← pinned]
  exact located

theorem bases_eq (accepted : Accepted state event candidate)
    (ids : candidate.basisIds = state.basisIds) : candidate.basesById = state.basesById := by
  funext basisId
  have same : candidate.basesById basisId = (state.basesById basisId).map id :=
    Keyed.find_eq_map ids accepted.corePreserved.bases basisId
  rw [same, Option.map_id, id_eq]

end Accepted

theorem evidenceById_congr {candidate other : ControlState}
    (same : candidate.evidence = other.evidence) :
    candidate.evidenceById = other.evidenceById := by
  rw [ControlState.evidenceById, same]
  rfl

theorem basesById_congr {candidate other : ControlState} (same : candidate.bases = other.bases) :
    candidate.basesById = other.basesById := by
  rw [ControlState.basesById, same]
  rfl

theorem requestsById_congr {candidate other : ControlState}
    (same : candidate.reassessmentRequests = other.reassessmentRequests) :
    candidate.requestsById = other.requestsById := by
  rw [ControlState.requestsById, same]
  rfl

theorem expectedClaims_applicable (current : state.obligation = .current)
    (applicable : state.assurance ≠ .na) : (expectedClaims state bases).assurance ≠ .na := by
  simp only [expectedClaims, current, ne_eq, not_true_eq_false, if_false]
  split
  · exact fun stale => by cases stale
  · exact applicable

/-- Where an assurance applies before, an accepted result is under a current obligation. -/
theorem Accepted.obligation_current (accepted : Accepted state event candidate)
    (valid : ValidState state) (applicable : state.assurance ≠ .na)
    (claims : candidate.claims = expectedClaims state bases) :
    candidate.obligation = .current := by
  have current : state.obligation = .current := by
    by_contra other
    exact applicable (valid.core.inapplicable other)
  by_contra other
  have assurance : candidate.assurance = (expectedClaims state bases).assurance :=
    congrArg Claims.assurance claims
  have applies : (expectedClaims state bases).assurance ≠ .na :=
    expectedClaims_applicable current applicable
  apply applies
  rw [← assurance]
  exact accepted.valid.core.inapplicable other

section DependencyChange

theorem dependency_unique (valid : ValidState state) (applicable : state.assurance ≠ .na)
    (accepted : Accepted state (.dependencyChange event) candidate)
    (accepted' : Accepted state (.dependencyChange event) other) : Agrees candidate other := by
  obtain ⟨⟨evidenceIds, basisIds, statuses, claims⟩, governance, requests⟩ := accepted.checked
  obtain ⟨⟨evidenceIds', basisIds', statuses', claims'⟩, governance', requests'⟩ :=
    accepted'.checked
  have evidence : candidate.evidenceById = other.evidenceById := by
    funext evidenceId
    rw [accepted.evidence_eq evidenceIds statuses, accepted'.evidence_eq evidenceIds' statuses']
  have bases : candidate.basesById = other.basesById := by
    rw [accepted.bases_eq basisIds, accepted'.bases_eq basisIds']
  constructor
  · rw [accepted.obligation_current valid applicable claims,
      accepted'.obligation_current valid applicable claims']
  · rw [claims, claims']
    simp only [expectedDependencyClaims, evidence, bases]
  · exact evidence
  · exact bases
  · exact requestsById_congr (requests.trans requests'.symm)
  · exact governance.time.trans governance'.time.symm
  · exact governance.profile.profileId.trans governance'.profile.profileId.symm
  · exact governance.profile.profileVersion.trans governance'.profile.profileVersion.symm
  · exact governance.heartbeat.trans governance'.heartbeat.symm

end DependencyChange

section AdvanceClock

theorem clock_unique (valid : ValidState state) (applicable : state.assurance ≠ .na)
    (accepted : Accepted state (.advanceClock event) candidate)
    (accepted' : Accepted state (.advanceClock event) other) : Agrees candidate other := by
  obtain ⟨-, time, evidenceIds, bases, statuses, claims, profile, requests, heartbeat, -⟩ :=
    accepted.checked
  obtain ⟨-, time', evidenceIds', bases', statuses', claims', profile', requests', heartbeat', -⟩ :=
    accepted'.checked
  have evidence : candidate.evidenceById = other.evidenceById := by
    funext evidenceId
    rw [accepted.evidence_eq evidenceIds statuses, accepted'.evidence_eq evidenceIds' statuses']
  constructor
  · rw [accepted.obligation_current valid applicable claims,
      accepted'.obligation_current valid applicable claims']
  · rw [claims, claims']
    simp only [expectedClockClaims, expectedBasisSurvival, evidence, profile.profileId,
      profile.profileVersion, profile'.profileId, profile'.profileVersion]
  · exact evidence
  · exact basesById_congr (bases.trans bases'.symm)
  · exact requestsById_congr (requests.trans requests'.symm)
  · exact time.trans time'.symm
  · exact profile.profileId.trans profile'.profileId.symm
  · exact profile.profileVersion.trans profile'.profileVersion.symm
  · exact heartbeat.trans heartbeat'.symm

end AdvanceClock

section ProfileChange

/-- Without a pending request, nothing can be closed. -/
theorem profile_requests (settled : ∀ request ∈ state.reassessmentRequests,
      request.status ≠ .pending) (admissible : ProfileChange.Admissible state event)
    (accepted : Accepted state (.profileChange event) candidate) (requestId : String) :
    candidate.requestsById requestId =
      (Keyed.find ReassessmentRequest.requestId
        (event.request state.logicalTime).toList requestId).or
        (state.requestsById requestId) := by
  have checked : ProfileChanged state event candidate := accepted.checked
  cases filed : Keyed.find ReassessmentRequest.requestId
      (event.request state.logicalTime).toList requestId with
  | some request =>
      have member := Option.mem_toList.mp (Keyed.mem_of_find filed)
      have located := checked.request request member
      rw [Keyed.key_of_find filed] at located
      rw [located, Option.some_or]
  | none =>
      rw [Option.none_or]
      cases found : state.requestsById requestId with
      | some old =>
          obtain ⟨new, located, kept | ⟨pending, -⟩⟩ :=
            accepted.temporalPreserved.requests requestId old found
          · rw [located, kept]
          · exact absurd pending (settled old (Keyed.mem_of_find found))
      | none =>
          rw [Option.eq_none_iff_forall_ne_some]
          intro request located
          have added : requestId ∈ candidate.requestIds \ state.requestIds :=
            Keyed.mem_added found located
          have ids : Keyed.keys ReassessmentRequest.requestId
              (event.request state.logicalTime).toList = event.requestId.toFinset :=
            profileRequest_ids admissible
          rw [checked.requestIds, ← ids, Keyed.mem_keys_iff_find] at added
          obtain ⟨_, filed'⟩ := added
          cases filed.symm.trans filed'

theorem profile_unique (settled : ∀ request ∈ state.reassessmentRequests,
      request.status ≠ .pending) (admissible : ProfileChange.Admissible state event)
    (accepted : Accepted state (.profileChange event) candidate)
    (accepted' : Accepted state (.profileChange event) other) : Agrees candidate other := by
  have checked : ProfileChanged state event candidate := accepted.checked
  have checked' : ProfileChanged state event other := accepted'.checked
  have evidence : candidate.evidenceById = other.evidenceById :=
    evidenceById_congr (checked.evidence.trans checked'.evidence.symm)
  constructor
  · exact checked.obligation.trans checked'.obligation.symm
  · rw [checked.claims, checked'.claims]
    simp only [expectedProfileClaims, expectedBasisSurvival, evidence]
  · exact evidence
  · exact basesById_congr (checked.bases.trans checked'.bases.symm)
  · funext requestId
    rw [profile_requests settled admissible accepted,
      profile_requests settled admissible accepted']
  · exact checked.time.trans checked'.time.symm
  · exact checked.profileId.trans checked'.profileId.symm
  · exact checked.profileVersion.trans checked'.profileVersion.symm
  · exact checked.heartbeat.trans checked'.heartbeat.symm

end ProfileChange

section Records

theorem request_unique (accepted : Accepted state (.requestReassessment event) candidate)
    (accepted' : Accepted state (.requestReassessment event) other) :
    Agrees candidate other := by
  have checked : Requested state event candidate := accepted.checked
  have checked' : Requested state event other := accepted'.checked
  have requests : ∀ {result : ControlState}, Requested state event result →
      ∀ requestId, result.requestsById requestId =
        if requestId = event.requestId then some (event.request state.logicalTime)
        else state.requestsById requestId := by
    intro result recorded requestId
    split
    · case isTrue same =>
        rw [same]
        exact recorded.request
    · case isFalse different =>
        cases found : state.requestsById requestId with
        | some old => exact recorded.existing requestId old found
        | none =>
            rw [Option.eq_none_iff_forall_ne_some]
            intro request located
            have added : requestId ∈ result.requestIds \ state.requestIds :=
              Keyed.mem_added found located
            rw [recorded.requestIds] at added
            exact different (Finset.mem_singleton.mp added)
  constructor
  · exact checked.substance.obligation.trans checked'.substance.obligation.symm
  · exact checked.substance.claims.trans checked'.substance.claims.symm
  · exact evidenceById_congr (checked.substance.evidence.trans checked'.substance.evidence.symm)
  · exact basesById_congr (checked.substance.bases.trans checked'.substance.bases.symm)
  · funext requestId
    rw [requests checked, requests checked']
  · exact checked.governance.time.trans checked'.governance.time.symm
  · exact checked.governance.profile.profileId.trans checked'.governance.profile.profileId.symm
  · exact checked.governance.profile.profileVersion.trans
      checked'.governance.profile.profileVersion.symm
  · exact checked.governance.heartbeat.trans checked'.governance.heartbeat.symm

theorem heartbeat_unique (accepted : Accepted state (.recordHeartbeat event) candidate)
    (accepted' : Accepted state (.recordHeartbeat event) other) : Agrees candidate other := by
  obtain ⟨-, time, profile, requests, substance, interval, chosen, recorded, -⟩ :=
    accepted.checked
  obtain ⟨-, time', profile', requests', substance', interval', chosen', recorded', -⟩ :=
    accepted'.checked
  constructor
  · exact substance.obligation.trans substance'.obligation.symm
  · exact substance.claims.trans substance'.claims.symm
  · exact evidenceById_congr (substance.evidence.trans substance'.evidence.symm)
  · exact basesById_congr (substance.bases.trans substance'.bases.symm)
  · exact requestsById_congr (requests.trans requests'.symm)
  · exact time.trans time'.symm
  · exact profile.profileId.trans profile'.profileId.symm
  · exact profile.profileVersion.trans profile'.profileVersion.symm
  · cases chosen.symm.trans chosen'
    exact recorded.trans recorded'.symm

end Records

section RetireControl

/-- Statuses of old evidence that the verifier cannot mistake: invalidated before the
deadline. -/
def Evidence.Pinned (time : Int) (item : Evidence) : Prop :=
  item.status = .invalidated ∧ ∃ deadline ∈ item.expiresAt, time < deadline

theorem pinned_unique {item : Evidence} (pinned : item.Pinned time)
    (inactive : status = .current → item.status = .current) (allowed : item.allows time status) :
    status = item.status := by
  obtain ⟨invalidated, deadline, set, ahead⟩ := pinned
  cases status with
  | current => exact (inactive rfl).symm
  | invalidated => exact invalidated.symm
  | expired =>
      have passed := allowed deadline set
      omega

/-- Other old evidence may have another status as well. -/
theorem unpinned_other {item : Evidence} (unpinned : ¬ item.Pinned time) :
    ∃ status, status ≠ item.status ∧ status ≠ .current ∧ item.allows time status := by
  cases present : item.status with
  | current => exact ⟨.invalidated, by decide, by decide, trivial⟩
  | expired => exact ⟨.invalidated, by decide, by decide, trivial⟩
  | invalidated =>
      refine ⟨.expired, by decide, by decide, ?_⟩
      intro deadline set
      by_contra ahead
      exact unpinned ⟨present, deadline, set, Int.not_le.mp ahead⟩

theorem retired_evidence (pinned : ∀ item ∈ state.evidence, item.Pinned state.logicalTime)
    (accepted : Accepted state (.retireControl event) candidate) (evidenceId : String) :
    candidate.evidenceById evidenceId =
      (Keyed.find Evidence.evidenceId [event.retirementEvidence] evidenceId).or
        (state.evidenceById evidenceId) := by
  obtain ⟨checked, governance, -⟩ := accepted.checked
  rw [Keyed.find_singleton]
  split
  · case isTrue same =>
      rw [← same, Option.some_or]
      exact checked.evidence
  · case isFalse different =>
      rw [Option.none_or]
      cases found : state.evidenceById evidenceId with
      | some old =>
          obtain ⟨status, located, inactive, allowed⟩ := accepted.oldEvidence found
          rw [governance.time] at allowed
          have same := pinned_unique (pinned old (Keyed.mem_of_find found)) inactive allowed
          rw [located, same, withStatus_same]
      | none =>
          rw [Option.eq_none_iff_forall_ne_some]
          intro item located
          have added : evidenceId ∈ candidate.evidenceIds \ state.evidenceIds :=
            Keyed.mem_added found located
          rw [checked.evidenceIds] at added
          exact different (Finset.mem_singleton.mp added).symm

theorem retire_unique (pinned : ∀ item ∈ state.evidence, item.Pinned state.logicalTime)
    (accepted : Accepted state (.retireControl event) candidate)
    (accepted' : Accepted state (.retireControl event) other) : Agrees candidate other := by
  obtain ⟨checked, governance, requests⟩ := accepted.checked
  obtain ⟨checked', governance', requests'⟩ := accepted'.checked
  constructor
  · exact checked.obligation.trans checked'.obligation.symm
  · exact checked.claims.trans checked'.claims.symm
  · funext evidenceId
    rw [retired_evidence pinned accepted, retired_evidence pinned accepted']
  · rw [accepted.bases_eq checked.basisIds, accepted'.bases_eq checked'.basisIds]
  · exact requestsById_congr (requests.trans requests'.symm)
  · exact governance.time.trans governance'.time.symm
  · exact governance.profile.profileId.trans governance'.profile.profileId.symm
  · exact governance.profile.profileVersion.trans governance'.profile.profileVersion.symm
  · exact governance.heartbeat.trans governance'.heartbeat.symm

end RetireControl

section Reassess
variable {event : Reassess}

/-- The old evidence that a result leaves current. -/
def retainedIds (state candidate : ControlState) : Finset String :=
  state.currentEvidenceIds.filter (fun evidenceId =>
    (candidate.evidenceById evidenceId).any Evidence.isCurrent)

theorem reassessed_bases (accepted : Accepted state (.reassess event) candidate)
    (basisId : String) :
    candidate.basesById basisId = (event.merged state).basesById basisId := by
  have checked : Reassessed state event candidate := accepted.checked.1
  rw [Reassess.merged_bases]
  cases given : Keyed.find Basis.basisId event.newBases basisId with
  | some basis => exact checked.bases basisId basis given
  | none =>
      rw [Option.none_or]
      cases found : state.basesById basisId with
      | some old => exact accepted.corePreserved.bases basisId old found
      | none =>
          rw [Option.eq_none_iff_forall_ne_some]
          intro basis located
          have added : basisId ∈ candidate.basisIds \ state.basisIds :=
            Keyed.mem_added found located
          rw [checked.basisIds, Reassess.basisIds, Keyed.mem_keys_iff_find] at added
          obtain ⟨_, given'⟩ := added
          cases given.symm.trans given'

theorem reassessed_unknown (accepted : Accepted state (.reassess event) candidate)
    (given : Keyed.find Evidence.evidenceId event.newEvidence evidenceId = none)
    (unknown : state.evidenceById evidenceId = none) :
    candidate.evidenceById evidenceId = none := by
  have checked : Reassessed state event candidate := accepted.checked.1
  rw [Option.eq_none_iff_forall_ne_some]
  intro item located
  have added : evidenceId ∈ candidate.evidenceIds \ state.evidenceIds :=
    Keyed.mem_added unknown located
  rw [checked.evidenceIds, Reassess.evidenceIds, Keyed.mem_keys_iff_find] at added
  obtain ⟨_, given'⟩ := added
  cases given.symm.trans given'

theorem reassessed_current (admissible : event.Admissible state)
    (accepted : Accepted state (.reassess event) candidate) (member : String) :
    (candidate.evidenceById member).any Evidence.isCurrent = true ↔
      member ∈ retainedIds state candidate ∪ event.evidenceIds := by
  have checked : Reassessed state event candidate := accepted.checked.1
  rw [Finset.mem_union, retainedIds, Finset.mem_filter]
  cases given : Keyed.find Evidence.evidenceId event.newEvidence member with
  | some item =>
      have new : member ∈ event.evidenceIds := Keyed.mem_keys_iff_find.mpr ⟨item, given⟩
      rw [checked.evidence member item given]
      simp [Evidence.isCurrent, admissible.newCurrent given, new]
  | none =>
      have old : member ∉ event.evidenceIds := by
        intro new
        obtain ⟨_, given'⟩ := Keyed.mem_keys_iff_find.mp new
        cases given.symm.trans given'
      rw [or_iff_left old, iff_and_self]
      intro current
      cases found : state.evidenceById member with
      | none => simp [reassessed_unknown accepted given found] at current
      | some item =>
          obtain ⟨status, located, inactive, -⟩ := accepted.oldEvidence found
          rw [located] at current
          have active : item.status = .current :=
            inactive (Evidence.isCurrent_iff.mp current)
          refine Finset.mem_filter.mpr ⟨Keyed.mem_keys_iff_find.mpr ⟨item, found⟩, ?_⟩
          simp [found, Evidence.isCurrent, active]

theorem reassessed_claims (admissible : event.Admissible state)
    (accepted : Accepted state (.reassess event) candidate) :
    candidate.claims = event.supportedClaims state (retainedIds state candidate) := by
  have checked : Reassessed state event candidate := accepted.checked.1
  rw [checked.claims]
  exact expectedReassessClaims_eq (reassessed_bases accepted)
    (reassessed_current admissible accepted)

/-- The evidence that an accepted result leaves current supports its claims. -/
theorem reassessed_supports (admissible : event.Admissible state)
    (accepted : Accepted state (.reassess event) candidate) :
    event.Supports state (retainedIds state candidate) := by
  obtain ⟨checked, governance, -⟩ := accepted.checked
  have claims := reassessed_claims admissible accepted
  have assurance : candidate.assurance = event.resultingAssurance state :=
    congrArg Claims.assurance claims
  constructor
  · intro basisId known basis found member inside item located
    rw [← claims] at known
    rw [← reassessed_bases accepted] at found
    have supported := accepted.valid.temporal.bases basisId known basis found
    simp only [basisIsSupportedUnder, Basis.supportedBy, Bool.and_eq_true,
      decide_eq_true_eq] at supported
    obtain ⟨new, located', fits⟩ := any_iff.mp (supported.2 member inside)
    rw [Bool.and_eq_true, governance.profile.profileId, governance.profile.profileVersion] at fits
    rw [Reassess.merged_evidence] at located
    cases given : Keyed.find Evidence.evidenceId event.newEvidence member with
    | some added =>
        rw [given, Option.some_or] at located
        cases located
        rw [Option.mem_def, checked.evidence member item given] at located'
        cases located'
        exact fits.2
    | none =>
        rw [given, Option.none_or] at located
        obtain ⟨status, located'', -⟩ := accepted.oldEvidence located
        rw [Option.mem_def, located''] at located'
        cases located'
        exact fits.2
  · intro substantive
    have sourced := accepted.valid.core.sourced
    have source : candidate.sourceState = event.resultingSource state :=
      congrArg Claims.sourceState claims
    rw [← claims]
    exact sourced (source ▸ substantive)
  · intro substantive
    rw [← assurance] at substantive
    rw [← claims]
    apply accepted.valid.core.verified _ substantive
    by_contra inapplicable
    rw [accepted.valid.core.inapplicable inapplicable] at substantive
    cases substantive

theorem reassessed_timely (admissible : event.Admissible state)
    (accepted : Accepted state (.reassess event) candidate) : event.Timely state := by
  obtain ⟨checked, governance, -⟩ := accepted.checked
  intro evidenceId item given
  have located := checked.evidence evidenceId item given
  have valid := accepted.valid.temporal.evidence item (Keyed.mem_of_find located)
  rwa [governance.time, admissible.newCurrent given] at valid

theorem reassessed_alive (admissible : event.Admissible state)
    (accepted : Accepted state (.reassess event) candidate)
    (missed : state.heartbeatMissed state.logicalTime = true) :
    (event.resultingAssurance state).substantive = false := by
  obtain ⟨-, governance, -⟩ := accepted.checked
  have assurance : candidate.assurance = event.resultingAssurance state :=
    congrArg Claims.assurance (reassessed_claims admissible accepted)
  rw [← assurance]
  apply accepted.valid.temporal.alive
  rwa [ControlState.heartbeatMissed, governance.heartbeat, governance.time]

end Reassess
end CsdFoundry.Kernel
