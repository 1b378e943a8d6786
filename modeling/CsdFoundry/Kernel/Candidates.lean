import CsdFoundry.Kernel.Oracle

/-! Results that a transition may propose: the old evidence with new statuses, further
evidence and bases behind it. What the verifier asks of old items then follows from the
statuses alone. -/
namespace CsdFoundry.Kernel

def Evidence.withStatus (item : Evidence) (status : EvidenceStatus) : Evidence :=
  { item with status := status }

section Restatus
variable {item : Evidence}

@[simp] theorem withStatus_status : (item.withStatus value).status = value := rfl

@[simp] theorem withStatus_evidenceId : (item.withStatus value).evidenceId = item.evidenceId := rfl

@[simp] theorem withStatus_dependencies :
    (item.withStatus value).dependencies = item.dependencies := rfl

@[simp] theorem withStatus_same : item.withStatus item.status = item := rfl

def restatus (status : Evidence → EvidenceStatus) (items : List Evidence) : List Evidence :=
  items.map (fun item => item.withStatus (status item))

@[simp] theorem restatus_same : restatus Evidence.status items = items := by
  simp [restatus]

@[simp] theorem restatus_ids :
    (restatus status items).map Evidence.evidenceId = items.map Evidence.evidenceId := by
  simp [restatus]

theorem find_restatus (evidenceId : String) :
    Keyed.find Evidence.evidenceId (restatus status items) evidenceId =
      (Keyed.find Evidence.evidenceId items evidenceId).map
        (fun item => item.withStatus (status item)) :=
  Keyed.find_map (f := fun item : Evidence => item.withStatus (status item)) (fun _ => rfl) evidenceId

theorem keys_restatus : Keyed.keys Evidence.evidenceId (restatus status items) =
    Keyed.keys Evidence.evidenceId items :=
  Keyed.keys_map (f := fun item : Evidence => item.withStatus (status item)) (fun _ => rfl)

theorem invalidate_affected :
    (if item.affectedBy event then item.invalidate else item) =
      item.withStatus (dependencyStatus event item) := by
  by_cases affected : item.affectedBy event = true
  · have current : item.status = .current := by
      simp only [Evidence.affectedBy, Evidence.isCurrent, Bool.and_eq_true,
        decide_eq_true_eq] at affected
      exact affected.1
    simp [affected, Evidence.invalidate, current, Evidence.withStatus, dependencyStatus]
  · simp [affected, dependencyStatus]

theorem expire_due :
    (if item.isCurrent && item.due event.targetTime then item.expire else item) =
      item.withStatus (clockStatus event item) := by
  by_cases due : (item.isCurrent && item.due event.targetTime) = true
  · have current : item.status = .current := by
      simp only [Evidence.isCurrent, Bool.and_eq_true, decide_eq_true_eq] at due
      exact due.1
    simp only [due, if_true, Evidence.expire, current, Evidence.withStatus, clockStatus]
    simp
  · simp only [due, Bool.false_eq_true, if_false, clockStatus, withStatus_same]

end Restatus

/-- The later state holds the old evidence, with statuses of its own, and further items. -/
structure Extends (before after : ControlState) (status : Evidence → EvidenceStatus)
    (newEvidence : List Evidence) (newBases : List Basis) : Prop where
  evidence : after.evidence = restatus status before.evidence ++ newEvidence
  bases : after.bases = before.bases ++ newBases
  freshEvidence : Disjoint before.evidenceIds (Keyed.keys Evidence.evidenceId newEvidence)
  freshBases : Disjoint before.basisIds (Keyed.keys Basis.basisId newBases)
  distinctEvidence : (newEvidence.map Evidence.evidenceId).Nodup
  distinctBases : (newBases.map Basis.basisId).Nodup

namespace Extends
variable (extension : Extends before after status newEvidence newBases)
include extension

theorem find_evidence (evidenceId : String) : after.evidenceById evidenceId =
    (Keyed.find Evidence.evidenceId newEvidence evidenceId).or
      ((before.evidenceById evidenceId).map (fun item => item.withStatus (status item))) := by
  rw [ControlState.evidenceById, extension.evidence, Keyed.find_append, find_restatus]
  rfl

theorem find_old (found : before.evidenceById evidenceId = some old) :
    after.evidenceById evidenceId = some (old.withStatus (status old)) := by
  have fresh : Keyed.find Evidence.evidenceId newEvidence evidenceId = none := by
    have known : evidenceId ∈ before.evidenceIds := Keyed.mem_keys_iff_find.mpr ⟨old, found⟩
    have unknown := Finset.disjoint_left.mp extension.freshEvidence known
    rw [Keyed.mem_keys_iff_find, not_exists] at unknown
    exact Option.eq_none_iff_forall_ne_some.mpr unknown
  rw [extension.find_evidence, fresh, found]
  rfl

theorem find_oldBasis (found : before.basesById basisId = some old) :
    after.basesById basisId = some old := by
  have fresh : Keyed.find Basis.basisId newBases basisId = none := by
    have known : basisId ∈ before.basisIds := Keyed.mem_keys_iff_find.mpr ⟨old, found⟩
    have unknown := Finset.disjoint_left.mp extension.freshBases known
    rw [Keyed.mem_keys_iff_find, not_exists] at unknown
    exact Option.eq_none_iff_forall_ne_some.mpr unknown
  rw [ControlState.basesById] at found ⊢
  rw [extension.bases, Keyed.find_append, fresh, found]
  rfl

theorem evidenceIds : after.evidenceIds =
    before.evidenceIds ∪ Keyed.keys Evidence.evidenceId newEvidence := by
  rw [ControlState.evidenceIds, extension.evidence, Keyed.keys_append, keys_restatus]
  rfl

theorem basisIds : after.basisIds = before.basisIds ∪ Keyed.keys Basis.basisId newBases := by
  rw [ControlState.basisIds, extension.bases, Keyed.keys_append]
  rfl

theorem nodupEvidence (distinct : (before.evidence.map Evidence.evidenceId).Nodup) :
    (after.evidence.map Evidence.evidenceId).Nodup := by
  rw [extension.evidence, List.map_append, restatus_ids]
  apply distinct.append extension.distinctEvidence
  intro evidenceId old new
  apply Finset.disjoint_left.mp extension.freshEvidence
  · simpa [ControlState.evidenceIds, Keyed.keys] using old
  · simpa [Keyed.keys] using new

theorem nodupBases (distinct : (before.bases.map Basis.basisId).Nodup) :
    (after.bases.map Basis.basisId).Nodup := by
  rw [extension.bases, List.map_append]
  apply distinct.append extension.distinctBases
  intro basisId old new
  apply Finset.disjoint_left.mp extension.freshBases
  · simpa [ControlState.basisIds, Keyed.keys] using old
  · simpa [Keyed.keys] using new

theorem corePreserved (history : before.history <+: after.history)
    (inactive : ∀ item ∈ before.evidence, status item = .current → item.status = .current) :
    CorePreserved before after where
  history := history
  evidence _ old found :=
    ⟨_, extension.find_old found, inactive old (Keyed.mem_of_find found), rfl, rfl, rfl⟩
  bases _ _ found := extension.find_oldBasis found

theorem sameMetadata (found : before.evidenceById evidenceId = some old)
    (located : after.evidenceById evidenceId = some new) : old.SameMetadata new := by
  rw [extension.find_old found] at located
  cases located
  exact ⟨rfl, rfl, rfl, rfl⟩

theorem statuses (found : before.evidenceById evidenceId = some old)
    (located : after.evidenceById evidenceId = some new) : new.status = status old := by
  rw [extension.find_old found] at located
  cases located
  rfl

/-- Old evidence stays well timed at a later time under a status that is allowed there. -/
theorem wellTimed (valid : TemporalValid before) (later : before.logicalTime ≤ after.logicalTime)
    (allowed : ∀ item ∈ before.evidence, item.allows after.logicalTime (status item))
    (new : ∀ item ∈ newEvidence,
      item.Issued after.logicalTime ∧ item.allows after.logicalTime item.status) :
    ∀ item ∈ after.evidence,
      item.Issued after.logicalTime ∧ item.allows after.logicalTime item.status := by
  intro item member
  rw [extension.evidence, List.mem_append, restatus, List.mem_map] at member
  rcases member with ⟨old, known, rfl⟩ | added
  · obtain ⟨⟨notNegative, notFuture, expiry, profile⟩, -⟩ := valid.evidence old known
    exact ⟨⟨notNegative, notFuture.trans later, expiry, profile⟩, allowed old known⟩
  · exact new item added

/-- A basis that was current is supported afterwards when its members are acceptable with
their new statuses. -/
theorem supportedBy_iff (valid : CoreValid before) (known : basisId ∈ before.currentBasisIds)
    (found : before.basesById basisId = some basis) :
    basis.supportedBy after.evidenceById acceptable = true ↔
      ∀ member ∈ basis.memberEvidenceIds, ∀ item, before.evidenceById member = some item →
        acceptable (item.withStatus (status item)) = true := by
  have supported := valid.supported basisId known
  rw [basisIsCurrent, found, Option.any_some] at supported
  simp only [Basis.supportedBy, Bool.and_eq_true, decide_eq_true_eq] at supported ⊢
  obtain ⟨complete, members⟩ := supported
  constructor
  · rintro ⟨-, accepted⟩ member inside item located
    obtain ⟨new, located', accepted⟩ := any_iff.mp (accepted member inside)
    rw [Option.mem_def, extension.find_old located] at located'
    cases located'
    exact accepted
  · intro accepted
    refine ⟨complete, fun member inside => ?_⟩
    obtain ⟨item, located, -⟩ := any_iff.mp (members member inside)
    rw [extension.find_old located]
    exact accepted member inside item located

end Extends

/-- The members of a current basis are current and fit the profile. -/
theorem ValidState.current_member (valid : ValidState state)
    (known : basisId ∈ state.currentBasisIds) (found : state.basesById basisId = some basis)
    (inside : member ∈ basis.memberEvidenceIds) (located : state.evidenceById member = some item) :
    item.status = .current ∧
      item.matchesProfile state.requiredProfileId state.requiredProfileVersion = true := by
  have unchanged : Extends state state Evidence.status [] [] := by
    constructor <;> simp [Keyed.keys]
  have supported := valid.temporal.bases basisId known basis found
  rw [basisIsSupportedUnder, unchanged.supportedBy_iff valid.core known found] at supported
  have accepted := supported member inside item located
  simp only [Evidence.isCurrent, Bool.and_eq_true, decide_eq_true_eq] at accepted
  exact accepted

namespace Extends
variable (extension : Extends before after status newEvidence newBases)
include extension

/-- Support under an unchanged profile is lost only with the status of a member. -/
theorem underProfile (valid : ValidState before) (profile : SameProfile before after)
    (known : basisId ∈ before.currentBasisIds) (found : before.basesById basisId = some basis)
    (supported : basis.supportedBy after.evidenceById Evidence.isCurrent = true) :
    basisIsSupportedUnder after.requiredProfileId after.requiredProfileVersion
      after.evidenceById basis = true := by
  rw [extension.supportedBy_iff valid.core known found] at supported
  rw [basisIsSupportedUnder, extension.supportedBy_iff valid.core known found,
    profile.profileId, profile.profileVersion]
  intro member inside item located
  have current := supported member inside item located
  obtain ⟨-, fits⟩ := valid.current_member known found inside located
  simp only [Bool.and_eq_true]
  exact ⟨current, fits⟩

end Extends

theorem Extends.same (evidence : after.evidence = restatus status before.evidence)
    (bases : after.bases = before.bases) : Extends before after status [] [] where
  evidence := by rw [evidence, List.append_nil]
  bases := by rw [bases, List.append_nil]
  freshEvidence := by simp [Keyed.keys]
  freshBases := by simp [Keyed.keys]
  distinctEvidence := List.nodup_nil
  distinctBases := List.nodup_nil

section Claims

@[simp] theorem claiming_claims {interim : ControlState} :
    (interim.claiming claims audit).claims = claims := rfl

@[simp] theorem claiming_evidence {interim : ControlState} :
    (interim.claiming claims audit).evidence = interim.evidence := rfl

@[simp] theorem claiming_bases {interim : ControlState} :
    (interim.claiming claims audit).bases = interim.bases := rfl

/-- A substantive verdict is expected only where it was held before and keeps a basis. -/
theorem expectedClaims_substantive
    (substantive : (expectedClaims before bases).assurance.substantive = true) :
    before.obligation = .current ∧ before.assurance.substantive = true ∧ bases.2 ≠ ∅ ∧
      (expectedClaims before bases).assurance = before.assurance := by
  simp only [expectedClaims] at substantive ⊢
  split at substantive
  · cases substantive
  · case isFalse current =>
      split at substantive
      · cases substantive
      · case isFalse kept => grind

/-- Without a verdict before, or a verdict basis afterwards, no verdict is expected. -/
theorem expectedClaims_unverified {after : ControlState} (claims : after.claims = expectedClaims before bases)
    (lost : before.assurance.substantive = true → bases.2 = ∅) :
    after.assurance.substantive = false := by
  have assurance : after.assurance = (expectedClaims before bases).assurance :=
    congrArg Claims.assurance claims
  rw [assurance]
  by_contra alive
  rw [Bool.not_eq_false] at alive
  obtain ⟨-, substantive, kept, -⟩ := expectedClaims_substantive alive
  exact kept (lost substantive)

theorem expectedClaims_inapplicable (other : before.obligation ≠ .current) :
    (expectedClaims before bases).assurance = .na := by
  simp [expectedClaims, other]

theorem expectedClaims_sourceState (kept : basisId ∈ bases.1) :
    (expectedClaims before bases).sourceState = before.sourceState := by
  have nonempty : bases.1 ≠ ∅ := Finset.ne_empty_of_mem kept
  simp [expectedClaims, nonempty]

theorem expectedClaims_assurance (valid : CoreValid before) (kept : basisId ∈ bases.2) :
    (expectedClaims before bases).assurance = before.assurance := by
  have nonempty : bases.2 ≠ ∅ := Finset.ne_empty_of_mem kept
  by_cases current : before.obligation = .current
  · simp [expectedClaims, current, nonempty]
  · rw [expectedClaims_inapplicable current, valid.inapplicable current]

theorem expectedClaims_na (na : before.assurance = .na) :
    (expectedClaims before bases).assurance = .na := by
  simp only [expectedClaims, na, Assurance.substantive]
  split <;> simp

/-- Fewer bases with the claims expected of them are consistent. -/
theorem CoreValid.expected (valid : CoreValid before)
    (claims : after.claims = expectedClaims before survivors)
    (evidence : (after.evidence.map Evidence.evidenceId).Nodup)
    (bases : after.bases = before.bases)
    (fewerSources : survivors.1 ⊆ before.currentSourceBasisIds)
    (fewerVerdicts : survivors.2 ⊆ before.currentVerdictBasisIds)
    (supported : ∀ basisId ∈ survivors.1 ∪ survivors.2, basisIsCurrent after basisId = true)
    (obligation : after.obligation = before.obligation ∨ before.assurance = .na) :
    CoreValid after := by
  have found : after.basesById = before.basesById := by
    rw [ControlState.basesById, bases]
    rfl
  have source : after.sourceState = (expectedClaims before survivors).sourceState :=
    congrArg Claims.sourceState claims
  have assurance : after.assurance = (expectedClaims before survivors).assurance :=
    congrArg Claims.assurance claims
  have sources : after.currentSourceBasisIds = survivors.1 := congrArg Claims.sourceBases claims
  have verdicts : after.currentVerdictBasisIds = survivors.2 :=
    congrArg Claims.verdictBases claims
  constructor
  · exact evidence
  · rw [bases]
    exact valid.bases
  · intro basisId member
    apply supported
    rwa [ControlState.currentBasisIds, sources, verdicts] at member
  · intro basisId member basis located
    rw [sources] at member
    rw [source, expectedClaims_sourceState member]
    exact valid.sources basisId (fewerSources member) basis (found ▸ located)
  · intro basisId member basis located
    rw [verdicts] at member
    rw [assurance, expectedClaims_assurance valid member]
    exact valid.verdicts basisId (fewerVerdicts member) basis (found ▸ located)
  · intro substantive lost
    rw [source, sources] at *
    simp [expectedClaims, lost] at substantive
  · intro _ substantive
    rw [assurance] at substantive
    rw [verdicts]
    exact (expectedClaims_substantive substantive).2.2.1
  · intro other
    rw [assurance]
    rcases obligation with same | na
    · exact expectedClaims_inapplicable (same ▸ other)
    · exact expectedClaims_na na

end Claims

theorem Basis.supportedBy_mono {basis : Basis}
    (weaker : ∀ item, acceptable item = true → acceptable' item = true)
    (supported : basis.supportedBy evidence acceptable = true) :
    basis.supportedBy evidence acceptable' = true := by
  simp only [supportedBy, Bool.and_eq_true, decide_eq_true_eq] at supported ⊢
  refine ⟨supported.1, fun member inside => ?_⟩
  obtain ⟨item, found, accepted⟩ := any_iff.mp (supported.2 member inside)
  exact any_iff.mpr ⟨item, found, weaker item accepted⟩

end CsdFoundry.Kernel
