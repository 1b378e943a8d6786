import CsdFoundry.Kernel.Determinacy
import Mathlib.Data.Finset.NAry

/-! What a reassessment rests on. Its claims need one basis each, and a basis needs its old
members current; the least such evidence is found from the state and the event. -/
namespace CsdFoundry.Kernel
namespace Reassess

variable {state : ControlState} {event : Reassess}

/-- The bases that back a claim of the event where their members are current. -/
def eligible (state : ControlState) (event : Reassess) (current : Finset String)
    (kind : BasisKind) (claim : String) : Finset String :=
  (current ∪ event.basisIds).filter (fun basisId =>
    ((event.merged state).basesById basisId).any (fun basis =>
      basis.kind = kind && basis.claim = claim &&
        (basis.approved && basis.memberEvidenceIds ≠ ∅)))

def eligibleSources (state : ControlState) (event : Reassess) : Finset String :=
  event.eligible state state.currentSourceBasisIds .source (event.resultingSource state).value

def eligibleVerdicts (state : ControlState) (event : Reassess) : Finset String :=
  event.eligible state state.currentVerdictBasisIds .verdict
    (event.resultingAssurance state).value

/-- The old evidence among the members of a basis. -/
def oldMembers (state : ControlState) (event : Reassess) (basisId : String) : Finset String :=
  ((event.merged state).basesById basisId).elim ∅
    (fun basis => basis.memberEvidenceIds \ event.evidenceIds)

/-- Every member of the basis fits the required profile. -/
def Fits (state : ControlState) (event : Reassess) (basisId : String) : Prop :=
  ∀ basis, (event.merged state).basesById basisId = some basis →
    ∀ member ∈ basis.memberEvidenceIds, ∀ item,
      (event.merged state).evidenceById member = some item →
        item.matchesProfile state.requiredProfileId state.requiredProfileVersion = true

/-- The old evidence under a claim: that of one eligible basis where the claim needs a basis,
and none elsewhere. -/
def claimGrounds (state : ControlState) (event : Reassess) (claimed : Prop) [Decidable claimed]
    (eligible : Finset String) : Finset (Finset String) :=
  if claimed then eligible.image (event.oldMembers state) else {∅}

/-- The old evidence under both claims, for each choice of bases. -/
def grounds (state : ControlState) (event : Reassess) : Finset (Finset String) :=
  Finset.image₂ (· ∪ ·)
    (event.claimGrounds state (event.resultingSource state ≠ .unknown)
      (event.eligibleSources state))
    (event.claimGrounds state ((event.resultingAssurance state).substantive = true)
      (event.eligibleVerdicts state))

/-- The ground is current, and no basis that stands on it misfits the profile. -/
structure Tenable (state : ControlState) (event : Reassess) (ground : Finset String) : Prop where
  current : ground ⊆ state.currentEvidenceIds
  fits : ∀ basisId ∈ event.eligibleSources state ∪ event.eligibleVerdicts state,
    event.oldMembers state basisId ⊆ ground → event.Fits state basisId

/-- Kernel and verifier list the same bases for a claim: where it needs one, the new bases of
the kind are eligible and cite no stale evidence; elsewhere no basis is left to list. -/
def Settled (state : ControlState) (event : Reassess) (claimed : Prop) [Decidable claimed]
    (kind : BasisKind) (eligible : Finset String) : Prop :=
  if claimed then ∀ basis ∈ event.newBases, basis.kind = kind →
    basis.basisId ∈ eligible ∧ event.oldMembers state basis.basisId ⊆ state.currentEvidenceIds
  else ∀ basisId ∈ eligible, ¬ event.oldMembers state basisId ⊆ state.currentEvidenceIds

/-- Nothing but the evidence that is kept can differ between two results. -/
structure Undisputed (state : ControlState) (event : Reassess) : Prop where
  pinned : ∀ item ∈ state.evidence, item.status ≠ .current → item.Pinned state.logicalTime
  applicable : event.resultingAssurance state ≠ .na
  obligation : state.obligation = .current
  sources : event.Settled state (event.resultingSource state ≠ .unknown) .source
    (event.eligibleSources state)
  verdicts : event.Settled state ((event.resultingAssurance state).substantive = true) .verdict
    (event.eligibleVerdicts state)

/-- A basis is supported where its old members are kept. -/
theorem supportedBases_eq (kept current : Finset String) (kind : BasisKind) (claim : String) :
    event.supportedBases state kept current kind claim =
      (event.eligible state current kind claim).filter
        (fun basisId => event.oldMembers state basisId ⊆ kept) := by
  ext basisId
  rw [supportedBases, eligible, Finset.mem_filter, Finset.mem_filter, Finset.mem_filter,
    and_assoc, oldMembers]
  refine and_congr_right fun known => ?_
  cases (event.merged state).basesById basisId with
  | none => simp
  | some basis =>
      have members : basis.memberEvidenceIds ⊆ kept ∪ event.evidenceIds ↔
          basis.memberEvidenceIds \ event.evidenceIds ⊆ kept := by
        rw [Finset.union_comm]
        exact sdiff_le_iff.symm
      simp [members, and_assoc]

theorem mem_supported {kept current : Finset String} {kind : BasisKind} {claim : String}
    (member : basisId ∈ event.supportedBases state kept current kind claim) :
    basisId ∈ event.eligible state current kind claim ∧
      event.oldMembers state basisId ⊆ kept := by
  rw [supportedBases_eq] at member
  exact Finset.mem_filter.mp member

theorem supportedBases_ne_empty {kept current : Finset String} {kind : BasisKind}
    {claim : String} : event.supportedBases state kept current kind claim ≠ ∅ ↔
      ∃ basisId ∈ event.eligible state current kind claim,
        event.oldMembers state basisId ⊆ kept := by
  rw [supportedBases_eq, ← Finset.nonempty_iff_ne_empty, Finset.filter_nonempty_iff]

/-- A claim that is supported has a ground among what is kept. -/
theorem claimGrounds_of_supported {claimed : Prop} [Decidable claimed] {kept : Finset String}
    {eligible : Finset String}
    (supported : claimed → ∃ basisId ∈ eligible, event.oldMembers state basisId ⊆ kept) :
    ∃ ground ∈ event.claimGrounds state claimed eligible, ground ⊆ kept := by
  by_cases needed : claimed
  · obtain ⟨basisId, member, within⟩ := supported needed
    refine ⟨_, ?_, within⟩
    rw [claimGrounds, if_pos needed]
    exact Finset.mem_image_of_mem _ member
  · refine ⟨∅, ?_, Finset.empty_subset kept⟩
    rw [claimGrounds, if_neg needed]
    exact Finset.mem_singleton_self ∅

/-- What contains a ground of a claim supports the claim. -/
theorem supported_of_claimGrounds {claimed : Prop} [Decidable claimed]
    {ground kept : Finset String} {eligible : Finset String}
    (member : ground ∈ event.claimGrounds state claimed eligible) (within : ground ⊆ kept)
    (needed : claimed) :
    ∃ basisId ∈ eligible, event.oldMembers state basisId ⊆ kept := by
  rw [claimGrounds, if_pos needed] at member
  obtain ⟨basisId, chosen, rfl⟩ := Finset.mem_image.mp member
  exact ⟨basisId, chosen, within⟩

/-- A tenable ground supports the claims of the event. -/
theorem Tenable.supports {ground : Finset String} (tenable : event.Tenable state ground)
    (member : ground ∈ event.grounds state) : event.Supports state ground := by
  obtain ⟨sources, source, verdicts, verdict, rfl⟩ := Finset.mem_image₂.mp member
  constructor
  · intro basisId claimed
    have listed : basisId ∈ event.eligibleSources state ∪ event.eligibleVerdicts state ∧
        event.oldMembers state basisId ⊆ sources ∪ verdicts := by
      rcases Finset.mem_union.mp claimed with claimed | claimed
      · exact ⟨Finset.mem_union_left _ (mem_supported claimed).1, (mem_supported claimed).2⟩
      · exact ⟨Finset.mem_union_right _ (mem_supported claimed).1, (mem_supported claimed).2⟩
    exact tenable.fits basisId listed.1 listed.2
  · intro known
    exact supportedBases_ne_empty.mpr
      (supported_of_claimGrounds source Finset.subset_union_left known)
  · intro substantive
    exact supportedBases_ne_empty.mpr
      (supported_of_claimGrounds verdict Finset.subset_union_right substantive)

/-- Evidence that supports the claims contains a tenable ground. -/
theorem Supports.tenable {kept : Finset String} (supports : event.Supports state kept)
    (known : kept ⊆ state.currentEvidenceIds) :
    ∃ ground ∈ event.grounds state, ground ⊆ kept ∧ event.Tenable state ground := by
  obtain ⟨sources, source, sourced⟩ := claimGrounds_of_supported fun needed =>
    supportedBases_ne_empty.mp (supports.source needed)
  obtain ⟨verdicts, verdict, verified⟩ := claimGrounds_of_supported fun needed =>
    supportedBases_ne_empty.mp (supports.verdict needed)
  have within : sources ∪ verdicts ⊆ kept := Finset.union_subset sourced verified
  refine ⟨sources ∪ verdicts, Finset.mem_image₂_of_mem source verdict, within,
    within.trans known, ?_⟩
  intro basisId listed standing
  apply supports.profile basisId
  have kept' := standing.trans within
  rcases Finset.mem_union.mp listed with listed | listed
  · apply Finset.mem_union_left
    change basisId ∈ event.supportedBases state kept _ _ _
    rw [supportedBases_eq]
    exact Finset.mem_filter.mpr ⟨listed, kept'⟩
  · apply Finset.mem_union_right
    change basisId ∈ event.supportedBases state kept _ _ _
    rw [supportedBases_eq]
    exact Finset.mem_filter.mpr ⟨listed, kept'⟩

section Claims
variable {current : Finset String} {kind : BasisKind} {claim : String}

/-- The current bases of a valid state are there, approved and supported. -/
theorem current_basis (core : CoreValid state) (member : basisId ∈ state.currentBasisIds) :
    ∃ basis, state.basesById basisId = some basis ∧ basis.approved = true ∧
      basis.memberEvidenceIds ≠ ∅ ∧ basis.memberEvidenceIds ⊆ state.currentEvidenceIds := by
  obtain ⟨basis, found, supported⟩ := any_iff.mp (core.supported basisId member)
  simp only [Basis.supportedBy, Bool.and_eq_true, decide_eq_true_eq] at supported
  refine ⟨basis, found, supported.1.1, supported.1.2, fun evidenceId inside => ?_⟩
  obtain ⟨item, located, active⟩ := any_iff.mp (supported.2 evidenceId inside)
  exact Finset.mem_filter.mpr ⟨Keyed.mem_keys_iff_find.mpr ⟨item, located⟩,
    any_iff.mpr ⟨item, located, active⟩⟩

/-- An old basis is looked up as before. -/
theorem merged_old_basis (admissible : event.Admissible state)
    (found : state.basesById basisId = some basis) :
    (event.merged state).basesById basisId = some basis := by
  have unknown : Keyed.find Basis.basisId event.newBases basisId = none := by
    rw [Keyed.find_eq_none]
    intro new member same
    have known : basisId ∈ state.basisIds := Keyed.mem_keys_iff_find.mpr ⟨basis, found⟩
    exact Finset.disjoint_left.mp admissible.basisIds known
      (Keyed.mem_keys.mpr ⟨new, member, same⟩)
  rw [merged_bases, unknown, Option.none_or, found]

/-- Every basis that the verifier lists the kernel lists too. -/
theorem supported_retained (core : CoreValid state) (admissible : event.Admissible state)
    (known : current ⊆ state.currentBasisIds) {kept : Finset String} :
    event.supportedBases state kept current kind claim ⊆
      retainedBases state event current kind claim := by
  intro basisId member
  obtain ⟨listed, -⟩ := mem_supported member
  obtain ⟨inside, backing⟩ := Finset.mem_filter.mp listed
  obtain ⟨basis, found, checked⟩ := any_iff.mp backing
  simp only [Bool.and_eq_true, decide_eq_true_eq] at checked
  rcases Finset.mem_union.mp inside with old | new
  · obtain ⟨old', found', -⟩ := current_basis core (known old)
    rw [Option.mem_def, merged_old_basis admissible found'] at found
    cases found
    apply Finset.mem_union_left
    refine Finset.mem_filter.mpr ⟨old, any_iff.mpr ⟨_, found', ?_⟩⟩
    simp [basisMatchesClaim, checked.1]
  · apply Finset.mem_union_right
    obtain ⟨new', given⟩ := Keyed.mem_keys_iff_find.mp new
    rw [Option.mem_def, merged_bases, given, Option.some_or] at found
    cases found
    rw [List.mem_toFinset, List.mem_map]
    refine ⟨_, List.mem_filter.mpr ⟨Keyed.mem_of_find given, ?_⟩, Keyed.key_of_find given⟩
    exact decide_eq_true checked.1.1

/-- The kernel lists no other bases exactly where the claim is settled. -/
theorem supported_eq_iff (core : CoreValid state) (admissible : event.Admissible state)
    (known : current ⊆ state.currentBasisIds) (claimed : Prop) [Decidable claimed] :
    event.supportedBases state state.currentEvidenceIds current kind claim =
        (if claimed then retainedBases state event current kind claim else ∅) ↔
      event.Settled state claimed kind (event.eligible state current kind claim) := by
  by_cases needed : claimed
  · rw [if_pos needed, Settled, if_pos needed]
    constructor
    · intro same basis member is
      have listed : basis.basisId ∈ retainedBases state event current kind claim := by
        apply Finset.mem_union_right
        rw [List.mem_toFinset]
        exact List.mem_map_of_mem (List.mem_filter.mpr ⟨member, decide_eq_true is⟩)
      rw [← same] at listed
      exact mem_supported listed
    · intro settled
      apply (supported_retained core admissible known).antisymm
      intro basisId member
      rw [supportedBases_eq, Finset.mem_filter]
      rcases Finset.mem_union.mp member with old | new
      · obtain ⟨inside, matching⟩ := Finset.mem_filter.mp old
        obtain ⟨basis, found, approved, complete, members⟩ := current_basis core (known inside)
        have located := merged_old_basis admissible found
        rw [found, Option.any_some, basisMatchesClaim, Bool.and_eq_true] at matching
        constructor
        · refine Finset.mem_filter.mpr ⟨Finset.mem_union_left _ inside, ?_⟩
          rw [located, Option.any_some]
          simp [matching.1, matching.2, approved, complete]
        · rw [oldMembers, located]
          exact Finset.sdiff_subset.trans members
      · rw [List.mem_toFinset, List.mem_map] at new
        obtain ⟨basis, listed, rfl⟩ := new
        obtain ⟨among, is⟩ := List.mem_filter.mp listed
        exact settled basis among (of_decide_eq_true is)
  · rw [if_neg needed, Settled, if_neg needed, supportedBases_eq, Finset.filter_eq_empty_iff]

/-- Kernel and verifier make the same claims of what is current exactly where both claims
are settled. -/
theorem supportedClaims_eq_iff (core : CoreValid state) (admissible : event.Admissible state) :
    event.supportedClaims state state.currentEvidenceIds = reassessedClaims state event ↔
      event.Settled state (event.resultingSource state ≠ .unknown) .source
          (event.eligibleSources state) ∧
        event.Settled state ((event.resultingAssurance state).substantive = true) .verdict
          (event.eligibleVerdicts state) := by
  rw [eligibleSources, eligibleVerdicts,
    ← supported_eq_iff core admissible Finset.subset_union_left,
    ← supported_eq_iff core admissible Finset.subset_union_right]
  simp only [supportedClaims, reassessedClaims, Claims.mk.injEq, true_and, ite_not]
  constructor
  · rintro ⟨sources, verdicts⟩
    refine ⟨sources, ?_⟩
    rw [verdicts]
    cases (event.resultingAssurance state).substantive <;> rfl
  · rintro ⟨sources, verdicts⟩
    refine ⟨sources, ?_⟩
    rw [verdicts]
    cases (event.resultingAssurance state).substantive <;> rfl

end Claims
end Reassess
end CsdFoundry.Kernel
