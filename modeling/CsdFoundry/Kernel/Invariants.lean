import CsdFoundry.Kernel.Transitions

/-! Independent checks of states and transitions. A check returns its violations; beside it
stands what holds exactly when there are none. -/
namespace CsdFoundry.Kernel

/-- `EXECUTABLE_INVARIANT_IDS`: a violation of an unregistered invariant cannot be built. -/
inductive InvariantId where
  | gInv06 | gInv10 | gInv11 | gInv13
  | inv04 | inv05 | inv07 | inv11 | inv13 | inv14 | inv15 | inv16 | inv18 | inv19
  | tInv01 | tInv02 | tInv03 | tInv04 | tInv06
  | pInv01 | pInv02 | pInv03 | pInv04
  | rInv01 | rInv02 | rInv03 | rInv04
  | hInv01 | hInv02 | hInv03
  deriving DecidableEq

def InvariantId.value : InvariantId → String
  | .gInv06 => "G-INV-06" | .gInv10 => "G-INV-10" | .gInv11 => "G-INV-11"
  | .gInv13 => "G-INV-13"
  | .inv04 => "INV-04" | .inv05 => "INV-05" | .inv07 => "INV-07" | .inv11 => "INV-11"
  | .inv13 => "INV-13" | .inv14 => "INV-14" | .inv15 => "INV-15" | .inv16 => "INV-16"
  | .inv18 => "INV-18" | .inv19 => "INV-19"
  | .tInv01 => "T-INV-01" | .tInv02 => "T-INV-02" | .tInv03 => "T-INV-03"
  | .tInv04 => "T-INV-04" | .tInv06 => "T-INV-06"
  | .pInv01 => "P-INV-01" | .pInv02 => "P-INV-02" | .pInv03 => "P-INV-03"
  | .pInv04 => "P-INV-04"
  | .rInv01 => "R-INV-01" | .rInv02 => "R-INV-02" | .rInv03 => "R-INV-03"
  | .rInv04 => "R-INV-04"
  | .hInv01 => "H-INV-01" | .hInv02 => "H-INV-02" | .hInv03 => "H-INV-03"

structure Violation where
  invariantId : InvariantId
  message : String
  deriving DecidableEq

def flag (found : Prop) [Decidable found] (invariantId : InvariantId) (message : String) :
    List Violation :=
  if found then [⟨invariantId, message⟩] else []

@[simp] theorem flag_eq_nil {found : Prop} [Decidable found] :
    flag found invariantId message = [] ↔ ¬ found := by
  by_cases found <;> simp [flag, *]

/-- A check of every item of a dictionary. -/
def Keyed.checkEach {α : Type} (key : α → String) (items : List α)
    (check : α → List Violation) : List Violation :=
  (Keyed.entries key items).flatMap check

theorem Keyed.checkEach_eq_nil {α : Type} {key : α → String} {items : List α}
    {check : α → List Violation} : Keyed.checkEach key items check = [] ↔
      ∀ k item, CsdFoundry.Keyed.find key items k = some item → check item = [] := by
  simp only [Keyed.checkEach, List.flatMap_eq_nil_iff, Keyed.mem_entries]
  constructor
  · intro clean k item found
    apply clean item
    rwa [Keyed.key_of_find found]
  · exact fun clean item found => clean _ item found

def basisIsSupported (evidence : String → Option Evidence) (basis : Basis) : Bool :=
  basis.supportedBy evidence Evidence.isCurrent

def memberViolations (state : ControlState) (basisId member : String) : List Violation :=
  match state.evidenceById member with
  | none => [⟨.inv07, s!"basis {basisId} references missing evidence {member}"⟩]
  | some item => flag (item.status ≠ .current) .inv13
      s!"basis {basisId} references non-current evidence {member}"

def currentBasisViolations (state : ControlState) (basisId : String) : List Violation :=
  match state.basesById basisId with
  | none => [⟨.inv07, s!"missing current basis {basisId}"⟩]
  | some basis =>
      flag (basis.approved = false) .inv07 s!"unapproved current basis {basisId}" ++
      flag (basis.memberEvidenceIds = ∅) .inv07 s!"current basis {basisId} has no evidence" ++
      (sortedSet basis.memberEvidenceIds).flatMap (memberViolations state basisId)

/-- A current basis is of its kind and claims what the state claims. -/
def claimViolations (state : ControlState) (invariantId : InvariantId) (kind : BasisKind)
    (claim basisId : String) : List Violation :=
  match state.basesById basisId with
  | none => []
  | some basis =>
      if basis.kind ≠ kind then
        [⟨invariantId, s!"{basisId} is not a {kind.value} basis"⟩]
      else flag (basis.claim ≠ claim) invariantId
        s!"{kind.value} basis {basisId} claims {basis.claim}, not {claim}"

def validateState (state : ControlState) : List Violation :=
  flag (state.evidenceIds.card ≠ state.evidence.length) .gInv06 "duplicate evidence identity" ++
  flag (state.basisIds.card ≠ state.bases.length) .gInv11 "duplicate basis identity" ++
  (sortedSet state.currentBasisIds).flatMap (currentBasisViolations state) ++
  (sortedSet state.currentSourceBasisIds).flatMap
    (claimViolations state .inv05 .source state.sourceState.value) ++
  (sortedSet state.currentVerdictBasisIds).flatMap
    (claimViolations state .inv07 .verdict state.assurance.value) ++
  flag (state.sourceState ≠ .unknown ∧ state.currentSourceBasisIds = ∅) .inv05
    "substantive source state has no current basis" ++
  flag (state.obligation = .current ∧ state.assurance.substantive = true ∧
      state.currentVerdictBasisIds = ∅) .inv07
    "substantive verdict has no current basis" ++
  flag (state.obligation ≠ .current ∧ state.assurance ≠ .na) .inv04
    "non-current obligation must have assuranceNA"

structure CoreValid (state : ControlState) : Prop where
  evidence : (state.evidence.map Evidence.evidenceId).Nodup
  bases : (state.bases.map Basis.basisId).Nodup
  supported : ∀ basisId ∈ state.currentBasisIds, basisIsCurrent state basisId = true
  sources : ∀ basisId ∈ state.currentSourceBasisIds, ∀ basis,
    state.basesById basisId = some basis →
      basis.kind = .source ∧ basis.claim = state.sourceState.value
  verdicts : ∀ basisId ∈ state.currentVerdictBasisIds, ∀ basis,
    state.basesById basisId = some basis →
      basis.kind = .verdict ∧ basis.claim = state.assurance.value
  sourced : state.sourceState ≠ .unknown → state.currentSourceBasisIds ≠ ∅
  verified : state.obligation = .current → state.assurance.substantive = true →
    state.currentVerdictBasisIds ≠ ∅
  inapplicable : state.obligation ≠ .current → state.assurance = .na

theorem memberViolations_eq_nil : memberViolations state basisId member = [] ↔
    (state.evidenceById member).any Evidence.isCurrent = true := by
  cases found : state.evidenceById member <;> simp [memberViolations, found, Evidence.isCurrent]

theorem currentBasisViolations_eq_nil : currentBasisViolations state basisId = [] ↔
    basisIsCurrent state basisId = true := by
  cases found : state.basesById basisId with
  | none => simp [currentBasisViolations, basisIsCurrent, found]
  | some basis =>
      simp [currentBasisViolations, basisIsCurrent, found, Basis.supportedBy, and_assoc,
        memberViolations_eq_nil]

theorem claimViolations_eq_nil : claimViolations state invariantId kind claim basisId = [] ↔
    ∀ basis, state.basesById basisId = some basis → basis.kind = kind ∧ basis.claim = claim := by
  cases found : state.basesById basisId with
  | none => simp [claimViolations, found]
  | some basis => by_cases same : basis.kind = kind <;> simp [claimViolations, found, same]

theorem validateState_eq_nil : validateState state = [] ↔ CoreValid state := by
  simp only [validateState, List.append_eq_nil_iff, flag_eq_nil, List.flatMap_eq_nil_iff,
    mem_sortedSet, currentBasisViolations_eq_nil, claimViolations_eq_nil, not_not]
  simp only [ControlState.evidenceIds, ControlState.basisIds, Keyed.nodup_iff]
  constructor
  · rintro ⟨⟨⟨⟨⟨⟨⟨evidence, bases⟩, supported⟩, sources⟩, verdicts⟩, sourced⟩, verified⟩,
      inapplicable⟩
    constructor <;> grind
  · rintro ⟨evidence, bases, supported, sources, verdicts, sourced, verified, inapplicable⟩
    grind

/-- `validate_transition`, for one item of evidence. -/
def preservedEvidenceViolations (after : ControlState) (old : Evidence) : List Violation :=
  match after.evidenceById old.evidenceId with
  | none => [⟨.inv19, s!"evidence {old.evidenceId} was deleted"⟩]
  | some new =>
      flag (old.status ≠ .current ∧ new.status = .current) .inv18
        s!"evidence {old.evidenceId} was reactivated" ++
      flag (old.evidenceId ≠ new.evidenceId ∨ old.dimension ≠ new.dimension ∨
          old.dependencies ≠ new.dependencies ∨ old.outcome ≠ new.outcome) .gInv06
        s!"evidence {old.evidenceId} was rewritten"

def preservedBasisViolations (after : ControlState) (old : Basis) : List Violation :=
  match after.basesById old.basisId with
  | none => [⟨.inv19, s!"basis {old.basisId} was deleted"⟩]
  | some new => flag (old ≠ new) .gInv11 s!"basis {old.basisId} was rewritten"

/-- Immutability and consistency, whatever the event. -/
def validateTransition (before after : ControlState) : List Violation :=
  validateState after ++
  flag (after.history.take before.history.length ≠ before.history) .inv19
    "history is not append-only" ++
  Keyed.checkEach Evidence.evidenceId before.evidence (preservedEvidenceViolations after) ++
  Keyed.checkEach Basis.basisId before.bases (preservedBasisViolations after)

structure CorePreserved (before after : ControlState) : Prop where
  history : before.history <+: after.history
  evidence : ∀ evidenceId old, before.evidenceById evidenceId = some old →
    ∃ new, after.evidenceById evidenceId = some new ∧
      (new.status = .current → old.status = .current) ∧ old.dimension = new.dimension ∧
      old.dependencies = new.dependencies ∧ old.outcome = new.outcome
  bases : ∀ basisId old, before.basesById basisId = some old →
    after.basesById basisId = some old

theorem preservedEvidenceViolations_eq_nil (named : old.evidenceId = evidenceId) :
    preservedEvidenceViolations after old = [] ↔
      ∃ new, after.evidenceById evidenceId = some new ∧
        (new.status = .current → old.status = .current) ∧ old.dimension = new.dimension ∧
        old.dependencies = new.dependencies ∧ old.outcome = new.outcome := by
  subst named
  cases located : after.evidenceById old.evidenceId with
  | none => simp [preservedEvidenceViolations, located]
  | some new =>
      have sameName : new.evidenceId = old.evidenceId := Keyed.key_of_find located
      simp only [preservedEvidenceViolations, located, List.append_eq_nil_iff, flag_eq_nil,
        Option.some.injEq, exists_eq_left']
      grind

theorem preservedBasisViolations_eq_nil (named : old.basisId = basisId) :
    preservedBasisViolations after old = [] ↔ after.basesById basisId = some old := by
  subst named
  cases located : after.basesById old.basisId with
  | none => simp [preservedBasisViolations, located]
  | some new =>
      simp only [preservedBasisViolations, located, flag_eq_nil, not_not, Option.some.injEq]
      exact eq_comm

theorem validateTransition_eq_nil : validateTransition before after = [] ↔
    CoreValid after ∧ CorePreserved before after := by
  simp only [validateTransition, List.append_eq_nil_iff, flag_eq_nil, not_not,
    validateState_eq_nil, Keyed.checkEach_eq_nil, and_assoc]
  refine and_congr_right (fun _ => ?_)
  constructor
  · rintro ⟨history, evidence, bases⟩
    constructor
    · exact List.prefix_iff_eq_take.mpr history.symm
    · intro evidenceId old found
      exact (preservedEvidenceViolations_eq_nil (Keyed.key_of_find found)).mp
        (evidence evidenceId old found)
    · intro basisId old found
      exact (preservedBasisViolations_eq_nil (Keyed.key_of_find found)).mp
        (bases basisId old found)
  · rintro ⟨history, evidence, bases⟩
    refine ⟨(List.prefix_iff_eq_take.mp history).symm, ?_, ?_⟩
    · intro evidenceId old found
      exact (preservedEvidenceViolations_eq_nil (Keyed.key_of_find found)).mpr
        (evidence evidenceId old found)
    · intro basisId old found
      exact (preservedBasisViolations_eq_nil (Keyed.key_of_find found)).mpr
        (bases basisId old found)

def ControlState.claims (state : ControlState) : Claims :=
  ⟨state.sourceState, state.assurance, state.currentSourceBasisIds,
    state.currentVerdictBasisIds⟩

/-- What the verifier expects to be claimed when the given source and verdict bases survive. -/
def expectedClaims (before : ControlState) (bases : Finset String × Finset String) : Claims :=
  { sourceState :=
      if before.sourceState ≠ .unknown ∧ bases.1 = ∅ then .unknown else before.sourceState
    assurance :=
      if before.obligation ≠ .current then .na
      else if before.assurance.substantive = true ∧ bases.2 = ∅ then .stale
      else before.assurance
    sourceBases := bases.1
    verdictBases := bases.2 }

def expectedDependencyClaims (before after : ControlState) : Claims :=
  let supported := fun basisId =>
    (after.basesById basisId).any (basisIsSupported after.evidenceById)
  expectedClaims before
    (before.currentSourceBasisIds.filter (fun basisId => supported basisId),
      before.currentVerdictBasisIds.filter (fun basisId => supported basisId))

/-- The status of an old item is the one expected of it. -/
def statusViolations (after : ControlState) (invariantId : Evidence → InvariantId)
    (expected : Evidence → EvidenceStatus) (old : Evidence) : List Violation :=
  match after.evidenceById old.evidenceId with
  | none => []
  | some new => flag (new.status ≠ expected old) (invariantId old)
      s!"evidence {old.evidenceId} has {new.status.value}; expected {(expected old).value}"

theorem statusViolations_eq_nil {before after : ControlState} :
    Keyed.checkEach Evidence.evidenceId before.evidence
        (statusViolations after invariantId expected) = [] ↔
      ∀ evidenceId old new, before.evidenceById evidenceId = some old →
        after.evidenceById evidenceId = some new → new.status = expected old := by
  rw [Keyed.checkEach_eq_nil]
  refine forall₂_congr (fun evidenceId old => ?_)
  constructor
  · intro clean new found located
    have checked := clean found
    rw [statusViolations, Keyed.key_of_find found, located] at checked
    simpa using checked
  · intro expects found
    rw [statusViolations, Keyed.key_of_find found]
    cases located : after.evidenceById evidenceId with
    | none => rfl
    | some new => simpa using expects new found located

def dependencyStatus (event : DependencyChange) (old : Evidence) : EvidenceStatus :=
  if old.affectedBy event then .invalidated else old.status

def validateDependencyChange (before : ControlState) (event : DependencyChange)
    (after : ControlState) : List Violation :=
  let expected := expectedDependencyClaims before after
  flag (after.evidenceIds ≠ before.evidenceIds) .inv11
    "dependency change altered evidence identities" ++
  flag (after.basisIds ≠ before.basisIds) .inv13
    "dependency change altered basis identities" ++
  Keyed.checkEach Evidence.evidenceId before.evidence
    (statusViolations after (fun old => if old.affectedBy event then .inv11 else .inv14)
      (dependencyStatus event)) ++
  flag (after.currentSourceBasisIds ≠ expected.sourceBases) .inv13
    "source-basis survival does not match impact" ++
  flag (after.currentVerdictBasisIds ≠ expected.verdictBases) .inv16
    "verdict-basis survival does not match impact" ++
  flag (after.sourceState ≠ expected.sourceState) .inv15
    "source-state result does not match basis survival" ++
  flag (after.assurance ≠ expected.assurance) .inv15
    "assurance result does not match basis survival"

structure DependencyChanged (before : ControlState) (event : DependencyChange)
    (after : ControlState) : Prop where
  evidenceIds : after.evidenceIds = before.evidenceIds
  basisIds : after.basisIds = before.basisIds
  statuses : ∀ evidenceId old new, before.evidenceById evidenceId = some old →
    after.evidenceById evidenceId = some new → new.status = dependencyStatus event old
  claims : after.claims = expectedDependencyClaims before after

theorem validateDependencyChange_eq_nil : validateDependencyChange before event after = [] ↔
    DependencyChanged before event after := by
  simp only [validateDependencyChange, List.append_eq_nil_iff, flag_eq_nil, not_not,
    statusViolations_eq_nil]
  constructor
  · rintro ⟨⟨⟨⟨⟨⟨evidenceIds, basisIds⟩, statuses⟩, sources⟩, verdicts⟩, source⟩, assurance⟩
    exact ⟨evidenceIds, basisIds, statuses, by simp [ControlState.claims, *]⟩
  · rintro ⟨evidenceIds, basisIds, statuses, claims⟩
    simp only [← claims, ControlState.claims]
    grind

/-- Bases of the kind that may be current after a reassessment. -/
def reassessedBases (event : Reassess) (after : ControlState) (current : Finset String)
    (kind : BasisKind) (claim : String) : Finset String :=
  (current ∪ event.basisIds).filter (fun basisId =>
    (after.basesById basisId).any (fun basis => basis.kind = kind && basis.claim = claim &&
      basisIsSupported after.evidenceById basis))

def expectedReassessClaims (before : ControlState) (event : Reassess) (after : ControlState) :
    Claims :=
  let resultingSource := event.sourceState.getD before.sourceState
  let resultingAssurance := event.assurance.getD before.assurance
  { sourceState := resultingSource
    assurance := resultingAssurance
    sourceBases := reassessedBases event after before.currentSourceBasisIds .source
      resultingSource.value
    verdictBases := reassessedBases event after before.currentVerdictBasisIds .verdict
      resultingAssurance.value }

def validateReassess (before : ControlState) (event : Reassess) (after : ControlState) :
    List Violation :=
  let expected := expectedReassessClaims before event after
  flag (after.evidenceIds \ before.evidenceIds ≠ event.evidenceIds) .inv18
    "reassessment evidence identities do not match the event" ++
  Keyed.checkEach Evidence.evidenceId event.newEvidence (fun item =>
    flag ((after.evidenceById item.evidenceId).any (· ≠ item) = true) .gInv06
      s!"reassessment evidence {item.evidenceId} differs from the event") ++
  flag (after.basisIds \ before.basisIds ≠ event.basisIds) .gInv11
    "reassessment basis identities do not match the event" ++
  Keyed.checkEach Basis.basisId event.newBases (fun basis =>
    flag ((after.basesById basis.basisId).any (· ≠ basis) = true) .gInv11
      s!"reassessment basis {basis.basisId} differs from the event") ++
  flag (after.sourceState ≠ expected.sourceState) .gInv10
    "reassessment source state does not match the event" ++
  flag (after.assurance ≠ expected.assurance) .gInv10
    "reassessment assurance does not match the event" ++
  flag (after.currentSourceBasisIds ≠ expected.sourceBases) .gInv10
    "reassessment source references are not canonical" ++
  flag (after.currentVerdictBasisIds ≠ expected.verdictBases) .gInv10
    "reassessment verdict references are not canonical"

structure Reassessed (before : ControlState) (event : Reassess) (after : ControlState) : Prop where
  evidenceIds : after.evidenceIds \ before.evidenceIds = event.evidenceIds
  evidence : ∀ evidenceId item, Keyed.find Evidence.evidenceId event.newEvidence evidenceId =
    some item → after.evidenceById evidenceId = some item
  basisIds : after.basisIds \ before.basisIds = event.basisIds
  bases : ∀ basisId basis, Keyed.find Basis.basisId event.newBases basisId = some basis →
    after.basesById basisId = some basis
  claims : after.claims = expectedReassessClaims before event after

/-- An item of the event that is found afterwards is found as the event has it. -/
theorem Keyed.found_as_given {α : Type} [DecidableEq α] {key : α → String}
    {given old new : List α} (added : Keyed.keys key new \ Keyed.keys key old = Keyed.keys key given)
    {invariantId : InvariantId} {message : α → String} :
    Keyed.checkEach key given (fun item =>
        flag ((Keyed.find key new (key item)).any (· ≠ item) = true) invariantId
          (message item)) = [] ↔
      ∀ k item, Keyed.find key given k = some item → Keyed.find key new k = some item := by
  rw [Keyed.checkEach_eq_nil]
  refine forall₂_congr (fun k item => ?_)
  refine forall_congr' (fun found => ?_)
  have present : k ∈ Keyed.keys key new := by
    have given' : k ∈ Keyed.keys key given := Keyed.mem_keys_iff_find.mpr ⟨item, found⟩
    rw [← added] at given'
    exact (Finset.mem_sdiff.mp given').1
  obtain ⟨actual, located⟩ := Keyed.mem_keys_iff_find.mp present
  rw [Keyed.key_of_find found, located]
  simp

theorem validateReassess_eq_nil : validateReassess before event after = [] ↔
    Reassessed before event after := by
  simp only [validateReassess, List.append_eq_nil_iff, flag_eq_nil, not_not]
  constructor
  · rintro ⟨⟨⟨⟨⟨⟨⟨evidenceIds, evidence⟩, basisIds⟩, bases⟩, source⟩, assurance⟩, sources⟩, verdicts⟩
    exact ⟨evidenceIds, (Keyed.found_as_given evidenceIds).mp evidence, basisIds,
      (Keyed.found_as_given basisIds).mp bases, by simp [ControlState.claims, *]⟩
  · rintro ⟨evidenceIds, evidence, basisIds, bases, claims⟩
    simp only [← claims, ControlState.claims]
    exact ⟨⟨⟨⟨⟨⟨⟨evidenceIds, (Keyed.found_as_given evidenceIds).mpr evidence⟩, basisIds⟩,
      (Keyed.found_as_given basisIds).mpr bases⟩, trivial⟩, trivial⟩, trivial⟩, trivial⟩

def validateRetirement (before : ControlState) (event : RetireControl) (after : ControlState) :
    List Violation :=
  let expectedId := event.retirementEvidence.evidenceId
  flag (after.evidenceIds \ before.evidenceIds ≠ {expectedId}) .gInv13
    "retirement evidence identity does not match the event" ++
  flag ((after.evidenceById expectedId).any (· ≠ event.retirementEvidence) = true) .gInv06
    "retirement evidence content does not match the event" ++
  flag (after.basisIds ≠ before.basisIds) .gInv13 "retirement altered basis identities" ++
  flag (after.obligation ≠ .retired) .inv04 "retirement did not retire the obligation" ++
  flag (after.assurance ≠ .na) .inv04 "retirement did not set assuranceNA" ++
  flag (after.sourceState ≠ .unknown) .inv05
    "retirement retained a substantive source state" ++
  flag (after.currentSourceBasisIds ≠ ∅ ∨ after.currentVerdictBasisIds ≠ ∅) .gInv13
    "retirement retained current basis references"

structure Retired (before : ControlState) (event : RetireControl) (after : ControlState) :
    Prop where
  evidenceIds :
    after.evidenceIds \ before.evidenceIds = {event.retirementEvidence.evidenceId}
  evidence : after.evidenceById event.retirementEvidence.evidenceId =
    some event.retirementEvidence
  basisIds : after.basisIds = before.basisIds
  obligation : after.obligation = .retired
  claims : after.claims = ⟨.unknown, .na, ∅, ∅⟩

theorem validateRetirement_eq_nil : validateRetirement before event after = [] ↔
    Retired before event after := by
  simp only [validateRetirement, List.append_eq_nil_iff, flag_eq_nil, not_not]
  constructor
  · rintro ⟨⟨⟨⟨⟨⟨evidenceIds, evidence⟩, basisIds⟩, obligation⟩, assurance⟩, source⟩, bases⟩
    have present : event.retirementEvidence.evidenceId ∈ after.evidenceIds := by
      have added := Finset.mem_singleton_self event.retirementEvidence.evidenceId
      rw [← evidenceIds] at added
      exact (Finset.mem_sdiff.mp added).1
    obtain ⟨actual, located⟩ := Keyed.mem_keys_iff_find.mp present
    change after.evidenceById _ = _ at located
    constructor
    · exact evidenceIds
    · simpa [located] using evidence
    · exact basisIds
    · exact obligation
    · simp_all [ControlState.claims]
  · rintro ⟨evidenceIds, evidence, basisIds, obligation, claims⟩
    simp only [ControlState.claims, Claims.mk.injEq] at claims
    simp [*]

/-- `validate_event_transition`; the oracle does not call it for temporal events, on which
the source raises. -/
def validateEventTransition (before : ControlState) (event : CsdEvent) (after : ControlState) :
    List Violation :=
  match event with
  | .dependencyChange event => validateDependencyChange before event after
  | .reassess event => validateReassess before event after
  | .retireControl event => validateRetirement before event after
  | .advanceClock _ | .profileChange _ | .requestReassessment _ | .recordHeartbeat _ => []

end CsdFoundry.Kernel
