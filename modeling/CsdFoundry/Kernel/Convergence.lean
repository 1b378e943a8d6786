import CsdFoundry.Kernel.Agreement
import CsdFoundry.Kernel.Reassessment
import CsdFoundry.Kernel.Weakening

/-! Sequences of events that only take away: what they leave does not depend on their order. -/
namespace CsdFoundry.Kernel

/-- The kernel applied to one event after the other, without the oracle. -/
def applyEvents (state : ControlState) : List CsdEvent → Except KernelError ControlState
  | [] => .ok state
  | event :: events => do
      let (next, _) ← applyEvent state event
      applyEvents next events

theorem applyEvents_cons : applyEvents state (event :: events) = .ok final ↔
    ∃ next trace, applyEvent state event = .ok (next, trace) ∧
      applyEvents next events = .ok final := by
  cases applied : applyEvent state event with
  | error e => simp [applyEvents, applied, bind, Except.bind]
  | ok result =>
      obtain ⟨next, trace⟩ := result
      simp [applyEvents, applied, bind, Except.bind]

/-- An item after the events. -/
def Evidence.afterAll (events : List CsdEvent) (item : Evidence) : Evidence :=
  events.foldl (fun item event => item.withStatus (event.status item)) item

theorem affects_withStatus (event : CsdEvent) (item : Evidence) (status : EvidenceStatus) :
    event.affects (item.withStatus status) = event.affects item := by
  cases event <;> rfl

variable {state next final : ControlState} {event : CsdEvent} {events : List CsdEvent}

/-- Whether a basis is kept depends on what never changes. -/
theorem keeps_static (bases : next.bases = state.bases)
    (evidence : next.evidence = restatus status state.evidence) :
    next.keeps event = state.keeps event := by
  funext basisId
  have members : ∀ member, (next.evidenceById member).any event.affects =
      (state.evidenceById member).any event.affects := by
    intro member
    rw [ControlState.evidenceById, evidence, find_restatus, ← ControlState.evidenceById]
    cases state.evidenceById member with
    | none => rfl
    | some item => exact affects_withStatus event item _
  simp only [ControlState.keeps, ControlState.basesById, bases, members]

def CsdEvent.ticks : CsdEvent → Bool
  | .advanceClock _ => true
  | _ => false

def CsdEvent.beats : CsdEvent → Bool
  | .recordHeartbeat _ => true
  | _ => false

theorem heartbeat_kept (weakens : event.weakens = true) (silent : event.beats = false)
    (accepted : applyEvent state event = .ok (next, trace)) : next.heartbeat = state.heartbeat := by
  cases event with
  | dependencyChange event => cases accepted; rfl
  | reassess event => cases weakens
  | retireControl event => cases weakens
  | advanceClock event => obtain ⟨-, rfl⟩ := applyAdvanceClock_ok accepted; rfl
  | profileChange event => obtain ⟨-, rfl⟩ := applyProfileChange_ok accepted; rfl
  | requestReassessment event =>
      obtain ⟨-, request, -, rfl⟩ := applyRequestReassessment_ok accepted
      rfl
  | recordHeartbeat event => cases silent

/-- What the events leave, as a whole. -/
structure Left (state : ControlState) (events : List CsdEvent) (final : ControlState) : Prop where
  controlId : final.controlId = state.controlId
  obligation : final.obligation = state.obligation
  evidence : final.evidence = state.evidence.map (Evidence.afterAll events)
  bases : final.bases = state.bases
  claims : final.claims = state.claims.weaken state.obligation
    (fun basisId => events.all (fun event => state.keeps event basisId))
    (events.any CsdEvent.clears) (events.any (CsdEvent.forces state.heartbeat))
  coherent : Coherent final

/-- No event records a heartbeat, or none moves the clock that misses it. -/
def Steady (events : List CsdEvent) : Prop :=
  (∀ event ∈ events, event.beats = false) ∨ ∀ event ∈ events, event.ticks = false

theorem forces_kept (steady : Steady (event :: events)) (weakens : event.weakens = true)
    (accepted : applyEvent state event = .ok (next, trace)) :
    events.any (CsdEvent.forces next.heartbeat) = events.any (CsdEvent.forces state.heartbeat) := by
  rcases steady with silent | still
  · rw [heartbeat_kept weakens (silent event List.mem_cons_self) accepted]
  · have unforced : ∀ heartbeat, events.any (CsdEvent.forces heartbeat) = false := by
      intro heartbeat
      rw [List.any_eq_false]
      intro other member forced
      have ticks := still other (List.mem_cons_of_mem _ member)
      cases other <;> simp_all [CsdEvent.forces, CsdEvent.ticks]
    rw [unforced, unforced]

theorem applyEvents_left (coherent : Coherent state)
    (weakens : ∀ event ∈ events, event.weakens = true) (steady : Steady events)
    (applied : applyEvents state events = .ok final) : Left state events final := by
  induction events generalizing state with
  | nil =>
      cases applied
      refine ⟨rfl, rfl, (List.map_id _).symm, rfl, ?_, coherent⟩
      exact (Claims.weaken_nothing coherent.claims fun _ _ => rfl).symm
  | cons event events ih =>
      obtain ⟨next, trace, accepted, rest⟩ := applyEvents_cons.mp applied
      have step := applyEvent_weakens coherent (weakens event List.mem_cons_self) accepted
      have steady' : Steady events := steady.imp
        (fun silent other member => silent other (List.mem_cons_of_mem _ member))
        (fun still other member => still other (List.mem_cons_of_mem _ member))
      have left := ih step.coherent
        (fun other member => weakens other (List.mem_cons_of_mem _ member)) steady' rest
      refine ⟨left.controlId.trans step.controlId, left.obligation.trans step.obligation, ?_,
        left.bases.trans step.bases, ?_, left.coherent⟩
      · rw [left.evidence, step.evidence, restatus, List.map_map]
        rfl
      · rw [left.claims, step.claims, step.obligation, Claims.weaken_weaken,
          forces_kept steady (weakens event List.mem_cons_self) accepted]
        simp only [keeps_static step.bases step.evidence]
        rfl

/-! ### Invalidations -/

/-- The changed dependencies and the clock readings of a sequence of events. -/
def dependencyChanges (events : List CsdEvent) : List DependencyChange :=
  events.filterMap fun
    | .dependencyChange event => some event
    | _ => none

def targetTimes (events : List CsdEvent) : List Int :=
  events.filterMap fun
    | .advanceClock event => some event.targetTime
    | _ => none

def CsdEvent.invalidates : CsdEvent → Bool
  | .dependencyChange _ | .advanceClock _ => true
  | _ => false

theorem weakens_of_invalidates (invalidates : event.invalidates = true) :
    event.weakens = true := by
  cases event <;> first | rfl | cases invalidates

theorem silent_of_invalidates (invalidates : event.invalidates = true) : event.beats = false := by
  cases event <;> first | rfl | cases invalidates

/-- An invalidation withdraws exactly the current evidence that it affects. -/
theorem status_current (invalidates : event.invalidates = true) (item : Evidence) :
    event.status item = .current ↔ item.status = .current ∧ event.affects item = false := by
  cases event with
  | dependencyChange change =>
      simp only [CsdEvent.status, dependencyStatus, CsdEvent.affects, Evidence.affectedBy,
        Evidence.isCurrent]
      by_cases depends : change.dependencyId ∈ item.dependencies <;>
        by_cases current : item.status = .current <;> simp [depends, current]
  | advanceClock clock =>
      simp only [CsdEvent.status, clockStatus, CsdEvent.affects, Evidence.isCurrent]
      by_cases due : item.due clock.targetTime = true <;>
        by_cases current : item.status = .current <;> simp [due, current]
  | _ => cases invalidates

theorem afterAll_static (item : Evidence) :
    ∃ status, item.afterAll events = item.withStatus status := by
  induction events generalizing item with
  | nil => exact ⟨item.status, rfl⟩
  | cons event events ih =>
      obtain ⟨status, same⟩ := ih (item.withStatus (event.status item))
      exact ⟨status, same⟩

theorem afterAll_current (invalidate : ∀ event ∈ events, event.invalidates = true)
    (item : Evidence) : (item.afterAll events).isCurrent =
      (item.isCurrent && events.all fun event => !event.affects item) := by
  induction events generalizing item with
  | nil => simp [Evidence.afterAll]
  | cons event events ih =>
      have rest := ih (fun other member => invalidate other (List.mem_cons_of_mem _ member))
        (item.withStatus (event.status item))
      have first : (item.withStatus (event.status item)).isCurrent =
          (item.isCurrent && !event.affects item) := by
        rw [Bool.eq_iff_iff, Evidence.isCurrent_iff, withStatus_status,
          status_current (invalidate event List.mem_cons_self)]
        simp [Evidence.isCurrent]
      refine Eq.trans rest ?_
      simp only [affects_withStatus, first, List.all_cons, Bool.and_assoc]

theorem afterAll_id (item : Evidence) : (item.afterAll events).evidenceId = item.evidenceId := by
  obtain ⟨status, same⟩ : ∃ status, item.afterAll events = item.withStatus status :=
    afterAll_static item
  rw [same, withStatus_evidenceId]

theorem Left.evidenceById (left : Left state events final) (evidenceId : String) :
    final.evidenceById evidenceId =
      (state.evidenceById evidenceId).map (Evidence.afterAll events) := by
  rw [ControlState.evidenceById, left.evidence]
  exact Keyed.find_map afterAll_id evidenceId

theorem Left.currentEvidenceIds (left : Left state events final)
    (invalidate : ∀ event ∈ events, event.invalidates = true) :
    final.currentEvidenceIds = state.evidenceIds.filter (fun evidenceId =>
      (state.evidenceById evidenceId).any fun item =>
        item.isCurrent && events.all fun event => !event.affects item) := by
  have ids : final.evidenceIds = state.evidenceIds := by
    rw [ControlState.evidenceIds, left.evidence]
    exact Keyed.keys_map afterAll_id
  rw [ControlState.currentEvidenceIds, ids]
  refine Finset.filter_congr fun evidenceId _ => ?_
  rw [left.evidenceById]
  cases state.evidenceById evidenceId with
  | none => rfl
  | some item => rw [Option.map_some, Option.any_some, Option.any_some, afterAll_current invalidate]

/-- Invalidations are their changes of dependencies and their clock readings, in some order. -/
theorem invalidations_perm (invalidate : ∀ event ∈ events, event.invalidates = true) :
    events.Perm ((dependencyChanges events).map .dependencyChange ++
      (targetTimes events).map fun time => .advanceClock ⟨time⟩) := by
  induction events with
  | nil => exact .nil
  | cons event events ih =>
      have rest := ih fun other member => invalidate other (List.mem_cons_of_mem _ member)
      cases event with
      | dependencyChange change => exact rest.cons _
      | advanceClock clock => exact (rest.cons _).trans List.perm_middle.symm
      | _ => cases invalidate _ List.mem_cons_self

/-- Each reading of the clock is not before the one that precedes it. -/
def Ascends : Int → List Int → Prop
  | _, [] => True
  | time, next :: times => time ≤ next ∧ Ascends next times

theorem clock_forward {clock : AdvanceClock} (forward : state.logicalTime ≤ clock.targetTime) :
    ∃ trace, applyEvent state (.advanceClock clock) =
      .ok ((clockInterim state clock).claiming (canonicalClaims state (clockInterim state clock)
        (state.heartbeatMissed clock.targetTime)) (advanceAudit state clock), trace) :=
  ⟨_, if_neg (Int.not_lt.mpr forward)⟩

theorem applyEvents_clock {clock : AdvanceClock} (forward : state.logicalTime ≤ clock.targetTime) :
    applyEvents state (.advanceClock clock :: events) =
      applyEvents ((clockInterim state clock).claiming (canonicalClaims state
        (clockInterim state clock) (state.heartbeatMissed clock.targetTime))
          (advanceAudit state clock)) events := by
  obtain ⟨trace, accepted⟩ := clock_forward forward
  rw [applyEvents, accepted]
  rfl

theorem invalidations_accepted (invalidate : ∀ event ∈ events, event.invalidates = true) :
    (∃ final, applyEvents state events = .ok final) ↔
      Ascends state.logicalTime (targetTimes events) := by
  induction events generalizing state with
  | nil => exact ⟨fun _ => trivial, fun _ => ⟨state, rfl⟩⟩
  | cons event events ih =>
      have rest := fun state' : ControlState => @ih state'
        fun other member => invalidate other (List.mem_cons_of_mem _ member)
      cases event with
      | dependencyChange change => exact rest (applyDependencyChange state change).1
      | advanceClock clock =>
          by_cases forward : clock.targetTime < state.logicalTime
          · refine iff_of_false ?_ fun ascends => absurd ascends.1 (Int.not_le.mpr forward)
            rintro ⟨final, applied⟩
            obtain ⟨next, trace, accepted, -⟩ := applyEvents_cons.mp applied
            exact absurd (applyAdvanceClock_ok accepted).1 (Int.not_le.mpr forward)
          · rw [applyEvents_clock (Int.not_lt.mp forward), rest]
            exact (and_iff_right (Int.not_lt.mp forward)).symm
      | _ => cases invalidate _ List.mem_cons_self

/-- Changed dependencies commute with each other and with the readings of the clock: two
interleavings are accepted alike and leave the same claims and the same current evidence. -/
theorem invalidation_order_independent {first second : List CsdEvent} (valid : ValidState state)
    (invalidates : ∀ event ∈ first ++ second, event.invalidates = true)
    (dependencies : (dependencyChanges first).Perm (dependencyChanges second))
    (clock : targetTimes first = targetTimes second) :
    ((∃ post, applyEvents state first = .ok post) ↔
      ∃ post, applyEvents state second = .ok post) ∧
    ∀ post post', applyEvents state first = .ok post → applyEvents state second = .ok post' →
      post.sourceState = post'.sourceState ∧ post.assurance = post'.assurance ∧
        post.currentSourceBasisIds = post'.currentSourceBasisIds ∧
        post.currentVerdictBasisIds = post'.currentVerdictBasisIds ∧
        post.currentBasisIds = post'.currentBasisIds ∧
        post.currentEvidenceIds = post'.currentEvidenceIds := by
  have one := fun event member => invalidates event (List.mem_append_left second member)
  have other := fun event member => invalidates event (List.mem_append_right first member)
  have perm : first.Perm second := by
    refine (invalidations_perm one).trans (.trans ?_ (invalidations_perm other).symm)
    rw [clock]
    exact (dependencies.map _).append_right _
  constructor
  · rw [invalidations_accepted one, invalidations_accepted other, clock]
  intro post post' applied applied'
  have left := applyEvents_left valid.coherent
    (fun event member => weakens_of_invalidates (one event member))
    (.inl fun event member => silent_of_invalidates (one event member)) applied
  have left' := applyEvents_left valid.coherent
    (fun event member => weakens_of_invalidates (other event member))
    (.inl fun event member => silent_of_invalidates (other event member)) applied'
  have claims : post.claims = post'.claims := by
    rw [left.claims, left'.claims]
    simp only [perm.all_eq, perm.any_eq]
  have evidence : post.currentEvidenceIds = post'.currentEvidenceIds := by
    rw [left.currentEvidenceIds one, left'.currentEvidenceIds other]
    simp only [perm.all_eq]
  have sources : post.currentSourceBasisIds = post'.currentSourceBasisIds :=
    congrArg Claims.sourceBases claims
  have verdicts : post.currentVerdictBasisIds = post'.currentVerdictBasisIds :=
    congrArg Claims.verdictBases claims
  refine ⟨congrArg Claims.sourceState claims, congrArg Claims.assurance claims, sources, verdicts,
    ?_, evidence⟩
  rw [ControlState.currentBasisIds, ControlState.currentBasisIds, sources, verdicts]

section Sample

/-- Together they withdraw both verdict bases. -/
def sampleInvalidations : List CsdEvent :=
  [.dependencyChange ⟨"library", none⟩, .dependencyChange ⟨"compiler", none⟩, .advanceClock ⟨3⟩]

theorem invalidation_order_sample :
    ∃ post post', applyEvents sampleCurrent sampleInvalidations = .ok post ∧
      applyEvents sampleCurrent sampleInvalidations.reverse = .ok post' ∧
      post.currentEvidenceIds = {"review"} ∧ post.sourceState = post'.sourceState ∧
      post.assurance = post'.assurance ∧
      post.currentSourceBasisIds = post'.currentSourceBasisIds ∧
      post.currentVerdictBasisIds = post'.currentVerdictBasisIds ∧
      post.currentBasisIds = post'.currentBasisIds ∧
      post.currentEvidenceIds = post'.currentEvidenceIds := by
  have valid : ValidState sampleCurrent := validStates.mp (by decide +kernel)
  have invalidates : ∀ event ∈ sampleInvalidations ++ sampleInvalidations.reverse,
      event.invalidates = true := by decide
  have dependencies : (dependencyChanges sampleInvalidations).Perm
      (dependencyChanges sampleInvalidations.reverse) := .swap _ _ []
  exact ⟨_, _, rfl, rfl, by decide +kernel,
    (invalidation_order_independent valid invalidates dependencies rfl).2 _ _ rfl rfl⟩

end Sample

/-! ### Readings of the clock -/

/-- Two control states that differ at most in their history and in their requests. -/
theorem eq_but_history {a b : ControlState} (controlId : a.controlId = b.controlId)
    (obligation : a.obligation = b.obligation) (evidence : a.evidence = b.evidence)
    (bases : a.bases = b.bases) (claims : a.claims = b.claims)
    (time : a.logicalTime = b.logicalTime)
    (profileId : a.requiredProfileId = b.requiredProfileId)
    (profileVersion : a.requiredProfileVersion = b.requiredProfileVersion)
    (heartbeat : a.heartbeat = b.heartbeat) :
    { a with history := b.history, reassessmentRequests := b.reassessmentRequests } = b := by
  cases a
  cases b
  simp only [ControlState.claims, Claims.mk.injEq] at claims
  simp_all

theorem due_later {item : Evidence} (later : t₁ ≤ t₂) (due : item.due t₁ = true) :
    item.due t₂ = true := by
  obtain ⟨deadline, set, passed⟩ := any_iff.mp due
  exact any_iff.mpr ⟨deadline, set, decide_eq_true ((of_decide_eq_true passed).trans later)⟩

@[simp] theorem withStatus_due {item : Evidence} :
    (item.withStatus status).due time = item.due time := rfl

@[simp] theorem withStatus_twice {item : Evidence} :
    (item.withStatus before).withStatus status = item.withStatus status := rfl

theorem clock_twice (later : t₁ ≤ t₂) (item : Evidence) :
    item.afterAll [.advanceClock ⟨t₁⟩, .advanceClock ⟨t₂⟩] = item.afterAll [.advanceClock ⟨t₂⟩] := by
  simp only [Evidence.afterAll, List.foldl, CsdEvent.status, clockStatus]
  by_cases current : item.status = .current
  · by_cases due : item.due t₁ = true
    · simp [Evidence.isCurrent, current, due, due_later later due]
    · simp [Evidence.isCurrent, current, due]
  · simp [Evidence.isCurrent, current]

theorem keeps_later (later : t₁ ≤ t₂) (kept : state.keeps (.advanceClock ⟨t₂⟩) basisId = true) :
    state.keeps (.advanceClock ⟨t₁⟩) basisId = true := by
  obtain ⟨basis, found, members⟩ := any_iff.mp kept
  refine any_iff.mpr ⟨basis, found, ?_⟩
  rw [decide_eq_true_eq] at members ⊢
  intro member inside
  have undue := members member inside
  rw [← Bool.not_eq_true, not_any_iff] at undue ⊢
  exact fun item located due => undue item located (due_later later due)

theorem forces_later {heartbeat : Option HeartbeatState} (later : t₁ ≤ t₂)
    (forced : CsdEvent.forces heartbeat (.advanceClock ⟨t₁⟩) = true) :
    CsdEvent.forces heartbeat (.advanceClock ⟨t₂⟩) = true := by
  obtain ⟨recorded, set, missed⟩ := any_iff.mp forced
  exact any_iff.mpr ⟨recorded, set, decide_eq_true ((of_decide_eq_true missed).trans later)⟩

/-- What two readings of the clock leave is what the later one leaves. -/
theorem clock_left (later : t₁ ≤ t₂)
    (twice : Left state [.advanceClock ⟨t₁⟩, .advanceClock ⟨t₂⟩] final) :
    Left state [.advanceClock ⟨t₂⟩] final := by
  refine ⟨twice.controlId, twice.obligation, ?_, twice.bases, ?_, twice.coherent⟩
  · rw [twice.evidence]
    exact List.map_congr_left fun item _ => clock_twice later item
  · have forces : ([.advanceClock ⟨t₁⟩, .advanceClock ⟨t₂⟩] : List CsdEvent).any
          (CsdEvent.forces state.heartbeat) =
        ([.advanceClock ⟨t₂⟩] : List CsdEvent).any (CsdEvent.forces state.heartbeat) := by
      simp only [List.any_cons, List.any_nil, Bool.or_false]
      exact (Bool.or_eq_right_iff_imp).mpr (forces_later later)
    rw [twice.claims, forces]
    refine Claims.weaken_congr fun basisId _ => ?_
    simp only [List.all_cons, List.all_nil, Bool.and_true]
    exact (Bool.and_eq_right_iff_imp).mpr (keeps_later later)

theorem Left.claims_eq {a b : ControlState} (left : Left state events a)
    (left' : Left state events b) : a.claims = b.claims := left.claims.trans left'.claims.symm

/-- Moving the clock on in two steps is moving it on in one, but for the history. -/
theorem clock_composition (valid : ValidState state) (forward : state.logicalTime ≤ t₁)
    (later : t₁ ≤ t₂) :
    ∃ middle twice direct trace₁ trace₂ trace,
      applyEvent state (.advanceClock ⟨t₁⟩) = .ok (middle, trace₁) ∧
      applyEvent middle (.advanceClock ⟨t₂⟩) = .ok (twice, trace₂) ∧
      applyEvent state (.advanceClock ⟨t₂⟩) = .ok (direct, trace) ∧
      { twice with history := direct.history } = direct := by
  obtain ⟨trace₁, first⟩ := @clock_forward state ⟨t₁⟩ forward
  set middle := (clockInterim state ⟨t₁⟩).claiming (canonicalClaims state (clockInterim state ⟨t₁⟩)
    (state.heartbeatMissed t₁)) (advanceAudit state ⟨t₁⟩) with middle_eq
  obtain ⟨trace₂, second⟩ := @clock_forward middle ⟨t₂⟩ later
  obtain ⟨trace, once⟩ := @clock_forward state ⟨t₂⟩ (forward.trans later)
  refine ⟨middle, _, _, trace₁, trace₂, trace, first, second, once, ?_⟩
  have kinds : ∀ event ∈ ([.advanceClock ⟨t₁⟩, .advanceClock ⟨t₂⟩] : List CsdEvent),
      event.weakens = true ∧ event.beats = false := by simp [CsdEvent.weakens, CsdEvent.beats]
  have twice := clock_left later (applyEvents_left valid.coherent
    (fun event member => (kinds event member).1) (.inl fun event member => (kinds event member).2)
    (applyEvents_cons.mpr ⟨_, _, first, applyEvents_cons.mpr ⟨_, _, second, rfl⟩⟩))
  have direct := applyEvents_left valid.coherent
    (fun event member => (kinds event (List.mem_cons_of_mem _ member)).1)
    (.inl fun event member => (kinds event (List.mem_cons_of_mem _ member)).2)
    (applyEvents_cons.mpr ⟨_, _, once, rfl⟩)
  exact eq_but_history (twice.controlId.trans direct.controlId.symm)
    (twice.obligation.trans direct.obligation.symm) (twice.evidence.trans direct.evidence.symm)
    (twice.bases.trans direct.bases.symm) (twice.claims_eq direct) rfl rfl rfl rfl

/-- At the first reading an item expires, at the second the heartbeat is missed. -/
theorem clock_composition_sample :
    ∃ middle twice direct trace₁ trace₂ trace,
      applyEvent sampleCurrent (.advanceClock ⟨3⟩) = .ok (middle, trace₁) ∧
      applyEvent middle (.advanceClock ⟨5⟩) = .ok (twice, trace₂) ∧
      applyEvent sampleCurrent (.advanceClock ⟨5⟩) = .ok (direct, trace) ∧
      { twice with history := direct.history } = direct :=
  clock_composition (validStates.mp (by decide +kernel)) (by decide) (by decide)

end CsdFoundry.Kernel
