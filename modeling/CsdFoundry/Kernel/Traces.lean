import CsdFoundry.Kernel.Runs

/-! The traces of transitions beside the state changes that they report. -/
namespace CsdFoundry.Kernel

variable {state post : ControlState} {trace : TransitionTrace}

/-- The oracle passes the trace of the kernel on. -/
theorem CsdOracle.apply_applied {event : CsdEvent} {result : OracleResult}
    (accepted : CsdOracle.apply state event = .ok result) :
    applyEvent state event = .ok (result.after, result.trace) := by
  obtain ⟨valid, checked, trace, applied⟩ := CsdOracle.apply_ok accepted
  have returned := (CsdOracle.apply_iff valid applied).mpr checked
  rw [accepted] at returned
  rw [applied, Except.ok.inj returned]

section Evidence

theorem mem_currentEvidenceIds (distinct : (state.evidence.map Evidence.evidenceId).Nodup)
    {evidenceId : String} : evidenceId ∈ state.currentEvidenceIds ↔
      ∃ item ∈ state.evidence, item.evidenceId = evidenceId ∧ item.isCurrent = true := by
  rw [ControlState.currentEvidenceIds, Finset.mem_filter]
  constructor
  · rintro ⟨-, current⟩
    obtain ⟨item, found, current⟩ := (Option.any_eq_true _ _).mp current
    exact ⟨item, Keyed.mem_of_find found, Keyed.key_of_find found, current⟩
  · rintro ⟨item, member, rfl, current⟩
    have found : state.evidenceById item.evidenceId = some item := Keyed.find_of_mem distinct member
    refine ⟨Keyed.mem_keys.mpr ⟨item, member, rfl⟩, ?_⟩
    rw [found]
    exact current

/-- Evidence that is added, all of it current, takes the currency of no other. -/
theorem currentEvidenceIds_added {added : List Evidence} (same : post.evidence = state.evidence ++ added)
    (fresh : ∀ item ∈ added, item.isCurrent = true) :
    state.currentEvidenceIds ⊆ post.currentEvidenceIds := by
  intro evidenceId current
  obtain ⟨known, current⟩ := Finset.mem_filter.mp current
  obtain ⟨item, found, current⟩ := (Option.any_eq_true _ _).mp current
  have kept : post.evidenceById evidenceId =
      (Keyed.find Evidence.evidenceId added evidenceId).or (some item) := by
    rw [ControlState.evidenceById, same, Keyed.find_append, ← found]
    rfl
  have still : ∃ later, post.evidenceById evidenceId = some later ∧ later.isCurrent = true := by
    cases found' : Keyed.find Evidence.evidenceId added evidenceId with
    | none => exact ⟨item, by rw [kept, found']; rfl, current⟩
    | some later => exact ⟨later, by rw [kept, found']; rfl, fresh later (Keyed.mem_of_find found')⟩
  obtain ⟨later, found', current'⟩ := still
  refine Finset.mem_filter.mpr ⟨Keyed.mem_keys_iff_find.mpr ⟨later, found'⟩, ?_⟩
  rw [found']
  exact current'

/-- Current evidence is withdrawn exactly where a transition says so. -/
theorem withdrawn_ids (distinct : (state.evidence.map Evidence.evidenceId).Nodup)
    {hit : Evidence → Bool} {withdraw : Evidence → Evidence}
    (changed : post.evidence = state.evidence.map fun item => if hit item then withdraw item else item)
    (keeps : ∀ item, (withdraw item).evidenceId = item.evidenceId)
    (current : ∀ item, hit item = true → item.isCurrent = true)
    (withdrawn : ∀ item, hit item = true → (withdraw item).isCurrent = false) :
    ((state.evidence.filter hit).map Evidence.evidenceId).toFinset =
      state.currentEvidenceIds \ post.currentEvidenceIds := by
  have ids : ∀ item, (if hit item then withdraw item else item).evidenceId = item.evidenceId := by
    intro item
    split_ifs
    · exact keeps item
    · rfl
  have distinct' : (post.evidence.map Evidence.evidenceId).Nodup := by
    have same : post.evidence.map Evidence.evidenceId = state.evidence.map Evidence.evidenceId := by
      rw [changed, List.map_map]
      exact List.map_congr_left fun item _ => ids item
    rw [same]
    exact distinct
  ext evidenceId
  rw [List.mem_toFinset, List.mem_map, Finset.mem_sdiff, mem_currentEvidenceIds distinct,
    mem_currentEvidenceIds distinct', changed]
  constructor
  · rintro ⟨item, listed, rfl⟩
    obtain ⟨member, struck⟩ := List.mem_filter.mp listed
    refine ⟨⟨item, member, rfl, current item struck⟩, ?_⟩
    rintro ⟨later, among, same, still⟩
    obtain ⟨source, origin, rfl⟩ := List.mem_map.mp among
    have only : source = item :=
      List.inj_on_of_nodup_map distinct origin member ((ids source).symm.trans same)
    rw [only, if_pos struck, withdrawn item struck] at still
    cases still
  · rintro ⟨⟨item, member, rfl, fresh⟩, gone⟩
    refine ⟨item, List.mem_filter.mpr ⟨member, ?_⟩, rfl⟩
    by_contra spared
    apply gone
    refine ⟨item, List.mem_map.mpr ⟨item, member, if_neg spared⟩, rfl, fresh⟩

end Evidence

/-- A trace reports exactly the bases and the evidence that the state change is about. -/
structure Reported (state post : ControlState) (trace : TransitionTrace) : Prop where
  removed : trace.removedBases = sortedSet (state.currentBasisIds \ post.currentBasisIds)
  surviving : trace.survivingBases = sortedSet (state.currentBasisIds ∩ post.currentBasisIds)
  invalidated : trace.invalidatedEvidence =
    sortedSet (state.currentEvidenceIds \ post.currentEvidenceIds)

/-- Claims on some of the current bases: the rest are removed. -/
theorem Reported.of_claims {claims : Claims}
    (sources : claims.sourceBases ⊆ state.currentSourceBasisIds)
    (verdicts : claims.verdictBases ⊆ state.currentVerdictBasisIds)
    (source : post.currentSourceBasisIds = claims.sourceBases)
    (verdict : post.currentVerdictBasisIds = claims.verdictBases)
    (removed : trace.removedBases =
      sortedSet ((state.currentBasisIds \ claims.sourceBases) \ claims.verdictBases))
    (surviving : trace.survivingBases = sortedSet (claims.sourceBases ∪ claims.verdictBases))
    (withdrawn : trace.invalidatedEvidence =
      sortedSet (state.currentEvidenceIds \ post.currentEvidenceIds)) :
    Reported state post trace := by
  have after : post.currentBasisIds = claims.sourceBases ∪ claims.verdictBases := by
    rw [ControlState.currentBasisIds, source, verdict]
  have kept : claims.sourceBases ∪ claims.verdictBases ⊆ state.currentBasisIds :=
    Finset.union_subset_union sources verdicts
  refine ⟨?_, ?_, withdrawn⟩
  · rw [removed, after, sdiff_sdiff_left]
    rfl
  · rw [surviving, after, Finset.inter_eq_right.mpr kept]

theorem canonicalClaims_sub (before interim : ControlState) (forceStale : Bool) :
    (canonicalClaims before interim forceStale).sourceBases ⊆ interim.currentSourceBasisIds ∧
      (canonicalClaims before interim forceStale).verdictBases ⊆ interim.currentVerdictBasisIds := by
  have sources : (survivingBases interim).1 ⊆ interim.currentSourceBasisIds := Finset.filter_subset _ _
  have verdicts : (survivingBases interim).2 ⊆ interim.currentVerdictBasisIds :=
    Finset.filter_subset _ _
  simp only [canonicalClaims]
  split_ifs
  · exact ⟨sources, Finset.empty_subset _⟩
  · exact ⟨sources, Finset.empty_subset _⟩
  · exact ⟨sources, verdicts⟩
  · exact ⟨sources, verdicts⟩

theorem dependency_reported (distinct : (state.evidence.map Evidence.evidenceId).Nodup)
    (event : DependencyChange) :
    Reported state (applyDependencyChange state event).1 (applyDependencyChange state event).2 := by
  refine Reported.of_claims (Finset.filter_subset _ _) (Finset.filter_subset _ _) rfl rfl rfl rfl ?_
  refine congrArg sortedSet (withdrawn_ids distinct rfl ?_ ?_ ?_)
  · intro item
    unfold Evidence.invalidate
    split_ifs <;> rfl
  · exact fun item struck => (Bool.and_eq_true_iff.mp struck).1
  · intro item struck
    have current := Evidence.isCurrent_iff.mp (Bool.and_eq_true_iff.mp struck).1
    simp [Evidence.invalidate, Evidence.isCurrent, current]

theorem advanceClock_reported (distinct : (state.evidence.map Evidence.evidenceId).Nodup)
    (accepted : applyAdvanceClock state event = .ok (post, trace)) : Reported state post trace := by
  simp only [applyAdvanceClock] at accepted
  split at accepted
  · cases accepted
  cases accepted
  have claimed := canonicalClaims_sub state (clockInterim state event)
    (state.heartbeatMissed event.targetTime)
  refine Reported.of_claims claimed.1 claimed.2 rfl rfl rfl rfl ?_
  refine congrArg sortedSet (withdrawn_ids distinct rfl ?_ ?_ ?_)
  · intro item
    unfold Evidence.expire
    split_ifs <;> rfl
  · exact fun item struck => (Bool.and_eq_true_iff.mp struck).1
  · intro item struck
    have current := Evidence.isCurrent_iff.mp (Bool.and_eq_true_iff.mp struck).1
    simp [Evidence.expire, Evidence.isCurrent, current]

theorem none_withdrawn {added : List Evidence} (same : post.evidence = state.evidence ++ added)
    (fresh : ∀ item ∈ added, item.isCurrent = true) :
    [] = sortedSet (state.currentEvidenceIds \ post.currentEvidenceIds) := by
  rw [Finset.sdiff_eq_empty_iff_subset.mpr (currentEvidenceIds_added same fresh)]
  rfl

theorem none_withdrawn_of_same (same : post.evidence = state.evidence) :
    [] = sortedSet (state.currentEvidenceIds \ post.currentEvidenceIds) := by
  apply none_withdrawn (same.trans (List.append_nil _).symm)
  exact fun item member => absurd member List.not_mem_nil

theorem profileChange_reported (accepted : applyProfileChange state event = .ok (post, trace)) :
    Reported state post trace := by
  simp only [applyProfileChange] at accepted
  split at accepted
  · cases accepted
  split at accepted
  · cases accepted
  split at accepted
  · cases accepted
  split at accepted
  · cases accepted
  cases extended : profileRequests state event with
  | error failure =>
      rw [extended] at accepted
      cases accepted
  | ok requests =>
      rw [extended] at accepted
      cases accepted
      have claimed := canonicalClaims_sub state (profileInterim state event requests) false
      exact Reported.of_claims claimed.1 claimed.2 rfl rfl rfl rfl
        (none_withdrawn_of_same rfl)

/-- A transition that leaves the bases alone has nothing to report but them. -/
theorem Reported.of_same (bases : post.currentBasisIds = state.currentBasisIds)
    (evidence : post.evidence = state.evidence) (removed : trace.removedBases = [])
    (surviving : trace.survivingBases = sortedSet state.currentBasisIds)
    (invalidated : trace.invalidatedEvidence = []) : Reported state post trace := by
  refine ⟨?_, ?_, ?_⟩
  · rw [removed, bases, sdiff_self]
    rfl
  · rw [surviving, bases, Finset.inter_self]
  · rw [invalidated, ← none_withdrawn_of_same evidence]

theorem requestReassessment_reported
    (accepted : applyRequestReassessment state event = .ok (post, trace)) :
    Reported state post trace := by
  simp only [applyRequestReassessment] at accepted
  split_ifs at accepted
  cases created : requestFromEvent event state.logicalTime with
  | error failure =>
      rw [created] at accepted
      cases accepted
  | ok request =>
      rw [created] at accepted
      cases accepted
      exact Reported.of_same rfl rfl rfl rfl rfl

theorem recordHeartbeat_reported (accepted : applyRecordHeartbeat state event = .ok (post, trace)) :
    Reported state post trace := by
  simp only [applyRecordHeartbeat] at accepted
  split_ifs at accepted
  split at accepted
  · cases accepted
  · split_ifs at accepted
    cases accepted
    exact Reported.of_same rfl rfl rfl rfl rfl

theorem retire_reported (accepted : applyRetire state event = .ok (post, trace)) :
    Reported state post trace := by
  obtain ⟨-, current, -⟩ := applyRetire_ok accepted
  simp only [applyRetire] at accepted
  split_ifs at accepted
  cases accepted
  refine ⟨?_, ?_, ?_⟩
  · change sortedSet state.currentBasisIds = sortedSet (state.currentBasisIds \ (∅ ∪ ∅))
    rw [Finset.union_empty, Finset.sdiff_empty]
  · change [] = sortedSet (state.currentBasisIds ∩ (∅ ∪ ∅))
    rw [Finset.union_empty, Finset.inter_empty]
    rfl
  · refine none_withdrawn rfl fun item among => ?_
    rw [List.mem_singleton.mp among]
    exact Evidence.isCurrent_iff.mpr current

/-- A reassessment withdraws no evidence, and lists the bases that are current after it. -/
theorem reassess_reported (accepted : applyReassess state event = .ok (post, trace)) :
    trace.removedBases = [] ∧ trace.survivingBases = sortedSet post.currentBasisIds ∧
      trace.invalidatedEvidence = sortedSet (state.currentEvidenceIds \ post.currentEvidenceIds) := by
  have fresh := (applyReassess_ok accepted).1.current
  simp only [applyReassess] at accepted
  split_ifs at accepted
  cases checked : event.newBases.forM (checkNewBasis (state.evidenceIds ∪ event.evidenceIds)
      (event.resultingSource state) (event.resultingAssurance state)) with
  | error failure =>
      rw [checked] at accepted
      cases accepted
  | ok done =>
      rw [checked] at accepted
      cases closed : closeReassessmentRequests state event.closeRequestIds with
      | error failure =>
          rw [closed] at accepted
          cases accepted
      | ok requests =>
          rw [closed] at accepted
          cases accepted
          refine ⟨rfl, rfl, none_withdrawn rfl fun item among => ?_⟩
          exact Evidence.isCurrent_iff.mpr (fresh item among)

end CsdFoundry.Kernel
