import CsdFoundry.AlternativeModels.History
import CsdFoundry.Projection.Prediction

/-! What the expiry planners leave behind: an entity that is due is expired, unless its authority
declines or it has had an event at this clock already. -/
namespace CsdFoundry.Projection
open Registry Storage RegistryStore Prog Generation
open Temporal (isToken)

variable {D : Type} [LinearOrder D] [DigestText D] [Sha256 D] {s t u : RegistryStore D}
  {type : RegistryType} {entityId : String} {event : RegistryEvent D}
  {items : List (RegistryEvent D)} {histories : List (List (RegistryEvent D))}

/-! ### An EXPIRE event ends the entity -/

/-- The event is an EXPIRE event. -/
def IsExpiry (event : RegistryEvent D) : Prop := event.payload.get "operation" = .str "EXPIRE"

theorem reduceEvidence_expiry {previous next : Evidence.EvidenceUnit D} (expiry : IsExpiry event)
    (accepted : Evidence.reduceEvidence (some previous) event = .ok next) :
    next.status = .expired := by
  simp only [Evidence.reduceEvidence, except_bind_ok] at accepted
  obtain ⟨-, -, name, operation, -, -, -, -, operated⟩ := accepted
  obtain rfl : name = "EXPIRE" := by
    have named := Assumptions.requiredToken_ok operation
    exact Json.str.inj (named.symm.trans expiry)
  change Evidence.expire previous event = .ok next at operated
  simp only [Evidence.expire, except_bind_ok] at operated
  obtain ⟨-, -, -, -, -, -, timed⟩ := operated
  split at timed
  · cases timed
  · obtain ⟨-, -, advances⟩ := except_bind_ok.mp timed
    obtain rfl := Evidence.create_ok advances
    rfl

theorem reduceAssumption_expiry {previous next : Assumptions.Assumption D} (expiry : IsExpiry event)
    (accepted : Assumptions.reduceAssumption (some previous) event = .ok next) :
    next.standing = .expired := by
  simp only [Assumptions.reduceAssumption, except_bind_ok] at accepted
  obtain ⟨-, -, name, operation, -, -, -, -, operated⟩ := accepted
  obtain rfl : name = "EXPIRE" := by
    have named := Assumptions.requiredToken_ok operation
    exact Json.str.inj (named.symm.trans expiry)
  change Assumptions.expire previous event = .ok next at operated
  simp only [Assumptions.expire, except_bind_ok] at operated
  obtain ⟨-, -, -, -, -, -, -, -, timed⟩ := operated
  split at timed
  · cases timed
  · obtain ⟨-, -, advances⟩ := except_bind_ok.mp timed
    obtain ⟨-, rfl⟩ := Assumptions.create_ok.mp advances
    rfl

theorem reduceAlternativeModel_expiry {previous next : AlternativeModels.AlternativeModel D}
    (expiry : IsExpiry event)
    (accepted : AlternativeModels.reduceAlternativeModel (some previous) event = .ok next) :
    next.terminal = true := by
  simp only [AlternativeModels.reduceAlternativeModel, except_bind_ok] at accepted
  obtain ⟨-, -, name, operation, -, -, -, -, operated⟩ := accepted
  obtain rfl : name = "EXPIRE" := by
    have named := Assumptions.requiredToken_ok operation
    exact Json.str.inj (named.symm.trans expiry)
  exact AlternativeModels.expire_ends operated

theorem reduce_expiry {previous next : State D type} (expiry : IsExpiry event)
    (accepted : reduce type (some previous) event = .ok next) : expirable next = false := by
  cases type with
  | evidenceUnit =>
      have ended := reduceEvidence_expiry expiry accepted
      simp only [expirable, ended]
  | assumption =>
      have ended := reduceAssumption_expiry expiry accepted
      simp only [expirable, ended]
  | alternativeModel =>
      have ended := reduceAlternativeModel_expiry expiry accepted
      unfold AlternativeModels.AlternativeModel.terminal at ended
      unfold expirable
      cases status : AlternativeModels.AlternativeModel.separationStatus next <;>
        simp [status, AlternativeModels.SeparationStatus.terminal] at ended ⊢

/-! ### What is planned -/

section Planner
variable {Decision : Type} {planner : ExpiryPlanner D type Decision} {clockSequence : Nat}
  {source : String} {state : State D type} {planned : List (RegistryEvent D)}

/-- The planner proposes nothing but EXPIRE events. -/
def ExpiryPlanner.Expires (planner : ExpiryPlanner D type Decision) : Prop :=
  ∀ state clockSequence payload, planner.authorize state clockSequence = .ok (some payload) →
    payload.get "operation" = .str "EXPIRE"

omit [LinearOrder D] [Sha256 D] in
theorem build_ok {sequence : Nat} {previous : Option D} {version : String} {payload : JsonObject}
    (built : RegistryEvent.build type entityId sequence previous clockSequence source version payload =
      .ok event) : event.entityId = entityId ∧ event.payload = payload := by
  unfold RegistryEvent.build at built
  split_ifs at built
  cases built
  exact ⟨rfl, rfl⟩

/-- A planned event is of the entity, and ends it. -/
theorem expiryEvent_some (expires : planner.Expires)
    (made : planner.expiryEvent state clockSequence source = .ok (some event)) :
    event.entityId = state.entityId ∧
      ∃ next, reduce type (some state) event = .ok next ∧ expirable next = false := by
  unfold ExpiryPlanner.expiryEvent at made
  obtain ⟨authorized, permitted, made⟩ := Results.bind_ok.mp made
  cases authorized with
  | none => cases made
  | some payload =>
      obtain ⟨built, building, made⟩ := Results.bind_ok.mp made
      obtain ⟨decision, required, made⟩ := Results.bind_ok.mp made
      obtain ⟨next, reduced, made⟩ := Results.bind_ok.mp made
      obtain rfl : built = event := by simpa using made
      obtain ⟨named, carried⟩ := build_ok building
      have accepted := Results.mapError_ok.mp reduced
      refine ⟨named, next, accepted, reduce_expiry ?_ accepted⟩
      rw [IsExpiry, carried]
      exact expires state clockSequence payload permitted

theorem expiryEvent_none (made : planner.expiryEvent state clockSequence source = .ok none) :
    planner.authorize state clockSequence = .ok none := by
  unfold ExpiryPlanner.expiryEvent at made
  obtain ⟨authorized, permitted, made⟩ := Results.bind_ok.mp made
  cases authorized with
  | none => exact permitted
  | some payload =>
      obtain ⟨built, building, made⟩ := Results.bind_ok.mp made
      obtain ⟨decision, required, made⟩ := Results.bind_ok.mp made
      obtain ⟨next, reduced, made⟩ := Results.bind_ok.mp made
      cases made

/-- What is planned for one entity. -/
theorem planEntity_ok {made : Option (RegistryEvent D)}
    (ran : planner.planEntity items clockSequence source = .ok made) :
    ∃ state, project type items = .ok state ∧ (state = none → made = none) ∧
      ∀ entity ∈ state, made = none ∧ eligibleForExpiry (some entity) clockSequence = false ∨
        planner.expiryEvent entity clockSequence source = .ok made := by
  unfold ExpiryPlanner.planEntity at ran
  obtain ⟨state, projected, ran⟩ := Results.bind_ok.mp ran
  refine ⟨state, Results.mapError_ok.mp projected, ?_, ?_⟩
  · rintro rfl
    exact (Except.ok.inj ran).symm
  rintro entity ⟨⟩
  simp only at ran
  split_ifs at ran with eligible
  · exact .inr ran
  · exact .inl ⟨(Except.ok.inj ran).symm, by simpa using eligible⟩

theorem planEvents_ok (ran : planner.planEvents clockSequence source histories = .ok planned) :
    (∀ items ∈ histories, ∃ made, planner.planEntity items clockSequence source = .ok made ∧
      ∀ event ∈ made, event ∈ planned) ∧
    ∀ event ∈ planned, ∃ items ∈ histories,
      planner.planEntity items clockSequence source = .ok (some event) := by
  induction histories generalizing planned with
  | nil =>
      cases ran
      exact ⟨List.forall_mem_nil _, List.forall_mem_nil _⟩
  | cons items histories ih =>
      unfold ExpiryPlanner.planEvents at ran
      obtain ⟨made, first, ran⟩ := Results.bind_ok.mp ran
      obtain ⟨others, rest, ran⟩ := Results.bind_ok.mp ran
      obtain rfl := Except.ok.inj ran
      obtain ⟨each, from_⟩ := ih rest
      constructor
      · intro history member
        rcases List.mem_cons.mp member with rfl | later
        · exact ⟨made, first, fun event proposed => by
            simp [Option.mem_def.mp proposed]⟩
        · obtain ⟨made', planned', among⟩ := each history later
          exact ⟨made', planned', fun event proposed => by simp [among event proposed]⟩
      · intro event member
        rcases List.mem_append.mp member with own | later
        · obtain rfl := Option.mem_toList.mp own
          exact ⟨items, by simp, first⟩
        · obtain ⟨history, listed, planned'⟩ := from_ event later
          exact ⟨history, by simp [listed], planned'⟩

theorem plan_ok {expiry : ExpiryPlan D type} (valid : u.Valid)
    (ran : (planner.plan (live type) clockSequence source).exec u = (.ok expiry, t)) :
    ∃ histories planned, List.Forall₂ (fun head items => u.Chain type head.entityId items)
        (u.typeHeads type) histories ∧
      planner.planEvents clockSequence source histories = .ok planned ∧
      ∀ event, event ∈ expiry.events ↔ event ∈ planned := by
  unfold ExpiryPlanner.plan at ran
  obtain ⟨_, s₁, first, ran⟩ := exec_bind_ok_iff.mp ran
  obtain ⟨-, rfl⟩ := exec_require_iff.mp first
  obtain ⟨snap, s₁, taken, ran⟩ := exec_bind_ok_iff.mp ran
  have reading : (snapshot type : RegistryM D _).Still := still_snapshot
  obtain rfl := reading.same taken
  obtain ⟨histories, rebuilt, chains⟩ : ∃ histories,
    (reconstructSnapshot type).exec u = (.ok histories, u) ∧ _ := exec_reconstructSnapshot valid
  simp only at ran
  change ((reconstructSnapshot type : RegistryM D _) >>= _).exec u = _ at ran
  rw [exec_bind_ok _ rebuilt] at ran
  obtain ⟨planned, s₁, second, ran⟩ := exec_bind_ok_iff.mp ran
  obtain ⟨planning, rfl⟩ := exec_lift_iff.mp second
  obtain ⟨_, s₁, third, last⟩ := exec_bind_ok_iff.mp ran
  obtain ⟨-, rfl⟩ := exec_lift_iff.mp third
  obtain ⟨built, rfl⟩ := exec_lift_iff.mp last
  refine ⟨histories, planned, chains, planning, fun event => ?_⟩
  unfold ExpiryPlan.build at built
  split_ifs at built
  cases built
  exact List.mem_insertionSort _

/-- The planned history of an entity ends it, or the entity is not due, or it has had an event at
this clock, or the authority declines. -/
structure Expired (planner : ExpiryPlanner D type Decision) (clockSequence : Nat)
    (items : List (RegistryEvent D)) : Prop where
  accepted : ∃ result, project type items = .ok result
  ended : ∀ state, project type items = .ok (some state) → expirable state = true →
    Due state clockSequence → clockSequence ≤ state.lastClockSequence ∨
      planner.authorize state clockSequence = .ok none

/-- An entity without a planned event is left as it was. -/
theorem expired_unplanned
    (ran : planner.planEntity items clockSequence source = .ok none) :
    Expired planner clockSequence items := by
  obtain ⟨result, projected, -, left⟩ := planEntity_ok ran
  refine ⟨⟨result, projected⟩, fun state same expires due => ?_⟩
  obtain rfl := Except.ok.inj (projected.symm.trans same)
  rcases left state rfl with ⟨-, ineligible⟩ | declined
  · left
    by_contra later
    have eligible : eligibleForExpiry (some state) clockSequence = true := by
      simp only [eligibleForExpiry, Bool.and_eq_true, decide_eq_true_eq]
      exact ⟨⟨expires, by omega⟩, due⟩
    rw [eligible] at ineligible
    cases ineligible
  · exact .inr (expiryEvent_none declined)

/-- One with a planned event is ended by it. -/
theorem expired_planned (expires : planner.Expires)
    (ran : planner.planEntity items clockSequence source = .ok (some event)) :
    (∀ other ∈ items, other.entityId = event.entityId) ∧ items ≠ [] ∧
      Expired planner clockSequence (items ++ [event]) := by
  obtain ⟨result, projected, absent, left⟩ := planEntity_ok ran
  cases result with
  | none => cases absent rfl
  | some before =>
      rcases left before rfl with ⟨impossible, -⟩ | made
      · cases impossible
      · obtain ⟨named, next, reduced, ended⟩ := expiryEvent_some expires made
        have after : project type (items ++ [event]) = .ok (some next) :=
          project_concat.mpr ⟨some before, next, projected, reduced, rfl⟩
        refine ⟨fun other member => ?_, ?_, ⟨_, after⟩, fun state same expires' due => ?_⟩
        · exact ((project_entity projected).1 before rfl other member).trans named.symm
        · rintro rfl
          rw [project_eq] at projected
          cases projected
        · obtain rfl := Option.some.inj (Except.ok.inj (after.symm.trans same))
          rw [ended] at expires'
          cases expires'

/-- After the events of a plan each entity of the registry has expired that had to. -/
theorem plan_complete {expiry : ExpiryPlan D type} (expires : planner.Expires) (valid : u.Valid)
    (ran : (planner.plan (live type) clockSequence source).exec u = (.ok expiry, t))
    (chain : u.Chain type entityId items) :
    Expired planner clockSequence
      (items ++ expiry.events.filter (fun event => event.entityId = entityId)) := by
  obtain ⟨histories, planned, chains, planning, listed⟩ := plan_ok valid ran
  obtain ⟨each, from_⟩ := planEvents_ok planning
  -- A planned event of the entity comes from the history of the entity.
  have own : ∀ event ∈ expiry.events, event.entityId = entityId →
      planner.planEntity items clockSequence source = .ok (some event) := by
    intro event member same
    obtain ⟨history, among, proposed⟩ := from_ event ((listed event).mp member)
    obtain ⟨of_entity, filled, -⟩ := expired_planned expires proposed
    obtain ⟨head, -, other⟩ := exists_left chains among
    obtain ⟨first, rest, rfl⟩ := List.exists_cons_of_ne_nil filled
    have id : head.entityId = entityId :=
      (other.entity (by simp)).2.symm.trans ((of_entity first (by simp)).trans same)
    subst id
    rwa [Linked.unique chain other]
  by_cases found : ∃ event ∈ expiry.events, event.entityId = entityId
  · obtain ⟨event, member, rfl⟩ := found
    have distinct : (expiry.events.map (·.entityId)).Nodup := by
      rw [List.Nodup, List.pairwise_map]
      exact expiry.ordered.imp fun below => below.ne
    have single : expiry.events.filter (fun other => other.entityId = event.entityId) = [event] :=
      Keyed.filter_key distinct member
    rw [single]
    exact (expired_planned expires (own event member rfl)).2.2
  · have none_ : expiry.events.filter (fun event => event.entityId = entityId) = [] :=
      List.filter_eq_nil_iff.mpr fun event member => by
        simpa using fun same => found ⟨event, member, same⟩
    rw [none_, List.append_nil]
    cases last : u.headAt type entityId with
    | none =>
        obtain rfl : items = [] := by
          unfold Chain lastSequence lastDigest at chain
          rw [last] at chain
          cases chain
          rfl
        refine ⟨⟨none, project_eq type []⟩, fun state same => ?_⟩
        rw [project_eq] at same
        cases same
    | some head =>
        obtain ⟨typed, id, -⟩ := valid.headAt_iff.mp last
        subst id
        obtain ⟨history, among, other⟩ := exists_right chains (valid.mem_typeHeads.mpr ⟨typed, last⟩)
        obtain ⟨made, proposed, included⟩ := each history among
        obtain rfl := Linked.unique chain other
        cases made with
        | none => exact expired_unplanned proposed
        | some event =>
            obtain ⟨of_entity, filled, -⟩ := expired_planned expires proposed
            obtain ⟨first, rest, rfl⟩ := List.exists_cons_of_ne_nil filled
            have same : event.entityId = head.entityId :=
              (of_entity first (by simp)).symm.trans (other.entity (by simp)).2
            exact absurd ⟨event, (listed event).mpr (included event rfl), same⟩ found

end Planner

/-! ### What a projection leaves behind -/

section Staged
variable {Decision Impact Bindings : Type} {staging : Staging D type Decision Impact}
  {heads : List (RegistryEntityHead D)} {store : CommittedStore D}

theorem projectStaged_complete
    {resolve : RegistryStore D → Except RegistryError (List (RegistryEvent D))}
    {verify : D → List (RegistryEvent D) → Except RegistryError Bindings}
    {request : ProjectionRequest D} {plan : ProjectionPlan D Impact}
    {staged : Staged D type Decision Impact Bindings} (expires : staging.planner.Expires)
    (reads : ∀ previous current event, (staging.impact previous current event).Still)
    (valid : s.Valid) (committed : Committed type s store heads)
    (ran : (projectStaged staging resolve verify request store).exec s = (.ok (plan, staged), t))
    (chain : s.HeadChain type entityId (Keyed.find (·.entityId) heads entityId) items) :
    Expired staging.planner request.claim.proposedSequence
      (items ++ plan.events.filter (fun event => event.entityId = entityId)) := by
  obtain ⟨histories, shown, rfl, stages⟩ := projectStaged_ok reads valid committed ran
  have start : (cloned histories).Valid := cloned_valid valid shown
  have fit := stages.explicit.fit
  have read := fit.chain start stages.explicit.typed (cloned_chain valid shown chain)
  have complete := plan_complete expires (fit.valid start) stages.planned read
  rw [List.append_assoc, ← List.filter_append] at complete
  exact complete

end Staged

/-- Every entity, with the events of the plan: nothing that is due is left, but what has had an
event at the clock already or what the authority declines to expire. -/
def LeavesNothingDue {Impact Plan : Type} (type : RegistryType)
    (project : CommittedStore D → RegistryM D Plan) (common : Plan → ProjectionPlan D Impact)
    (clockSequence : Nat) (declines : String → Prop) : Prop :=
  ∀ s store heads plan t, s.Valid → Committed type s store heads →
    (project store).exec s = (.ok plan, t) → ∀ entityId items,
      s.HeadChain type entityId (Keyed.find (·.entityId) heads entityId) items →
      let projected := Registry.project type
        (items ++ (common plan).events.filter (fun event => event.entityId = entityId))
      (∃ result, projected = .ok result) ∧ ∀ state, projected = .ok (some state) →
        expirable state = true → Due state clockSequence →
        clockSequence ≤ state.lastClockSequence ∨ declines state.entityId

omit [LinearOrder D] [Sha256 D] in
/-- The authority declines one entity only. -/
theorem ExpiryAuthority.authorize_none {authority : ExpiryAuthority D} {mismatch : String}
    {clockSequence : Nat}
    (declined : authority.authorize type mismatch entityId clockSequence = .ok none) :
    authority.expiryAuthorization entityId clockSequence = .ok none := by
  unfold ExpiryAuthority.authorize at declined
  obtain ⟨answer, given, declined⟩ := Results.bind_ok.mp declined
  cases answer with
  | none => exact given
  | some authorization =>
      simp only at declined
      split_ifs at declined
      cases declined

omit [LinearOrder D] [Sha256 D] in
theorem ExpiryAuthority.authorize_some {authority : ExpiryAuthority D} {mismatch : String}
    {clockSequence : Nat} {payload : JsonObject}
    (authorized : authority.authorize type mismatch entityId clockSequence = .ok (some payload)) :
    payload.get "operation" = .str "EXPIRE" := by
  unfold ExpiryAuthority.authorize at authorized
  obtain ⟨answer, given, authorized⟩ := Results.bind_ok.mp authorized
  cases answer with
  | none => cases authorized
  | some authorization =>
      simp only at authorized
      split_ifs at authorized
      cases authorized
      rfl

theorem StagedEvidenceProjectionAdapter.project_complete
    (adapter : StagedEvidenceProjectionAdapter D) (request : ProjectionRequest D) :
    LeavesNothingDue .evidenceUnit (adapter.project request) (·.toProjectionPlan)
      request.claim.proposedSequence (fun _ => False) := by
  intro s store heads plan t valid committed ran entityId items chain
  unfold project at ran
  obtain ⟨_, s₁, checked, rest⟩ := exec_bind_ok_iff.mp ran
  obtain ⟨-, rfl⟩ := exec_lift_iff.mp checked
  obtain ⟨⟨common, staged⟩, s₂, attempt, last⟩ := exec_bind_ok_iff.mp rest
  obtain rfl := Except.ok.inj (Prod.mk.inj last).1
  have expires : adapter.staging.planner.Expires := by
    rintro state clockSequence payload ⟨⟩
    rfl
  obtain ⟨accepted, ended⟩ :=
    projectStaged_complete expires adapter.staging_reads valid committed attempt chain
  refine ⟨accepted, fun state projected due reached => ?_⟩
  exact (ended state projected due reached).imp_right nofun

theorem StagedAssumptionProjectionAdapter.project_complete
    (adapter : StagedAssumptionProjectionAdapter D) (request : ProjectionRequest D) (root : D)
    (governed : List (GovernedAdmitAuthorization D)) :
    LeavesNothingDue .assumption (fun store => adapter.project request store root governed)
      (·.toProjectionPlan) request.claim.proposedSequence (fun entityId =>
        adapter.expiryAuthority.expiryAuthorization entityId request.claim.proposedSequence =
          .ok none) := by
  intro s store heads plan t valid committed ran entityId items chain
  dsimp only at ran
  unfold project at ran
  obtain ⟨_, s₁, checked, rest⟩ := exec_bind_ok_iff.mp ran
  obtain ⟨-, rfl⟩ := exec_lift_iff.mp checked
  obtain ⟨_, s₁, shaped, rest⟩ := exec_bind_ok_iff.mp rest
  obtain ⟨-, rfl⟩ := exec_lift_iff.mp shaped
  obtain ⟨⟨common, staged⟩, s₂, attempt, last⟩ := exec_bind_ok_iff.mp rest
  obtain rfl := Except.ok.inj (Prod.mk.inj last).1
  have expires : adapter.staging.planner.Expires := fun _ _ _ => ExpiryAuthority.authorize_some
  obtain ⟨accepted, ended⟩ :=
    projectStaged_complete expires adapter.staging_reads valid committed attempt chain
  refine ⟨accepted, fun state projected due reached => ?_⟩
  exact (ended state projected due reached).imp_right ExpiryAuthority.authorize_none

theorem StagedAlternativeModelProjectionAdapter.project_complete
    (adapter : StagedAlternativeModelProjectionAdapter D) (request : ProjectionRequest D)
    (evidenceRoot assumptionRoot : D)
    (governed : List (GovernedAlternativeModelAuthorization D × ComparisonReceipt D)) :
    LeavesNothingDue .alternativeModel
      (fun store => adapter.project request store evidenceRoot assumptionRoot governed)
      (·.toProjectionPlan) request.claim.proposedSequence (fun entityId =>
        adapter.expiryAuthority.expiryAuthorization entityId request.claim.proposedSequence =
          .ok none) := by
  intro s store heads plan t valid committed ran entityId items chain
  dsimp only at ran
  unfold project at ran
  obtain ⟨_, s₁, checked, rest⟩ := exec_bind_ok_iff.mp ran
  obtain ⟨-, rfl⟩ := exec_lift_iff.mp checked
  obtain ⟨⟨common, staged⟩, s₂, attempt, last⟩ := exec_bind_ok_iff.mp rest
  obtain rfl := Except.ok.inj (Prod.mk.inj last).1
  have expires : adapter.staging.planner.Expires := fun _ _ _ => ExpiryAuthority.authorize_some
  obtain ⟨accepted, ended⟩ :=
    projectStaged_complete expires adapter.staging_reads valid committed attempt chain
  refine ⟨accepted, fun state projected due reached => ?_⟩
  exact (ended state projected due reached).imp_right ExpiryAuthority.authorize_none

/-- No projection leaves anything due, but what has had an event at its clock. -/
theorem projection_expiry_complete :
    (∀ (adapter : StagedEvidenceProjectionAdapter D) (request : ProjectionRequest D),
      LeavesNothingDue .evidenceUnit (adapter.project request) (·.toProjectionPlan)
        request.claim.proposedSequence (fun _ => False)) ∧
    (∀ (adapter : StagedAssumptionProjectionAdapter D) (request : ProjectionRequest D)
      (evidenceRoot : D) (governed : List (GovernedAdmitAuthorization D)),
      LeavesNothingDue .assumption
        (fun store => adapter.project request store evidenceRoot governed) (·.toProjectionPlan)
        request.claim.proposedSequence (fun entityId =>
          adapter.expiryAuthority.expiryAuthorization entityId request.claim.proposedSequence =
            .ok none)) ∧
    ∀ (adapter : StagedAlternativeModelProjectionAdapter D) (request : ProjectionRequest D)
      (evidenceRoot assumptionRoot : D)
      (governed : List (GovernedAlternativeModelAuthorization D × ComparisonReceipt D)),
      LeavesNothingDue .alternativeModel
        (fun store => adapter.project request store evidenceRoot assumptionRoot governed)
        (·.toProjectionPlan) request.claim.proposedSequence (fun entityId =>
          adapter.expiryAuthority.expiryAuthorization entityId request.claim.proposedSequence =
            .ok none) :=
  ⟨fun adapter request => adapter.project_complete request,
    fun adapter request root governed => adapter.project_complete request root governed,
    fun adapter request evidenceRoot assumptionRoot governed =>
      adapter.project_complete request evidenceRoot assumptionRoot governed⟩

/-! The assumption of the sample, with and without an explicit event at the clock of its expiry. -/
section Sample

/-- An explicit event that leaves nothing due is all that is planned. -/
theorem sampleProjection_keeps {items : List (RegistryEvent (List Nat))}
    {event : RegistryEvent (List Nat)} {previous next : Assumptions.Assumption (List Nat)}
    {operation : String} {s : RegistryStore (List Nat)}
    (lone : Lone .assumption event.entityId items s)
    (accepted : ∀ event ∈ items, verifyEvent event = .ok ()) (checked : verifyEvent event = .ok ())
    (named : isToken event.entityId = true)
    (plain : event.registryType = .assumption ∧ event.clockSequence = 3 ∧ isAdmission event = false)
    (operates : eventOperation .assumption event = .ok operation)
    (listed : operation ∈ impactOperations .assumption)
    (before : assumptionOf items = .ok (some previous))
    (after : assumptionAfter (some previous) event = .ok next)
    (kept : @eligibleForExpiry _ .assumption (some next) 3 = false)
    (free : next.assumptionDependencyIds = []) :
    ∃ plan, ((sampleAdapter [event]).project sampleRequest (live .assumption) [] []).exec s =
      (.ok plan, s) ∧ plan.events = [event] ++ [] := by
  have clone := lone.clone.2
  obtain ⟨outcomes, applied, left⟩ := clone.exec_applyAssumption (sampleAdapter [event]) rfl
    named checked before after operates listed free
  have made : (sampleAdapter [event]).staging.planner.planEntity (items ++ [event]) 3
      (DigestText.text (projectionSourceDigest .assumption sampleRequest)) = .ok none :=
    ExpiryPlanner.planEntity_none (assumptionOf_concat before after) kept
  refine lone.exec_project (sampleAdapter [event]) sampleRequest_context fun predecessorRoot => ?_
  exact lone.exec_stage accepted rfl
    (canonicalEvents_single named)
    (verified_unadmitted _ fun other member => by rwa [List.mem_singleton.mp member]) applied left
    (DigestText.isDigest_text _) (show isToken "expiry" = true by decide) made
    (fun _ found => absurd found (Option.not_mem_none _)) rfl left.valid

set_option maxRecDepth 100000 in
theorem sampleConfirmed : ∃ state, assumptionOf sampleHistory = .ok (some state) ∧
    state.standing = .confirmed ∧ state.expiresAtSequence = some 3 ∧ state.lastClockSequence = 3 ∧
    state.assumptionDependencyIds = [] := by
  have computed : ((assumptionOf sampleHistory).toOption.join.map fun state =>
      (state.standing, state.expiresAtSequence, state.lastClockSequence,
        state.assumptionDependencyIds)) = some (.confirmed, some 3, 3, []) := by decide +kernel
  generalize assumptionOf sampleHistory = projected at computed ⊢
  match projected, computed with
  | .ok (some state), computed =>
      refine ⟨state, rfl, ?_⟩
      simpa [Except.toOption] using computed

theorem sampleOutcome_confirmed :
    sampleOutcome (sampleHistory.drop 2) = some (.confirmed, some 3, 3) := by
  obtain ⟨next, whole, standing, expires, clock, free⟩ := sampleConfirmed
  have single : ∃ event, sampleHistory.drop 2 = [event] ∧ event.entityId = "a" ∧
      (event.registryType = .assumption ∧ event.clockSequence = 3 ∧ isAdmission event = false) ∧
      eventOperation .assumption event = .ok "CONFIRM" := by
    refine ⟨_, rfl, rfl, ⟨rfl, rfl, ?_⟩, ?_⟩
    · decide
    · decide
  obtain ⟨event, last, own, plain, operates⟩ := single
  have lone : Lone .assumption event.entityId (sampleHistory.take 2) sampleCommitted := by
    rw [own]
    exact sampleCommitted_alone
  have split : sampleHistory.take 2 ++ [event] = sampleHistory := by
    rw [← last, List.take_append_drop]
  have accepted : ∀ other ∈ sampleHistory, verifyEvent other = .ok () := fun other member =>
    sampleChain_verified _ 0 none other member
  have before := sampleCommitted_facts.2.2
  have after : assumptionAfter (some (sampleAdmitted sampleAdmission)) event = .ok next :=
    assumptionAfter_last before (by rw [split]; exact whole)
  have kept : @eligibleForExpiry _ .assumption (some next) 3 = false := by
    have late : @State.lastClockSequence _ .assumption next = 3 := clock
    simp [eligibleForExpiry, late]
  have named : isToken event.entityId = true := by
    rw [own]
    decide
  obtain ⟨plan, ran, events⟩ := sampleProjection_keeps lone
    (fun other member => accepted other (List.mem_of_mem_take member))
    (accepted event (List.mem_of_mem_drop (last ▸ List.mem_singleton_self event))) named plain operates
    (by decide) before after kept free
  rw [last, sampleOutcome_eq ran events (by simpa using own)
    (by rw [List.append_nil, split]; exact whole), standing, expires, clock]

theorem sampleAuthority_authorizes (entityId : String) (clockSequence : Nat) :
    sampleAuthority.expiryAuthorization entityId clockSequence ≠ .ok none := by
  unfold sampleAuthority
  simp only
  split_ifs <;> nofun

/-- What the sample projection of these events leaves. -/
theorem sample_projected {explicit : List (RegistryEvent (List Nat))}
    {standing : Assumptions.Standing} {expires : Option Nat} {clock : Nat}
    (outcome : sampleOutcome explicit = some (standing, expires, clock)) :
    ∃ plan items state,
      ((sampleAdapter explicit).project sampleRequest (live .assumption) [] []).exec sampleCommitted =
        (.ok plan, sampleCommitted) ∧
      sampleCommitted.HeadChain .assumption "a"
        (Keyed.find (·.entityId) (sampleCommitted.typeHeads .assumption) "a") items ∧
      assumptionOf (items ++ plan.events.filter (fun event => event.entityId = "a")) =
        .ok (some state) ∧
      state.standing = standing ∧ state.expiresAtSequence = expires ∧
      state.lastClockSequence = clock := by
  obtain ⟨plan, items, state, made, read, projected, fields⟩ := sampleOutcome_ok outcome
  unfold sampleProjection at made
  have valid := sampleCommitted_valid
  generalize sampleCommitted = s at made read valid ⊢
  generalize sampleAdapter explicit = adapter at made ⊢
  obtain ⟨items', chain⟩ := valid.chain .assumption "a"
  rw [exec_reconstructEntity valid (by decide) chain] at read
  obtain rfl := Except.ok.inj read
  refine ⟨plan, items', state, adapter.exec_project sampleRequest [] [] valid .live made, ?_,
    projected, fields⟩
  rw [typeHeads_shows valid]
  exact chain

/-- A confirmation at the clock of the expiry, which the authority authorizes, postpones it. -/
theorem expiry_postponed : (∀ entityId clockSequence,
      (sampleAdapter (sampleHistory.drop 2)).expiryAuthority.expiryAuthorization entityId
        clockSequence ≠ .ok none) ∧ ∃ plan items state,
    ((sampleAdapter (sampleHistory.drop 2)).project sampleRequest (live .assumption) [] []).exec
      sampleCommitted = (.ok plan, sampleCommitted) ∧
    sampleCommitted.HeadChain .assumption "a"
      (Keyed.find (·.entityId) (sampleCommitted.typeHeads .assumption) "a") items ∧
    assumptionOf (items ++ plan.events.filter (fun event => event.entityId = "a")) =
      .ok (some state) ∧
    state.standing = .confirmed ∧
    ∃ expires ∈ state.expiresAtSequence, expires ≤ sampleRequest.claim.proposedSequence := by
  refine ⟨fun entityId clockSequence => sampleAuthority_authorizes entityId clockSequence, ?_⟩
  obtain ⟨plan, items, state, ran, chain, projected, standing, expires, -⟩ :=
    sample_projected sampleOutcome_confirmed
  exact ⟨plan, items, state, ran, chain, projected, standing, 3, expires, le_rfl⟩

/-- Without it, nothing that is due is left of the assumption. -/
theorem projection_expiry_complete_sample : ∃ items, ∃ state : Assumptions.Assumption (List Nat),
    sampleCommitted.HeadChain .assumption "a"
      (Keyed.find (·.entityId) (sampleCommitted.typeHeads .assumption) "a") items ∧
    state.standing = .expired ∧ ∃ plan,
    assumptionOf (items ++ plan.events.filter (fun event => event.entityId = "a")) =
      .ok (some state) ∧
    ((sampleAdapter []).project sampleRequest (live .assumption) [] []).exec sampleCommitted =
        (.ok plan, sampleCommitted) ∧
    (@expirable _ .assumption state = true → @Due _ .assumption state 3 →
      3 ≤ state.lastClockSequence) := by
  obtain ⟨plan, items, state, ran, chain, projected, standing, -⟩ :=
    sample_projected sampleOutcome_expired
  refine ⟨items, state, chain, standing, plan, projected, ran, fun due reached => ?_⟩
  have valid := sampleCommitted_valid
  generalize sampleCommitted = s at ran chain valid
  have authorizes : (sampleAdapter []).expiryAuthority = sampleAuthority := rfl
  generalize sampleAdapter [] = adapter at ran authorizes
  obtain ⟨-, ended⟩ := projection_expiry_complete.2.1 adapter sampleRequest [] [] s (live .assumption)
    _ plan s valid .live ran "a" items chain
  rcases ended state projected due reached with late | declined
  · exact late
  · rw [authorizes] at declined
    exact absurd declined (sampleAuthority_authorizes _ _)

end Sample
end CsdFoundry.Projection
