import CsdFoundry.Projection.Staging

/-! A projection of a registry of one entity goes through: what the adapter reads, stages and plans
is given by the history of that entity. -/
namespace CsdFoundry.Projection
open Registry Storage RegistryStore Prog Generation
open Temporal (isToken)

variable {D : Type} [LinearOrder D] [DigestText D] [Sha256 D] {s t u : RegistryStore D}
  {type : RegistryType} {entityId : String} {head : RegistryEntityHead D}
  {heads : List (RegistryEntityHead D)} {event : RegistryEvent D}
  {events items : List (RegistryEvent D)} {histories : List (List (RegistryEvent D))}

/-! ### A registry of one entity -/

/-- The registry has no other entity than this one, with this history. -/
structure Lone (type : RegistryType) (entityId : String) (items : List (RegistryEvent D))
    (u : RegistryStore D) : Prop where
  valid : u.Valid
  chain : u.Chain type entityId items
  begun : items ≠ []
  others : ∀ other ≠ entityId, u.headAt type other = none

namespace Lone

theorem typeHeads (lone : Lone type entityId items u) :
    ∃ head, u.typeHeads type = [head] ∧ head.entityId = entityId := by
  obtain ⟨last, ending⟩ := Option.ne_none_iff_exists'.mp
    (List.getLast?_eq_none_iff.not.mpr lone.begun)
  have present := (lone.chain.wellLinked lone.valid).last
  rw [ending, Option.map_some] at present
  obtain ⟨typed, own, -⟩ := lone.valid.headAt_iff.mp present.symm
  refine ⟨last.head, lone.valid.typeHeads_ascending.eq_of_mem_iff (List.pairwise_singleton _ _) ?_,
    own⟩
  intro head
  rw [lone.valid.mem_typeHeads, List.mem_singleton]
  constructor
  · rintro ⟨-, found⟩
    by_cases same : head.entityId = entityId
    · rw [same, ← present] at found
      exact (Option.some.inj found).symm
    · rw [lone.others _ same] at found
      cases found
  · rintro rfl
    exact ⟨typed, by rw [own, present]⟩

theorem reconstructs (lone : Lone type entityId items u) :
    (reconstructSnapshot type).exec u = (.ok [items], u) := by
  obtain ⟨head, listed, rfl⟩ := lone.typeHeads
  obtain ⟨histories, rebuilt, chains⟩ : ∃ histories,
    (reconstructSnapshot type).exec u = (.ok histories, u) ∧ _ :=
      exec_reconstructSnapshot lone.valid
  rw [listed] at chains
  cases chains with
  | cons chain rest =>
      cases rest
      rw [rebuilt, Linked.unique lone.chain chain]

theorem commit (lone : Lone type event.entityId items u) (typed : event.registryType = type)
    (fits : Fits u event) : Lone type event.entityId (items ++ [event]) (committed event u) := by
  subst typed
  refine ⟨fits.valid lone.valid, committed_chain lone.valid fits.sequence fits.previous lone.chain,
    by simp, fun other different => ?_⟩
  rw [committed_other fun same => different same.2]
  exact lone.others other different

theorem clone (lone : Lone type entityId items u) :
    Shown type u (u.typeHeads type) [items] ∧ Lone type entityId items (cloned [items]) := by
  obtain ⟨snap, taken, -⟩ : ∃ snap : RegistrySnapshot D, (snapshot type).exec u = (.ok snap, u) ∧ _ :=
    exec_snapshot lone.valid
  obtain ⟨-, shown⟩ := Committed.live.shown lone.valid taken lone.reconstructs
  refine ⟨shown, cloned_valid lone.valid shown, ?_, lone.begun, fun other different => ?_⟩
  · apply cloned_chain lone.valid shown
    rw [typeHeads_shows lone.valid]
    exact lone.chain
  · have same := cloned_shows lone.valid shown other
    rw [typeHeads_shows lone.valid, lone.others other different] at same
    exact same.symm

theorem of_files (valid : u.Valid) (named : entityId ≠ "")
    (read : ((reconstructEntity type entityId).exec u).1 = .ok items) (begun : items ≠ [])
    (files : ∀ file ∈ u.heads, file.head.entityId = entityId) : Lone type entityId items u := by
  refine ⟨valid, ?_, begun, fun other different => ?_⟩
  · obtain ⟨items', chain⟩ := valid.chain type entityId
    rw [exec_reconstructEntity valid named chain] at read
    rwa [Except.ok.inj read] at chain
  · refine Option.eq_none_iff_forall_ne_some.mpr fun head found => different ?_
    obtain ⟨-, rfl, -⟩ := valid.headAt_iff.mp found
    obtain ⟨file, listed, rfl⟩ := Option.map_eq_some_iff.mp found
    exact files file (Keyed.mem_of_find listed)

end Lone

section Run
variable {Decision Impact Bindings : Type} {staging : Staging D type Decision Impact}
  {planner : ExpiryPlanner D type Decision}

theorem exec_applyEvent {previous : Option (State D type)} {next : State D type}
    {decision : Decision} {impact : Option Impact} (valid : s.Valid)
    (chain : s.Chain type event.entityId items) (named : isToken event.entityId = true)
    (accepted : verifyEvent event = .ok ()) (before : project type items = .ok previous)
    (required : staging.planner.require event previous = .ok decision)
    (after : reduce type previous event = .ok next)
    (noted : (impactOf staging previous next event).exec (committed event s) =
      (.ok impact, committed event s)) :
    (applyEvent staging event).exec s = (.ok (decision, impact), committed event s) := by
  have identified : eventEntityId type event = .ok event.entityId := if_pos named
  have fits : Fits s event := fits_of_reduce valid chain before after
  have projected : (entityError (project type items) : RegistryM D _).exec s = (.ok previous, s) := by
    rw [before]
    rfl
  have reduced : (entityError (reduce type previous event) : RegistryM D _).exec s =
      (.ok next, s) := by
    rw [after]
    rfl
  unfold applyEvent
  rw [identified, exec_bind_ok _ (exec_lift _), exec_bind_ok _
    (exec_reconstructEntity valid (named_of_token event.token) chain), exec_bind_ok _ projected,
    required, exec_bind_ok _ (exec_lift _), exec_bind_ok _ reduced,
    exec_bind_ok _ (exec_append_fits valid fits accepted), exec_bind_ok _ noted]
  rfl

theorem Lone.exec_plan {clockSequence : Nat} {source : String} {planned : Option (RegistryEvent D)}
    (lone : Lone type entityId items u) (digest : DigestText.isDigest D source = true)
    (authority : isToken planner.expiryAuthorityId = true)
    (made : planner.planEntity items clockSequence source = .ok planned)
    (named : ∀ event ∈ planned, isToken event.entityId = true) :
    ∃ expiry, (planner.plan (live type) clockSequence source).exec u = (.ok expiry, u) ∧
      expiry.events = planned.toList := by
  obtain ⟨snap, taken, -⟩ : ∃ snap : RegistrySnapshot D, (snapshot type).exec u = (.ok snap, u) ∧ _ :=
    exec_snapshot lone.valid
  have whole : planner.planEvents clockSequence source [items] = .ok planned.toList := by
    rw [ExpiryPlanner.planEvents, made]
    exact congrArg Except.ok (List.append_nil _)
  have sorted : ExpiryPlanner.byEntityId planned.toList = planned.toList := by
    cases planned <;> rfl
  have ordered : planned.toList.Pairwise (fun a b => a.entityId < b.entityId) := by
    cases planned <;> simp
  have identified : Results.collect (planned.toList.map (eventEntityId type)) =
      .ok (planned.toList.map (·.entityId)) := by
    cases planned with
    | none => rfl
    | some event =>
        have one : eventEntityId type event = .ok event.entityId := if_pos (named event rfl)
        simp only [Option.toList_some, List.map_cons, one]
        rfl
  refine ⟨⟨clockSequence, snap.rootDigest, planner.policy, planner.expiryAuthorityId, source,
    planned.toList, ordered⟩, ?_, rfl⟩
  unfold ExpiryPlanner.plan
  rw [exec_bind_ok _ (exec_require_ok digest _ _)]
  change ((snapshot type : RegistryM D _) >>= _).exec u = _
  rw [exec_bind_ok _ taken]
  change ((reconstructSnapshot type : RegistryM D _) >>= _).exec u = _
  rw [exec_bind_ok _ lone.reconstructs, whole, exec_bind_ok _ (exec_lift _), identified,
    exec_bind_ok _ (exec_lift _), exec_lift, ExpiryPlan.build, if_pos authority]
  simp only [sorted, dif_pos ordered]

theorem Lone.exec_projections {state : State D type} (lone : Lone type entityId items u)
    (projected : project type items = .ok (some state)) :
    (projections type).exec u = (.ok [state], u) := by
  have collected : (entityError (Results.collect ([items].map (project type))) :
      RegistryM D _).exec u = (.ok [some state], u) := by
    simp only [List.map_cons, projected]
    rfl
  have alone : Keyed.entries State.entityId [state] = [state] := by
    simp [Keyed.entries, Keyed.find, List.eraseDups_cons]
  unfold projections
  rw [exec_bind_ok _ lone.reconstructs, exec_bind_ok _ collected]
  exact congrArg (fun states => (Except.ok states, u)) alone

/-- An entity that depends on nothing does not depend on itself. -/
theorem Lone.exec_affectedIds {state : State D type} {dependencyIds : State D type → List String}
    (lone : Lone type entityId items u) (projected : project type items = .ok (some state))
    (free : dependencyIds state = []) :
    (affectedIds type dependencyIds entityId).exec u = (.ok ∅, u) := by
  have unaffected : affectedFrom ([state].map fun state => (state.entityId, dependencyIds state)) 1 []
      [entityId] = [] := by
    simp [affectedFrom, free]
  unfold affectedIds
  rw [exec_bind_ok _ (lone.exec_projections projected)]
  exact congrArg (fun ids => (Except.ok (List.toFinset ids), u)) unaffected

theorem Lone.exec_assumptionImpact {previous current next : Assumptions.Assumption D}
    (lone : Lone .assumption event.entityId items u)
    (projected : project .assumption items = .ok (some next))
    (free : next.assumptionDependencyIds = []) (named : isToken event.entityId = true) :
    ∃ receipt, (assumptionImpact (emptyImpactResolver .assumption) previous current event).exec u =
      (.ok receipt, u) := by
  obtain ⟨snap, taken, -⟩ : ∃ snap : RegistrySnapshot D,
    (snapshot .assumption).exec u = (.ok snap, u) ∧ _ := exec_snapshot lone.valid
  have affected : (affectedIds .assumption Assumptions.Assumption.assumptionDependencyIds
      event.entityId : RegistryM D _).exec u = (.ok ∅, u) := lone.exec_affectedIds projected free
  have ids : (assumptionDependentIds event.entityId : RegistryM D _).exec u = (.ok [], u) := by
    unfold assumptionDependentIds
    rw [exec_bind_ok _ affected]
    rfl
  let receipt : AssumptionImpactReceipt D := ⟨event.entityId, assumptionStatus previous,
    assumptionStatus current, event.digest, [], snap.rootDigest⟩
  have checked : receipt.postInit = .ok () := by
    have token : requireToken .assumption event.entityId "IMPACT_ID_INVALID" = .ok () := if_pos named
    unfold AssumptionImpactReceipt.postInit
    simp only [receipt, token]
    rfl
  refine ⟨receipt, ?_⟩
  unfold assumptionImpact
  rw [exec_bind_ok (a := ([], [])) (t := u) _ rfl, exec_bind_ok _ ids, exec_bind_ok _ taken]
  change (lift receipt.postInit >>= _ : RegistryM D _).exec u = _
  rw [checked, exec_bind_ok _ (exec_lift _)]
  rfl

theorem exec_applyEvents_single {outcome : Decision × Option Impact}
    (applied : (applyEvent staging event).exec s = (.ok outcome, committed event s)) :
    (applyEvents staging [event]).exec s = (.ok [outcome], appended [event] s) := by
  unfold applyEvents
  rw [exec_bind_ok _ applied]
  rfl

/-- The entity is due, and the authority lets it expire. -/
theorem ExpiryPlanner.planEntity_expires {state next : State D type} {clockSequence : Nat}
    {source : String} {payload : JsonObject} {decision : Decision}
    (projected : project type items = .ok (some state))
    (due : eligibleForExpiry (some state) clockSequence = true)
    (authorized : planner.authorize state clockSequence = .ok (some payload))
    (built : RegistryEvent.build type state.entityId (state.currentEntitySequence + 1)
      (some state.currentEventDigest) clockSequence source (payloadSchemaVersion type) payload =
        .ok event)
    (required : planner.require event (some state) = .ok decision)
    (reduced : reduce type (some state) event = .ok next) :
    planner.planEntity items clockSequence source = .ok (some event) := by
  have expires : planner.expiryEvent state clockSequence source = .ok (some event) := by
    have accepted : (reduce type (some state) event).mapError RegistryError.entity = .ok next :=
      Results.mapError_ok.mpr reduced
    refine Results.bind_ok.mpr ⟨some payload, authorized, Results.bind_ok.mpr ⟨event, built, ?_⟩⟩
    exact Results.bind_ok.mpr ⟨decision, required, Results.bind_ok.mpr ⟨next, accepted, rfl⟩⟩
  unfold planEntity
  rw [projected]
  exact (if_pos due).trans expires

/-- What is staged on the clone, once the explicit events and the expiry are known to be applied. -/
theorem Lone.exec_stage {Bindings : Type} {clockSequence : Nat} {source : String}
    {resolve : RegistryStore D → Except RegistryError (List (RegistryEvent D))}
    {verify : List (RegistryEvent D) → Except RegistryError Bindings} {bindings : Bindings}
    {explicit left : List (RegistryEvent D)} {planned : Option (RegistryEvent D)}
    {first second : List (Decision × Option Impact)}
    (lone : Lone type entityId items u) (accepted : ∀ event ∈ items, verifyEvent event = .ok ())
    (resolved : resolve (cloned [items]) = .ok explicit)
    (listed : canonicalEvents type explicit = .ok explicit) (verified : verify explicit = .ok bindings)
    (applied : (applyEvents staging explicit).exec (cloned [items]) =
      (.ok first, appended explicit (cloned [items])))
    (after : Lone type entityId left (appended explicit (cloned [items])))
    (digest : DigestText.isDigest D source = true)
    (authority : isToken staging.planner.expiryAuthorityId = true)
    (made : staging.planner.planEntity left clockSequence source = .ok planned)
    (named : ∀ event ∈ planned, isToken event.entityId = true)
    (expired : (applyEvents staging planned.toList).exec (appended explicit (cloned [items])) =
      (.ok second, appended planned.toList (appended explicit (cloned [items]))))
    (ends : (appended planned.toList (appended explicit (cloned [items]))).Valid) :
    ∃ staged, inMemory (stage staging resolve verify clockSequence source [items]) = .ok staged ∧
      staged.explicit = explicit ∧ staged.expiry.events = planned.toList := by
  obtain ⟨shown, -⟩ := lone.clone
  obtain ⟨fit, -⟩ := fit_histories lone.valid initial_valid shown fun _ _ => rfl
  have copied : (cloneStore [items]).exec .initial = (.ok (), cloned [items]) :=
    exec_appendAll initial_valid fit (by simpa using accepted)
  have read : (.read .os resolve : RegistryM D (List (RegistryEvent D))).exec (cloned [items]) =
      (.ok explicit, cloned [items]) :=
    Prod.ext resolved rfl
  obtain ⟨expiry, plans, planned_⟩ := after.exec_plan digest authority made named
  obtain ⟨snap, taken, -⟩ : ∃ snap : RegistrySnapshot D, (snapshot type).exec _ = (.ok snap, _) ∧ _ :=
    exec_snapshot ends
  refine ⟨⟨explicit, expiry, first ++ second, bindings, snap.rootDigest⟩, ?_, rfl, planned_⟩
  unfold inMemory stage
  rw [exec_bind_ok _ copied, exec_bind_ok _ read, listed, exec_bind_ok _ (exec_lift _), verified,
    exec_bind_ok _ (exec_lift _), exec_bind_ok _ applied, exec_bind_ok _ plans, planned_,
    exec_bind_ok _ expired, exec_bind_ok _ taken]
  rfl

theorem exec_impactOf {previous current : State D type} {impact : Impact} {operation : String}
    (operates : eventOperation type event = .ok operation) (listed : operation ∈ impactOperations type)
    (noted : (staging.impact previous current event).exec u = (.ok impact, u)) :
    (impactOf staging (some previous) current event).exec u = (.ok (some impact), u) := by
  unfold impactOf
  simp only
  rw [operates, exec_bind_ok _ (exec_lift _), if_pos listed, exec_bind_ok _ noted]
  rfl

theorem ExpiryPlanner.planEntity_none {state : State D type} {clockSequence : Nat} {source : String}
    (projected : project type items = .ok (some state))
    (kept : eligibleForExpiry (some state) clockSequence = false) :
    planner.planEntity items clockSequence source = .ok none := by
  unfold planEntity
  rw [projected]
  exact if_neg (by simp [kept])

end Run

omit [LinearOrder D] [Sha256 D] in
theorem canonicalEvents_single (named : isToken event.entityId = true) : canonicalEvents type [event] = .ok [event] := by
  have identified : eventEntityId type event = .ok event.entityId := if_pos named
  unfold canonicalEvents
  simp only [List.map_cons, List.map_nil, identified]
  rfl

section Adapter
variable (adapter : StagedAssumptionProjectionAdapter D) {request : ProjectionRequest D} {root : D}

/-- An event of the only assumption is applied, with its impact. -/
theorem Lone.exec_applyAssumption {previous next : Assumptions.Assumption D} {operation : String}
    (empty : adapter.impactResolver = emptyImpactResolver .assumption)
    (lone : Lone .assumption event.entityId items u) (named : isToken event.entityId = true)
    (accepted : verifyEvent event = .ok ())
    (before : project .assumption items = .ok (some previous))
    (after : reduce .assumption (some previous) event = .ok next)
    (operates : eventOperation .assumption event = .ok operation)
    (listed : operation ∈ impactOperations .assumption) (free : next.assumptionDependencyIds = []) :
    ∃ outcomes, (applyEvents adapter.staging [event]).exec u = (.ok outcomes, appended [event] u) ∧
      Lone .assumption event.entityId (items ++ [event]) (appended [event] u) := by
  have typed : event.registryType = .assumption := (reduce_ok after).registryType
  have fits : Fits u event := fits_of_reduce lone.valid lone.chain before after
  have left : Lone .assumption event.entityId (items ++ [event]) (committed event u) :=
    lone.commit typed fits
  have projected : project .assumption (items ++ [event]) = .ok (some next) :=
    project_concat.mpr ⟨some previous, next, before, after, rfl⟩
  obtain ⟨receipt, noted⟩ : ∃ receipt, (adapter.staging.impact previous next event).exec
      (committed event u) = (.ok receipt, committed event u) := by
    change ∃ receipt, (assumptionImpact adapter.impactResolver previous next event).exec _ = _
    rw [empty]
    exact left.exec_assumptionImpact projected free named
  have impact : (impactOf adapter.staging (some previous) next event).exec (committed event u) =
      (.ok (some receipt), committed event u) := exec_impactOf operates listed noted
  have required : adapter.staging.planner.require event (some previous) = .ok () := rfl
  exact ⟨_, exec_applyEvents_single (exec_applyEvent lone.valid lone.chain named accepted before
    required after impact), left⟩

omit [LinearOrder D] [Sha256 D] in
theorem verifyEach_ok {verify : RegistryEvent D → Except RegistryError Unit}
    (each : ∀ event ∈ events, verify event = .ok ()) : verifyEach verify events = .ok () := by
  refine Results.bind_ok.mpr ⟨events.map fun _ => (), Results.collect_eq_ok.mpr ?_, rfl⟩
  rw [List.map_map]
  exact List.map_congr_left each

omit [Sha256 D] in
/-- Explicit events of the registry and the clock need no authorization, unless they admit. -/
theorem verified_unadmitted (predecessorRoot : D)
    (plain : ∀ event ∈ events, event.registryType = .assumption ∧
      event.clockSequence = request.claim.proposedSequence ∧ isAdmission event = false) :
    (do
      verifyEventBindings .assumption request events
      StagedAssumptionProjectionAdapter.verifyGovernedAdmitBindings [] root predecessorRoot events) =
      .ok () := by
  refine Results.bind_ok.mpr ⟨(), verifyEach_ok fun event member => ?_,
    verifyEach_ok fun event member => ?_⟩
  · obtain ⟨typed, clock, -⟩ := plain event member
    exact Results.ensure_bind.mpr ⟨typed, if_pos clock⟩
  · exact if_neg (by simp [(plain event member).2.2])

/-- What the adapter reads is the one history, and its plan is what is staged on it. -/
theorem Lone.exec_project {explicit expiry : List (RegistryEvent D)}
    (lone : Lone .assumption entityId items s) (context : verifyContext .assumption request = .ok ())
    (staging : ∀ predecessorRoot, ∃ staged, inMemory (stage adapter.staging
        (adapter.intentResolver request root) (fun explicit => do
          verifyEventBindings .assumption request explicit
          StagedAssumptionProjectionAdapter.verifyGovernedAdmitBindings [] root predecessorRoot explicit)
        request.claim.proposedSequence
        (DigestText.text (projectionSourceDigest .assumption request)) [items]) = .ok staged ∧
      staged.explicit = explicit ∧ staged.expiry.events = expiry) :
    ∃ plan, (adapter.project request (live .assumption) root []).exec s = (.ok plan, s) ∧
      plan.events = explicit ++ expiry := by
  obtain ⟨snap, taken, -⟩ : ∃ snap : RegistrySnapshot D,
    (snapshot .assumption).exec s = (.ok snap, s) ∧ _ := exec_snapshot lone.valid
  obtain ⟨staged, ran, rfl, rfl⟩ := staging snap.rootDigest
  have common : (projectStaged adapter.staging (adapter.intentResolver request root)
      (fun predecessorRoot explicit => do
        verifyEventBindings .assumption request explicit
        StagedAssumptionProjectionAdapter.verifyGovernedAdmitBindings [] root predecessorRoot explicit)
      request (live .assumption)).exec s = (.ok (planOf request snap.rootDigest staged, staged), s) := by
    unfold projectStaged
    change ((snapshot .assumption : RegistryM D _) >>= _).exec s = _
    rw [exec_bind_ok _ taken]
    change ((reconstructSnapshot .assumption : RegistryM D _) >>= _).exec s = _
    rw [exec_bind_ok _ lone.reconstructs, ran, exec_bind_ok _ (exec_lift _)]
    rfl
  refine ⟨{ planOf request snap.rootDigest staged with evidenceRootDigest := root }, ?_, rfl⟩
  unfold StagedAssumptionProjectionAdapter.project
  rw [context, exec_bind_ok _ (exec_lift _), exec_bind_ok (a := ()) (t := s) _ rfl,
    exec_bind_ok _ common]
  rfl

end Adapter

end CsdFoundry.Projection
