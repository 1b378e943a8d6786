import CsdFoundry.Registry.Governed
import CsdFoundry.Registry.Interference
import CsdFoundry.AlternativeModels.Transition
import CsdFoundry.Assumptions.History

/-! What the two governances have in common with their reducers, and that a governed ADMIT
keeps the registry discipline. -/
namespace CsdFoundry.Registry
open Storage RegistryStore
open Storage.Discipline (After)
variable {D P : Type} [LinearOrder D] [DigestText D] [Sha256 D] {g : Governance D P}
  {s : RegistryStore D} {registryType : RegistryType} {entityId : String}
  {event : RegistryEvent D} {items : List (RegistryEvent D)}

/-- The event is an ADMIT. -/
def Admits (event : RegistryEvent D) : Prop := event.payload.get "operation" = .str "ADMIT"

omit [LinearOrder D] [Sha256 D] in
instance (event : RegistryEvent D) : Decidable (Admits event) :=
  inferInstanceAs (Decidable (_ = _))

/-- What the governed append relies on in the reducer and in the authorization. -/
structure Governance.Lawful (g : Governance D P) : Prop where
  position : ∀ {items state}, g.project items = .ok (some state) → ∃ event,
    items.getLast? = some event ∧ g.currentEntitySequence state = event.entitySequence ∧
      g.currentEventDigest state = event.digest
  second : ∀ {items result}, g.project items = .ok result →
    ∀ event ∈ items, Admits event → event.entitySequence = 2
  operation : ∀ a digest, (g.payload a digest).get "operation" = .str "ADMIT"
  offered : ∀ {request s items state receipt basis},
    g.review request s items state = .ok (receipt, basis) → ∀ offered ∈ g.offeredReceipt,
      offered = receipt
  arguments : ∀ request retry,
    g.arguments { request with retryAuthorization := retry } = g.arguments request

omit [LinearOrder D] in
theorem buildAdmitEvent_ok {a : Authorization D} (built : buildAdmitEvent g a = .ok event) :
    event.registryType = g.registryType ∧ event.entityId = a.entityId ∧
      event.entitySequence = 2 ∧
      event.previousEntityEventDigest = some a.candidatePredecessorEventDigest ∧
      event.payload = g.payload a (authorizationDigest g a) := by
  unfold buildAdmitEvent RegistryEvent.build at built
  split at built
  · cases built
    exact ⟨rfl, rfl, rfl, rfl, rfl⟩
  · cases built

omit [LinearOrder D] in
theorem buildAdmitEvent_rest {a : Authorization D} (built : buildAdmitEvent g a = .ok event) :
    event.clockSequence = a.eventSequence ∧ event.projectionPhase = registryPhase g.registryType ∧
      event.payloadSchemaVersion = g.payloadSchemaVersion ∧
      event.sourceReceiptDigest = g.sourceReceipt a (authorizationDigest g a) := by
  unfold buildAdmitEvent RegistryEvent.build at built
  split at built
  · cases built
    exact ⟨rfl, rfl, rfl, rfl⟩
  · cases built

/-- A state at sequence 1 fixes the head of its history. -/
theorem Governance.Lawful.head (lawful : g.Lawful) (valid : s.Valid)
    (chain : s.Chain g.registryType entityId items) {state : P}
    (projected : g.project items = .ok (some state)) :
    s.lastSequence g.registryType entityId = g.currentEntitySequence state ∧
      s.lastDigest g.registryType entityId = some (g.currentEventDigest state) := by
  obtain ⟨event, last, sequence, digest⟩ := lawful.position projected
  have linked : Linked _ _ _ _ _ items := chain
  cases key : s.lastDigest g.registryType entityId with
  | none =>
      rw [key] at linked
      generalize s.lastSequence g.registryType entityId = n at linked
      cases linked
      simp at last
  | some key' =>
      rw [key] at linked
      generalize count : s.lastSequence g.registryType entityId = n at linked
      cases linked with
      | @next _ item n before found position rest =>
          obtain rfl : item = event := by simpa using last
          have named := valid.named _ _ (eventOf_iff.mp found).1
          exact ⟨position.symm.trans sequence.symm, by rw [digest, named]⟩

theorem quiet_admittedEvent (head : RegistryEntityHead D) : (admittedEvent head).Quiet := by
  unfold admittedEvent
  split
  · refine .bind (quiet_getEvent _) (fun found => ?_)
    cases found <;> exact .pure _
  · exact .pure _

theorem quiet_evidenceRoot : (evidenceRoot g).Quiet := by
  unfold evidenceRoot
  split
  · exact .bind quiet_snapshotUnlocked (fun _ => .pure _)
  · exact .pure _

theorem quiet_computePredictedPostRoot (head : RegistryEntityHead D) :
    (computePredictedPostRoot g entityId head).Quiet :=
  .bind quiet_snapshotUnlocked (fun _ => .pure _)

theorem quiet_handleRetry (request : AdmitRequest D) (retry : Authorization D)
    (head : RegistryEntityHead D) : (handleRetry g request retry head).Quiet := by
  unfold handleRetry
  refine .bind (.require _ _) fun _ => .bind (.require _ _) fun _ => .bind (.require _ _) fun _ =>
    .bind (.require _ _) fun _ => .bind (quiet_getEvent _) fun found => ?_
  cases found with
  | none => exact .throw _
  | some existing =>
      refine .bind (.done _) fun _ => .bind (.require _ _) fun _ => .bind (.require _ _) fun _ =>
        .bind quiet_evidenceRoot fun _ => .bind (.require _ _) fun _ =>
        .bind quiet_snapshotUnlocked fun _ => ?_
      cases existing.previousEntityEventDigest with
      | none => exact .throw _
      | some predecessor =>
          exact .bind (.done _) fun _ => .bind (.require _ _) fun _ =>
            .bind quiet_reconstructEntityUnlocked fun _ => .bind (.done _) fun _ =>
            .bind (.done _) fun _ => .pure _

/-- The commit moves the head to an event that fits the head that was read. -/
theorem holds_commitPrepared {expected : Option (RegistryEntityHead D)} (valid : s.Valid)
    (sequence : event.entitySequence = s.lastSequence event.registryType event.entityId + 1)
    (previous : event.previousEntityEventDigest =
      s.lastDigest event.registryType event.entityId) :
    discipline.Holds true (commitPrepared event expected event.head)
      (After true fun _ _ => True) s := by
  refine .bind valid (holds_readHead valid fun t moves inv => ?_)
  refine .bind inv (.require fun u _ moves' inv' => ?_)
  refine .bind inv' (holds_install inv' fun v moves'' inv'' stored => ?_)
  have free : Free s v := (Free.trans moves moves').trans moves''
  refine .bind inv'' (holds_replaceHead ?_ fun _ w _ _ _ (invW : w.Valid) => ?_)
  · intro w later _
    have still : w.headAt event.registryType event.entityId =
        s.headAt event.registryType event.entityId := headAt_of_heads (free.trans later).heads
    refine ⟨later.grown _ _ stored, ?_, ?_, rfl⟩
    · rw [sequence, lastSequence, lastSequence, still]
    · rw [previous, lastDigest, lastDigest, still]
  · refine .quiet (.bind (.read _ _) fun _ => .bind ?_ fun _ => .require _ _)
    exact quiet_readHead.andThen fun result => by
      cases result
      · exact .throw _
      · exact .done _

/-- The candidate that is found is the proposal at the head of its history. -/
theorem holds_candidate {request : AdmitRequest D}
    {normal : List (RegistryEvent D) × P → RegistryStore D → Prop} (valid : s.Valid)
    (chain : s.Chain g.registryType request.entityId items)
    (met : ∀ state u, g.project items = .ok (some state) → g.currentEntitySequence state = 1 →
      Free s u → u.Valid → normal (items, state) u) :
    discipline.Holds true (candidate g request) (After true normal) s := by
  refine .bind valid (holds_reconstructEntityUnlocked valid chain fun t₁ free inv₁ => ?_)
  refine .bind inv₁ (.require fun t₂ _ moves₂ inv₂ => ?_)
  refine .bind inv₂ (.result fun found t₃ projected moves₃ inv₃ => ?_)
  cases found with
  | none => exact .throw
  | some state =>
      have accepted : g.project items = .ok (some state) := by
        cases result : g.project items with
        | error code => simp [result, Except.mapError] at projected
        | ok other => simpa [result, Except.mapError] using projected
      refine .bind inv₃ (.require fun t₄ first moves₄ inv₄ => ?_)
      refine .bind inv₄ (.require fun t₅ _ moves₅ inv₅ => .pure fun t₆ moves₆ inv₆ => ?_)
      have early : Free s t₃ := (free.trans moves₂).trans moves₃
      have late : Free t₃ t₆ := (Free.trans moves₄ moves₅).trans moves₆
      exact met state t₆ accepted first.2 (early.trans late) inv₆

theorem holds_admitCandidate (lawful : g.Lawful) {request : AdmitRequest D}
    {head : Option (RegistryEntityHead D)} (valid : s.Valid) :
    discipline.Holds true (admitCandidate g request head) (After true fun _ _ => True) s := by
  obtain ⟨items, chain⟩ := valid.chain g.registryType request.entityId
  refine .bind valid (holds_candidate valid chain fun state t₀ projected first free inv₀ => ?_)
  obtain ⟨sequence, digest⟩ := lawful.head valid chain projected
  -- the decisions: nothing is written yet
  refine .seq inv₀ (.quiet_env quiet_snapshotUnlocked (discipline.env_refl true t₀))
    fun snap t₁ inv₁ moves₁ => ?_
  refine .seq inv₁ (.quiet_env quiet_evidenceRoot (discipline.env_refl true t₁))
    fun evidence t₂ inv₂ moves₂ => ?_
  refine .bind inv₂ (.read fun reviewed _ t₃ moves₃ _ _ later₃ inv₃ => ?_)
  refine .bind inv₃ (.result fun _ t₄ _ moves₄ inv₄ => ?_)
  refine .bind inv₄ (.result fun event t₅ built moves₅ inv₅ => ?_)
  refine .bind inv₅ (.result fun projected' t₆ _ moves₆ inv₆ => ?_)
  refine .seq inv₆ (.quiet_env (quiet_computePredictedPostRoot _) (discipline.env_refl true t₆))
    fun postRoot t₇ inv₇ moves₇ => ?_
  refine .bind inv₇ (.require fun t₈ _ moves₈ inv₈ => ?_)
  have early : Free s t₄ :=
    ((free.trans moves₁).trans moves₂).trans ((Free.trans moves₃ later₃).trans moves₄)
  have late : Free t₄ t₈ := (Free.trans moves₅ moves₆).trans (Free.trans moves₇ moves₈)
  obtain ⟨type_, id, second, previous, -⟩ := buildAdmitEvent_ok built
  have still : t₈.headAt g.registryType request.entityId =
      s.headAt g.registryType request.entityId := headAt_of_heads (early.trans late).heads
  refine .seq inv₈ (holds_commitPrepared inv₈ ?_ ?_) fun _ _ _ _ => .pure fun _ _ _ => True.intro
  · rw [type_, id, second, lastSequence, still]
    exact congrArg (· + 1) (first.symm.trans sequence.symm)
  · rw [type_, id, previous, lastDigest, still]
    exact digest.symm

theorem holds_governedLocked (lawful : g.Lawful) {request : AdmitRequest D} (valid : s.Valid) :
    discipline.Holds true (governedLocked g request) (After true fun _ _ => True) s := by
  refine .bind valid (holds_readHead valid fun t _ inv => ?_)
  cases t.headAt g.registryType request.entityId with
  | none => exact holds_admitCandidate lawful inv
  | some head =>
      refine .seq inv (.quiet (quiet_admittedEvent head)) fun admitted u inv' _ => ?_
      cases admitted with
      | none => exact holds_admitCandidate lawful inv'
      | some event =>
          cases request.retryAuthorization with
          | none => exact .throw
          | some retry => exact .quiet (quiet_handleRetry request retry head)

theorem holds_governedAdmit (lawful : g.Lawful) {request : AdmitRequest D} (valid : s.Valid) :
    discipline.Holds false (governedAdmit g request) (After false fun _ _ => True) s := by
  refine .bind valid (.result fun _ _ _ _ _ => .locked fun t _ inv => ?_)
  exact (holds_governedLocked lawful inv).weaken fun _ _ _ _ _ _ _ => True.intro

theorem assumptionGovernance_lawful
    {review : AdmitRequest D → RegistryStore D → List (RegistryEvent D) →
      Assumptions.Assumption D → Except RegistryError (String × Json)}
    {authorize : Authorization D → Except RegistryError Unit} :
    (assumptionGovernance review authorize).Lawful where
  position := by
    intro items state accepted
    exact (Assumptions.project_folds accepted).placed.last
  second := by
    intro items result accepted
    rcases Assumptions.project_some accepted with ⟨rfl, -⟩ | ⟨a, -, folds⟩
    · simp
    · exact folds.placed.second
  operation := fun _ _ => rfl
  offered := fun _ _ offered => nomatch offered
  arguments := fun _ _ => rfl

theorem alternativeModelGovernance_lawful {receipt : StructuralDifferenceReceipt}
    {authorize : Authorization D → Except RegistryError Unit} :
    (alternativeModelGovernance receipt authorize).Lawful where
  position := by
    intro items state accepted
    rcases AlternativeModels.project_placed accepted with ⟨-, none⟩ | ⟨m, same, placed⟩
    · cases none
    · obtain rfl := Option.some.inj same
      exact placed.last
  second := by
    intro items result accepted
    rcases AlternativeModels.project_placed accepted with ⟨rfl, -⟩ | ⟨m, -, placed⟩
    · simp
    · exact placed.second
  operation := fun _ _ => rfl
  offered := by
    intro request s items state digest basis reviewed offered member
    obtain rfl := Option.some.inj member
    change reviewReceipt receipt state = _ at reviewed
    unfold reviewReceipt at reviewed
    split at reviewed
    · cases reviewed
    · split at reviewed
      · cases reviewed
      · split at reviewed
        · cases reviewed
        · cases reviewed
          rfl
  arguments := fun _ _ => rfl

/-- The two implementations, for every ledger, receipt and registry of authorities. -/
inductive Governs : {P : Type} → Governance D P → Prop where
  | assumption (review : AdmitRequest D → RegistryStore D → List (RegistryEvent D) →
        Assumptions.Assumption D → Except RegistryError (String × Json))
      (authorize : Authorization D → Except RegistryError Unit) :
      Governs (assumptionGovernance review authorize)
  | alternativeModel (receipt : StructuralDifferenceReceipt)
      (authorize : Authorization D → Except RegistryError Unit) :
      Governs (alternativeModelGovernance receipt authorize)

theorem Governs.lawful (governs : Governs g) : g.Lawful := by
  cases governs with
  | assumption review authorize => exact assumptionGovernance_lawful
  | alternativeModel receipt authorize => exact alternativeModelGovernance_lawful

end CsdFoundry.Registry
