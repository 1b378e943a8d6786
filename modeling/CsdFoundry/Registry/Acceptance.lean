import CsdFoundry.Registry.Exactness
import CsdFoundry.Results
import Mathlib

/-! The governed ADMIT as a whole: a proposal that the review passes is admitted, once, with
the root that is reported; and what appends from elsewhere can do to that. -/
namespace CsdFoundry.Registry
open Storage RegistryStore Prog
variable {D P : Type} [LinearOrder D] [DigestText D] [Sha256 D] {g : Governance D P}
  {s : RegistryStore D} {request : AdmitRequest D} {proposal : RegistryEvent D} {state : P}
  {items : List (RegistryEvent D)}

/-- What the governed append asks for: a proposal at the head, and an approval of every
authorization for it. -/
structure Approved (g : Governance D P) (request : AdmitRequest D) (s : RegistryStore D)
    (proposal : RegistryEvent D) (state : P) : Prop where
  named : request.entityId ≠ ""
  arguments : g.arguments request = .ok ()
  chain : s.Chain g.registryType request.entityId [proposal]
  projected : g.project [proposal] = .ok (some state)
  proposed : g.proposed state = true
  clock : g.lastClockSequence state < request.eventSequence
  reviewed : ∃ receipt basis, g.review request s [proposal] state = .ok (receipt, basis) ∧
    ∀ a : Authorization D, a.entityId = request.entityId →
      a.candidatePredecessorEventDigest = g.currentEventDigest state →
      a.eventSequence = request.eventSequence →
      a.admittingAuthorityId = request.admittingAuthorityId → a.receiptDigest = receipt →
      g.authorize a = .ok () ∧ ∃ event after, buildAdmitEvent g a = .ok event ∧
        g.reduce (some state) event = .ok after ∧ g.admitted after = true

theorem exec_governedAdmit_approved (lawful : g.Lawful) (valid : s.Valid)
    (approved : Approved g request s proposal state) :
    ∃ result t, (governedAdmit g request).exec s = (.ok result, t) ∧ result.applied = true := by
  obtain ⟨named, arguments, chain, projected, proposed, clock, receipt, basis, reviewed, accepts⟩ :=
    approved
  obtain ⟨sequence, digest⟩ := lawful.head valid chain projected
  have one : s.lastSequence g.registryType request.entityId = 1 := (Linked.length chain).symm
  obtain ⟨head, last⟩ := Option.ne_none_iff_exists'.mp (headAt_of_lastDigest digest)
  have first : head.entitySequence = 1 := by
    simpa [lastSequence, last] using one
  obtain ⟨snap, taken, -, -⟩ : ∃ snap : RegistrySnapshot D,
    (snapshotUnlocked g.registryType).exec s = (.ok snap, s) ∧ _ := exec_snapshotUnlocked valid
  have found : (candidate g request).exec s = (.ok ([proposal], state), s) := by
    have start : g.proposed state = true ∧ g.currentEntitySequence state = 1 :=
      ⟨proposed, sequence.symm.trans one⟩
    unfold candidate
    rw [exec_bind_ok _ (exec_reconstructEntityUnlocked valid named chain),
      exec_bind_ok _ (exec_require_ok (List.cons_ne_nil _ _) _ s), projected,
      exec_bind_ok (a := some state) (t := s) _ rfl]
    simp only
    rw [exec_bind_ok _ (exec_require_ok start _ s), exec_bind_ok _ (exec_require_ok clock _ s),
      exec_pure]
  let authorization : Authorization D := {
    entityId := request.entityId
    candidatePredecessorEventDigest := g.currentEventDigest state
    eventSequence := request.eventSequence
    admittingAuthorityId := request.admittingAuthorityId
    registryRoot := snap.rootDigest
    evidenceRoot := boundEvidence g s
    receiptDigest := receipt
    basis := basis }
  obtain ⟨authorized, event, after, built, reduced, admitted⟩ :=
    accepts authorization rfl rfl rfl rfl rfl
  obtain ⟨type_, id, second, previous, -⟩ := buildAdmitEvent_ok built
  have own : event.head.entityId = request.entityId := id
  have predicted := exec_computePredictedPostRoot valid own (headAt_of_lastDigest digest)
  have commits : (commitPrepared event (s.headAt event.registryType event.entityId)
      event.head).exec s = (.ok (), committed event s) :=
    exec_commitPrepared valid (by rw [type_, show event.entityId = request.entityId from id, second, one])
      (by rw [type_, show event.entityId = request.entityId from id, previous, digest])
  rw [type_, show event.entityId = request.entityId from id, last] at commits
  unfold governedAdmit
  rw [arguments, exec_bind_ok _ (exec_lift _), exec_locked]
  unfold governedLocked
  rw [exec_bind_ok (a := some head) (t := s) _ (by rw [exec_readHead valid named, last])]
  simp only
  rw [exec_bind_ok _ (exec_admittedEvent_other (by omega))]
  simp only
  unfold admitCandidate
  rw [exec_bind_ok _ found]
  simp only
  rw [exec_bind_ok _ taken, exec_bind_ok _ (exec_evidenceRoot valid),
    exec_bind_ok (a := (receipt, basis)) (t := s) _ (by rw [exec_read, reviewed])]
  simp only
  rw [exec_bind_ok (a := ()) (t := s) _ (congrArg (·, s) authorized),
    exec_bind_ok (a := event) (t := s) _ (congrArg (·, s) built),
    exec_bind_ok (a := after) (t := s) _ (by rw [reduced]; rfl), exec_bind_ok _ predicted,
    exec_bind_ok _ (exec_require_ok admitted _ s), exec_bind_ok _ commits, exec_pure]
  exact ⟨_, _, rfl, rfl⟩

/-- The record of an admitted assumption is well formed. -/
theorem advanced_postInit {a : Assumptions.Assumption D} {event : RegistryEvent D}
    {authority : String} (valid : a.postInit = .ok ())
    (token : Temporal.isToken authority = true)
    (sourced : DigestText.isDigest D event.sourceReceiptDigest = true) :
    (Assumptions.advanced a event
      { standing := some .admitted, admittingAuthorityId := some authority }).postInit = .ok () := by
  simp only [Assumptions.Assumption.postInit, except_bind_ok, check_ok] at valid ⊢
  obtain ⟨-, id, -, proposition, done₁, scopes, -, materiality, -, proposer, -, -, done₂, confirming,
    -, proposedAt, -, validFrom, done₃, expiry, done₄, dependencies, done₅, evidence, -, selfFree,
    done₆, limitations, -, reuse, done₇, challenges, -, -, -, receipt, -⟩ := valid
  simp only [Assumptions.Assumption.checkChallenges, except_bind_ok, check_ok] at challenges
  obtain ⟨-, canonical, -, distinct, -⟩ := challenges
  refine ⟨(), id, (), proposition, (), scopes, (), materiality, (), proposer, (), ?_, (), confirming,
    (), proposedAt, (), validFrom, (), expiry, (), dependencies, (), evidence, (), selfFree, (),
    limitations, (), reuse, (), ?_, (), ?_, (), receipt, (), sourced, (), event.positive, event.clock⟩
  · simpa [Assumptions.Assumption.optionalToken, Assumptions.advanced] using token
  · simp only [Assumptions.Assumption.checkChallenges, except_bind_ok, check_ok]
    exact ⟨(), canonical, (), distinct, .inr rfl⟩
  · simp [Assumptions.Assumption.checkSupersession, Assumptions.advanced]

/-- The reducer accepts an ADMIT that fits a proposal. -/
theorem reduceAssumption_admit {a : Assumptions.Assumption D} {event : RegistryEvent D}
    {authority receipt : String} (valid : a.postInit = .ok ()) (proposed : a.standing = .proposed)
    (phase : event.registryType = .assumption ∧ event.projectionPhase = .assumptionRegistry ∧
      event.payloadSchemaVersion = Assumptions.payloadSchemaVersion)
    (identity : event.entityId = a.assumptionId)
    (sequence : event.entitySequence = a.currentEntitySequence + 1)
    (previous : event.previousEntityEventDigest = some a.currentEventDigest)
    (clock : a.lastClockSequence < event.clockSequence)
    (fresh : event.digest ≠ a.currentEventDigest)
    (payload : event.payload = [("admission_receipt_digest", .str receipt),
      ("admitting_authority_id", .str authority), ("operation", .str "ADMIT")])
    (token : Temporal.isToken authority = true) (digest : DigestText.isDigest D receipt = true)
    (sourced : DigestText.isDigest D event.sourceReceiptDigest = true) :
    ∃ after, Assumptions.reduceAssumption (some a) event = .ok after ∧
      after.standing = .admitted := by
  have live : a.terminal = false := by
    simp [Assumptions.Assumption.terminal, proposed, Assumptions.Standing.terminal]
  have operation : requiredToken event.payload "operation" "ASSUMPTION_OPERATION_INVALID" =
      .ok "ADMIT" := by
    rw [payload]
    rfl
  have chained : Assumptions.verifyChain (some a) event = .ok () := by
    simp only [Assumptions.verifyChain, except_bind_ok, check_ok]
    exact ⟨(), identity, (), sequence, (), previous, (), clock, fresh⟩
  have value : Assumptions.eventValue event = .ok () := by
    simp only [Assumptions.eventValue, except_bind_ok, check_ok]
    exact ⟨(), phase.1, (), phase.2.1, phase.2.2⟩
  refine ⟨Assumptions.advanced a event
    { standing := some .admitted, admittingAuthorityId := some authority }, ?_, rfl⟩
  simp only [Assumptions.reduceAssumption, except_bind_ok, check_ok]
  refine ⟨(), value, "ADMIT", operation, (), chained, (), live, ?_⟩
  simp only [Assumptions.operate, Assumptions.admitAssumption, except_bind_ok, check_ok]
  refine ⟨(), proposed, (), ?_, authority, ?_, receipt, ?_, ?_⟩
  · rw [Assumptions.keys, payload]
    rfl
  · rw [payload]
    simp [requiredToken, requireToken, JsonObject.get, List.lookup, token]
  · rw [payload]
    simp [requiredDigest, requireDigest, JsonObject.get, List.lookup, digest]
  · exact Assumptions.create_ok.mpr ⟨advanced_postInit valid token sourced, rfl⟩

/-- An assumption is admitted when it is proposed and the ledger approves. -/
theorem approved_assumption {a : Assumptions.Assumption D} {receipt : String} {basis : Json}
    {review : AdmitRequest D → RegistryStore D → List (RegistryEvent D) →
      Assumptions.Assumption D → Except RegistryError (String × Json)}
    {authorize : Authorization D → Except RegistryError Unit}
    (chain : s.Chain .assumption request.entityId [proposal])
    (projected : (assumptionGovernance review authorize).project [proposal] = .ok (some a))
    (proposed : a.standing = .proposed) (clock : a.lastClockSequence < request.eventSequence)
    (token : Temporal.isToken request.admittingAuthorityId = true)
    (sourced : DigestText.isDigest D receipt = true)
    (reviewed : review request s [proposal] a = .ok (receipt, basis))
    (authorizes : ∀ authorization, authorize authorization = .ok ()) :
    Approved (assumptionGovernance review authorize) request s proposal a := by
  have folds := Assumptions.project_folds projected
  obtain ⟨event, last, sequence, digest⟩ := folds.placed.last
  obtain rfl : proposal = event := by simpa using last
  have id : proposal.entityId = request.entityId := (chain.entity (by simp)).2
  have identity : proposal.entityId = a.assumptionId := folds.ordered.entity proposal (by simp)
  have first : a.currentEntitySequence = 1 := by
    have counted := congrArg List.length folds.ordered.sequences
    simpa using counted.symm
  refine ⟨id ▸ named_of_token proposal.token, rfl, chain, projected, decide_eq_true proposed, clock,
    receipt, basis, reviewed, ?_⟩
  intro authorization entity predecessor eventSequence authority signed
  refine ⟨authorizes _, ?_⟩
  have valid : Temporal.schemaToken authorization.entityId = true ∧ 0 < 2 ∧
      0 < authorization.eventSequence ∧ schemaDigest D authorization.receiptDigest = true ∧
      Temporal.schemaToken Assumptions.payloadSchemaVersion = true := by
    refine ⟨entity ▸ id ▸ proposal.token, by decide, by omega, ?_, by decide⟩
    rw [signed, schemaDigest, sourced, Bool.true_or]
  obtain ⟨event, built⟩ : ∃ event,
      buildAdmitEvent (assumptionGovernance review authorize) authorization = .ok event :=
    ⟨_, dif_pos valid⟩
  obtain ⟨type_, named, second, previous, payload⟩ := buildAdmitEvent_ok built
  obtain ⟨later, phase, version, source⟩ := buildAdmitEvent_rest built
  have fresh : event.digest ≠ a.currentEventDigest := by
    rw [digest]
    intro same
    have place := congrArg RegistryEvent.entitySequence (RegistryEvent.digest_inj same)
    omega
  obtain ⟨after, reduced, admitted⟩ := reduceAssumption_admit folds.valid proposed
    ⟨type_, phase, version⟩ (named.trans (entity.trans (id.symm.trans identity)))
    (by rw [second, first]) (previous.trans (congrArg some predecessor))
    (by rw [later, eventSequence]; exact clock) fresh payload (by rw [authority]; exact token)
    (DigestText.isDigest_text _) (by rw [source]; exact (congrArg (DigestText.isDigest D) signed).trans sourced)
  exact ⟨event, after, built, reduced, decide_eq_true admitted⟩

omit [LinearOrder D] in
/-- A history that the reducer accepts has one ADMIT at most. -/
theorem admits_once (lawful : g.Lawful) {n : Nat}
    (sequences : items.map (·.entitySequence) = List.range' 1 n)
    (accepted : g.project items = .ok projected) :
    (items.filter (fun event => decide (Admits event))).length ≤ 1 := by
  have places : ∀ place ∈ (items.filter (fun event => decide (Admits event))).map
      (·.entitySequence), place = 2 := by
    simp only [List.mem_map, List.mem_filter, decide_eq_true_eq]
    rintro place ⟨event, ⟨member, admits⟩, rfl⟩
    exact lawful.second accepted event member admits
  have distinct : (items.map (·.entitySequence)).Nodup := sequences ▸ List.nodup_range'
  have once : ((items.filter (fun event => decide (Admits event))).map
      (·.entitySequence)).Nodup :=
    distinct.sublist (List.filter_sublist.map RegistryEvent.entitySequence)
  rw [List.eq_replicate_of_mem places, List.nodup_replicate, List.length_map] at once
  exact once

/-- What a governed ADMIT promises, from any store that the pool reaches. -/
theorem governed_exact {ι : Type} [DecidableEq ι] {c : RegistryPool ι D}
    (run : Pool.Reaches Call (.idle .initial) c) (governs : Governs g) (request : AdmitRequest D) :
    (∀ e t, (governedAdmit g request).exec c.store = (.error e, t) → t = c.store) ∧
    (∀ result t, (governedAdmit g request).exec c.store = (.ok result, t) →
      (∃ snap, (snapshot g.registryType).exec t = (.ok snap, t) ∧
        snap.rootDigest = result.registryRoot) ∧
      (result.applied = false → t = c.store) ∧
      (result.applied = true →
        t.headAt g.registryType request.entityId = some result.head ∧
        c.store.headAt g.registryType request.entityId ≠ some result.head ∧
        (∀ registryType entityId,
          ¬(registryType = g.registryType ∧ entityId = request.entityId) →
          t.headAt registryType entityId = c.store.headAt registryType entityId) ∧
        (∃ proposal, (reconstructEntity g.registryType request.entityId).exec c.store =
            (.ok [proposal], c.store) ∧
          (reconstructEntity g.registryType request.entityId).exec t =
            (.ok [proposal, result.event], t) ∧
          Admits result.event ∧ result.event.entitySequence = 2) ∧
        ∀ c₁ c₂ : RegistryPool ι D, Pool.Reaches Call (.idle .initial) c₁ → c₁.store = t →
          Pool.Reaches Call c₁ c₂ →
          (∀ (P' : Type) (g' : Governance D P'), Governs g' → g'.registryType = g.registryType →
            ∀ request', request'.entityId = request.entityId → ∀ result' u,
            (governedAdmit g' request').exec c₂.store = (.ok result', u) →
            result'.applied = false) ∧
          ((governedAdmit g (Applied.retry request result)).exec c₂.store).2 = c₂.store ∧
          ((∃ r, ((governedAdmit g (Applied.retry request result)).exec c₂.store).1 = .ok r) ↔
            c₂.store.headAt g.registryType request.entityId = some result.head ∧
            (∀ entityId ≠ request.entityId, c₂.store.headAt g.registryType entityId =
              t.headAt g.registryType entityId) ∧
            boundEvidence g c₂.store = result.authorization.evidenceRoot))) ∧
    ∀ entityId items projected,
      (reconstructEntity g.registryType entityId).exec c.store = (.ok items, c.store) →
      g.project items = .ok projected →
      (items.filter (fun event => decide (Admits event))).length ≤ 1 := by
  have valid : c.store.Valid := (run_sound run).valid
  have lawful := governs.lawful
  have decides : (governedAdmit g request).Decides c.store _ := decides_governedAdmit lawful valid
  refine ⟨fun e t failed => decides.error failed, ?_, ?_⟩
  · intro result t ran
    rcases decides.ok ran with ⟨repeated, rfl⟩ | ⟨applied, rfl⟩
    · refine ⟨?_, fun _ => rfl, fun again => ?_⟩
      · obtain ⟨snap, taken, -, root⟩ : ∃ snap : RegistrySnapshot D,
          (snapshot g.registryType).exec c.store = (.ok snap, c.store) ∧ _ ∧
            snap.rootDigest = c.store.root g.registryType := exec_snapshot valid
        exact ⟨snap, taken, root.trans repeated.registryRoot.symm⟩
      · rw [repeated.applied] at again
        cases again
    · have valid' := applied.valid valid
      have named : request.entityId ≠ "" := by
        rw [← applied.event_entity.2.1]
        exact named_of_token result.event.token
      obtain ⟨proposal, state, chain, -⟩ := applied.proposal
      have chain' : (committed result.event c.store).Chain _ _ ([proposal] ++ [result.event]) :=
        applied.chain valid chain
      refine ⟨?_, fun again => ?_, fun _ => ⟨applied.here, ?_, fun _ _ => applied.others,
        ⟨proposal, exec_reconstructEntity valid named chain,
          exec_reconstructEntity valid' named chain', applied.admits lawful,
          applied.event_entity.2.2.1⟩, ?_⟩⟩
      · obtain ⟨snap, taken, -, root⟩ : ∃ snap : RegistrySnapshot D,
          (snapshot g.registryType).exec (committed result.event c.store) =
            (.ok snap, committed result.event c.store) ∧ _ ∧
            snap.rootDigest = (committed result.event c.store).root g.registryType :=
          exec_snapshot valid'
        exact ⟨snap, taken, root.trans (applied.root valid)⟩
      · rw [applied.applied] at again
        cases again
      · intro same
        have one := applied.position.1
        simp only [lastSequence, same, Option.map_some, Option.getD_some, applied.head] at one
        exact absurd (one.symm.trans applied.event_entity.2.2.1) (by decide)
      · intro c₁ c₂ run₁ here later
        have moved := run_later run₁ later
        have valid₂ : c₂.store.Valid := (run_sound (run₁.trans later)).valid
        rw [here] at moved
        have accepted : g.arguments request = .ok () := by
          obtain ⟨_, t, passed, -⟩ := exec_bind_ok_iff.mp ran
          exact (Prod.mk.inj passed).1
        refine ⟨?_, ?_⟩
        · intro P' g' governs' sameType request' sameId result' u ran'
          rcases (decides_governedAdmit governs'.lawful valid₂).ok ran' with ⟨again, -⟩ | ⟨again, -⟩
          · exact again.applied
          · exact absurd again (applied.once valid moved sameType sameId)
        · obtain ⟨still, succeeds⟩ := applied.retry_exact lawful valid accepted named valid₂ moved
          refine ⟨still, succeeds.trans ?_⟩
          have others : ∀ entityId ≠ request.entityId,
              (committed result.event c.store).headAt g.registryType entityId =
                c.store.headAt g.registryType entityId :=
            fun entityId different => applied.others fun same => different same.2
          constructor
          · rintro ⟨head, unmoved, evidence⟩
            exact ⟨head, fun id different => (unmoved id different).trans (others id different).symm,
              evidence⟩
          · rintro ⟨head, unmoved, evidence⟩
            exact ⟨head, fun id different => (unmoved id different).trans (others id different),
              evidence⟩
  · intro entityId items projected rebuilt accepted
    obtain ⟨items', chain⟩ := valid.chain g.registryType entityId
    by_cases named : entityId = ""
    · subst named
      cases rebuilt
    · rw [exec_reconstructEntity valid named chain] at rebuilt
      cases rebuilt
      exact admits_once lawful (Linked.sequences chain) accepted

/-- An event that fits the head of its entity is appended. -/
theorem exec_append_next (valid : s.Valid) {event : RegistryEvent D}
    (accepted : verifyEvent event = .ok ())
    (sequence : event.entitySequence = s.lastSequence event.registryType event.entityId + 1)
    (previous : event.previousEntityEventDigest = s.lastDigest event.registryType event.entityId)
    (fresh : ∀ head, s.headAt event.registryType event.entityId = some head →
      head.eventDigest ≠ event.digest) :
    (append event).exec s = (.ok ⟨event, event.head, true, "APPENDED"⟩, committed event s) := by
  have filing : Free s (s.filed event) ∧ (s.filed event).Valid := valid.filed_free
  have still : (s.filed event).headAt event.registryType event.entityId =
      s.headAt event.registryType event.entityId := headAt_of_heads filing.1.heads
  unfold append
  rw [exec_bind_ok (a := ()) (t := s) _ (by rw [accepted]; rfl), exec_bind_ok _ (exec_install valid),
    exec_locked, exec_appendLocked filing.2, still]
  cases last : s.headAt event.registryType event.entityId with
  | none =>
      have first : event.entitySequence = 1 := by simpa [lastSequence, last] using sequence
      have genesis : event.previousEntityEventDigest = none := by
        simpa [lastDigest, last] using previous
      simp only
      rw [exec_advance, if_pos first, if_pos genesis]
      rfl
  | some head =>
      have next : event.entitySequence = head.entitySequence + 1 := by
        simpa [lastSequence, last] using sequence
      have cites : event.previousEntityEventDigest = some head.eventDigest := by
        simpa [lastDigest, last] using previous
      simp only
      rw [if_neg (fresh head last), exec_advance, if_pos next, if_pos cites]
      rfl

/-- An event that is appended after the ADMIT leaves it without an exact retry. -/
theorem Applied.overtaken {result : GovernedAdmitResult D P} (lawful : g.Lawful) (valid : s.Valid)
    (applied : Applied g request s result) (accepted : g.arguments request = .ok ())
    (named : request.entityId ≠ "") {event : RegistryEvent D} (verified : verifyEvent event = .ok ())
    (entity : event.registryType = g.registryType ∧ event.entityId = request.entityId)
    (third : event.entitySequence = 3)
    (cites : event.previousEntityEventDigest = some result.head.eventDigest) :
    (append event).exec (committed result.event s) = (.ok ⟨event, event.head, true, "APPENDED"⟩,
      committed event (committed result.event s)) ∧
    (∃ proposal, (committed event (committed result.event s)).Chain g.registryType request.entityId
      [proposal, result.event, event] ∧ ¬ Admits proposal) ∧
    ∀ r, ((governedAdmit g (Applied.retry request result)).exec
      (committed event (committed result.event s))).1 ≠ .ok r := by
  have valid' := applied.valid valid
  have here := applied.here
  obtain ⟨type_, id⟩ := entity
  have sequence : event.entitySequence = (committed result.event s).lastSequence
      event.registryType event.entityId + 1 := by
    rw [type_, id, lastSequence, here, third, applied.head]
    exact congrArg (· + 1) applied.event_entity.2.2.1.symm
  have previous : event.previousEntityEventDigest = (committed result.event s).lastDigest
      event.registryType event.entityId := by
    rw [type_, id, lastDigest, here, cites]
    rfl
  have fresh : ∀ head, (committed result.event s).headAt event.registryType event.entityId =
      some head → head.eventDigest ≠ event.digest := by
    intro head last same
    rw [type_, id, here] at last
    obtain rfl := Option.some.inj last
    rw [applied.head] at same
    have place := congrArg RegistryEvent.entitySequence (RegistryEvent.digest_inj same)
    have second := applied.event_entity.2.2.1
    omega
  obtain ⟨proposal, state, chain, projected, -⟩ := applied.proposal
  obtain ⟨free, inv, appends⟩ := committed_appends valid' sequence previous
  have longer : (committed event (committed result.event s)).Chain g.registryType request.entityId
      (([proposal] ++ [result.event]) ++ [event]) := by
    have chain' := applied.chain valid chain
    rw [← type_, ← id] at chain' ⊢
    exact committed_chain valid' sequence previous chain'
  have plain : ¬ Admits proposal := by
    intro admits
    have second := lawful.second projected proposal (by simp) admits
    have first := Linked.sequences chain
    rw [applied.position.1] at first
    have place : proposal.entitySequence = 1 := by simpa using first
    omega
  refine ⟨exec_append_next valid' verified sequence previous fresh, ⟨proposal, longer, plain⟩, ?_⟩
  intro r returned
  have later : discipline.held (committed result.event s)
      (committed event (committed result.event s)) :=
    (discipline.held_of_free free).tail ⟨.refl _, .inr ⟨event, appends⟩⟩
  obtain ⟨-, succeeds⟩ :=
    applied.retry_exact lawful valid accepted named (appends.valid inv) later
  obtain ⟨last, -⟩ := succeeds.mp ⟨r, returned⟩
  have moved : (committed event (committed result.event s)).headAt g.registryType
      request.entityId = some event.head := by
    rw [← type_, ← id]
    exact headAt_replaceHead_self event.head
  rw [moved] at last
  have place := congrArg RegistryEntityHead.entitySequence (Option.some.inj last)
  rw [applied.head] at place
  have second := applied.event_entity.2.2.1
  change event.entitySequence = result.event.entitySequence at place
  omega

/-! An assumption that is proposed, admitted under the lock, and then appended to. -/
section Sample
open Assumptions (Assumption)

def sampleGovernance : Governance (List Nat) (Assumption (List Nat)) :=
  assumptionGovernance (fun _ _ _ _ => .ok ("sha256:receipt", .null)) fun _ => .ok ()

theorem sampleGovernance_governs : Governs sampleGovernance := .assumption _ _

def sampleRequest : AdmitRequest (List Nat) := ⟨"a", "admitting", 2, none⟩

def sampleProposed : RegistryEvent (List Nat) :=
  Assumptions.sampleEvent 0 none (Assumptions.sampleProposal [])

/-- The store that holds the proposal. -/
def sampleStore : RegistryStore (List Nat) := Prog.history (sampleAppends.take 1) .initial

theorem sampleStore_reached : Pool.Reaches Call (.idle .initial : RegistryPool Unit (List Nat))
    (.idle sampleStore) :=
  Pool.history_reaches () (fun call member => sampleAppends_calls call (List.mem_of_mem_take member))
    .initial

theorem sampleStore_valid : sampleStore.Valid := (run_sound sampleStore_reached).valid

set_option maxRecDepth 100000 in
theorem sampleStore_chain : sampleStore.Chain .assumption "a" [sampleProposed] := by
  obtain ⟨items, chain⟩ := sampleStore_valid.chain .assumption "a"
  have rebuilt : (reconstructEntity .assumption "a").exec sampleStore = (.ok items, sampleStore) :=
    exec_reconstructEntity sampleStore_valid (by decide) chain
  have computed : (match ((reconstructEntity .assumption "a").exec sampleStore).1 with
    | .ok items => decide (items = [sampleProposed])
    | .error _ => false) = true := by decide +kernel
  rw [rebuilt] at computed
  rwa [of_decide_eq_true computed] at chain

set_option maxRecDepth 100000 in
theorem sampleProposed_projected : ∃ a : Assumption (List Nat),
    sampleGovernance.project [sampleProposed] = .ok (some a) ∧ a.standing = .proposed ∧
      a.assumptionId = "a" ∧ a.lastClockSequence = 1 := by
  have computed : (sampleGovernance.project [sampleProposed]).toOption.join.map (fun a =>
      decide (a.standing = .proposed ∧ a.assumptionId = "a" ∧ a.lastClockSequence = 1)) =
      some true := by decide +kernel
  obtain ⟨a, projected, passes⟩ := Results.ok_some_of_join computed
  exact ⟨a, projected, of_decide_eq_true passes⟩

theorem sample_approved : ∃ a, Approved sampleGovernance sampleRequest sampleStore sampleProposed a := by
  obtain ⟨a, projected, proposed, -, clock⟩ := sampleProposed_projected
  exact ⟨a, approved_assumption sampleStore_chain projected proposed (by rw [clock]; decide)
    (by decide) (by decide) rfl fun _ => rfl⟩

/-- The governed ADMIT of the proposal. -/
theorem sample_admitted : ∃ result, result.applied = true ∧
    Applied sampleGovernance sampleRequest sampleStore result ∧
    (governedAdmit sampleGovernance sampleRequest).exec sampleStore =
      (.ok result, committed result.event sampleStore) := by
  obtain ⟨a, approved⟩ := sample_approved
  obtain ⟨result, t, ran, applied⟩ :=
    exec_governedAdmit_approved sampleGovernance_governs.lawful sampleStore_valid approved
  rcases (decides_governedAdmit sampleGovernance_governs.lawful sampleStore_valid).ok ran with
    ⟨repeated, -⟩ | ⟨made, rfl⟩
  · rw [repeated.applied] at applied
    cases applied
  · exact ⟨result, applied, made, ran⟩

theorem governed_exact_sample : ∃ result t,
    (governedAdmit sampleGovernance sampleRequest).exec sampleStore = (.ok result, t) ∧
    result.applied = true ∧ ∃ proposal,
      (reconstructEntity .assumption "a").exec t = (.ok [proposal, result.event], t) := by
  obtain ⟨result, applied, -, ran⟩ := sample_admitted
  obtain ⟨-, succeeds, -⟩ :=
    governed_exact sampleStore_reached sampleGovernance_governs sampleRequest
  obtain ⟨-, -, promised⟩ := succeeds result _ ran
  obtain ⟨-, -, -, ⟨proposal, -, after, -⟩, -⟩ := promised applied
  exact ⟨result, _, ran, applied, proposal, after⟩

/-- A second ADMIT, appended past the governance. -/
def sampleSecond (first : List Nat) : RegistryEvent (List Nat) :=
  Assumptions.sampleEvent 2 (some first)
    [("admission_receipt_digest", .str "sha256:admission"),
      ("admitting_authority_id", .str "admitting"), ("operation", .str "ADMIT")]

/-- A raw append gives the entity a second ADMIT; and the retry of the first then fails,
although every other head and the evidence root are as they were. -/
theorem admission_not_exact : ∃ (s t u : RegistryStore (List Nat))
    (result : GovernedAdmitResult (List Nat) (Assumption (List Nat))),
    Pool.Reaches Call (.idle .initial : RegistryPool Unit (List Nat)) (.idle s) ∧
    (governedAdmit sampleGovernance sampleRequest).exec s = (.ok result, t) ∧
    result.applied = true ∧
    Pool.Reaches Call (.idle t : RegistryPool Unit (List Nat)) (.idle u) ∧
    (∃ items, (reconstructEntity .assumption "a").exec u = (.ok items, u) ∧
      (items.filter (fun event => decide (Admits event))).length = 2) ∧
    (∀ entityId ≠ "a", u.headAt .assumption entityId = t.headAt .assumption entityId) ∧
    boundEvidence sampleGovernance u = result.authorization.evidenceRoot ∧
    ∀ r, ((governedAdmit sampleGovernance (Applied.retry sampleRequest result)).exec u).1 ≠ .ok r := by
  obtain ⟨result, applied, made, ran⟩ := sample_admitted
  have valid := made.valid sampleStore_valid
  have moved : Pool.Reaches Call (.idle sampleStore : RegistryPool Unit (List Nat))
      (.idle (committed result.event sampleStore)) := by
    have run := Discipline.exec_reaches (fun _ call s valid => call.holds s valid) ()
      (Call.admitGoverned sampleGovernance_governs sampleRequest) sampleStore_valid
    rwa [exec_map, ran] at run
  have valid : (committed result.event sampleStore).Valid :=
    (run_sound (sampleStore_reached.trans moved)).valid
  generalize last : sampleSecond result.head.eventDigest = event
  have verified : verifyEvent event = .ok () := last ▸ rfl
  have entity : event.registryType = .assumption ∧ event.entityId = "a" := last ▸ ⟨rfl, rfl⟩
  have cites : event.previousEntityEventDigest = some result.head.eventDigest := last ▸ rfl
  have second : Admits event := last ▸ rfl
  obtain ⟨appended, ⟨proposal, chain, plain⟩, fails⟩ := made.overtaken
    sampleGovernance_governs.lawful sampleStore_valid rfl (by decide) verified entity (last ▸ rfl) cites
  have appends : Pool.Reaches Call
      (.idle (committed result.event sampleStore) : RegistryPool Unit (List Nat))
      (.idle (committed event (committed result.event sampleStore))) := by
    have run := Discipline.exec_reaches (fun _ call s valid => call.holds s valid) ()
      (Call.append event) valid
    rwa [exec_map, appended] at run
  have valid' := (run_sound ((sampleStore_reached.trans moved).trans appends)).valid
  have others : ∀ registryType entityId, ¬(registryType = .assumption ∧ entityId = "a") →
      (committed event (committed result.event sampleStore)).headAt registryType entityId =
        (committed result.event sampleStore).headAt registryType entityId := by
    intro registryType entityId other
    rw [← entity.1, ← entity.2] at other
    exact committed_other other
  refine ⟨sampleStore, _, _, result, sampleStore_reached, ran, applied, appends,
    ⟨_, exec_reconstructEntity valid' (by decide) chain, ?_⟩, ?_, ?_, fails⟩
  · simp [plain, made.admits sampleGovernance_governs.lawful, second]
  · exact fun entityId other => others .assumption entityId fun same => other same.2
  · rw [made.evidence]
    have unmoved : (committed event (committed result.event sampleStore)).typeHeads .evidenceUnit =
        sampleStore.typeHeads .evidenceUnit := by
      refine valid'.typeHeads_congr sampleStore_valid fun entityId => ?_
      have later := others .evidenceUnit entityId (fun same => nomatch same.1)
      have first : (committed result.event sampleStore).headAt .evidenceUnit entityId =
        sampleStore.headAt .evidenceUnit entityId := made.others (fun same => nomatch same.1)
      exact later.trans first
    exact congrArg (fun heads => some (snapshotRoot .evidenceUnit heads)) unmoved

end Sample
end CsdFoundry.Registry
