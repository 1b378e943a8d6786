import CsdFoundry.Registry.Governance
import CsdFoundry.Registry.Snapshot

/-! What a governed ADMIT does to a valid registry store when it runs under the lock: it
commits one event and knows the root that results, or it writes nothing. -/
namespace CsdFoundry.Registry
open Storage RegistryStore Prog
variable {D P : Type} [LinearOrder D] [DigestText D] [Sha256 D] {g : Governance D P}
  {s t u : RegistryStore D} {registryType : RegistryType} {entityId : String}
  {event : RegistryEvent D} {items : List (RegistryEvent D)} {request : AdmitRequest D}
  {head : RegistryEntityHead D} {heads : List (RegistryEntityHead D)}

namespace RegistryStore

/-- The root of a registry. -/
def root (registryType : RegistryType) (s : RegistryStore D) : D :=
  snapshotRoot registryType (s.typeHeads registryType)

end RegistryStore

omit [LinearOrder D] [DigestText D] in
/-- Roots bind the heads. -/
theorem snapshotRoot_inj {other : List (RegistryEntityHead D)}
    (typed : ∀ head ∈ heads, head.registryType = registryType)
    (typed' : ∀ head ∈ other, head.registryType = registryType)
    (same : (snapshotRoot registryType heads : D) = snapshotRoot registryType other) :
    heads = other := by
  obtain ⟨-, fields⟩ := Sha256.collision_free same
  simp only [List.cons.injEq, Field.heads.injEq, and_true, true_and] at fields
  clear same
  induction heads generalizing other with
  | nil => cases other with
    | nil => rfl
    | cons first rest => simp at fields
  | cons head heads ih => cases other with
    | nil => simp at fields
    | cons first rest =>
        simp only [List.map_cons, List.cons.injEq, Prod.mk.injEq] at fields
        obtain ⟨⟨ids, sequences, digests⟩, fields⟩ := fields
        have types := (typed head (by simp)).trans (typed' first (by simp)).symm
        have equal : head = first := RegistryEntityHead.ext types ids sequences digests
        rw [equal, ih (fun h member => typed h (by simp [member]))
          (fun h member => typed' h (by simp [member])) fields]

/-- The heads with that of one entity exchanged. -/
def exchanged (head : RegistryEntityHead D) (heads : List (RegistryEntityHead D)) :
    List (RegistryEntityHead D) :=
  byEntity (heads.map (fun other => if other.entityId = head.entityId then head else other))

omit [LinearOrder D] [DigestText D] [Sha256 D] in
theorem mem_exchanged (known : ∃ other ∈ heads, other.entityId = head.entityId)
    {h : RegistryEntityHead D} : h ∈ exchanged head heads ↔
      h = head ∨ (h ∈ heads ∧ h.entityId ≠ head.entityId) := by
  simp only [exchanged, mem_byEntity, List.mem_map]
  constructor
  · rintro ⟨other, member, rfl⟩
    split
    · exact .inl rfl
    · exact .inr ⟨member, ‹_›⟩
  · rintro (rfl | ⟨member, different⟩)
    · obtain ⟨other, member, same⟩ := known
      exact ⟨other, member, if_pos same⟩
    · exact ⟨h, member, if_neg different⟩

omit [LinearOrder D] [DigestText D] [Sha256 D] in
theorem exchanged_ascending (ascending : Ascending heads) : Ascending (exchanged head heads) := by
  apply byEntity_ascending
  have ids : (heads.map (fun other => if other.entityId = head.entityId then head else other)).map
      (·.entityId) = heads.map (·.entityId) := by
    rw [List.map_map]
    apply List.map_congr_left
    intro other _
    simp only [Function.comp_apply]
    split
    · exact Eq.symm ‹_›
    · rfl
  rw [ids, List.Nodup, List.pairwise_map]
  exact ascending.imp (fun below => below.ne)

/-- Where the head of one entity has moved, the others are as they were. -/
theorem typeHeads_exchanged (valid : s.Valid) (valid' : t.Valid)
    (known : s.headAt head.registryType head.entityId ≠ none)
    (here : t.headAt head.registryType head.entityId = some head)
    (others : ∀ entityId ≠ head.entityId,
      t.headAt head.registryType entityId = s.headAt head.registryType entityId) :
    t.typeHeads head.registryType = exchanged head (s.typeHeads head.registryType) := by
  apply valid'.typeHeads_ascending.eq_of_mem_iff (exchanged_ascending valid.typeHeads_ascending)
  obtain ⟨old, last⟩ := Option.ne_none_iff_exists'.mp known
  obtain ⟨type_, id, -⟩ := valid.headAt_iff.mp last
  have present : ∃ other ∈ s.typeHeads head.registryType, other.entityId = head.entityId :=
    ⟨old, valid.mem_typeHeads.mpr ⟨type_, by rw [id]; exact last⟩, id⟩
  intro h
  rw [mem_exchanged present, valid'.mem_typeHeads, valid.mem_typeHeads]
  by_cases own : h.entityId = head.entityId
  · constructor
    · rintro ⟨-, found⟩
      rw [own, here] at found
      exact .inl (Option.some.inj found).symm
    · rintro (rfl | ⟨-, other⟩)
      · exact ⟨rfl, here⟩
      · exact absurd own other
  · rw [others h.entityId own]
    constructor
    · exact fun found => .inr ⟨found, own⟩
    · rintro (rfl | ⟨found, -⟩)
      · exact absurd rfl own
      · exact found

/-- The other entities have the same heads if and only if exchanging the head of one
entity gives the heads of the other store. -/
theorem exchanged_iff (valid : s.Valid) (valid' : t.Valid)
    (here : s.headAt head.registryType head.entityId = some head)
    (known : t.headAt head.registryType head.entityId ≠ none) :
    exchanged head (t.typeHeads head.registryType) = s.typeHeads head.registryType ↔
      ∀ entityId ≠ head.entityId,
        t.headAt head.registryType entityId = s.headAt head.registryType entityId := by
  obtain ⟨old, last⟩ := Option.ne_none_iff_exists'.mp known
  obtain ⟨type_, id, -⟩ := valid'.headAt_iff.mp last
  have present : ∃ other ∈ t.typeHeads head.registryType, other.entityId = head.entityId :=
    ⟨old, valid'.mem_typeHeads.mpr ⟨type_, by rw [id]; exact last⟩, id⟩
  constructor
  · intro same entityId different
    apply Option.ext
    intro h
    have member : ∀ {r : RegistryStore D}, r.Valid →
        (r.headAt head.registryType entityId = some h ↔
          h ∈ r.typeHeads head.registryType ∧ h.entityId = entityId) := by
      intro r validR
      rw [validR.mem_typeHeads]
      constructor
      · intro found
        obtain ⟨type_, id, -⟩ := validR.headAt_iff.mp found
        exact ⟨⟨type_, id.symm ▸ found⟩, id⟩
      · rintro ⟨⟨-, found⟩, rfl⟩
        exact found
    rw [member valid', member valid, ← same, mem_exchanged present]
    constructor
    · rintro ⟨listed, rfl⟩
      exact ⟨.inr ⟨listed, different⟩, rfl⟩
    · rintro ⟨rfl | ⟨listed, -⟩, rfl⟩
      · exact absurd rfl different
      · exact ⟨listed, rfl⟩
  · exact fun same => (typeHeads_exchanged valid' valid known here
      (fun entityId different => (same entityId different).symm)).symm

/-- The evidence root that an authorization binds. -/
def boundEvidence (g : Governance D P) (s : RegistryStore D) : Option D :=
  if g.bindsEvidence = true then some (s.root .evidenceUnit) else none

theorem exec_evidenceRoot (valid : s.Valid) :
    (evidenceRoot g).exec s = (.ok (boundEvidence g s), s) := by
  unfold evidenceRoot boundEvidence
  split
  · obtain ⟨snap, taken, -, root⟩ : ∃ snap : RegistrySnapshot D,
        (snapshotUnlocked .evidenceUnit).exec s = (.ok snap, s) ∧ _ ∧
          snap.rootDigest = s.root .evidenceUnit := exec_snapshotUnlocked valid
    rw [exec_bind_ok _ taken, root, exec_pure]
  · rfl

theorem exec_computePredictedPostRoot (valid : s.Valid) (own : head.entityId = entityId)
    (known : s.headAt g.registryType entityId ≠ none) :
    (computePredictedPostRoot g entityId head).exec s =
      (.ok (snapshotRoot g.registryType (exchanged head (s.typeHeads g.registryType))), s) := by
  subst own
  obtain ⟨snap, taken, listed, -⟩ : ∃ snap : RegistrySnapshot D,
      (snapshotUnlocked g.registryType).exec s = (.ok snap, s) ∧
        snap.heads = s.typeHeads g.registryType ∧ _ := exec_snapshotUnlocked valid
  obtain ⟨old, last⟩ := Option.ne_none_iff_exists'.mp known
  obtain ⟨type_, id, -⟩ := valid.headAt_iff.mp last
  have member : old ∈ s.typeHeads g.registryType :=
    valid.mem_typeHeads.mpr ⟨type_, by rw [id]; exact last⟩
  have present : (s.typeHeads g.registryType).any
      (fun other => other.entityId = head.entityId) = true :=
    List.any_eq_true.mpr ⟨old, member, by simpa using id⟩
  unfold computePredictedPostRoot
  rw [exec_bind_ok _ taken, exec_pure, listed, replaceIn, if_pos present]
  rfl

/-- What an applied governed ADMIT has found and made. -/
structure Applied (g : Governance D P) (request : AdmitRequest D) (s : RegistryStore D)
    (result : GovernedAdmitResult D P) : Prop where
  applied : result.applied = true
  head : result.head = result.event.head
  built : buildAdmitEvent g result.authorization = .ok result.event
  proposal : ∃ proposal state, s.Chain g.registryType request.entityId [proposal] ∧
    g.project [proposal] = .ok (some state) ∧
    g.reduce (some state) result.event = .ok result.projected
  position : s.lastSequence g.registryType request.entityId = 1 ∧
    s.lastDigest g.registryType request.entityId =
      some result.authorization.candidatePredecessorEventDigest
  entity : result.authorization.entityId = request.entityId
  authority : result.authorization.admittingAuthorityId = request.admittingAuthorityId
  clock : result.authorization.eventSequence = request.eventSequence
  offered : ∀ offered ∈ g.offeredReceipt, offered = result.authorization.receiptDigest
  registryRoot : result.authorization.registryRoot = s.root g.registryType
  evidence : result.authorization.evidenceRoot = boundEvidence g s
  postRoot : result.registryRoot = snapshotRoot g.registryType
    (exchanged result.event.head (s.typeHeads g.registryType))

/-- The store after the commit. -/
def committed (event : RegistryEvent D) (s : RegistryStore D) : RegistryStore D :=
  (s.filed event).replaceHead event.head

theorem committed_appends (valid : s.Valid)
    (sequence : event.entitySequence = s.lastSequence event.registryType event.entityId + 1)
    (previous : event.previousEntityEventDigest =
      s.lastDigest event.registryType event.entityId) :
    Free s (s.filed event) ∧ (s.filed event).Valid ∧
      Appends (s.filed event) (committed event s) event := by
  have filing : Free s (s.filed event) ∧ (s.filed event).Valid := valid.filed_free
  have still : (s.filed event).headAt event.registryType event.entityId =
      s.headAt event.registryType event.entityId := headAt_of_heads filing.1.heads
  refine ⟨filing.1, filing.2, valid.filed_object, ?_, ?_, rfl⟩
  · rw [sequence, lastSequence, lastSequence, still]
  · rw [previous, lastDigest, lastDigest, still]

theorem committed_chain (valid : s.Valid)
    (sequence : event.entitySequence = s.lastSequence event.registryType event.entityId + 1)
    (previous : event.previousEntityEventDigest = s.lastDigest event.registryType event.entityId)
    (chain : s.Chain event.registryType event.entityId items) :
    (committed event s).Chain event.registryType event.entityId (items ++ [event]) := by
  obtain ⟨free, -, appends⟩ := committed_appends valid sequence previous
  exact appends.chain (chain.grown free.grown (headAt_of_heads free.heads))

theorem committed_other
    (other : ¬(registryType = event.registryType ∧ entityId = event.entityId)) :
    (committed event s).headAt registryType entityId = s.headAt registryType entityId := by
  rw [committed, headAt_replaceHead_other event.head other]
  exact headAt_of_heads filed_heads

theorem exec_commitPrepared (valid : s.Valid)
    (sequence : event.entitySequence = s.lastSequence event.registryType event.entityId + 1)
    (previous : event.previousEntityEventDigest =
      s.lastDigest event.registryType event.entityId) :
    (commitPrepared event (s.headAt event.registryType event.entityId) event.head).exec s =
      (.ok (), committed event s) := by
  have named := named_of_token event.token
  obtain ⟨-, inv, appends⟩ := committed_appends valid sequence previous
  have last : (committed event s).headAt event.registryType event.entityId = some event.head :=
    headAt_replaceHead_self event.head
  have reread : (readHead event.registryType event.entityId).exec (committed event s) =
      (.ok (some event.head), committed event s) := by
    rw [exec_readHead (appends.valid inv) named, last]
  unfold commitPrepared
  rw [exec_bind_ok _ (exec_readHead valid named), exec_bind_ok _ (exec_require_ok rfl _ s),
    exec_bind_ok _ (exec_install valid), exec_bind_ok _ (exec_write _ _ _),
    exec_bind_ok (a := ()) (t := committed event s) _ (exec_read _ _ _),
    exec_bind_ok (a := some event.head) (t := committed event s) _
      (by rw [exec_tryCatch, reread])]
  exact exec_require_ok rfl _ _

theorem quiet_candidate : (candidate g request).Quiet := by
  refine .bind quiet_reconstructEntityUnlocked fun history => .bind (.require _ _) fun _ =>
    .bind (.done _) fun found => ?_
  cases found with
  | none => exact .throw _
  | some state => exact .bind (.require _ _) fun _ => .bind (.require _ _) fun _ => .pure _

/-- A candidate is the single event of its history. -/
theorem exec_candidate_ok (lawful : g.Lawful) (valid : s.Valid) (named : request.entityId ≠ "")
    {history : List (RegistryEvent D)} {state : P}
    (ran : (candidate g request).exec s = (.ok (history, state), s)) :
    ∃ proposal, history = [proposal] ∧ s.Chain g.registryType request.entityId [proposal] ∧
      g.project [proposal] = .ok (some state) ∧
      s.lastSequence g.registryType request.entityId = 1 ∧
      s.lastDigest g.registryType request.entityId = some (g.currentEventDigest state) := by
  obtain ⟨items, chain⟩ := valid.chain g.registryType request.entityId
  unfold candidate at ran
  rw [exec_bind_ok _ (exec_reconstructEntityUnlocked valid named chain)] at ran
  obtain ⟨_, t, checked, ran⟩ := exec_bind_ok_iff.mp ran
  obtain ⟨found, t', projected, ran⟩ := exec_bind_ok_iff.mp ran
  cases found with
  | none => cases ran
  | some other =>
      obtain ⟨_, t'', proposed, ran⟩ := exec_bind_ok_iff.mp ran
      obtain ⟨_, t₃, clock, ran⟩ := exec_bind_ok_iff.mp ran
      cases ran
      have first : g.proposed state = true ∧ g.currentEntitySequence state = 1 := by
        by_contra failed
        rw [exec_require_error failed] at proposed
        cases proposed
      have accepted : g.project history = .ok (some state) := by
        cases result : g.project history with
        | error code => simp [result, Except.mapError] at projected
        | ok value =>
            simp only [result, Except.mapError, exec_lift, Prod.mk.injEq, Except.ok.injEq]
              at projected
            rw [projected.1]
      obtain ⟨sequence, digest⟩ := lawful.head valid chain accepted
      have one : s.lastSequence g.registryType request.entityId = 1 := sequence.trans first.2
      have length : history.length = 1 := one ▸ Linked.length chain
      obtain ⟨proposal, rfl⟩ := List.length_eq_one_iff.mp length
      exact ⟨proposal, rfl, chain, accepted, one, digest⟩

omit [LinearOrder D] [Sha256 D] in
theorem exec_entityError {result : Except String α}
    (ran : (entityError result : RegistryM D α).exec s = (.ok a, t)) : result = .ok a := by
  cases result with
  | error code => cases ran
  | ok value =>
      cases ran
      rfl

theorem headAt_of_lastDigest (last : s.lastDigest registryType entityId = some digest) :
    s.headAt registryType entityId ≠ none := by
  intro none
  simp [lastDigest, none] at last

/-- The append of a first ADMIT commits what it has decided, or leaves no trace. -/
theorem decides_admitCandidate (lawful : g.Lawful) (valid : s.Valid)
    (named : request.entityId ≠ "") :
    (admitCandidate g request (s.headAt g.registryType request.entityId)).Decides s
      (fun result t => Applied g request s result ∧ t = committed result.event s) := by
  refine .bind quiet_candidate fun ⟨history, state⟩ ran => ?_
  obtain ⟨proposal, rfl, chain, projected, one, digest⟩ := exec_candidate_ok lawful valid named ran
  refine .bind quiet_snapshotUnlocked fun snap taken => ?_
  refine .bind quiet_evidenceRoot fun evidence bound => ?_
  refine .bind (.read _ _) fun ⟨receiptDigest, basis⟩ reviewed => ?_
  refine .bind (.done _) fun _ _ => .bind (.done _) fun event built => ?_
  refine .bind (.done _) fun after reduced => ?_
  refine .bind (quiet_computePredictedPostRoot _) fun postRoot predicted => ?_
  refine .bind (.require _ _) fun _ _ => ?_
  have built := (Prod.mk.inj built).1
  obtain ⟨type_, id, second, previous, -⟩ := buildAdmitEvent_ok built
  have id : event.entityId = request.entityId := id
  have root : snap.rootDigest = s.root g.registryType := by
    obtain ⟨snap', taken', -, root⟩ : ∃ snap : RegistrySnapshot D,
      (snapshotUnlocked g.registryType).exec s = (.ok snap, s) ∧ _ ∧
        snap.rootDigest = s.root g.registryType := exec_snapshotUnlocked valid
    rw [taken'] at taken
    cases taken
    exact root
  have evidence_ : evidence = boundEvidence g s := by
    rw [exec_evidenceRoot valid] at bound
    cases bound
    rfl
  have post : postRoot = snapshotRoot g.registryType
      (exchanged event.head (s.typeHeads g.registryType)) := by
    have own : event.head.entityId = request.entityId := id
    have computed := exec_computePredictedPostRoot valid own (headAt_of_lastDigest digest)
    rw [computed] at predicted
    exact (Except.ok.inj (congrArg Prod.fst predicted)).symm
  have commits : (commitPrepared event (s.headAt event.registryType event.entityId)
      event.head).exec s = (.ok (), committed event s) :=
    exec_commitPrepared valid (by rw [type_, id, second, one]) (by rw [type_, id, previous, digest])
  rw [type_, id] at commits
  refine .returns ((exec_bind_ok _ commits).trans (exec_pure _ _)) ⟨?_, rfl⟩
  exact {
    applied := rfl
    head := rfl
    built := built
    proposal := ⟨proposal, state, chain, projected, exec_entityError reduced⟩
    position := ⟨one, digest⟩
    entity := rfl
    authority := rfl
    clock := rfl
    offered := lawful.offered (Prod.mk.inj reviewed).1
    registryRoot := root
    evidence := evidence_
    postRoot := post }

/-- What a result that was not applied reports. -/
structure Repeated (g : Governance D P) (s : RegistryStore D)
    (result : GovernedAdmitResult D P) : Prop where
  applied : result.applied = false
  registryRoot : result.registryRoot = s.root g.registryType

theorem decides_handleRetry (valid : s.Valid) (retry : Authorization D) :
    (handleRetry g request retry head).Decides s
      (fun result t => Repeated g s result ∧ t = s) := by
  unfold handleRetry
  refine .bind (.require _ _) fun _ _ => .bind (.require _ _) fun _ _ =>
    .bind (.require _ _) fun _ _ => .bind (.require _ _) fun _ _ =>
    .bind (quiet_getEvent _) fun found _ => ?_
  cases found with
  | none => exact .raises rfl
  | some existing =>
      refine .bind (.done _) fun _ _ => .bind (.require _ _) fun _ _ =>
        .bind (.require _ _) fun _ _ => .bind quiet_evidenceRoot fun _ _ =>
        .bind (.require _ _) fun _ _ => .bind quiet_snapshotUnlocked fun snap taken => ?_
      obtain ⟨snap', taken', -, root⟩ : ∃ snap : RegistrySnapshot D,
        (snapshotUnlocked g.registryType).exec s = (.ok snap, s) ∧ _ ∧
          snap.rootDigest = s.root g.registryType := exec_snapshotUnlocked valid
      rw [taken'] at taken
      cases taken
      cases existing.previousEntityEventDigest with
      | none => exact .raises rfl
      | some predecessor =>
          exact .bind (.done _) fun _ _ => .bind (.require _ _) fun _ _ =>
            .bind quiet_reconstructEntityUnlocked fun _ _ => .bind (.done _) fun _ _ =>
            .bind (.done _) fun _ _ => .returns rfl ⟨⟨rfl, root⟩, rfl⟩

theorem exec_readHead_named {found : Option (RegistryEntityHead D)}
    (ran : (readHead registryType entityId).exec s = (.ok found, s)) : entityId ≠ "" := by
  obtain ⟨_, t, named, -⟩ := exec_bind_ok_iff.mp ran
  rintro rfl
  rw [exec_require_error (not_not.mpr rfl)] at named
  cases named

/-- A governed append raises and leaves no trace, repeats a result and writes nothing, or
commits one event. -/
theorem decides_governedAdmit (lawful : g.Lawful) (valid : s.Valid) :
    (governedAdmit g request).Decides s (fun result t => (Repeated g s result ∧ t = s) ∨
      (Applied g request s result ∧ t = committed result.event s)) := by
  refine .bind (.done _) fun _ _ => ?_
  rw [Prog.Decides, exec_locked]
  change (governedLocked g request).Decides s _
  refine .bind quiet_readHead fun head ran => ?_
  have named := exec_readHead_named ran
  rw [exec_readHead valid named] at ran
  obtain rfl := Except.ok.inj (Prod.mk.inj ran).1
  have first : (admitCandidate g request (s.headAt g.registryType request.entityId)).Decides s
      (fun result t => (Repeated g s result ∧ t = s) ∨
        (Applied g request s result ∧ t = committed result.event s)) :=
    (decides_admitCandidate lawful valid named).weaken fun _ _ _ done => .inr done
  cases last : s.headAt g.registryType request.entityId with
  | none =>
      rw [last] at first
      exact first
  | some head =>
      rw [last] at first
      refine .bind (quiet_admittedEvent head) fun admitted _ => ?_
      cases admitted with
      | none => exact first
      | some event =>
          cases request.retryAuthorization with
          | none => exact .raises rfl
          | some retry => exact (decides_handleRetry valid retry).weaken fun _ _ _ done => .inl done

end CsdFoundry.Registry
