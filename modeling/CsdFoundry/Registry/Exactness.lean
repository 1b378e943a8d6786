import CsdFoundry.Registry.History

/-! A governed ADMIT commits exactly what it reports, applies once for each entity, and
answers a retry as long as nothing that its authorization binds has moved. -/
namespace CsdFoundry.Registry
open Storage RegistryStore Prog
variable {D P : Type} [LinearOrder D] [DigestText D] [Sha256 D] {g : Governance D P}
  {s t u : RegistryStore D} {registryType : RegistryType} {entityId : String}
  {event : RegistryEvent D} {items : List (RegistryEvent D)} {request : AdmitRequest D}
  {result : GovernedAdmitResult D P}

theorem exec_admittedEvent (valid : s.Valid) {head : RegistryEntityHead D}
    (second : head.entitySequence = 2) (stored : s.objects head.eventDigest = some event)
    (admits : Admits event) : (admittedEvent head).exec s = (.ok (some event), s) := by
  unfold admittedEvent
  rw [if_pos second, exec_bind_ok _ (exec_getEvent valid.named _), stored]
  rw [exec_pure, if_pos (show event.payload.get "operation" = .str "ADMIT" from admits)]

theorem exec_admittedEvent_other {head : RegistryEntityHead D}
    (other : head.entitySequence ≠ 2) : (admittedEvent head).exec s = (.ok none, s) := by
  unfold admittedEvent
  rw [if_neg other, exec_pure]

namespace Applied

theorem event_entity (applied : Applied g request s result) :
    result.event.registryType = g.registryType ∧ result.event.entityId = request.entityId ∧
      result.event.entitySequence = 2 ∧ result.event.previousEntityEventDigest =
        some result.authorization.candidatePredecessorEventDigest := by
  obtain ⟨type_, id, sequence, previous, -⟩ := buildAdmitEvent_ok applied.built
  exact ⟨type_, id.trans applied.entity, sequence, previous⟩

theorem admits (lawful : g.Lawful) (applied : Applied g request s result) :
    Admits result.event := by
  obtain ⟨-, -, -, -, payload⟩ := buildAdmitEvent_ok applied.built
  unfold Admits
  rw [payload]
  exact lawful.operation _ _

/-- The event fits the head that was there. -/
theorem fits (applied : Applied g request s result) :
    result.event.entitySequence =
        s.lastSequence result.event.registryType result.event.entityId + 1 ∧
      result.event.previousEntityEventDigest =
        s.lastDigest result.event.registryType result.event.entityId := by
  obtain ⟨type_, id, second, previous⟩ := applied.event_entity
  rw [type_, id, second, previous, applied.position.1, applied.position.2]
  exact ⟨rfl, rfl⟩

theorem valid (valid : s.Valid) (applied : Applied g request s result) :
    (committed result.event s).Valid := by
  obtain ⟨-, inv, appends⟩ := committed_appends valid applied.fits.1 applied.fits.2
  exact appends.valid inv

theorem here (applied : Applied g request s result) :
    (committed result.event s).headAt g.registryType request.entityId = some result.head := by
  obtain ⟨type_, id, -⟩ := applied.event_entity
  rw [← type_, ← id, applied.head]
  exact headAt_replaceHead_self result.event.head

theorem others (applied : Applied g request s result)
    (other : ¬(registryType = g.registryType ∧ entityId = request.entityId)) :
    (committed result.event s).headAt registryType entityId = s.headAt registryType entityId := by
  obtain ⟨type_, id, -⟩ := applied.event_entity
  rw [← type_, ← id] at other
  exact committed_other other

theorem chain (valid : s.Valid) (applied : Applied g request s result)
    (before : s.Chain g.registryType request.entityId items) :
    (committed result.event s).Chain g.registryType request.entityId (items ++ [result.event]) := by
  obtain ⟨type_, id, -⟩ := applied.event_entity
  rw [← type_, ← id] at before ⊢
  exact committed_chain valid applied.fits.1 applied.fits.2 before

/-- The root that is reported is the root of the registry after the commit. -/
theorem root (valid : s.Valid) (applied : Applied g request s result) :
    (committed result.event s).root g.registryType = result.registryRoot := by
  obtain ⟨type_, id, -⟩ := applied.event_entity
  have own : result.event.head.registryType = g.registryType := type_
  have own' : result.event.head.entityId = request.entityId := id
  have known : s.headAt g.registryType request.entityId ≠ none :=
    headAt_of_lastDigest applied.position.2
  have listed : (committed result.event s).typeHeads result.event.head.registryType =
      exchanged result.event.head (s.typeHeads result.event.head.registryType) :=
    typeHeads_exchanged valid (applied.valid valid) (by rw [own, own']; exact known)
      (by rw [own, own', applied.here, applied.head])
      (fun entityId different => applied.others fun same => different (same.2.trans own'.symm))
  rw [own] at listed
  rw [RegistryStore.root, listed, applied.postRoot]

/-- The head before the commit. -/
theorem before (valid : s.Valid) (applied : Applied g request s result) :
    ∃ before, s.headAt g.registryType request.entityId = some before ∧
      predecessorHead g request.entityId
        result.authorization.candidatePredecessorEventDigest = .ok before := by
  obtain ⟨sequence, digest⟩ := applied.position
  obtain ⟨head, last⟩ := Option.ne_none_iff_exists'.mp (headAt_of_lastDigest digest)
  obtain ⟨type_, id, -⟩ := valid.headAt_iff.mp last
  simp only [lastSequence, lastDigest, last, Option.map_some, Option.getD_some,
    Option.some.injEq] at sequence digest
  refine ⟨head, last, ?_⟩
  unfold predecessorHead
  rw [dif_pos (id ▸ head.named)]
  exact congrArg Except.ok (RegistryEntityHead.ext type_.symm id.symm sequence.symm digest.symm)

/-- Rolling one head back gives the root of an earlier store if and only if the other heads
are as they were in it. -/
theorem rolled_iff (valid : s.Valid) (valid' : u.Valid) {head : RegistryEntityHead D}
    (last : s.headAt registryType entityId = some head)
    (known : u.headAt registryType entityId ≠ none) :
    snapshotRoot registryType (exchanged head (u.typeHeads registryType)) = s.root registryType ↔
      ∀ other ≠ entityId, u.headAt registryType other = s.headAt registryType other := by
  obtain ⟨rfl, rfl, -⟩ := valid.headAt_iff.mp last
  rw [← exchanged_iff valid valid' last known]
  constructor
  · intro same
    refine snapshotRoot_inj (fun h member => ?_) (fun h member => ?_) same
    · obtain ⟨old, found⟩ := Option.ne_none_iff_exists'.mp known
      obtain ⟨type_, id, -⟩ := valid'.headAt_iff.mp found
      have present : ∃ other ∈ u.typeHeads head.registryType, other.entityId = head.entityId :=
        ⟨old, valid'.mem_typeHeads.mpr ⟨type_, by rw [id]; exact found⟩, id⟩
      rcases (mem_exchanged present).mp member with rfl | ⟨listed, -⟩
      · rfl
      · exact (valid'.mem_typeHeads.mp listed).1
    · exact (valid.mem_typeHeads.mp member).1
  · exact fun same => congrArg (snapshotRoot head.registryType) same

/-- The request again, with the authorization that was returned. -/
def retry (request : AdmitRequest D) (result : GovernedAdmitResult D P) : AdmitRequest D :=
  { request with retryAuthorization := some result.authorization }

/-- What the authorization binds of a later store: every other head and the evidence root. -/
def Unmoved (g : Governance D P) (request : AdmitRequest D) (result : GovernedAdmitResult D P)
    (s u : RegistryStore D) : Prop :=
  (∀ entityId ≠ request.entityId,
    u.headAt g.registryType entityId = s.headAt g.registryType entityId) ∧
  boundEvidence g u = result.authorization.evidenceRoot

/-- The retry at the head that the ADMIT made. -/
theorem handleRetry_ok_iff (valid : s.Valid)
    (applied : Applied g request s result) (valid' : u.Valid) (named : request.entityId ≠ "")
    (here : u.headAt g.registryType request.entityId = some result.head)
    (grown : Grows (committed result.event s).objects u.objects) :
    (∃ r, ((handleRetry g (retry request result) result.authorization result.head).exec u).1 = .ok r) ↔
      Unmoved g request result s u := by
  obtain ⟨type_, id, second, previous⟩ := applied.event_entity
  obtain ⟨proposal, state, chain, projected, reduced⟩ := applied.proposal
  obtain ⟨head, last, before⟩ := applied.before valid
  have stored : u.objects result.head.eventDigest = some result.event := by
    rw [applied.head]
    exact grown _ _ valid.filed_object
  have chain' : u.Chain g.registryType request.entityId [proposal, result.event] := by
    have longer : (committed result.event s).Chain _ _ ([proposal] ++ [result.event]) :=
      applied.chain valid chain
    exact longer.grown grown (here.trans applied.here.symm)
  obtain ⟨snap, taken, listed, root⟩ : ∃ snap : RegistrySnapshot D,
    (snapshotUnlocked g.registryType).exec u = (.ok snap, u) ∧
      snap.heads = u.typeHeads g.registryType ∧ _ := exec_snapshotUnlocked valid'
  have entity : result.authorization.entityId = (retry request result).entityId := applied.entity
  have authority : result.authorization.admittingAuthorityId =
    (retry request result).admittingAuthorityId := applied.authority
  have clock : result.authorization.eventSequence = (retry request result).eventSequence :=
    applied.clock
  have digest : result.event.digest = result.head.eventDigest := by rw [applied.head]; rfl
  unfold handleRetry
  rw [exec_bind_ok _ (exec_require_ok entity _ u), exec_bind_ok _ (exec_require_ok authority _ u),
    exec_bind_ok _ (exec_require_ok clock _ u),
    exec_bind_ok _ (exec_require_ok applied.offered _ u),
    exec_bind_ok _ (exec_getEvent valid'.named _), stored]
  simp only
  rw [applied.built, exec_bind_ok _ (exec_lift _), exec_bind_ok _ (exec_require_ok rfl _ u),
    exec_bind_ok _ (exec_require_ok digest _ u), exec_bind_ok _ (exec_evidenceRoot valid')]
  by_cases evidence : boundEvidence g u = result.authorization.evidenceRoot
  · rw [exec_bind_ok _ (exec_require_ok evidence _ u), exec_bind_ok _ taken, previous]
    simp only
    have before' : predecessorHead g (retry request result).entityId
      result.authorization.candidatePredecessorEventDigest = .ok head := before
    obtain ⟨-, idHead, -⟩ := valid.headAt_iff.mp last
    have heads : byEntity (snap.heads.map (fun other =>
        if other.entityId = (retry request result).entityId then head else other)) =
        exchanged head (u.typeHeads g.registryType) := by
      rw [listed, exchanged, idHead]
      rfl
    have rolled : snapshotRoot g.registryType (exchanged head (u.typeHeads g.registryType)) =
        result.authorization.registryRoot ↔ ∀ entityId ≠ request.entityId,
          u.headAt g.registryType entityId = s.headAt g.registryType entityId := by
      rw [applied.registryRoot]
      exact rolled_iff valid valid' last (by simp [here])
    rw [before', exec_bind_ok _ (exec_lift _), heads]
    by_cases others : snapshotRoot g.registryType (exchanged head (u.typeHeads g.registryType)) =
        result.authorization.registryRoot
    · have rebuilt : (reconstructEntityUnlocked g.registryType
          (retry request result).entityId).exec u = (.ok [proposal, result.event], u) :=
        exec_reconstructEntityUnlocked valid' named chain'
      rw [exec_bind_ok _ (exec_require_ok others _ u), exec_bind_ok _ rebuilt]
      simp only [List.take_succ_cons, List.take_zero]
      rw [projected, exec_bind_ok (a := some state) (t := u) _ rfl, reduced,
        exec_bind_ok (a := result.projected) (t := u) _ rfl, exec_pure]
      exact ⟨fun _ => ⟨rolled.mp others, evidence⟩, fun _ => ⟨_, rfl⟩⟩
    · rw [exec_bind_error _ (exec_require_error others _ u)]
      constructor
      · rintro ⟨r, returned⟩
        cases returned
      · exact fun unmoved => absurd (rolled.mpr unmoved.1) others
  · rw [exec_bind_error _ (exec_require_error evidence _ u)]
    constructor
    · rintro ⟨r, returned⟩
      cases returned
    · exact fun unmoved => absurd unmoved.2 evidence

/-- After the ADMIT the entity has its two events at least. -/
theorem later_chain (valid : s.Valid) (applied : Applied g request s result)
    (later : discipline.held (committed result.event s) u) :
    ∃ proposal items, u.Chain g.registryType request.entityId items ∧
      [proposal, result.event] <+: items := by
  obtain ⟨proposal, state, chain, -⟩ := applied.proposal
  have longer : (committed result.event s).Chain _ _ ([proposal] ++ [result.event]) :=
    applied.chain valid chain
  obtain ⟨items, chain', extends_⟩ := held_chain later longer
  exact ⟨proposal, items, chain', extends_⟩

/-- No governed ADMIT of the entity is applied again. -/
theorem once (valid : s.Valid) (applied : Applied g request s result)
    (later : discipline.held (committed result.event s) u) {g' : Governance D P'}
    {request' : AdmitRequest D} {result' : GovernedAdmitResult D P'}
    (sameType : g'.registryType = g.registryType) (sameId : request'.entityId = request.entityId) :
    ¬ Applied g' request' u result' := by
  intro again
  obtain ⟨proposal, items, chain, extends_⟩ := applied.later_chain valid later
  have one := again.position.1
  rw [sameType, sameId, ← Linked.length chain] at one
  have two := extends_.length_le
  simp only [List.length_cons, List.length_nil] at two
  omega

/-- While the ADMIT is the last event, its head is the one that was returned. -/
theorem later_head (valid : s.Valid) (applied : Applied g request s result) (valid' : u.Valid)
    (later : discipline.held (committed result.event s) u) :
    ∃ head, u.headAt g.registryType request.entityId = some head ∧ 2 ≤ head.entitySequence ∧
      (head.entitySequence = 2 → head = result.head) := by
  obtain ⟨proposal, items, chain, extends_⟩ := applied.later_chain valid later
  have length := Linked.length chain
  have two := extends_.length_le
  simp only [List.length_cons, List.length_nil] at two
  cases last : u.headAt g.registryType request.entityId with
  | none =>
      simp only [lastSequence, last, Option.map_none, Option.getD_none] at length
      omega
  | some head =>
      have count : items.length = head.entitySequence := by
        rw [length, lastSequence, last]
        rfl
      refine ⟨head, rfl, by omega, fun second => ?_⟩
      have whole : [proposal, result.event] = items :=
        extends_.eq_of_length (by simp only [List.length_cons, List.length_nil]; omega)
      have ends := (chain.wellLinked valid').last
      rw [last, ← whole] at ends
      rw [applied.head]
      exact (Option.some.inj ends).symm

/-- A retry writes nothing, and succeeds if and only if nothing that it binds has moved. -/
theorem retry_exact (lawful : g.Lawful) (valid : s.Valid) (applied : Applied g request s result)
    (accepted : g.arguments request = .ok ()) (named : request.entityId ≠ "") (valid' : u.Valid)
    (later : discipline.held (committed result.event s) u) :
    ((governedAdmit g (retry request result)).exec u).2 = u ∧
    ((∃ r, ((governedAdmit g (retry request result)).exec u).1 = .ok r) ↔
      u.headAt g.registryType request.entityId = some result.head ∧
        Unmoved g request result s u) := by
  have decides : (governedAdmit g (retry request result)).Decides u _ :=
    decides_governedAdmit lawful valid'
  refine ⟨?_, ?_⟩
  · rcases decides with ⟨e, failed⟩ | ⟨r, t, ran, ⟨-, rfl⟩ | ⟨again, -⟩⟩
    · rw [failed]
    · rw [ran]
    · exact absurd again (applied.once valid later rfl rfl)
  · obtain ⟨head, last, two, second⟩ := applied.later_head valid valid' later
    have arguments : g.arguments (retry request result) = .ok () :=
      (lawful.arguments _ _).trans accepted
    have found : (readHead g.registryType request.entityId).exec u = (.ok (some head), u) := by
      rw [exec_readHead valid' named, last]
    have read : (readHead g.registryType (retry request result).entityId).exec u =
      (.ok (some head), u) := found
    unfold governedAdmit
    rw [arguments, exec_bind_ok _ (exec_lift _), exec_locked]
    unfold governedLocked
    rw [exec_bind_ok _ read]
    simp only
    by_cases place : head.entitySequence = 2
    · obtain rfl := second place
      have stored : u.objects result.head.eventDigest = some result.event := by
        rw [applied.head]
        exact held_grown later _ _ valid.filed_object
      rw [exec_bind_ok _ (exec_admittedEvent valid' place stored (applied.admits lawful))]
      have exact_ := applied.handleRetry_ok_iff valid valid' named last (held_grown later)
      exact exact_.trans ⟨fun unmoved => ⟨last, unmoved⟩, fun met => met.2⟩
    · rw [exec_bind_ok _ (exec_admittedEvent_other place)]
      constructor
      · rintro ⟨r, returned⟩
        have first : (admitCandidate g (retry request result)
            (u.headAt g.registryType request.entityId)).Decides u _ :=
          decides_admitCandidate lawful valid' named
        rw [last] at first
        rcases first with ⟨e, failed⟩ | ⟨r', t, -, again, -⟩
        · simp only [failed] at returned
          cases returned
        · exact absurd again (applied.once valid later rfl rfl)
      · rintro ⟨here, -⟩
        obtain rfl := Option.some.inj (last.symm.trans here)
        rw [applied.head] at place
        exact absurd applied.event_entity.2.2.1 place

end Applied

end CsdFoundry.Registry
