import Mathlib.Data.List.Forall2
import CsdFoundry.Projection.Adapter
import CsdFoundry.Generation.Heads
import CsdFoundry.Generation.View

/-! The store of an attempt: it starts as a copy of what is committed, and each event that is
applied moves the head of its entity as an append in the committed store would. -/
namespace CsdFoundry.Projection
open Registry Storage RegistryStore Prog Generation

variable {D : Type} [LinearOrder D] [DigestText D] [Sha256 D] {s t : RegistryStore D}
  {type : RegistryType} {entityId : String} {head : RegistryEntityHead D}
  {heads : List (RegistryEntityHead D)} {event : RegistryEvent D}
  {events items : List (RegistryEvent D)} {histories : List (List (RegistryEvent D))}

theorem exists_right {α β : Type} {R : α → β → Prop} {first : List α} {second : List β} {a : α}
    (pairs : List.Forall₂ R first second) (member : a ∈ first) : ∃ b ∈ second, R a b := by
  induction pairs with
  | nil => cases member
  | @cons c b first second related _ ih =>
      rcases List.mem_cons.mp member with rfl | later
      · exact ⟨b, by simp, related⟩
      · obtain ⟨b', listed, related'⟩ := ih later
        exact ⟨b', by simp [listed], related'⟩

theorem exists_left {α β : Type} {R : α → β → Prop} {first : List α} {second : List β} {b : β}
    (pairs : List.Forall₂ R first second) (member : b ∈ second) : ∃ a ∈ first, R a b :=
  exists_right (R := fun b a => R a b) (List.Forall₂.flip pairs) member

/-- The heads of a registry with the histories behind them. -/
structure Shown (type : RegistryType) (s : RegistryStore D) (heads : List (RegistryEntityHead D))
    (histories : List (List (RegistryEvent D))) : Prop where
  ascending : Ascending heads
  typed : ∀ head ∈ heads, head.registryType = type
  chains : List.Forall₂ (fun head items => s.HeadChain type head.entityId (some head) items)
    heads histories

/-- The view of a generation, as a committed store. -/
def generation (type : RegistryType) (view : GenerationRegistryView D) : CommittedStore D :=
  ⟨view.snapshot type, view.reconstructSnapshot type⟩

/-- What an adapter may be given: the registry in its own store, or the view of a generation. The
heads are those that the adapter is shown. -/
inductive Committed (type : RegistryType) (s : RegistryStore D) :
    CommittedStore D → List (RegistryEntityHead D) → Prop where
  | live : Committed type s (live type) (s.typeHeads type)
  | view (view : GenerationRegistryView D) :
      Committed type s (generation type view) view.sortedHeads

variable {store : CommittedStore D}

theorem Committed.still (committed : Committed type s store heads) :
    store.snapshot.Still ∧ store.reconstructSnapshot.Still := by
  cases committed with
  | live => exact ⟨still_snapshot, still_reconstructSnapshot⟩
  | view view => exact ⟨still_viewSnapshot, still_viewReconstructSnapshot⟩

/-- The two reads of an adapter, when both succeed. -/
theorem Committed.shown (committed : Committed type s store heads) (valid : s.Valid)
    {snap : RegistrySnapshot D} (taken : store.snapshot.exec s = (.ok snap, s))
    (rebuilt : store.reconstructSnapshot.exec s = (.ok histories, s)) :
    snap.rootDigest = snapshotRoot type heads ∧ Shown type s heads histories := by
  cases committed with
  | live =>
      have snapped : ∃ snap : RegistrySnapshot D, (snapshot type).exec s = (.ok snap, s) ∧ _ ∧
        snap.rootDigest = snapshotRoot type (s.typeHeads type) := exec_snapshot valid
      obtain ⟨snap', taken', -, root⟩ := snapped
      obtain ⟨histories', rebuilt', chains⟩ : ∃ histories',
        (reconstructSnapshot type).exec s = (.ok histories', s) ∧ _ := exec_reconstructSnapshot valid
      obtain rfl : snap' = snap := by
        have same := taken'.symm.trans taken
        simpa using same
      obtain rfl : histories' = histories := by
        have same := rebuilt'.symm.trans rebuilt
        simpa using same
      have listed : ∀ head ∈ s.typeHeads type, s.headAt type head.entityId = some head :=
        fun head member => (valid.mem_typeHeads.mp member).2
      refine ⟨root, valid.typeHeads_ascending,
        fun head member => (valid.mem_typeHeads.mp member).1, ?_⟩
      refine ((List.forall₂_and_left _ _).mpr ⟨listed, chains⟩).imp ?_
      rintro head items ⟨last, chain⟩
      rw [← last]
      exact chain
  | view view =>
      obtain ⟨root, typed, -⟩ := viewSnapshot_ok taken
      obtain ⟨same, chains, -⟩ := viewReconstructSnapshot_ok rebuilt
      subst same
      exact ⟨root, sortedHeads_ascending, typed, chains⟩

/-! ### The clone -/

/-- The events of a linked history fit a store that has no event of the entity, and take its head
to where the history ends. -/
theorem fit_of_linked (named : ∀ digest event, s.objects digest = some event → event.digest = digest)
    (fresh : t.headAt type entityId = none) {key : Option D}
    (linked : Linked (s.eventOf type entityId) (·.entitySequence) (·.previousEntityEventDigest) n key
      items) :
    Fit items t ∧ (appended items t).lastSequence type entityId = n ∧
      (appended items t).lastDigest type entityId = key := by
  induction linked with
  | genesis => exact ⟨True.intro, by simp [appended, lastSequence, fresh],
      by simp [appended, lastDigest, fresh]⟩
  | @next digest event n items found position rest ih =>
      obtain ⟨stored, rfl, rfl⟩ := eventOf_iff.mp found
      obtain ⟨fit, sequence, previous⟩ := ih
      have last : (appended (items ++ [event]) t).headAt event.registryType event.entityId =
          some event.head := by
        rw [appended, List.foldl_append]
        exact headAt_replaceHead_self event.head
      refine ⟨Fit.append.mpr ⟨fit, ⟨?_, previous.symm⟩, True.intro⟩, ?_, ?_⟩
      · rw [position, sequence]
      · rw [lastSequence, last]
        exact position
      · rw [lastDigest, last]
        exact congrArg some (named digest event stored)

theorem headAt_of_last (valid : t.Valid) (typed : head.registryType = type)
    (sequence : t.lastSequence type head.entityId = head.entitySequence)
    (digest : t.lastDigest type head.entityId = some head.eventDigest) :
    t.headAt type head.entityId = some head := by
  obtain ⟨last, found⟩ := Option.ne_none_iff_exists'.mp (headAt_of_lastDigest digest)
  obtain ⟨types, ids, -⟩ := valid.headAt_iff.mp found
  rw [lastSequence, found] at sequence
  rw [lastDigest, found] at digest
  rw [found, RegistryEntityHead.ext (types.trans typed.symm) ids sequence (Option.some.inj digest)]

omit [LinearOrder D] [Sha256 D] in
theorem entity_of_linked {key : Option D}
    (linked : Linked (s.eventOf type entityId) (·.entitySequence) (·.previousEntityEventDigest) n key
      items) (member : event ∈ items) : event.registryType = type ∧ event.entityId = entityId := by
  obtain ⟨key, found, -⟩ := linked.of_mem member
  exact (eventOf_iff.mp found).2

theorem appended_other (other : ∀ event ∈ events, event.entityId ≠ entityId) :
    (appended events t).headAt type entityId = t.headAt type entityId := by
  induction events generalizing t with
  | nil => rfl
  | cons event events ih =>
      have rest : (appended events (committed event t)).headAt type entityId = _ :=
        ih fun later member => other later (by simp [member])
      exact rest.trans (committed_other fun same => other event (by simp) same.2.symm)

omit [LinearOrder D] [Sha256 D] in
/-- Every event of the histories is one of an entity that is shown. -/
theorem entity_of_chains
    (chains : List.Forall₂ (fun head items => s.HeadChain type head.entityId (some head) items)
      heads histories) (member : event ∈ histories.flatten) :
    event.registryType = type ∧ ∃ head ∈ heads, event.entityId = head.entityId := by
  induction chains with
  | nil => simp at member
  | @cons head items heads histories chain _ ih =>
      rcases List.mem_append.mp member with first | later
      · obtain ⟨typed, id⟩ := entity_of_linked chain first
        exact ⟨typed, head, by simp, id⟩
      · obtain ⟨typed, other, listed, id⟩ := ih later
        exact ⟨typed, other, by simp [listed], id⟩

/-- The histories of a registry fit a store that has none of their entities, and there they are
read again. -/
theorem fit_histories (valid : s.Valid) (valid' : t.Valid) (shown : Shown type s heads histories)
    (fresh : ∀ head ∈ heads, t.headAt type head.entityId = none) :
    Fit histories.flatten t ∧
      List.Forall₂ (fun head items =>
        (appended histories.flatten t).headAt type head.entityId = some head ∧
        (appended histories.flatten t).Chain type head.entityId items) heads histories := by
  obtain ⟨ascending, typed, chains⟩ := shown
  induction chains generalizing t with
  | nil => exact ⟨True.intro, .nil⟩
  | @cons head items heads histories chain chains ih =>
      obtain ⟨below, ascending⟩ := List.pairwise_cons.mp ascending
      obtain ⟨fit, sequence, digest⟩ := fit_of_linked valid.named (fresh head (by simp)) chain
      have next : (appended items t).Valid := fit.valid valid'
      have own : ∀ event ∈ items, event.registryType = type ∧ event.entityId = head.entityId :=
        fun event member => entity_of_linked chain member
      have last : (appended items t).headAt type head.entityId = some head :=
        headAt_of_last next (typed head (by simp)) sequence digest
      have others : ∀ event ∈ histories.flatten, event.entityId ≠ head.entityId := by
        intro event member same
        obtain ⟨-, other, listed, id⟩ := entity_of_chains chains member
        exact absurd (id.symm.trans same) (below other listed).ne'
      have fresh' : ∀ other ∈ heads, (appended items t).headAt type other.entityId = none := by
        intro other member
        rw [appended_other fun event listed same => (below other member).ne
          ((own event listed).2.symm.trans same)]
        exact fresh other (by simp [member])
      obtain ⟨rest, read⟩ := ih next fresh' ascending fun other member => typed other (by simp [member])
      have copied : (appended items t).Chain type head.entityId items := by
        have empty : t.Chain type head.entityId [] := by
          rw [RegistryStore.Chain, lastSequence, lastDigest, fresh head (by simp)]
          exact .genesis
        have whole := fit.chain valid' (fun event member => (own event member).1) empty
        rwa [List.nil_append, List.filter_eq_self.mpr fun event member => by
          simpa using (own event member).2] at whole
      have kept := rest.chain next (fun event member => (entity_of_chains chains member).1) copied
      rw [List.filter_eq_nil_iff.mpr fun event member => by simpa using others event member,
        List.append_nil] at kept
      rw [List.flatten_cons, appended, List.foldl_append]
      refine ⟨Fit.append.mpr ⟨fit, rest⟩, .cons ⟨?_, kept⟩ read⟩
      exact (appended_other others).trans last

/-! ### Applying events -/

section Apply
variable {Decision Impact Bindings : Type} {staging : Staging D type Decision Impact}
  {outcome : Decision × Option Impact} {outcomes : List (Decision × Option Impact)}

theorem impactOf_still (reads : ∀ previous current event,
    (staging.impact previous current event).Still) (previous : Option (State D type))
    (current : State D type) (event : RegistryEvent D) :
    (impactOf staging previous current event).Still := by
  cases previous with
  | none => exact .done _
  | some previous =>
      refine .bind (.done _) fun operation => ?_
      split
      · exact .bind (reads _ _ _) fun _ => .done _
      · exact .done _

/-- An event that is applied was reduced from the history of its entity, and is appended. -/
structure Applied (type : RegistryType) (s : RegistryStore D) (event : RegistryEvent D) : Prop where
  typed : event.registryType = type
  fits : Fits s event
  accepted : verifyEvent event = .ok ()
  projected : ∀ items, s.Chain type event.entityId items →
    ∃ next, project type (items ++ [event]) = .ok (some next)

omit [LinearOrder D] [Sha256 D] in
theorem eventEntityId_ok (named : eventEntityId type event = .ok entityId) :
    event.entityId = entityId := by
  unfold eventEntityId at named
  split_ifs at named
  exact Except.ok.inj named

theorem fits_of_reduce {previous : Option (State D type)} {next : State D type} (valid : s.Valid)
    (chain : s.Chain type event.entityId items) (projected : project type items = .ok previous)
    (reduced : reduce type previous event = .ok next) : Fits s event := by
  have succeeds := reduce_ok reduced
  obtain ⟨sequence, digest⟩ := project_last projected
  have last := (chain.wellLinked valid).last
  constructor
  · rw [succeeds.successor, sequence, lastSequence, succeeds.registryType, ← last, Option.map_map]
    rfl
  · rw [succeeds.predecessor, digest, lastDigest, succeeds.registryType, ← last, Option.map_map]
    rfl

theorem applyEvent_ok (reads : ∀ previous current event,
    (staging.impact previous current event).Still) (valid : s.Valid)
    (ran : (applyEvent staging event).exec s = (.ok outcome, t)) :
    Applied type s event ∧ t = committed event s := by
  obtain ⟨items, chain⟩ := valid.chain type event.entityId
  unfold applyEvent at ran
  obtain ⟨entityId, s₁, first, ran⟩ := exec_bind_ok_iff.mp ran
  obtain ⟨named, rfl⟩ := exec_lift_iff.mp first
  obtain rfl := eventEntityId_ok named
  rw [exec_bind_ok _ (exec_reconstructEntity valid (named_of_token event.token) chain)] at ran
  obtain ⟨previous, s₁, second, ran⟩ := exec_bind_ok_iff.mp ran
  obtain ⟨before, rfl⟩ := exec_lift_iff.mp second
  obtain ⟨decision, s₁, required, ran⟩ := exec_bind_ok_iff.mp ran
  obtain ⟨-, rfl⟩ := exec_lift_iff.mp required
  obtain ⟨next, s₁, third, ran⟩ := exec_bind_ok_iff.mp ran
  obtain ⟨after, rfl⟩ := exec_lift_iff.mp third
  obtain ⟨result, s₁, added, ran⟩ := exec_bind_ok_iff.mp ran
  obtain ⟨impact, s₂, seen, last⟩ := exec_bind_ok_iff.mp ran
  have projected : project type items = .ok previous := Results.mapError_ok.mp before
  have reduced : reduce type previous event = .ok next := Results.mapError_ok.mp after
  have fits : Fits s event := fits_of_reduce valid chain projected reduced
  obtain ⟨accepted, rfl⟩ := append_fits_ok valid fits added
  obtain rfl := (impactOf_still reads previous next event).same seen
  refine ⟨⟨(reduce_ok reduced).registryType, fits, accepted, fun others chain' => ?_⟩, ?_⟩
  · obtain rfl := Linked.unique chain chain'
    exact ⟨next, project_concat.mpr ⟨previous, next, projected, reduced, rfl⟩⟩
  · exact (Prod.mk.inj last).2.symm

/-- The events are applied one after the other. -/
def AllApplied (type : RegistryType) : List (RegistryEvent D) → RegistryStore D → Prop
  | [], _ => True
  | event :: events, s => Applied type s event ∧ AllApplied type events (committed event s)

theorem AllApplied.append {more : List (RegistryEvent D)} :
    AllApplied type (events ++ more) s ↔
      AllApplied type events s ∧ AllApplied type more (appended events s) := by
  induction events generalizing s with
  | nil => simp [AllApplied, appended]
  | cons event events ih =>
      rw [List.cons_append, AllApplied, AllApplied, ih, and_assoc]
      rfl

theorem AllApplied.fit (applied : AllApplied type events s) : Fit events s := by
  induction events generalizing s with
  | nil => exact True.intro
  | cons event events ih => exact ⟨applied.1.fits, ih applied.2⟩

theorem AllApplied.checked (applied : AllApplied type events s) :
    ∀ event ∈ events, event.registryType = type ∧ verifyEvent event = .ok () := by
  induction events generalizing s with
  | nil => exact List.forall_mem_nil _
  | cons event events ih =>
      exact List.forall_mem_cons.mpr ⟨⟨applied.1.typed, applied.1.accepted⟩, ih applied.2⟩

theorem AllApplied.typed (applied : AllApplied type events s) :
    ∀ event ∈ events, event.registryType = type := fun event member =>
  (applied.checked event member).1

theorem applyEvents_ok (reads : ∀ previous current event,
    (staging.impact previous current event).Still) (valid : s.Valid)
    (ran : (applyEvents staging events).exec s = (.ok outcomes, t)) :
    AllApplied type events s ∧ t = appended events s := by
  induction events generalizing s outcomes with
  | nil =>
      obtain ⟨-, rfl⟩ := Prod.mk.inj ran
      exact ⟨True.intro, rfl⟩
  | cons event events ih =>
      obtain ⟨outcome, u, first, ran⟩ := exec_bind_ok_iff.mp ran
      obtain ⟨applied, rfl⟩ := applyEvent_ok reads valid first
      obtain ⟨others, v, rest, last⟩ := exec_bind_ok_iff.mp ran
      obtain ⟨-, rfl⟩ := Prod.mk.inj last
      obtain ⟨later, same⟩ := ih (applied.fits.valid valid) rest
      exact ⟨⟨applied, later⟩, same⟩

/-! ### What an attempt stages -/

/-- The store of an attempt before any event is applied. -/
def cloned (histories : List (List (RegistryEvent D))) : RegistryStore D :=
  appended histories.flatten .initial

theorem cloned_valid (valid : s.Valid) (shown : Shown type s heads histories) :
    (cloned histories).Valid :=
  (fit_histories valid initial_valid shown fun _ _ => rfl).1.valid initial_valid

/-- The clone has exactly the heads that were shown. -/
theorem cloned_shows (valid : s.Valid) (shown : Shown type s heads histories) :
    Shows type heads (cloned histories) := by
  obtain ⟨fit, read⟩ := fit_histories valid initial_valid shown fun _ _ => rfl
  have listed := ((List.forall₂_and_left _ _).mp read).1
  have distinct : (heads.map (·.entityId)).Nodup := by
    rw [List.Nodup, List.pairwise_map]
    exact shown.ascending.imp fun below => below.ne
  intro entityId
  by_cases known : ∃ head ∈ heads, head.entityId = entityId
  · obtain ⟨head, member, rfl⟩ := known
    exact (Keyed.find_of_mem distinct member).trans (listed head member).symm
  · have absent : (cloned histories).headAt type entityId =
        (initial : RegistryStore D).headAt type entityId := by
      refine appended_other fun event member same => known ?_
      obtain ⟨-, head, listed, id⟩ := entity_of_chains shown.chains member
      exact ⟨head, listed, id.symm.trans same⟩
    rw [absent, Keyed.find_eq_none.mpr fun head member same => known ⟨head, member, same⟩]
    rfl

/-- Each history can be read in the clone, also that of an entity without events. -/
theorem cloned_chain (valid : s.Valid) (shown : Shown type s heads histories)
    (chain : s.HeadChain type entityId (Keyed.find (·.entityId) heads entityId) items) :
    (cloned histories).Chain type entityId items := by
  have last := cloned_shows valid shown entityId
  obtain ⟨-, read⟩ := fit_histories valid initial_valid shown fun _ _ => rfl
  cases found : Keyed.find (·.entityId) heads entityId with
  | none =>
      rw [found] at chain last
      rw [Chain, lastSequence, lastDigest, ← last]
      cases chain
      exact .genesis
  | some head =>
      have id : head.entityId = entityId := Keyed.key_of_find found
      subst id
      rw [found] at chain
      have both := List.Forall₂.mp (fun _ _ => And.intro) shown.chains read
      obtain ⟨history, -, chain', -, copied⟩ := exists_right both (Keyed.mem_of_find found)
      obtain rfl := Linked.unique chain chain'
      exact copied

theorem ExpiryPlanner.plan_still (planner : ExpiryPlanner D type Decision)
    (still : store.snapshot.Still ∧ store.reconstructSnapshot.Still) (sequence : Nat)
    (source : String) : (planner.plan store sequence source).Still :=
  .bind (.done _) fun _ => .bind still.1 fun _ => .bind still.2 fun _ => .bind (.done _) fun _ =>
    .bind (.done _) fun _ => .done _

/-- An attempt that succeeds has applied the explicit events, planned the expiry on what they left
and applied that. -/
structure Stages (staging : Staging D type Decision Impact)
    (verify : List (RegistryEvent D) → Except RegistryError Bindings) (sequence : Nat)
    (source : String) (clone : RegistryStore D)
    (staged : Staged D type Decision Impact Bindings) : Prop where
  explicit : AllApplied type staged.explicit clone
  bindings : verify staged.explicit = .ok staged.bindings
  planned : (staging.planner.plan (live type) sequence source).exec
    (appended staged.explicit clone) = (.ok staged.expiry, appended staged.explicit clone)
  expiry : AllApplied type staged.expiry.events (appended staged.explicit clone)
  root : staged.projectedRoot = snapshotRoot type
    ((appended (staged.explicit ++ staged.expiry.events) clone).typeHeads type)

theorem stage_ok {resolve : RegistryStore D → Except RegistryError (List (RegistryEvent D))}
    {verify : List (RegistryEvent D) → Except RegistryError Bindings} {sequence : Nat}
    {source : String} {staged : Staged D type Decision Impact Bindings}
    (reads : ∀ previous current event, (staging.impact previous current event).Still)
    (valid : s.Valid) (shown : Shown type s heads histories)
    (ran : inMemory (stage staging resolve verify sequence source histories) = .ok staged) :
    Stages staging verify sequence source (cloned histories) staged := by
  obtain ⟨fit, -⟩ := fit_histories valid initial_valid shown fun _ _ => rfl
  have start : (cloned histories).Valid := cloned_valid valid shown
  obtain ⟨t, ran⟩ : ∃ t, (stage staging resolve verify sequence source histories).exec .initial =
    (.ok staged, t) := ⟨_, Prod.ext ran rfl⟩
  unfold stage at ran
  obtain ⟨_, s₁, copied, ran⟩ := exec_bind_ok_iff.mp ran
  obtain ⟨rfl, -⟩ := appendAll_fit_ok initial_valid fit copied
  obtain ⟨resolved, s₁, first, ran⟩ := exec_bind_ok_iff.mp ran
  obtain ⟨-, rfl⟩ := Prod.mk.inj first
  obtain ⟨explicit, s₁, second, ran⟩ := exec_bind_ok_iff.mp ran
  obtain ⟨-, rfl⟩ := exec_lift_iff.mp second
  obtain ⟨bindings, s₁, third, ran⟩ := exec_bind_ok_iff.mp ran
  obtain ⟨verified, rfl⟩ := exec_lift_iff.mp third
  obtain ⟨outcomes, s₁, fourth, ran⟩ := exec_bind_ok_iff.mp ran
  obtain ⟨applied, rfl⟩ := applyEvents_ok reads start fourth
  have middle : (appended explicit (cloned histories)).Valid := applied.fit.valid start
  obtain ⟨expiry, s₁, planned, ran⟩ := exec_bind_ok_iff.mp ran
  have planning : (staging.planner.plan (live type) sequence source).Still :=
    staging.planner.plan_still ⟨still_snapshot, still_reconstructSnapshot⟩ sequence source
  obtain rfl := planning.same planned
  obtain ⟨outcomes', s₂, fifth, ran⟩ := exec_bind_ok_iff.mp ran
  obtain ⟨applied', rfl⟩ := applyEvents_ok reads middle fifth
  obtain ⟨snap, taken, -, root⟩ : ∃ snap : RegistrySnapshot D,
    (snapshot type).exec _ = _ ∧ _ := exec_snapshot (applied'.fit.valid middle)
  rw [exec_bind_ok _ taken] at ran
  obtain ⟨made, -⟩ := Prod.mk.inj ran
  obtain rfl := Except.ok.inj made
  refine ⟨applied, verified, planned, applied', ?_⟩
  rw [appended, List.foldl_append]
  exact root

theorem projectStaged_still {resolve : RegistryStore D → Except RegistryError (List (RegistryEvent D))}
    {verify : D → List (RegistryEvent D) → Except RegistryError Bindings}
    {request : ProjectionRequest D} (still : store.snapshot.Still ∧ store.reconstructSnapshot.Still) :
    (projectStaged staging resolve verify request store).Still :=
  .bind still.1 fun _ => .bind still.2 fun _ => .bind (.done _) fun _ => .done _

/-- A projection that succeeds stages on a clone of what the committed store shows. -/
theorem projectStaged_ok {resolve : RegistryStore D → Except RegistryError (List (RegistryEvent D))}
    {verify : D → List (RegistryEvent D) → Except RegistryError Bindings}
    {request : ProjectionRequest D} {plan : ProjectionPlan D Impact}
    {staged : Staged D type Decision Impact Bindings}
    (reads : ∀ previous current event, (staging.impact previous current event).Still)
    (valid : s.Valid) (committed : Committed type s store heads)
    (ran : (projectStaged staging resolve verify request store).exec s = (.ok (plan, staged), t)) :
    ∃ histories, Shown type s heads histories ∧
      plan = planOf request (snapshotRoot type heads) staged ∧
      Stages staging (verify (snapshotRoot type heads)) request.claim.proposedSequence
        (DigestText.text (projectionSourceDigest type request)) (cloned histories) staged := by
  unfold projectStaged at ran
  obtain ⟨snap, s₁, taken, ran⟩ := exec_bind_ok_iff.mp ran
  obtain rfl := committed.still.1.same taken
  obtain ⟨histories, s₂, rebuilt, ran⟩ := exec_bind_ok_iff.mp ran
  obtain rfl := committed.still.2.same rebuilt
  obtain ⟨root, shown⟩ := committed.shown valid taken rebuilt
  obtain ⟨staged', s₃, third, last⟩ := exec_bind_ok_iff.mp ran
  obtain ⟨attempt, rfl⟩ := exec_lift_iff.mp third
  obtain ⟨made, -⟩ := Prod.mk.inj last
  obtain ⟨rfl, rfl⟩ := Prod.mk.inj (Except.ok.inj made)
  rw [root] at attempt
  exact ⟨histories, shown, by rw [root], stage_ok reads valid shown attempt⟩

end Apply
end CsdFoundry.Projection
