import CsdFoundry.Registry.Store

/-! What every reachable registry store satisfies, and what one file operation may do to
it: event objects are only added, and a head only moves to the next event of its entity. -/
namespace CsdFoundry.Registry
open Storage
variable {D : Type} [LinearOrder D] [DigestText D] [Sha256 D]
  {registryType type' : RegistryType} {entityId id' : String}

omit [LinearOrder D] [DigestText D] in
/-- Where the head file of a head belongs. -/
def RegistryEntityHead.path (head : RegistryEntityHead D) : RegistryType × D :=
  (head.registryType, headName head.registryType head.entityId)

namespace RegistryStore
variable {s t u : RegistryStore D} {event : RegistryEvent D} {items : List (RegistryEvent D)}

omit [LinearOrder D] [Sha256 D] in
/-- The object under this digest, if it is an event of the entity. -/
def eventOf (s : RegistryStore D) (registryType : RegistryType) (entityId : String)
    (digest : D) : Option (RegistryEvent D) :=
  (s.objects digest).filter
    (fun event => event.registryType = registryType ∧ event.entityId = entityId)

omit [LinearOrder D] [Sha256 D] in
theorem eventOf_iff : s.eventOf registryType entityId digest = some event ↔
    s.objects digest = some event ∧ event.registryType = registryType ∧
      event.entityId = entityId := by
  simp [eventOf, Option.filter_eq_some_iff]

def headAt (s : RegistryStore D) (registryType : RegistryType) (entityId : String) :
    Option (RegistryEntityHead D) :=
  (Keyed.find HeadFile.path s.heads (registryType, headName registryType entityId)).map (·.head)

def lastSequence (s : RegistryStore D) (registryType : RegistryType) (entityId : String) : Nat :=
  ((s.headAt registryType entityId).map (·.entitySequence)).getD 0

def lastDigest (s : RegistryStore D) (registryType : RegistryType) (entityId : String) : Option D :=
  (s.headAt registryType entityId).map (·.eventDigest)

/-- The history that ends in a head, oldest event first. -/
def HeadChain (s : RegistryStore D) (registryType : RegistryType) (entityId : String)
    (head : Option (RegistryEntityHead D)) (items : List (RegistryEvent D)) : Prop :=
  Linked (s.eventOf registryType entityId) (·.entitySequence) (·.previousEntityEventDigest)
    ((head.map (·.entitySequence)).getD 0) (head.map (·.eventDigest)) items

/-- The history of an entity, oldest event first. -/
def Chain (s : RegistryStore D) (registryType : RegistryType) (entityId : String)
    (items : List (RegistryEvent D)) : Prop :=
  Linked (s.eventOf registryType entityId) (·.entitySequence) (·.previousEntityEventDigest)
    (s.lastSequence registryType entityId) (s.lastDigest registryType entityId) items

/-- The invariant of the store. -/
structure Valid (s : RegistryStore D) : Prop where
  named : ∀ digest event, s.objects digest = some event → event.digest = digest
  placed : ∀ file ∈ s.heads, file.path = file.head.path
  chain : ∀ registryType entityId, ∃ items, s.Chain registryType entityId items

theorem initial_valid : (initial : RegistryStore D).Valid where
  named := by simp [initial]
  placed := by simp [initial]
  chain := fun _ _ => ⟨[], .genesis⟩

/-- A process without the lock only adds events. -/
structure Free (s t : RegistryStore D) : Prop where
  grown : Grows s.objects t.objects
  heads : t.heads = s.heads

/-- One append: the head of the event's entity moves to the event. -/
structure Appends (s t : RegistryStore D) (event : RegistryEvent D) : Prop where
  object : s.objects event.digest = some event
  sequence : event.entitySequence = s.lastSequence event.registryType event.entityId + 1
  previous : event.previousEntityEventDigest = s.lastDigest event.registryType event.entityId
  result : t = s.replaceHead event.head

/-- One operation, with or without the lock. -/
structure Act (s t : RegistryStore D) : Prop where
  grown : Grows s.objects t.objects
  heads : t.heads = s.heads ∨ ∃ event, Appends s t event

omit [LinearOrder D] [Sha256 D] in
theorem Free.refl (s : RegistryStore D) : Free s s := ⟨.refl _, rfl⟩

omit [LinearOrder D] [Sha256 D] in
theorem Free.trans (first : Free s t) (second : Free t u) : Free s u :=
  ⟨first.grown.trans second.grown, second.heads.trans first.heads⟩

theorem Free.act (free : Free s t) : Act s t := ⟨free.grown, .inl free.heads⟩

omit [LinearOrder D] [Sha256 D] in
theorem eventOf_mono (grown : Grows s.objects t.objects) :
    Grows (s.eventOf registryType entityId) (t.eventOf registryType entityId) := by
  intro digest event found
  obtain ⟨stored, mine⟩ := eventOf_iff.mp found
  exact eventOf_iff.mpr ⟨grown _ _ stored, mine⟩

theorem headAt_of_heads (same : t.heads = s.heads) :
    t.headAt registryType entityId = s.headAt registryType entityId := by
  rw [headAt, headAt, same]

theorem Chain.grown (chain : s.Chain registryType entityId items)
    (grown : Grows s.objects t.objects)
    (still : t.headAt registryType entityId = s.headAt registryType entityId) :
    t.Chain registryType entityId items := by
  unfold Chain lastSequence lastDigest
  rw [still]
  exact chain.mono (eventOf_mono grown)

theorem headAt_replaceHead_self (head : RegistryEntityHead D) :
    (s.replaceHead head).headAt head.registryType head.entityId = some head := by
  simp [headAt, replaceHead, Keyed.find_append, Keyed.find_singleton, HeadFile.path]

theorem headAt_replaceHead_other (head : RegistryEntityHead D)
    (other : ¬(registryType = head.registryType ∧ entityId = head.entityId)) :
    (s.replaceHead head).headAt registryType entityId = s.headAt registryType entityId := by
  have elsewhere : ¬(head.registryType, (headName head.registryType head.entityId : D)) =
      (registryType, headName registryType entityId) := by
    intro same
    obtain ⟨-, names⟩ := Prod.mk.inj same
    obtain ⟨types, ids⟩ := headName_inj names
    exact other ⟨types.symm, ids.symm⟩
  simp [headAt, replaceHead, Keyed.find_append, Keyed.find_singleton, HeadFile.path, elsewhere]

/-- An append adds its event to the history of its entity. -/
theorem Appends.chain (appends : Appends s t event)
    (chain : s.Chain event.registryType event.entityId items) :
    t.Chain event.registryType event.entityId (items ++ [event]) := by
  obtain ⟨object, sequence, previous, rfl⟩ := appends
  have last : (s.replaceHead event.head).headAt event.registryType event.entityId =
      some event.head := headAt_replaceHead_self event.head
  unfold Chain lastSequence lastDigest
  rw [last]
  have rest : Linked (s.eventOf event.registryType event.entityId) (·.entitySequence)
      (·.previousEntityEventDigest) (s.lastSequence event.registryType event.entityId)
      event.previousEntityEventDigest items := by
    rw [previous]
    exact chain
  have linked := Linked.next (eventOf_iff.mpr ⟨object, rfl, rfl⟩) sequence rest
  rw [← sequence] at linked
  exact linked

/-- The other histories stay. -/
theorem Appends.chain_other (appends : Appends s t event)
    (other : ¬(registryType = event.registryType ∧ entityId = event.entityId))
    (chain : s.Chain registryType entityId items) : t.Chain registryType entityId items := by
  obtain ⟨-, -, -, rfl⟩ := appends
  exact chain.grown (.refl _) (headAt_replaceHead_other event.head other)

theorem Appends.valid (appends : Appends s t event) (valid : s.Valid) : t.Valid where
  named := by
    obtain ⟨-, -, -, rfl⟩ := appends
    exact valid.named
  placed := by
    obtain ⟨-, -, -, rfl⟩ := appends
    intro file member
    rcases List.mem_append.mp member with old | new
    · exact valid.placed file old
    · obtain rfl := List.mem_singleton.mp new
      rfl
  chain := by
    intro registryType entityId
    obtain ⟨items, chain⟩ := valid.chain registryType entityId
    by_cases same : registryType = event.registryType ∧ entityId = event.entityId
    · obtain ⟨rfl, rfl⟩ := same
      exact ⟨_, appends.chain chain⟩
    · exact ⟨items, appends.chain_other same chain⟩

theorem Free.valid (free : Free s t) (valid : s.Valid)
    (named : ∀ digest event, t.objects digest = some event → event.digest = digest) :
    t.Valid where
  named := named
  placed := by
    rw [free.heads]
    exact valid.placed
  chain := by
    intro registryType entityId
    obtain ⟨items, chain⟩ := valid.chain registryType entityId
    exact ⟨items, chain.grown free.grown (headAt_of_heads free.heads)⟩

/-- The registry discipline. -/
def discipline : Discipline (RegistryStore D) where
  inv := Valid
  free := Free
  act := Act
  free_refl := Free.refl
  free_trans := Free.trans
  act_of_free := Free.act

theorem held_grown (held : discipline.held s t) : Grows s.objects t.objects := by
  induction held with
  | refl => exact .refl _
  | tail _ act ih => exact ih.trans act.grown

theorem env_grown {locked : Bool} (moves : discipline.env locked s t) :
    Grows s.objects t.objects := by
  cases locked
  · exact held_grown moves
  · exact Free.grown moves

/-- One operation extends a history by at most one event. -/
theorem Act.chain (act : Act s t) (chain : s.Chain registryType entityId items) :
    t.Chain registryType entityId items ∨ ∃ event, Appends s t event ∧
      t.Chain registryType entityId (items ++ [event]) := by
  rcases act.heads with still | ⟨event, appends⟩
  · exact .inl (chain.grown act.grown (headAt_of_heads still))
  · by_cases same : registryType = event.registryType ∧ entityId = event.entityId
    · obtain ⟨rfl, rfl⟩ := same
      exact .inr ⟨event, appends, appends.chain chain⟩
    · exact .inl (appends.chain_other same chain)

theorem held_chain (held : discipline.held s t) (chain : s.Chain registryType entityId items) :
    ∃ later, t.Chain registryType entityId later ∧ items <+: later := by
  induction held with
  | refl => exact ⟨items, chain, List.prefix_rfl⟩
  | tail _ act ih =>
      obtain ⟨later, chain', extends_⟩ := ih
      rcases act.chain chain' with same | ⟨event, -, longer⟩
      · exact ⟨later, same, extends_⟩
      · exact ⟨_, longer, extends_.trans (List.prefix_append _ _)⟩

/-- The event is in the history of its entity. -/
def Holding (event : RegistryEvent D) (s : RegistryStore D) : Prop :=
  ∃ items, s.Chain event.registryType event.entityId items ∧ event ∈ items

theorem Holding.held (holding : Holding event s) (held : discipline.held s t) : Holding event t := by
  obtain ⟨items, chain, member⟩ := holding
  obtain ⟨later, chain', extends_⟩ := held_chain held chain
  exact ⟨later, chain', extends_.subset member⟩

/-- Every event of a history is an event of its entity. -/
theorem Chain.entity (chain : s.Chain registryType entityId items) (member : event ∈ items) :
    event.registryType = registryType ∧ event.entityId = entityId := by
  obtain ⟨key, found, -⟩ := chain.of_mem member
  exact (eventOf_iff.mp found).2

/-- A history ends in the event that the head cites. -/
theorem Chain.head_event {head : RegistryEntityHead D}
    (chain : s.Chain registryType entityId items)
    (last : s.headAt registryType entityId = some head) : ∃ event, items.getLast? = some event ∧
      s.eventOf registryType entityId head.eventDigest = some event ∧
      event.entitySequence = head.entitySequence := by
  unfold Chain lastSequence lastDigest at chain
  rw [last] at chain
  generalize count : ((some head).map (·.entitySequence)).getD 0 = n at chain
  cases chain with
  | next found position => exact ⟨_, by simp, found, position.trans count.symm⟩

end RegistryStore
end CsdFoundry.Registry
