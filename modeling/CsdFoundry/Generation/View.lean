import CsdFoundry.Registry.Typed

/-! The read-only view of a registry at the head set of one generation. Events are read from the
store of the registry, heads are not. -/
namespace CsdFoundry.Generation
open Registry Storage RegistryStore Prog
variable {D : Type} [LinearOrder D] [DigestText D] [Sha256 D]

structure GenerationRegistryView (D : Type) where
  registryType : RegistryType
  heads : List (RegistryEntityHead D)

/-- The loop of `_walk_chain` is that of `reconstruct_entity`, under codes of its own. -/
def walkCode : RegistryError → RegistryError
  | .conflict "REGISTRY_EVENT_CYCLE" none => .conflict "D5_VIEW_EVENT_CYCLE" none
  | .conflict "REGISTRY_CHAIN_EVENT_MISSING" none => .conflict "D5_VIEW_EVENT_MISSING" none
  | .conflict "REGISTRY_CHAIN_ENTITY_MISMATCH" none => .conflict "D5_VIEW_CHAIN_ENTITY_MISMATCH" none
  | .conflict "REGISTRY_CHAIN_SEQUENCE_MISMATCH" none =>
      .conflict "D5_VIEW_CHAIN_SEQUENCE_MISMATCH" none
  | .conflict "REGISTRY_CHAIN_NOT_GENESIS_LINKED" none =>
      .conflict "D5_VIEW_CHAIN_NOT_GENESIS_LINKED" none
  | e => e

namespace GenerationRegistryView
variable (view : GenerationRegistryView D)

/-- `_heads`, a dictionary by entity. -/
def head (entityId : String) : Option (RegistryEntityHead D) :=
  Keyed.find (·.entityId) view.heads entityId

/-- `sorted(self._heads.values(), key=lambda item: item.entity_id)`. -/
def sortedHeads : List (RegistryEntityHead D) :=
  byEntity (Keyed.entries (·.entityId) view.heads)

def requireType (registryType : RegistryType) : RegistryM D Unit :=
  .require (registryType = view.registryType) (.store "D5_VIEW_REGISTRY_TYPE_MISMATCH")

def append (_event : RegistryEvent D) : RegistryM D (RegistryAppendResult D) :=
  throw (.store "D5_GENERATION_VIEW_APPEND_FORBIDDEN")

def getEvent (digest : D) : RegistryM D (Option (RegistryEvent D)) := Registry.getEvent digest

def entityHead (registryType : RegistryType) (entityId : String) :
    RegistryM D (Option (RegistryEntityHead D)) := do
  view.requireType registryType
  return view.head entityId

def snapshot (registryType : RegistryType) : RegistryM D (RegistrySnapshot D) := do
  view.requireType registryType
  lift (RegistrySnapshot.create registryType view.sortedHeads
    (snapshotRoot registryType view.sortedHeads))

/-- `_walk_chain`. -/
def walkChain (head : RegistryEntityHead D) : RegistryM D (List (RegistryEvent D)) :=
  (chainOf view.registryType head.entityId (some head)).andThen fun result =>
    .done (result.mapError walkCode)

def reconstructEntity (registryType : RegistryType) (entityId : String) :
    RegistryM D (List (RegistryEvent D)) := do
  view.requireType registryType
  match view.head entityId with
  | none => return []
  | some head => view.walkChain head

def walkChains : List (RegistryEntityHead D) → RegistryM D (List (List (RegistryEvent D)))
  | [] => pure []
  | head :: heads => do
      let first ← view.walkChain head
      return first :: (← walkChains heads)

def reconstructSnapshot (registryType : RegistryType) :
    RegistryM D (List (List (RegistryEvent D))) := do
  view.requireType registryType
  view.walkChains view.sortedHeads

end GenerationRegistryView

variable {s t : RegistryStore D} {view : GenerationRegistryView D} {entityId : String}
  {head : RegistryEntityHead D} {items : List (RegistryEvent D)}

omit [LinearOrder D] [DigestText D] [Sha256 D] in
theorem sortedHeads_ascending : Ascending view.sortedHeads :=
  byEntity_ascending Keyed.nodup_entries

/-! ### What reads that succeed have seen -/

theorem walkChain_ok (ran : (view.walkChain head).exec s = (.ok items, t)) :
    s.HeadChain view.registryType head.entityId (some head) items ∧ s = t := by
  unfold GenerationRegistryView.walkChain at ran
  rw [exec_andThen] at ran
  obtain ⟨converted, rfl⟩ := Prod.mk.inj ran
  obtain ⟨chain, same⟩ := chainOf_ok (Prod.ext (Results.mapError_ok.mp converted) rfl)
  exact ⟨chain, same⟩

theorem walkChains_ok {heads : List (RegistryEntityHead D)}
    (ran : (view.walkChains heads).exec s = (.ok histories, t)) :
    List.Forall₂ (fun head items => s.HeadChain view.registryType head.entityId (some head) items)
      heads histories ∧ s = t := by
  induction heads generalizing histories t with
  | nil =>
      cases ran
      exact ⟨.nil, rfl⟩
  | cons head heads ih =>
      obtain ⟨items, u, first, rest⟩ := exec_bind_ok_iff.mp ran
      obtain ⟨chain, rfl⟩ := walkChain_ok first
      obtain ⟨others, v, walked, last⟩ := exec_bind_ok_iff.mp rest
      obtain ⟨chains, rfl⟩ := ih walked
      cases last
      exact ⟨.cons chain chains, rfl⟩

theorem viewReconstructSnapshot_ok {registryType : RegistryType}
    (ran : (view.reconstructSnapshot registryType).exec s = (.ok histories, t)) :
    registryType = view.registryType ∧ List.Forall₂ (fun head items =>
      s.HeadChain view.registryType head.entityId (some head) items) view.sortedHeads histories ∧
      s = t := by
  obtain ⟨_, u, first, rest⟩ := exec_bind_ok_iff.mp ran
  obtain ⟨typed, rfl⟩ := exec_require_iff.mp first
  exact ⟨typed, walkChains_ok rest⟩

theorem viewSnapshot_ok {registryType : RegistryType} {snap : RegistrySnapshot D}
    (ran : (view.snapshot registryType).exec s = (.ok snap, t)) :
    snap.rootDigest = snapshotRoot registryType view.sortedHeads ∧
      (∀ head ∈ view.sortedHeads, head.registryType = registryType) ∧ s = t := by
  obtain ⟨_, u, first, rest⟩ := exec_bind_ok_iff.mp ran
  obtain ⟨-, rfl⟩ := exec_require_iff.mp first
  obtain ⟨created, rfl⟩ := Prod.mk.inj rest
  unfold RegistrySnapshot.create at created
  split_ifs at created with ordered distinct typed
  cases created
  exact ⟨rfl, typed, rfl⟩

theorem still_viewSnapshot {registryType : RegistryType} : (view.snapshot registryType).Still :=
  .bind (.done _) fun _ => .done _

theorem still_viewReconstructSnapshot {registryType : RegistryType} :
    (view.reconstructSnapshot registryType).Still := by
  refine .bind (.done _) fun _ => ?_
  induction view.sortedHeads with
  | nil => exact .done _
  | cons head heads ih =>
      have walk : (view.walkChain head).Still :=
        Within.andThen (Uses.of_quiet (quiet_chainOf _) rfl) fun _ _ => True.intro
      exact .bind walk fun _ => .bind ih fun _ => .done _

end CsdFoundry.Generation
