import CsdFoundry.Registry.Appended
import CsdFoundry.Registry.Snapshot

/-! The head sets of a generation: what D5 computes from the heads of its predecessor and the events
of a plan is what the registry has after the events are appended. -/
namespace CsdFoundry.Generation
open Registry Storage RegistryStore
variable {D : Type}

/-- The head that an event leaves, of the registry that is projected. -/
def headOf [DigestText D] [Sha256 D] (type : RegistryType) (event : RegistryEvent D) : RegistryEntityHead D :=
  { event.head with registryType := type }

/-- `_projected_heads`, whose dictionary is keyed by entity. -/
def projectedHeads [DigestText D] [Sha256 D] (currentHeads : List (RegistryEntityHead D))
    (events : List (RegistryEvent D)) (type : RegistryType) : List (RegistryEntityHead D) :=
  byEntity (Keyed.entries (·.entityId) (currentHeads ++ events.map (headOf type)))

variable [LinearOrder D] [DigestText D] [Sha256 D] {s : RegistryStore D} {type : RegistryType}
  {heads : List (RegistryEntityHead D)} {event : RegistryEvent D} {events : List (RegistryEvent D)}

/-- The list, read as a dictionary, has the heads of the registry. -/
def Shows (type : RegistryType) (heads : List (RegistryEntityHead D)) (s : RegistryStore D) : Prop :=
  ∀ entityId, Keyed.find (·.entityId) heads entityId = s.headAt type entityId

theorem typeHeads_shows (valid : s.Valid) : Shows type (s.typeHeads type) s := by
  intro entityId
  have distinct : ((s.typeHeads type).map (·.entityId)).Nodup := by
    have ascending : Ascending (s.typeHeads type) := valid.typeHeads_ascending
    rw [List.Nodup, List.pairwise_map]
    exact ascending.imp fun below => below.ne
  apply Option.ext
  intro head
  constructor
  · intro found
    obtain ⟨-, last⟩ := valid.mem_typeHeads.mp (Keyed.mem_of_find found)
    have key : head.entityId = entityId := Keyed.key_of_find found
    rwa [key] at last
  · intro last
    obtain ⟨typed, id, -⟩ := valid.headAt_iff.mp last
    subst id
    exact Keyed.find_of_mem distinct (valid.mem_typeHeads.mpr ⟨typed, last⟩)

/-- One event moves the head of its entity in the dictionary as an append does in the registry. -/
theorem Shows.next (shows_ : Shows type heads s) (typed : event.registryType = type) :
    Shows type (heads ++ [headOf type event]) (committed event s) := by
  intro entityId
  subst typed
  rw [Keyed.find_append, Keyed.find_singleton, shows_ entityId]
  have key : (headOf event.registryType event).entityId = event.entityId := rfl
  rw [key]
  by_cases own : event.entityId = entityId
  · subst own
    rw [if_pos rfl]
    exact (headAt_replaceHead_self event.head).symm
  · rw [if_neg own, Option.none_or]
    exact (committed_other fun same => own same.2.symm).symm

theorem Shows.appended (shows_ : Shows type heads s)
    (typed : ∀ event ∈ events, event.registryType = type) :
    Shows type (heads ++ events.map (headOf type)) (appended events s) := by
  induction events generalizing heads s with
  | nil => simpa [Registry.appended] using shows_
  | cons event events ih =>
      have rest := ih (shows_.next (typed event (by simp)))
        fun other member => typed other (by simp [member])
      rw [List.map_cons, List.append_cons]
      exact rest

/-- The heads of a registry are those of any list that shows them, by entity. -/
theorem Shows.typeHeads (shows_ : Shows type heads s) (valid : s.Valid) :
    byEntity (Keyed.entries (·.entityId) heads) = s.typeHeads type := by
  have first : Ascending (byEntity (Keyed.entries (·.entityId) heads)) :=
    byEntity_ascending Keyed.nodup_entries
  refine first.eq_of_mem_iff valid.typeHeads_ascending fun head => ?_
  rw [mem_byEntity, Keyed.mem_entries, valid.mem_typeHeads]
  constructor
  · intro found
    have last : s.headAt type head.entityId = some head := (shows_ head.entityId).symm.trans found
    exact ⟨(valid.headAt_iff.mp last).1, last⟩
  · rintro ⟨-, last⟩
    exact (shows_ head.entityId).trans last

/-- The heads that D5 derives from a plan are those of the registry after its events. -/
theorem projectedHeads_eq (shows_ : Shows type heads s) (valid : (appended events s).Valid)
    (typed : ∀ event ∈ events, event.registryType = type) :
    projectedHeads heads events type = (appended events s).typeHeads type :=
  (shows_.appended typed).typeHeads valid

end CsdFoundry.Generation
