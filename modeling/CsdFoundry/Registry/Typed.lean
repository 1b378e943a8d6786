import CsdFoundry.Results
import CsdFoundry.Storage.Confined
import CsdFoundry.Registry.Lifecycles
import CsdFoundry.Registry.History

/-! The typed registries over one store. `apply` reads the head, reconstructs the history,
reduces and appends, each under its own lock. -/
namespace CsdFoundry.Registry
open Storage RegistryStore
open Storage.Discipline (After)
open Evidence (EvidenceUnit)
open Assumptions (Assumption)
open AlternativeModels (AlternativeModel)
variable {D : Type} [LinearOrder D] [DigestText D] [Sha256 D]

/-- The code raised when the events of a known head project to nothing. -/
def idempotentProjectionMissing : RegistryType → String
  | .evidenceUnit => "EVIDENCE_IDEMPOTENT_PROJECTION_MISSING"
  | .assumption => "ASSUMPTION_IDEMPOTENT_PROJECTION_MISSING"
  | .alternativeModel => "ALTERNATIVE_MODEL_IDEMPOTENT_PROJECTION_MISSING"

def current (type : RegistryType) (entityId : String) : RegistryM D (Option (State D type)) := do
  entityError (project type (← reconstructEntity type entityId))

/-- The state to return when the head cites the event already. -/
def known (type : RegistryType) : Option (State D type) → RegistryM D (State D type)
  | none => throw (.entity (idempotentProjectionMissing type))
  | some state => pure state

def apply (type : RegistryType) (event : RegistryEvent D) : RegistryM D (State D type) := do
  let head ← entityHead type event.entityId
  if head.map (·.eventDigest) = some event.digest then
    known type (← current type event.entityId)
  else
    let previous ← current type event.entityId
    let projected ← entityError (reduce type previous event)
    let _ ← append event
    return projected

def EvidenceRegistry.current : String → RegistryM D (Option (EvidenceUnit D)) :=
  Registry.current .evidenceUnit

def EvidenceRegistry.apply : RegistryEvent D → RegistryM D (EvidenceUnit D) :=
  Registry.apply .evidenceUnit

def AssumptionRegistry.current : String → RegistryM D (Option (Assumption D)) :=
  Registry.current .assumption

def AssumptionRegistry.apply : RegistryEvent D → RegistryM D (Assumption D) :=
  Registry.apply .assumption

def AlternativeModelRegistry.current : String → RegistryM D (Option (AlternativeModel D)) :=
  Registry.current .alternativeModel

def AlternativeModelRegistry.apply : RegistryEvent D → RegistryM D (AlternativeModel D) :=
  Registry.apply .alternativeModel

/-- Every history is accepted by its reducer. -/
def Reducible (s : RegistryStore D) : Prop :=
  ∀ type entityId items, s.Chain type entityId items → ∃ state, project type items = .ok state

/-- The registry discipline, on stores of reducible histories. -/
abbrev typedDiscipline : Discipline (RegistryStore D) := discipline.confined Reducible

/-- The update leaves the heads alone. -/
def KeepsHeads (update : RegistryStore D → RegistryStore D) : Prop :=
  ∀ s, (update s).heads = s.heads

/-- The update leaves the heads alone, or moves the head of the event's entity to it. -/
def AppendsOnly (event : RegistryEvent D) (update : RegistryStore D → RegistryStore D) : Prop :=
  KeepsHeads update ∨ update = replaceHead event.head

variable {s t u : RegistryStore D} {type : RegistryType} {entityId : String}
  {event : RegistryEvent D} {items found later : List (RegistryEvent D)} {locked : Bool}

theorem initial_reducible : Reducible (initial : RegistryStore D) := by
  intro type entityId items chain
  cases chain
  exact ⟨none, project_eq type []⟩

theorem Reducible.keeps_heads (reducible : Reducible s) (valid : s.Valid)
    (grown : Grows s.objects t.objects) (same : t.heads = s.heads) : Reducible t := by
  intro type entityId items chain
  obtain ⟨items', chain'⟩ := valid.chain type entityId
  obtain rfl := Linked.unique chain (chain'.grown grown (headAt_of_heads same))
  exact reducible type entityId items chain'

/-- A move of the head to an event is the append of that event. -/
theorem appends_of_act (act : Act s (s.replaceHead event.head)) :
    Appends s (s.replaceHead event.head) event := by
  rcases act.heads with same | ⟨other, appends⟩
  · simp [replaceHead] at same
  · have cited : event.digest = other.digest := by
      have heads := congrArg RegistryStore.heads appends.result
      simp only [replaceHead, List.append_cancel_left_eq, List.cons.injEq, HeadFile.mk.injEq,
        and_true] at heads
      exact congrArg RegistryEntityHead.eventDigest heads.2.2
    obtain rfl := RegistryEvent.digest_inj cited
    exact appends

/-- The caller of `append` has reduced the event from the history before it. -/
structure Prepared (type : RegistryType) (event : RegistryEvent D)
    (found : List (RegistryEvent D)) (projected : State D type) (s : RegistryStore D) : Prop where
  registryType : event.registryType = type
  before : ∃ n, event.entitySequence = n + 1 ∧ Linked (s.eventOf type event.entityId)
    (·.entitySequence) (·.previousEntityEventDigest) n event.previousEntityEventDigest found
  accepted : project type (found ++ [event]) = .ok (some projected)

theorem Prepared.grown {projected : State D type}
    (prepared : Prepared type event found projected s) (grown : Grows s.objects t.objects) :
    Prepared type event found projected t := by
  obtain ⟨typed, ⟨n, position, linked⟩, accepted⟩ := prepared
  exact ⟨typed, ⟨n, position, linked.mono (eventOf_mono grown)⟩, accepted⟩

/-- What was reduced from is how the history begins that holds the event. -/
theorem Prepared.begins {projected : State D type}
    (prepared : Prepared type event found projected s) (chain : s.Chain type event.entityId items)
    (member : event ∈ items) : found ++ [event] <+: items := by
  obtain ⟨-, ⟨n, position, linked⟩, -⟩ := prepared
  obtain ⟨-, -, m, before, position', -, linked', begins⟩ := Linked.of_mem chain member
  obtain rfl : m = n := by omega
  rwa [linked.unique linked']

/-- So the append of the event keeps every history reducible. -/
theorem Prepared.append {projected : State D type}
    (prepared : Prepared type event found projected s) (valid : s.Valid) (reducible : Reducible s)
    (appends : Appends s t event) : Reducible t := by
  obtain ⟨rfl, ⟨n, position, linked⟩, accepted⟩ := prepared
  intro type entityId items chain
  obtain ⟨items', chain'⟩ := valid.chain type entityId
  by_cases own : type = event.registryType ∧ entityId = event.entityId
  · obtain ⟨rfl, rfl⟩ := own
    obtain rfl := Linked.unique chain (appends.chain chain')
    have place : n = s.lastSequence event.registryType event.entityId := by
      have next := appends.sequence
      omega
    rw [place, appends.previous] at linked
    obtain rfl := linked.unique chain'
    exact ⟨_, accepted⟩
  · obtain rfl := Linked.unique chain (appends.chain_other own chain')
    exact reducible type entityId items chain'

/-! ### The updates that the operations use -/

theorem still_snapshot : (snapshot type : RegistryM D _).Still :=
  .locked (.of_quiet quiet_snapshotUnlocked rfl)

theorem still_entityHead : (entityHead type entityId : RegistryM D _).Still :=
  .bind (.done _) fun _ => .locked (.of_quiet quiet_readHead rfl)

theorem still_reconstructEntity : (reconstructEntity type entityId : RegistryM D _).Still :=
  .bind still_entityHead fun head => .of_quiet (quiet_chainOf head) rfl

theorem still_reconstructSnapshot : (reconstructSnapshot type : RegistryM D _).Still := by
  refine .bind still_snapshot fun snap => ?_
  induction snap.heads with
  | nil => exact .done _
  | cons head heads ih => exact .bind still_reconstructEntity fun _ => .bind ih fun _ => .done _

omit [LinearOrder D] [Sha256 D] in
theorem keepsHeads_of_still {α : Type} {p : RegistryM D α} (still : p.Still) : p.Uses KeepsHeads :=
  still.imp fun _ same => same ▸ fun _ => rfl

theorem uses_install (event : RegistryEvent D) : (install event).Uses KeepsHeads := by
  refine .bind (.of_quiet (.read _ _) fun _ => rfl) fun stored => ?_
  cases stored with
  | some stored => exact .done _
  | none =>
      refine .atomically fun s => ?_
      split <;> rfl

theorem uses_append (event : RegistryEvent D) : (append event).Uses (AppendsOnly event) := by
  have still : AppendsOnly event id := .inl fun _ => rfl
  have advances : ∀ expected cited, (advance event expected cited).Uses (AppendsOnly event) :=
    fun _ _ => .bind (.done _) fun _ => .bind (.done _) fun _ =>
      .bind (.atomically (.inr rfl)) fun _ => .done _
  refine .bind (.done _) fun _ => .bind ?_ fun _ => .locked (.bind (.of_quiet quiet_readHead still) ?_)
  · exact (uses_install event).imp fun _ => .inl
  · intro head
    cases head with
    | none => exact advances _ _
    | some head =>
        simp only
        split
        · exact .bind (.done _) fun _ => .done _
        · exact advances _ _

end CsdFoundry.Registry
