import Mathlib.Data.List.Induction
import CsdFoundry.Synthesis.ChoiceEncoding
import CsdFoundry.Synthesis.Identities

/-! The records of an identity ledger do not depend on the order of its allocations, and the replay
accepts them in any order. -/
namespace CsdFoundry.Synthesis.Identities
open Results KeyedSort
open Choices hiding GenerationNamespace require
open Choices.HashBytes (sha256)

/-! ### Computations on the ledger -/

section Programs
variable {ledger next : IdentityLedger} {failure : IdentityFailure}

@[simp] theorem exec_pure (value : α) : LedgerM.exec (pure value) ledger = (.ok value, ledger) := rfl

@[simp] theorem exec_lift (result : Except IdentityFailure α) :
    (liftExcept result).exec ledger = (result, ledger) := rfl

theorem exec_lift_bind (result : Except IdentityFailure α) (rest : α → LedgerM β) :
    LedgerM.exec (liftExcept result >>= rest) ledger = match result with
      | .ok value => (rest value).exec ledger
      | .error failure => (.error failure, ledger) := by
  cases result <;> rfl

theorem exec_raiseIf_bind (condition : Prop) [Decidable condition] (rest : Unit → LedgerM β) :
    LedgerM.exec (raiseIf condition failure >>= rest) ledger =
      if condition then (.error failure, ledger) else (rest ()).exec ledger := by
  unfold raiseIf
  split <;> rfl

theorem exec_get_bind (rest : IdentityLedger → LedgerM β) :
    LedgerM.exec (get >>= rest) ledger = (rest ledger).exec ledger := rfl

end Programs

section Dicts
variable {items : List (String × α)} {key other : String} {value : α}

theorem lookup_assign : lookup (assign items key value) other =
    if key = other then some value else lookup items other := by
  unfold lookup assign
  rw [Keyed.find_append, Keyed.find_singleton]
  split <;> simp_all

theorem lookup_eq_none : lookup items key = none ↔ key ∉ items.map (·.1) := by
  rw [lookup, Option.map_eq_none_iff, Keyed.find_eq_none, List.mem_map]
  simp only [not_exists, not_and, ne_eq]

end Dicts

/-! ### One allocation -/

section Ledgers
variable [HashBytes] {seed : RootSeed} {generationNamespace : GenerationNamespace}
  {request : IdentityRequest} {identity answer : EntityIdentity} {record : IdentityRecord}
  {ledger after : IdentityLedger} {key : String} {failure : IdentityFailure}

/-- The key and the record that the ledger will hold, when nothing is against them. -/
def admission (generationNamespace : GenerationNamespace) (request : IdentityRequest)
    (identity : EntityIdentity) (ledger : IdentityLedger) :
    Except IdentityFailure (String × IdentityRecord) := do
  let key ← requestKey request
  require (¬ (lookup ledger.records key).isSome)
    (.duplicateRole "semantic identity role has already been allocated")
  let namespaceDigest ← generationNamespace.digest
  require (¬ identity.generationNamespaceDigest ≠ namespaceDigest)
    (.identity "identity belongs to a different generation namespace")
  require (¬ ∃ owner ∈ lookup ledger.fullDigests identity.fullDigest, owner ≠ key)
    (.collision "distinct identity roles share a full digest")
  require (¬ ∃ owner ∈ lookup ledger.displayIds identity.displayId, owner ≠ key)
    (.collision "distinct identity roles share a display identifier")
  let record ← IdentityRecord.create request identity
  return (key, record)

def IdentityLedger.add (ledger : IdentityLedger) (key : String) (record : IdentityRecord) :
    IdentityLedger where
  records := assign ledger.records key record
  fullDigests := assign ledger.fullDigests record.identity.fullDigest key
  displayIds := assign ledger.displayIds record.identity.displayId key

omit [HashBytes] in
theorem create_ok : IdentityRecord.create request identity = .ok record ↔
    record.request = request ∧ record.identity = identity := by
  unfold IdentityRecord.create
  split
  · rw [Except.ok.injEq]
    constructor
    · rintro rfl
      exact ⟨rfl, rfl⟩
    · rintro ⟨rfl, rfl⟩
      rfl
  · rename_i differ
    simp only [reduceCtorEq, false_iff, not_and]
    rintro rfl rfl
    exact differ record.sameKind

omit [HashBytes] in
theorem require_not_bind (condition : Prop) [Decidable condition]
    (rest : Unit → Except IdentityFailure β) : (require (¬ condition) failure >>= rest) =
      if condition then .error failure else rest () := by
  unfold require
  by_cases held : condition
  · rw [if_neg (not_not_intro held), if_pos held]
    rfl
  · rw [if_pos held, if_neg held]
    rfl

/-- All the checks come before the first change. -/
theorem exec_recordIdentity : (recordIdentity generationNamespace request identity).exec ledger =
    match admission generationNamespace request identity ledger with
    | .ok (key, record) => (.ok record.identity, ledger.add key record)
    | .error failure => (.error failure, ledger) := by
  unfold recordIdentity admission
  rw [exec_lift_bind]
  cases requestKey request with
  | error failure => rfl
  | ok key =>
      rw [Results.ok_bind]
      simp only [exec_get_bind, exec_raiseIf_bind, require_not_bind]
      split
      · rfl
      rw [exec_lift_bind]
      cases generationNamespace.digest with
      | error failure => rfl
      | ok namespaceDigest =>
          rw [Results.ok_bind]
          simp only [exec_raiseIf_bind]
          split
          · rfl
          split
          · rfl
          split
          · rfl
          rw [exec_lift_bind]
          cases created : IdentityRecord.create request identity with
          | error failure => rfl
          | ok record =>
              obtain ⟨-, rfl⟩ := create_ok.mp created
              rfl

/-- The entry that an allocation adds. -/
def allocation (seed : RootSeed) (generationNamespace : GenerationNamespace)
    (request : IdentityRequest) (ledger : IdentityLedger) :
    Except IdentityFailure (String × IdentityRecord) := do
  let identity ← deriveIdentity seed generationNamespace request
  admission generationNamespace request identity ledger

theorem exec_allocate : (allocate seed generationNamespace request).exec ledger =
    match allocation seed generationNamespace request ledger with
    | .ok (key, record) => (.ok record.identity, ledger.add key record)
    | .error failure => (.error failure, ledger) := by
  unfold allocate allocation
  rw [exec_lift_bind]
  cases deriveIdentity seed generationNamespace request with
  | error failure => rfl
  | ok identity => exact exec_recordIdentity

/-- An allocation that raises changes nothing. -/
theorem allocate_error
    (raised : (allocate seed generationNamespace request).exec ledger = (.error failure, after)) :
    after = ledger := by
  rw [exec_allocate] at raised
  cases made : allocation seed generationNamespace request ledger with
  | error other =>
      rw [made] at raised
      exact (Prod.mk.inj raised).2.symm
  | ok entry =>
      rw [made] at raised
      cases (Prod.mk.inj raised).1

/-- What an allocation that succeeds has checked. -/
structure Admitted (seed : RootSeed) (generationNamespace : GenerationNamespace)
    (request : IdentityRequest) (ledger : IdentityLedger) (key : String) (record : IdentityRecord) :
    Prop where
  own : record.request = request
  keyed : requestKey request = .ok key
  derived : deriveIdentity seed generationNamespace request = .ok record.identity
  member : generationNamespace.digest = .ok record.identity.generationNamespaceDigest
  fresh : key ∉ ledger.records.map (·.1)
  full : ∀ owner ∈ lookup ledger.fullDigests record.identity.fullDigest, owner = key
  display : ∀ owner ∈ lookup ledger.displayIds record.identity.displayId, owner = key

theorem admission_ok : admission generationNamespace request identity ledger = .ok (key, record) ↔
    requestKey request = .ok key ∧ key ∉ ledger.records.map (·.1) ∧
      generationNamespace.digest = .ok identity.generationNamespaceDigest ∧
      (∀ owner ∈ lookup ledger.fullDigests identity.fullDigest, owner = key) ∧
      (∀ owner ∈ lookup ledger.displayIds identity.displayId, owner = key) ∧
      record.request = request ∧ record.identity = identity := by
  have checked : ∀ {condition : Prop} [Decidable condition] {failure : IdentityFailure}
      {rest : Unit → Except IdentityFailure (String × IdentityRecord)},
      (require condition failure >>= rest) = .ok (key, record) ↔
        condition ∧ rest () = .ok (key, record) := by
    intro condition _ failure rest
    exact ensure_bind
  rw [admission, bind_ok]
  simp only [checked, bind_ok, create_ok, pure, Except.pure, Except.ok.injEq, Prod.mk.injEq,
    Option.not_isSome_iff_eq_none, lookup_eq_none, ne_eq, not_not, not_exists, not_and]
  constructor
  · rintro ⟨_, keyed, fresh, _, digest, same, full, display, _, ⟨own, made⟩, rfl, rfl⟩
    exact ⟨keyed, fresh, digest.trans (by rw [same]), full, display, own, made⟩
  · rintro ⟨keyed, fresh, digest, full, display, own, made⟩
    exact ⟨key, keyed, fresh, _, digest, rfl, full, display, record, ⟨own, made⟩, rfl, rfl⟩

theorem allocation_ok : allocation seed generationNamespace request ledger = .ok (key, record) ↔
    Admitted seed generationNamespace request ledger key record := by
  rw [allocation, bind_ok]
  simp only [admission_ok]
  constructor
  · rintro ⟨identity, derived, keyed, fresh, member, full, display, own, rfl⟩
    exact ⟨own, keyed, derived, member, fresh, full, display⟩
  · intro admitted
    exact ⟨_, admitted.derived, admitted.keyed, admitted.fresh, admitted.member, admitted.full,
      admitted.display, admitted.own, rfl⟩

/-! ### The invariant of a ledger -/

/-- The dict of one of the names of identities lists the owners of the names in use. -/
def Owned (name : EntityIdentity → String) (records : List (String × IdentityRecord))
    (owners : List (String × String)) : Prop :=
  ∀ text owner, lookup owners text = some owner ↔
    ∃ entry ∈ records, entry.1 = owner ∧ name entry.2.identity = text

omit [HashBytes] in
theorem Owned.add {name : EntityIdentity → String} {records : List (String × IdentityRecord)}
    {owners : List (String × String)} (owned : Owned name records owners)
    (fresh : key ∉ records.map (·.1))
    (free : ∀ owner ∈ lookup owners (name record.identity), owner = key) :
    Owned name (assign records key record) (assign owners (name record.identity) key) := by
  have unused : ∀ entry ∈ records, name entry.2.identity ≠ name record.identity := by
    intro entry member same
    have found : lookup owners (name record.identity) = some entry.1 :=
      (owned _ _).mpr ⟨entry, member, rfl, same⟩
    exact fresh (List.mem_map.mpr ⟨entry, member, free entry.1 found⟩)
  intro text owner
  rw [lookup_assign]
  split
  · rename_i same
    subst same
    rw [Option.some.injEq]
    constructor
    · rintro rfl
      exact ⟨(key, record), List.mem_append_right _ List.mem_cons_self, rfl, rfl⟩
    · rintro ⟨entry, member, rfl, shared⟩
      rcases List.mem_append.mp member with old | new
      · exact absurd shared (unused entry old)
      · rw [List.mem_singleton.mp new]
  · rename_i differ
    rw [owned]
    constructor
    · rintro ⟨entry, member, facts⟩
      exact ⟨entry, List.mem_append_left _ member, facts⟩
    · rintro ⟨entry, member, rfl, rfl⟩
      rcases List.mem_append.mp member with old | new
      · exact ⟨entry, old, rfl, rfl⟩
      · rw [List.mem_singleton.mp new] at differ
        exact absurd rfl differ

/-- What every allocation keeps: the records are derived, under the keys of their requests, and the
other dicts list their digests and display forms. -/
structure Kept (seed : RootSeed) (generationNamespace : GenerationNamespace)
    (ledger : IdentityLedger) : Prop where
  distinct : (ledger.records.map (·.1)).Nodup
  keyed : ∀ entry ∈ ledger.records, requestKey entry.2.request = .ok entry.1
  derived : ∀ entry ∈ ledger.records,
    deriveIdentity seed generationNamespace entry.2.request = .ok entry.2.identity
  full : Owned EntityIdentity.fullDigest ledger.records ledger.fullDigests
  display : Owned EntityIdentity.displayId ledger.records ledger.displayIds

theorem Kept.empty : Kept seed generationNamespace .empty := by
  have nothing : ∀ name : EntityIdentity → String, Owned name [] [] := by
    intro name text owner
    simp [lookup, Keyed.find_nil]
  exact ⟨List.nodup_nil, List.forall_mem_nil _, List.forall_mem_nil _, nothing _, nothing _⟩

theorem Kept.add (kept : Kept seed generationNamespace ledger)
    (admitted : Admitted seed generationNamespace request ledger key record) :
    Kept seed generationNamespace (ledger.add key record) where
  distinct := by
    rw [IdentityLedger.add, assign, List.map_append, List.nodup_append_comm]
    exact List.nodup_cons.mpr ⟨admitted.fresh, kept.distinct⟩
  keyed := by
    intro entry member
    rcases List.mem_append.mp member with old | new
    · exact kept.keyed entry old
    · rw [List.mem_singleton.mp new, admitted.own]
      exact admitted.keyed
  derived := by
    intro entry member
    rcases List.mem_append.mp member with old | new
    · exact kept.derived entry old
    · rw [List.mem_singleton.mp new, admitted.own]
      exact admitted.derived
  full := kept.full.add admitted.fresh admitted.full
  display := kept.display.add admitted.fresh admitted.display

theorem requestKey_eq : requestKey request = request.bytes.map fun bytes => hex (sha256 bytes) := by
  unfold requestKey IdentityRequest.bytes jsonDigest
  cases jsonBytes request.json <;> rfl

namespace Kept
variable {other : IdentityLedger}

/-- No two entries share a key, and so no two share a digest or a display form. -/
theorem entry_unique (kept : Kept seed generationNamespace ledger) {a b : String × IdentityRecord}
    (inA : a ∈ ledger.records) (inB : b ∈ ledger.records) (same : a.1 = b.1) : a = b :=
  List.inj_on_of_nodup_map kept.distinct inA inB same

theorem owned_unique (kept : Kept seed generationNamespace ledger)
    {name : EntityIdentity → String} {owners : List (String × String)}
    (owned : Owned name ledger.records owners) {a b : String × IdentityRecord}
    (inA : a ∈ ledger.records) (inB : b ∈ ledger.records)
    (same : name a.2.identity = name b.2.identity) : a = b := by
  have first : lookup owners (name b.2.identity) = some a.1 := (owned _ _).mpr ⟨a, inA, rfl, same⟩
  have second : lookup owners (name b.2.identity) = some b.1 := (owned _ _).mpr ⟨b, inB, rfl, rfl⟩
  exact kept.entry_unique inA inB (Option.some.inj (first.symm.trans second))

/-- The records, in the order of their allocation. -/
theorem values_perm (kept : Kept seed generationNamespace ledger) :
    ((Keyed.entries (·.1) ledger.records).map (·.2)).Perm (ledger.records.map (·.2)) := by
  apply List.Perm.map
  rw [List.perm_ext_iff_of_nodup (List.Nodup.of_map _ Keyed.nodup_entries)
    (List.Nodup.of_map _ kept.distinct)]
  intro entry
  rw [Keyed.mem_entries]
  constructor
  · exact Keyed.mem_of_find
  · exact Keyed.find_of_mem kept.distinct

theorem records_nodup (kept : Kept seed generationNamespace ledger) :
    (ledger.records.map (·.2)).Nodup := by
  refine (List.nodup_map_iff_inj_on (List.Nodup.of_map _ kept.distinct)).mpr ?_
  intro a inA b inB same
  apply kept.entry_unique inA inB
  exact Except.ok.inj ((kept.keyed a inA).symm.trans (same ▸ kept.keyed b inB))

/-- The request decides the record. -/
theorem record_mem (kept : Kept seed generationNamespace ledger)
    (kept' : Kept seed generationNamespace other)
    (requests : ∀ request ∈ ledger.records.map (·.2.request),
      request ∈ other.records.map (·.2.request)) :
    ∀ record ∈ ledger.records.map (·.2), record ∈ other.records.map (·.2) := by
  intro record member
  obtain ⟨entry, inside, rfl⟩ := List.mem_map.mp member
  obtain ⟨entry', inside', own⟩ := List.mem_map.mp
    (requests _ (List.mem_map.mpr ⟨entry, inside, rfl⟩))
  have identity := kept'.derived entry' inside'
  rw [own, kept.derived entry inside] at identity
  exact List.mem_map.mpr ⟨entry', inside', IdentityRecord.ext own (Except.ok.inj identity).symm⟩

/-- Two ledgers of the same requests have the same records. -/
theorem records_perm (kept : Kept seed generationNamespace ledger)
    (kept' : Kept seed generationNamespace other)
    (same : ∀ request, request ∈ ledger.records.map (·.2.request) ↔
      request ∈ other.records.map (·.2.request)) :
    (ledger.records.map (·.2)).Perm (other.records.map (·.2)) := by
  rw [List.perm_ext_iff_of_nodup kept.records_nodup kept'.records_nodup]
  exact fun record => ⟨kept.record_mem kept' (fun request => (same request).mp) record,
    kept'.record_mem kept (fun request => (same request).mpr) record⟩

/-- Requests with the same bytes have the same key. -/
theorem bytes_unique (kept : Kept seed generationNamespace ledger) :
    ∀ a ∈ ledger.records.map (·.2), ∀ b ∈ ledger.records.map (·.2),
      a.request.bytes = b.request.bytes → a = b := by
  intro a inA b inB same
  obtain ⟨entry, inside, rfl⟩ := List.mem_map.mp inA
  obtain ⟨entry', inside', rfl⟩ := List.mem_map.mp inB
  have key := kept.keyed entry inside
  rw [requestKey_eq, same, ← requestKey_eq, kept.keyed entry' inside'] at key
  rw [kept.entry_unique inside inside' (Except.ok.inj key).symm]

theorem bytes_exist (kept : Kept seed generationNamespace ledger) :
    ∀ record ∈ ledger.records.map (·.2), ∃ bytes, record.request.bytes = .ok bytes := by
  intro record member
  obtain ⟨entry, inside, rfl⟩ := List.mem_map.mp member
  have key := kept.keyed entry inside
  rw [requestKey_eq] at key
  cases encoded : entry.2.request.bytes with
  | error failure =>
      rw [encoded] at key
      cases key
  | ok bytes => exact ⟨bytes, rfl⟩

theorem sortedRecords_eq (kept : Kept seed generationNamespace ledger) :
    ∃ ordered, ledger.sortedRecords = .ok ordered ∧
      canonicalIdentityRecords (ledger.records.map (·.2)) = .ok ordered := by
  obtain ⟨ordered, sorted⟩ := sortedBy_exists kept.bytes_exist
  exact ⟨ordered, sortedBy_exchange kept.values_perm.symm kept.bytes_unique sorted, sorted⟩

/-- Two ledgers of the same requests list the same records and have the same digest. -/
theorem commitment_eq (kept : Kept seed generationNamespace ledger)
    (kept' : Kept seed generationNamespace other)
    (same : ∀ request, request ∈ ledger.records.map (·.2.request) ↔
      request ∈ other.records.map (·.2.request)) :
    ledger.sortedRecords = other.sortedRecords ∧
      ledger.canonicalDigest = other.canonicalDigest := by
  obtain ⟨ordered, listed, sorted⟩ := kept.sortedRecords_eq
  obtain ⟨ordered', listed', sorted'⟩ := kept'.sortedRecords_eq
  have exchanged := sortedBy_exchange (kept.records_perm kept' same) kept.bytes_unique sorted
  obtain rfl := Except.ok.inj (exchanged.symm.trans sorted')
  have equal : ledger.sortedRecords = other.sortedRecords := listed.trans listed'.symm
  refine ⟨equal, ?_⟩
  rw [IdentityLedger.canonicalDigest, IdentityLedger.canonicalDigest, equal]

end Kept

/-! ### Sequences of allocations -/

/-- The requests that were allocated so far, and the ledger. -/
def allocateNext (seed : RootSeed) (generationNamespace : GenerationNamespace)
    (state : List IdentityRequest × IdentityLedger) (request : IdentityRequest) :
    List IdentityRequest × IdentityLedger :=
  let outcome := (allocate seed generationNamespace request).exec state.2
  (if outcome.1.toBool then state.1 ++ [request] else state.1, outcome.2)

/-- Allocations one after the other, whether they raise or not. -/
def allocateAll (seed : RootSeed) (generationNamespace : GenerationNamespace)
    (requests : List IdentityRequest) : List IdentityRequest × IdentityLedger :=
  requests.foldl (allocateNext seed generationNamespace) ([], .empty)

variable {requests earlier : List IdentityRequest}

theorem allocateNext_ok
    (made : allocation seed generationNamespace request ledger = .ok (key, record)) :
    allocateNext seed generationNamespace (earlier, ledger) request =
      (earlier ++ [request], ledger.add key record) := by
  unfold allocateNext
  rw [exec_allocate, made]
  rfl

theorem allocateNext_error
    (raised : allocation seed generationNamespace request ledger = .error failure) :
    allocateNext seed generationNamespace (earlier, ledger) request = (earlier, ledger) := by
  unfold allocateNext
  rw [exec_allocate, raised]
  rfl

/-- What a sequence of allocations has made so far. -/
structure Tracks (seed : RootSeed) (generationNamespace : GenerationNamespace)
    (state : List IdentityRequest × IdentityLedger) : Prop where
  kept : Kept seed generationNamespace state.2
  recorded : state.2.records.map (·.2.request) = state.1

theorem Tracks.next {state : List IdentityRequest × IdentityLedger}
    (tracks : Tracks seed generationNamespace state) :
    Tracks seed generationNamespace (allocateNext seed generationNamespace state request) := by
  obtain ⟨earlier, ledger⟩ := state
  cases made : allocation seed generationNamespace request ledger with
  | error failure =>
      rw [allocateNext_error made]
      exact tracks
  | ok entry =>
      have admitted := allocation_ok.mp made
      rw [allocateNext_ok made]
      refine ⟨tracks.kept.add admitted, ?_⟩
      have recorded : ledger.records.map (·.2.request) = earlier := tracks.recorded
      rw [IdentityLedger.add, assign, List.map_append, recorded, List.map_singleton, admitted.own]

/-- The records are those of the requests that were allocated. -/
theorem allocateAll_tracks (requests : List IdentityRequest) :
    Tracks seed generationNamespace (allocateAll seed generationNamespace requests) := by
  unfold allocateAll
  induction requests using List.reverseRecOn with
  | nil => exact ⟨Kept.empty, rfl⟩
  | append_singleton requests request ih =>
      rw [List.foldl_concat]
      exact ih.next

/-- Distinct requests that the ledger will not hold together. -/
def Collides (seed : RootSeed) (generationNamespace : GenerationNamespace)
    (request other : IdentityRequest) : Prop :=
  (∃ key, requestKey request = .ok key ∧ requestKey other = .ok key) ∨
    ∃ identity identity', deriveIdentity seed generationNamespace request = .ok identity ∧
      deriveIdentity seed generationNamespace other = .ok identity' ∧
      (identity.fullDigest = identity'.fullDigest ∨ identity.displayId = identity'.displayId)

/-- The request has an identity of the namespace. -/
def Derivable (seed : RootSeed) (generationNamespace : GenerationNamespace)
    (request : IdentityRequest) : Prop :=
  (∃ key, requestKey request = .ok key) ∧ ∃ record : IdentityRecord, record.request = request ∧
    deriveIdentity seed generationNamespace request = .ok record.identity ∧
    generationNamespace.digest = .ok record.identity.generationNamespaceDigest

theorem Kept.admitted_new (kept : Kept seed generationNamespace ledger)
    (admitted : Admitted seed generationNamespace request ledger key record) :
    request ∉ ledger.records.map (·.2.request) := by
  intro present
  obtain ⟨entry, inside, own⟩ := List.mem_map.mp present
  have earlier := kept.keyed entry inside
  rw [own, admitted.keyed] at earlier
  exact admitted.fresh (List.mem_map.mpr ⟨entry, inside, (Except.ok.inj earlier).symm⟩)

/-- A request is allocated once. -/
theorem Kept.allocate_again (kept : Kept seed generationNamespace ledger)
    (present : request ∈ ledger.records.map (·.2.request)) :
    ∃ failure, (allocate seed generationNamespace request).exec ledger = (.error failure, ledger) := by
  rw [exec_allocate]
  cases made : allocation seed generationNamespace request ledger with
  | error failure => exact ⟨failure, rfl⟩
  | ok entry => exact absurd present (kept.admitted_new (allocation_ok.mp made))

/-- Without collisions a request is allocated unless it was before. -/
theorem Kept.allocation_iff (kept : Kept seed generationNamespace ledger)
    (apart : ∀ other ∈ ledger.records.map (·.2.request), other ≠ request →
      ¬ Collides seed generationNamespace other request) :
    (∃ entry, allocation seed generationNamespace request ledger = .ok entry) ↔
      Derivable seed generationNamespace request ∧
        request ∉ ledger.records.map (·.2.request) := by
  constructor
  · rintro ⟨⟨key, record⟩, made⟩
    have admitted := allocation_ok.mp made
    exact ⟨⟨⟨key, admitted.keyed⟩, record, admitted.own, admitted.derived, admitted.member⟩,
      kept.admitted_new admitted⟩
  · rintro ⟨⟨⟨key, keyed⟩, record, own, derived, member⟩, new⟩
    have differs : ∀ entry ∈ ledger.records, entry.2.request ≠ request := by
      rintro entry inside rfl
      exact new (List.mem_map.mpr ⟨entry, inside, rfl⟩)
    have clear : ∀ entry ∈ ledger.records,
        ¬ Collides seed generationNamespace entry.2.request request := fun entry inside =>
      apart _ (List.mem_map.mpr ⟨entry, inside, rfl⟩) (differs entry inside)
    refine ⟨(key, record), allocation_ok.mpr ⟨own, keyed, derived, member, ?_, ?_, ?_⟩⟩
    · intro present
      obtain ⟨entry, inside, rfl⟩ := List.mem_map.mp present
      exact clear entry inside (.inl ⟨entry.1, kept.keyed entry inside, keyed⟩)
    · intro owner found
      obtain ⟨entry, inside, -, shared⟩ := (kept.full _ _).mp found
      exact absurd (.inr ⟨_, _, kept.derived entry inside, derived, .inl shared⟩)
        (clear entry inside)
    · intro owner found
      obtain ⟨entry, inside, -, shared⟩ := (kept.display _ _).mp found
      exact absurd (.inr ⟨_, _, kept.derived entry inside, derived, .inr shared⟩)
        (clear entry inside)

/-- Without collisions the requests that have an identity are allocated, each once. -/
theorem mem_allocateAll (requests : List IdentityRequest)
    (apart : ∀ a ∈ requests, ∀ b ∈ requests, a ≠ b → ¬ Collides seed generationNamespace a b) :
    ∀ other, other ∈ (allocateAll seed generationNamespace requests).1 ↔
      other ∈ requests ∧ Derivable seed generationNamespace other := by
  induction requests using List.reverseRecOn with
  | nil => simp [allocateAll]
  | append_singleton requests request ih =>
      intro other
      have before := ih fun a inA b inB =>
        apart a (List.mem_append_left _ inA) b (List.mem_append_left _ inB)
      have tracks : Tracks seed generationNamespace (allocateAll seed generationNamespace requests) :=
        allocateAll_tracks requests
      rw [allocateAll, List.foldl_concat, ← allocateAll]
      generalize allocateAll seed generationNamespace requests = state at before tracks ⊢
      obtain ⟨earlier, ledger⟩ := state
      have recorded : ledger.records.map (·.2.request) = earlier := tracks.recorded
      have separate : ∀ other ∈ ledger.records.map (·.2.request), other ≠ request →
          ¬ Collides seed generationNamespace other request := fun other inside differ =>
        apart other (List.mem_append_left _ ((before other).mp (recorded ▸ inside)).1) request
          (List.mem_append_right _ List.mem_cons_self) differ
      have decided := tracks.kept.allocation_iff separate
      rw [recorded, before] at decided
      rw [List.mem_append, List.mem_singleton]
      cases made : allocation seed generationNamespace request ledger with
      | error failure =>
          have refused : Derivable seed generationNamespace request → request ∈ requests := by
            intro derivable
            by_contra new
            obtain ⟨_, impossible⟩ := decided.mpr ⟨derivable, fun old => new old.1⟩
            rw [made] at impossible
            cases impossible
          rw [allocateNext_error made, before]
          constructor
          · exact fun old => ⟨.inl old.1, old.2⟩
          · rintro ⟨old | rfl, derivable⟩
            · exact ⟨old, derivable⟩
            · exact ⟨refused derivable, derivable⟩
      | ok entry =>
          have derivable := (decided.mp ⟨entry, made⟩).1
          rw [allocateNext_ok made, List.mem_append, List.mem_singleton, before]
          constructor
          · rintro (old | rfl)
            · exact ⟨.inl old.1, old.2⟩
            · exact ⟨.inr rfl, derivable⟩
          · rintro ⟨old | rfl, derivable⟩
            · exact .inl ⟨old, derivable⟩
            · exact .inr rfl

/-! ### The replay -/

variable {scan next : ReplayScan} {records records' ordered listed : List IdentityRecord}

omit [HashBytes] in
theorem require_bind {condition : Prop} [Decidable condition]
    {rest : Unit → Except IdentityFailure α} {value : α} :
    (require condition failure >>= rest) = .ok value ↔ condition ∧ rest () = .ok value :=
  ensure_bind

omit [HashBytes] in
theorem require_ok {condition : Prop} [Decidable condition] {value : Unit} :
    require condition failure = .ok value ↔ condition := by
  unfold require
  split <;> simp_all

theorem replayRecord_ok : replayRecord seed generationNamespace scan record = .ok next ↔
    ∃ bytes, record.request.bytes = .ok bytes ∧ bytes ∉ scan.requests ∧
      deriveIdentity seed generationNamespace record.request = .ok record.identity ∧
      record.identity.fullDigest ∉ scan.fullDigests ∧
      record.identity.displayId ∉ scan.displayIds ∧
      next = ⟨bytes :: scan.requests, record.identity.fullDigest :: scan.fullDigests,
        record.identity.displayId :: scan.displayIds⟩ := by
  rw [replayRecord, bind_ok]
  simp only [bind_ok, require_ok, exists_const, pure, Except.pure, Except.ok.injEq]
  constructor
  · rintro ⟨bytes, encoded, new, _, derived, rfl, full, display, rfl⟩
    exact ⟨bytes, encoded, new, derived, full, display, rfl⟩
  · rintro ⟨bytes, encoded, new, derived, full, display, rfl⟩
    exact ⟨bytes, encoded, new, _, derived, rfl, full, display, rfl⟩

/-- Two records that a ledger can hold together. -/
def Apart (a b : IdentityRecord) : Prop :=
  a.request.bytes ≠ b.request.bytes ∧ a.identity.fullDigest ≠ b.identity.fullDigest ∧
    a.identity.displayId ≠ b.identity.displayId

/-- What the replay establishes about the records, in whatever order. -/
structure Replays (seed : RootSeed) (generationNamespace : GenerationNamespace)
    (records : List IdentityRecord) : Prop where
  encoded : ∀ record ∈ records, ∃ bytes, record.request.bytes = .ok bytes
  derived : ∀ record ∈ records,
    deriveIdentity seed generationNamespace record.request = .ok record.identity
  apart : records.Pairwise Apart

instance : Std.Symm Apart :=
  ⟨fun _ _ apart => ⟨apart.1.symm, apart.2.1.symm, apart.2.2.symm⟩⟩

theorem Replays.perm (replays : Replays seed generationNamespace records)
    (same : records.Perm records') : Replays seed generationNamespace records' :=
  ⟨fun record member => replays.encoded record (same.mem_iff.mpr member),
    fun record member => replays.derived record (same.mem_iff.mpr member),
    replays.apart.perm same fun apart => Std.Symm.symm _ _ apart⟩

/-- The scan has not met the record, nor what it may not share. -/
def Unseen (scan : ReplayScan) (record : IdentityRecord) : Prop :=
  (∀ bytes ∈ scan.requests, record.request.bytes ≠ .ok bytes) ∧
    record.identity.fullDigest ∉ scan.fullDigests ∧ record.identity.displayId ∉ scan.displayIds

theorem replay_fold : (∃ last, records.foldlM (replayRecord seed generationNamespace) scan =
    .ok last) ↔ Replays seed generationNamespace records ∧ ∀ record ∈ records, Unseen scan record := by
  induction records generalizing scan with
  | nil =>
      have empty : Replays seed generationNamespace [] :=
        ⟨List.forall_mem_nil _, List.forall_mem_nil _, .nil⟩
      exact ⟨fun _ => ⟨empty, List.forall_mem_nil _⟩, fun _ => ⟨scan, rfl⟩⟩
  | cons record records ih =>
      rw [List.foldlM_cons]
      have later : ∀ {bytes}, record.request.bytes = .ok bytes → ∀ other,
          Unseen ⟨bytes :: scan.requests, record.identity.fullDigest :: scan.fullDigests,
            record.identity.displayId :: scan.displayIds⟩ other ↔
            Apart record other ∧ Unseen scan other := by
        intro bytes encoded other
        simp only [Unseen, Apart, List.mem_cons, not_or, encoded, ne_eq]
        grind
      constructor
      · rintro ⟨last, folded⟩
        obtain ⟨next, first, rest⟩ := bind_ok.mp folded
        obtain ⟨bytes, encoded, new, derived, full, display, rfl⟩ := replayRecord_ok.mp first
        obtain ⟨replays, unseen⟩ := ih.mp ⟨last, rest⟩
        have separate := fun other member => (later encoded other).mp (unseen other member)
        refine ⟨⟨?_, ?_, ?_⟩, ?_⟩
        · exact List.forall_mem_cons.mpr ⟨⟨bytes, encoded⟩, replays.encoded⟩
        · exact List.forall_mem_cons.mpr ⟨derived, replays.derived⟩
        · exact List.pairwise_cons.mpr ⟨fun other member => (separate other member).1, replays.apart⟩
        · refine List.forall_mem_cons.mpr ⟨⟨?_, full, display⟩, fun other member =>
            (separate other member).2⟩
          rintro known inside same
          rw [encoded] at same
          cases same
          exact new inside
      · rintro ⟨replays, unseen⟩
        obtain ⟨⟨bytes, encoded⟩, encodes⟩ := List.forall_mem_cons.mp replays.encoded
        obtain ⟨derived, derives⟩ := List.forall_mem_cons.mp replays.derived
        obtain ⟨separate, apart⟩ := List.pairwise_cons.mp replays.apart
        obtain ⟨⟨new, full, display⟩, others⟩ := List.forall_mem_cons.mp unseen
        obtain ⟨last, folded⟩ := ih.mpr ⟨⟨encodes, derives, apart⟩, fun other member =>
          (later encoded other).mpr ⟨separate other member, others other member⟩⟩
        exact ⟨last, bind_ok.mpr ⟨_, replayRecord_ok.mpr ⟨bytes, encoded,
          fun inside => new bytes inside encoded, derived, full, display, rfl⟩, folded⟩⟩

theorem recordsDigest_digest {digest : String} (computed : recordsDigest records = .ok digest) :
    isHexDigest digest = true := by
  obtain ⟨bytes, -, hashed⟩ := bind_ok.mp (mapError_ok.mp computed)
  cases hashed
  exact isHexDigest_hex (HashBytes.length_sha256 _)

theorem replayIdentityRecords_ok {expected digest : String} :
    replayIdentityRecords seed generationNamespace records expected = .ok digest ↔
      digest = expected ∧ ∃ ordered, canonicalIdentityRecords records = .ok ordered ∧
        Replays seed generationNamespace ordered ∧ recordsDigest ordered = .ok expected := by
  rw [replayIdentityRecords, require_bind]
  simp only [bind_ok, require_ok, exists_const, pure, Except.pure, Except.ok.injEq]
  constructor
  · rintro ⟨-, ordered, sorted, last, folded, _, computed, rfl, rfl⟩
    exact ⟨rfl, ordered, sorted, (replay_fold.mp ⟨last, folded⟩).1, computed⟩
  · rintro ⟨rfl, ordered, sorted, replays, computed⟩
    obtain ⟨last, folded⟩ := replay_fold.mpr ⟨replays, fun record member =>
      (⟨nofun, List.not_mem_nil, List.not_mem_nil⟩ : Unseen ⟨[], [], []⟩ record)⟩
    exact ⟨recordsDigest_digest computed, ordered, sorted, last, folded, _, computed, rfl, rfl⟩

/-- The records of a ledger replay. -/
theorem Kept.replays (kept : Kept seed generationNamespace ledger) :
    Replays seed generationNamespace (ledger.records.map (·.2)) where
  encoded := kept.bytes_exist
  derived := by
    intro record member
    obtain ⟨entry, inside, rfl⟩ := List.mem_map.mp member
    exact kept.derived entry inside
  apart := by
    rw [List.pairwise_map]
    refine (List.Nodup.of_map _ kept.distinct).imp_of_mem fun {a b} inA inB differ => ⟨?_, ?_, ?_⟩
    · intro same
      apply differ
      apply kept.entry_unique inA inB
      have key := kept.keyed a inA
      rw [requestKey_eq, same, ← requestKey_eq, kept.keyed b inB] at key
      exact (Except.ok.inj key).symm
    · exact fun same => differ (kept.owned_unique kept.full inA inB same)
    · exact fun same => differ (kept.owned_unique kept.display inA inB same)

/-- An identity that is derived names the digest of the namespace. -/
theorem derived_member (derived : deriveIdentity seed generationNamespace request = .ok identity) :
    generationNamespace.digest = .ok identity.generationNamespaceDigest := by
  rw [deriveIdentity, bind_ok] at derived
  obtain ⟨material, -, derived⟩ := derived
  obtain ⟨digest, -, derived⟩ := bind_ok.mp derived
  rw [identityFromDigest, require_bind] at derived
  obtain ⟨namespaceDigest, computed, created⟩ := bind_ok.mp derived.2
  rw [computed]
  unfold EntityIdentity.create at created
  split_ifs at created
  cases created
  rfl

theorem derivable_of_derived {bytes : List UInt8} (encoded : record.request.bytes = .ok bytes)
    (derived : deriveIdentity seed generationNamespace record.request = .ok record.identity) :
    Derivable seed generationNamespace record.request := by
  have keyed : requestKey record.request = .ok (hex (sha256 bytes)) := by
    rw [requestKey_eq, encoded]
    rfl
  exact ⟨⟨_, keyed⟩, record, rfl, derived, derived_member derived⟩

omit [HashBytes] in
theorem hex_injective : Function.Injective hex := by
  have digits : ∀ m < 16, ∀ n < 16, Nat.digitChar m = Nat.digitChar n → m = n := by decide
  intro a b same
  have letters := congrArg String.toList same
  rw [toList_hex, toList_hex] at letters
  induction a generalizing b with
  | nil =>
      cases b with
      | nil => rfl
      | cons => simp at letters
  | cons byte a ih =>
      cases b with
      | nil => simp at letters
      | cons byte' b =>
          have small := byte.toNat_lt
          have small' := byte'.toNat_lt
          simp only [List.flatMap_cons, List.cons_append, List.nil_append, List.cons.injEq] at letters
          obtain ⟨high, low, rest⟩ := letters
          have quotient := digits _ (by omega) _ (by omega) high
          have remainder := digits _ (by omega) _ (by omega) low
          have bytes : byte = byte' := UInt8.toNat_inj.mp (by omega)
          have others : hex a = hex b := by
            rw [← String.toList_inj, toList_hex, toList_hex, rest]
          rw [bytes, ih others rest]

/-- Records that replay are those of the ledger that allocates their requests, when SHA-256 tells
the requests apart. -/
theorem Replays.allocated (replays : Replays seed generationNamespace records)
    (collision_free : ∀ a ∈ records, ∀ b ∈ records, ∀ first second,
      a.request.bytes = .ok first → b.request.bytes = .ok second → sha256 first = sha256 second →
        first = second) :
    ((allocateAll seed generationNamespace (records.map (·.request))).2.records.map (·.2)).Perm
      records := by
  have separate : ∀ a ∈ records, ∀ b ∈ records, a ≠ b → Apart a b := fun a inA b inB =>
    replays.apart.forall inA inB
  have noCollision : ∀ request ∈ records.map (·.request), ∀ other ∈ records.map (·.request),
      request ≠ other → ¬ Collides seed generationNamespace request other := by
    intro request inside other inside' differ
    obtain ⟨a, inA, rfl⟩ := List.mem_map.mp inside
    obtain ⟨b, inB, rfl⟩ := List.mem_map.mp inside'
    obtain ⟨bytes, full, display⟩ := separate a inA b inB fun same => differ (same ▸ rfl)
    rintro (⟨key, keyed, keyed'⟩ | ⟨identity, identity', derived, derived', shared⟩)
    · obtain ⟨first, encoded⟩ := replays.encoded a inA
      obtain ⟨second, encoded'⟩ := replays.encoded b inB
      rw [requestKey_eq, encoded] at keyed
      rw [requestKey_eq, encoded'] at keyed'
      have hashes : sha256 first = sha256 second :=
        hex_injective ((Except.ok.inj keyed).trans (Except.ok.inj keyed').symm)
      apply bytes
      rw [encoded, encoded', collision_free a inA b inB _ _ encoded encoded' hashes]
    · obtain rfl := Except.ok.inj ((replays.derived a inA).symm.trans derived)
      obtain rfl := Except.ok.inj ((replays.derived b inB).symm.trans derived')
      exact shared.elim full display
  have tracks : Tracks seed generationNamespace _ := allocateAll_tracks (records.map (·.request))
  have requested := mem_allocateAll (records.map (·.request)) noCollision
  rw [← tracks.recorded] at requested
  have distinct : records.Nodup := replays.apart.imp fun {a b} apart same =>
    apart.1 (congrArg (fun record : IdentityRecord => record.request.bytes) same)
  rw [List.perm_ext_iff_of_nodup tracks.kept.records_nodup distinct]
  intro record
  constructor
  · intro member
    obtain ⟨entry, inside, rfl⟩ := List.mem_map.mp member
    have listed := ((requested _).mp (List.mem_map.mpr ⟨entry, inside, rfl⟩)).1
    obtain ⟨origin, inRecords, own⟩ := List.mem_map.mp listed
    have identity := tracks.kept.derived entry inside
    rw [← own, replays.derived origin inRecords] at identity
    rwa [← IdentityRecord.ext own (Except.ok.inj identity)]
  · intro member
    have identity := replays.derived record member
    obtain ⟨bytes, encoded⟩ := replays.encoded record member
    have derivable := derivable_of_derived encoded identity
    obtain ⟨entry, inside, own⟩ := List.mem_map.mp
      ((requested _).mpr ⟨List.mem_map.mpr ⟨record, member, rfl⟩, derivable⟩)
    have same := tracks.kept.derived entry inside
    rw [own, identity] at same
    exact List.mem_map.mpr ⟨entry, inside, IdentityRecord.ext own (Except.ok.inj same).symm⟩

/-- The replay accepts the records of a ledger, in any order, and no others. -/
theorem replay_iff {expected digest : String}
    (collision_free : ∀ a ∈ records, ∀ b ∈ records, ∀ first second,
      a.request.bytes = .ok first → b.request.bytes = .ok second → sha256 first = sha256 second →
        first = second) :
    replayIdentityRecords seed generationNamespace records expected = .ok digest ↔
      digest = expected ∧ ∃ requests listed,
        (allocateAll seed generationNamespace requests).2.sortedRecords = .ok listed ∧
        records.Perm listed ∧
        (allocateAll seed generationNamespace requests).2.canonicalDigest = .ok expected := by
  rw [replayIdentityRecords_ok]
  refine and_congr_right fun _ => ⟨?_, ?_⟩
  · rintro ⟨ordered, sorted, replays, computed⟩
    have perm := sortedBy_perm sorted
    have tracks : Tracks seed generationNamespace _ := allocateAll_tracks (records.map (·.request))
    obtain ⟨listed, lists, canonical⟩ := tracks.kept.sortedRecords_eq
    have allocates := (replays.perm perm).allocated collision_free
    obtain rfl := Except.ok.inj
      ((sortedBy_exchange allocates tracks.kept.bytes_unique canonical).symm.trans sorted)
    exact ⟨_, listed, lists, perm.symm, bind_ok.mpr ⟨_, lists, computed⟩⟩
  · rintro ⟨requests, listed, lists, perm, digested⟩
    have tracks : Tracks seed generationNamespace _ := allocateAll_tracks requests
    obtain ⟨listed', lists', canonical⟩ := tracks.kept.sortedRecords_eq
    obtain rfl := Except.ok.inj (lists'.symm.trans lists)
    obtain ⟨_, lists, computed⟩ := bind_ok.mp digested
    obtain rfl := Except.ok.inj (lists'.symm.trans lists)
    have stored := (sortedBy_perm canonical).symm
    exact ⟨_, sortedBy_exchange (stored.trans perm.symm) tracks.kept.bytes_unique canonical,
      tracks.kept.replays.perm stored, computed⟩

/-- The records and the digest of a ledger are those of the requests it allocated, whatever their
order; without collisions the requests decide what is allocated. An allocation that raises changes
nothing. The replay accepts the records of a ledger in any order, and no others. -/
theorem identity_ledger_order_independent :
    (∀ (seed : RootSeed) (generationNamespace : GenerationNamespace)
      (first second : List IdentityRequest),
      ((∀ request, request ∈ (allocateAll seed generationNamespace first).1 ↔
          request ∈ (allocateAll seed generationNamespace second).1) ∨
        (∀ request, request ∈ first ↔ request ∈ second) ∧
          ∀ a ∈ first, ∀ b ∈ first, a ≠ b → ¬ Collides seed generationNamespace a b) →
      (allocateAll seed generationNamespace first).2.sortedRecords =
        (allocateAll seed generationNamespace second).2.sortedRecords ∧
      (allocateAll seed generationNamespace first).2.canonicalDigest =
        (allocateAll seed generationNamespace second).2.canonicalDigest) ∧
    (∀ (seed : RootSeed) (generationNamespace : GenerationNamespace) (request : IdentityRequest)
      (ledger after : IdentityLedger) (failure : IdentityFailure),
      (allocate seed generationNamespace request).exec ledger = (.error failure, after) →
        after = ledger) ∧
    ∀ (seed : RootSeed) (generationNamespace : GenerationNamespace) (records : List IdentityRecord)
      (expected digest : String),
      (∀ a ∈ records, ∀ b ∈ records, ∀ first second, a.request.bytes = .ok first →
        b.request.bytes = .ok second → sha256 first = sha256 second → first = second) →
      (replayIdentityRecords seed generationNamespace records expected = .ok digest ↔
        digest = expected ∧ ∃ requests listed,
          (allocateAll seed generationNamespace requests).2.sortedRecords = .ok listed ∧
          records.Perm listed ∧
          (allocateAll seed generationNamespace requests).2.canonicalDigest = .ok expected) := by
  refine ⟨?_, fun _ _ _ _ _ _ => allocate_error, fun _ _ _ _ _ => replay_iff⟩
  intro seed generationNamespace first second same
  have tracks : Tracks seed generationNamespace _ := allocateAll_tracks first
  have tracks' : Tracks seed generationNamespace _ := allocateAll_tracks second
  apply tracks.kept.commitment_eq tracks'.kept
  rw [tracks.recorded, tracks'.recorded]
  rcases same with allocated | ⟨requested, apart⟩
  · exact allocated
  · have apart' : ∀ a ∈ second, ∀ b ∈ second, a ≠ b → ¬ Collides seed generationNamespace a b :=
      fun a inA b inB => apart a ((requested a).mpr inA) b ((requested b).mpr inB)
    intro request
    rw [mem_allocateAll first apart, mem_allocateAll second apart', requested]

end Ledgers

/-! Two plans of one attempt, whose records replay in the order that no ledger lists them in. -/
section Sample
open Admission Admission.Value Encoding
open Admission.Value Encoding

def sampleSeed : RootSeed := ⟨List.replicate 32 0, rfl⟩

def zeros : String := "0000000000000000000000000000000000000000000000000000000000000000"

def sampleNamespace : GenerationNamespace where
  release := "v0.4"
  choiceAlgorithmId := "csd-choice-hmac-sha256-rejection"
  choiceAlgorithmVersion := 1
  identityAlgorithmId := "csd-identity-hmac-sha256"
  identityAlgorithmVersion := 1
  identitySchemaVersion := "csd-identity/0.4"
  targetDefinitionDigest := zeros
  releasePolicyDigest := zeros
  arithmeticPolicyDigest := zeros
  replayPolicyId := "csd-replay-contract"
  replayPolicyVersion := 1
  replayPolicyDigest := zeros
  shardPolicyId := "csd-shard-contract"
  shardPolicyVersion := 1
  shardPolicyDigest := zeros
  isRelease := rfl
  isSchema := rfl
  tokens := by decide
  versions := by decide
  digests := by decide

theorem sampleTarget : isToken "target" = true := by decide

theorem sampleIndex : 0 ≤ maxAttemptIndex := by decide

def sampleRequest (ordinal : Nat) (bounded : ordinal ≤ maxRoleOrdinal) : IdentityRequest :=
  ⟨⟨⟨"v0.4", "target", 0, rfl, sampleTarget⟩, 0, sampleIndex⟩, .plan, [.token "plan"], ordinal,
    by decide, by decide, bounded⟩

def firstPlan : IdentityRequest := sampleRequest 0 (by decide)

def secondPlan : IdentityRequest := sampleRequest 10 (by decide)

/-- SHA-256 of the messages that the two identities take, which their lengths tell apart but for the
last step of the two codes. -/
def sampleHashValue (message : List UInt8) : Nat :=
  if message.length = 821 then
    0x50e76f97aaaedb9ef59875a8803785a7da17fe3356212d9597ebca85df296ab2
  else if message.length = 133 then
    0xfa0c1e3da936f9604fc0552c544e7f05ace3888afb7087d9bb9db65834c05463
  else if message.length = 1053 then
    0x67cf85eb7bc8da3294c79ddd42fbdbfc2af0485117325bd8dfe14b183b4d0e49
  else if message.length = 1153 then
    0xae01f435b7ee367f1556bad1c1c838c477537c60ff55fbcb507d4419095fbcf1
  else if message.length = 134 then
    0xb856c2c5c19bd08c6b94b4a1d99785e11655aafa2e102168040b09ac2300f4b2
  else if message.length = 1054 then
    0x31c47312ff2778d69f795fccf0cd24c2ac0e74bd46b34fc81dbadcfe8edd0a26
  else if message.length = 1154 then
    0x9902bc4938445d6b90bf5bc12d7a2aa43a77a5c8c9358a0e196fa33fb0959d11
  else if message.length = 999 then
    0x6d655ffcf9a8d300fe0dc786eccc263252ccf07a881e8a5b50f451d93d3a828d
  else if message.getD 64 0 = 174 then
    0xa430ad1e475e74be7c9bd664d062352d93ddef67706f056c40f7fa7504a79947
  else 0x4f912c8f768c36635f1926ff1edc62ace8b02b0af7ca9e71369940683cbfbcb2

@[reducible]
def identityHash : HashBytes where
  sha256 message := toBigEndian 32 (sampleHashValue message)
  length_sha256 _ := length_toBigEndian _ _

def sampleNamespaceDigest : String :=
  "50e76f97aaaedb9ef59875a8803785a7da17fe3356212d9597ebca85df296ab2"

def firstIdentity : EntityIdentity where
  entityKind := .plan
  fullDigest := "a430ad1e475e74be7c9bd664d062352d93ddef67706f056c40f7fa7504a79947"
  displayId := "pln-v04-a430ad1e475e74be7c9bd664d062352d"
  materialDigest := "67cf85eb7bc8da3294c79ddd42fbdbfc2af0485117325bd8dfe14b183b4d0e49"
  generationNamespaceDigest := sampleNamespaceDigest
  isFull := by decide
  isMaterial := by decide
  isNamespace := by decide
  isDisplay := by decide

def secondIdentity : EntityIdentity where
  entityKind := .plan
  fullDigest := "4f912c8f768c36635f1926ff1edc62ace8b02b0af7ca9e71369940683cbfbcb2"
  displayId := "pln-v04-4f912c8f768c36635f1926ff1edc62ac"
  materialDigest := "31c47312ff2778d69f795fccf0cd24c2ac0e74bd46b34fc81dbadcfe8edd0a26"
  generationNamespaceDigest := sampleNamespaceDigest
  isFull := by decide
  isMaterial := by decide
  isNamespace := by decide
  isDisplay := by decide

def firstRecord : IdentityRecord := ⟨firstPlan, firstIdentity, rfl⟩

def secondRecord : IdentityRecord := ⟨secondPlan, secondIdentity, rfl⟩

def sampleExpected : String := "6d655ffcf9a8d300fe0dc786eccc263252ccf07a881e8a5b50f451d93d3a828d"

/-- Letters that stand in JSON as they are written. -/
def isPlain (letters : List Char) : Bool :=
  letters.all fun c => 44 < c.toNat && c.toNat < 123 && c.toNat != 92

theorem escape_plain {c : Char} (low : 44 < c.toNat) (other : c.toNat ≠ 92) : escape c = [c] := by
  have differs : ∀ d : Char, d.toNat ≤ 44 ∨ d.toNat = 92 → c ≠ d := by
    rintro d bound rfl
    omega
  unfold escape
  rw [if_neg (differs _ (.inl (by decide))), if_neg (differs _ (.inr rfl)),
    if_neg (differs _ (.inl (by decide))), if_neg (differs _ (.inl (by decide))),
    if_neg (differs _ (.inl (by decide))), if_neg (by omega), if_neg (by omega),
    if_neg (by omega)]

theorem length_plain {letters : List Char} (plain : isPlain letters = true) :
    (utf8 (letters.flatMap escape)).length = letters.length := by
  induction letters with
  | nil => rfl
  | cons c letters ih =>
      obtain ⟨here, rest⟩ := Bool.and_eq_true_iff.mp plain
      simp only [Bool.and_eq_true, decide_eq_true_eq, bne_iff_ne] at here
      obtain ⟨⟨low, high⟩, other⟩ := here
      have ascii : c.val ≤ 127 :=
        UInt32.le_iff_toNat_le.mpr (Nat.le_of_lt_succ (by omega : c.toNat < 128))
      have single : (utf8 [c]).length = 1 := by simp [utf8, Char.utf8Size, ascii]
      rw [List.flatMap_cons, escape_plain low other, utf8_append, List.length_append, ih rest, single,
        List.length_cons, Nat.add_comm]

theorem weight_plain {value : String} (plain : isPlain value.toList = true) :
    weight (jsonText value) = value.toList.length + 2 := by
  change (utf8 ([ '"' ] ++ (value.toList.flatMap escape ++ [ '"' ]))).length = _
  rw [utf8_append, utf8_append, List.length_append, List.length_append, length_plain plain]
  change 1 + (_ + 1) = _
  omega

theorem weight_digest {value : String} (digest : isHexDigest value = true) :
    weight (jsonText value) = 66 := by
  obtain ⟨size, digits⟩ := Bool.and_eq_true_iff.mp digest
  have plain : isPlain value.toList = true := by
    refine List.all_eq_true.mpr fun c member => ?_
    have digit := List.all_eq_true.mp digits c member
    simp only [isHexDigit, Char.isDigit, Bool.or_eq_true, Bool.and_eq_true, decide_eq_true_eq,
      Char.le_def, UInt32.le_iff_toNat_le] at digit
    have value : c.val.toNat = c.toNat := rfl
    simp only [Bool.and_eq_true, decide_eq_true_eq, bne_iff_ne]
    simp at digit
    omega
  rw [weight_plain plain, of_decide_eq_true size]

/-- The bytes of a key and its value. -/
structure Sized (member : String × Value) (size : Nat) : Prop where
  sum : weight (jsonText member.1) + weight member.2 = size

theorem Sized.of {key : String} {value : Value} {keySize valueSize size : Nat}
    (keyed : weight (jsonText key) = keySize) (valued : weight value = valueSize)
    (sum : keySize + valueSize = size) : Sized (key, value) size :=
  ⟨by rw [keyed, valued, sum]⟩

theorem weight_of_sizes {members : List (String × Value)} {size : Nat} (sizes : List Nat)
    (total : 1 + max 1 (sizes.map (· + 2)).sum = size) (each : List.Forall₂ Sized members sizes) :
    weight (jsonDict members) = size := by
  have counted : weightMembers (members.map fun member => (.text member.1, member.2)) =
      (sizes.map (· + 2)).sum := by
    clear total
    induction each with
    | nil => rfl
    | @cons member size _ _ sized _ ih =>
        have same := sized.sum
        have first : size + 2 = weight (jsonText member.1) + 1 + weight member.2 + 1 := by omega
        rw [List.map_cons, weightMembers, ih, List.map_cons, List.sum_cons, first]
        rfl
  rw [jsonDict, weight, counted, total]

theorem sampleNumbers : weight (jsonNat 0) = 1 ∧ weight (jsonNat 1) = 1 ∧ weight (jsonNat 10) = 2 ∧
    sampleNamespace.json.every hasDigits = true ∧ firstPlan.json.every hasDigits = true ∧
    secondPlan.json.every hasDigits = true := by decide +kernel

theorem weight_namespace : weight sampleNamespace.json = 820 := by
  have digest := weight_digest (List.all_eq_true.mp sampleNamespace.digests _ List.mem_cons_self)
  exact weight_of_sizes [92, 55, 27, 49, 29, 43, 15, 89, 88, 39, 24, 87, 37, 23, 92] (by decide) <|
    .cons (.of (by decide) digest rfl) <| .cons ⟨by decide⟩ <|
    .cons (.of (by decide) sampleNumbers.2.1 rfl) <| .cons ⟨by decide⟩ <|
    .cons (.of (by decide) sampleNumbers.2.1 rfl) <| .cons ⟨by decide⟩ <| .cons ⟨by decide⟩ <|
    .cons (.of (by decide) digest rfl) <| .cons (.of (by decide) digest rfl) <|
    .cons ⟨by decide⟩ <| .cons (.of (by decide) sampleNumbers.2.1 rfl) <|
    .cons (.of (by decide) digest rfl) <| .cons ⟨by decide⟩ <|
    .cons (.of (by decide) sampleNumbers.2.1 rfl) <| .cons (.of (by decide) digest rfl) .nil

theorem weight_request (ordinal : Nat) (bounded : ordinal ≤ maxRoleOrdinal) {size : Nat}
    (weighs : weight (jsonNat ordinal) = size) :
    weight (sampleRequest ordinal bounded).json = 131 + size :=
  weight_of_sizes [16, 19, 9 + size, 15, 23, 15, 19] (by simp; omega) <|
    .cons (.of (by decide) sampleNumbers.1 rfl) <|
    .cons (.of (by decide) (by decide : weight (jsonText "plan") = 6) rfl) <|
    .cons (.of (by decide) weighs rfl) <|
    .cons (.of (by decide) (by decide : weight (jsonText "v0.4") = 6) rfl) <|
    .cons (.of (by decide) (by decide : weight (.list [jsonText "plan"]) = 8) rfl) <|
    .cons (.of (by decide) sampleNumbers.1 rfl) <|
    .cons (.of (by decide) (by decide : weight (jsonText "target") = 8) rfl) .nil

theorem weight_identity {identity : EntityIdentity}
    (display : weight (jsonText identity.displayId) = 42)
    (kind : weight (jsonText identity.entityKind.value) = 6) : weight identity.json = 341 :=
  weight_of_sizes [54, 19, 79, 95, 83] (by decide) <|
    .cons (.of (by decide) display rfl) <|
    .cons (.of (by decide) kind rfl) <|
    .cons (.of (by decide) (weight_digest identity.isFull) rfl) <|
    .cons (.of (by decide) (weight_digest identity.isNamespace) rfl) <|
    .cons (.of (by decide) (weight_digest identity.isMaterial) rfl) .nil

theorem weight_record (record : IdentityRecord) {size : Nat}
    (identity : weight record.identity.json = 341) (request : weight record.request.json = size) :
    weight record.json = 365 + size :=
  weight_of_sizes [351, 9 + size] (by simp; omega) <|
    .cons (.of (by decide) identity rfl) <| .cons (.of (by decide) request rfl) .nil

theorem weight_records :
    weight (.list ([firstRecord, secondRecord].map IdentityRecord.json)) = 998 := by
  have first := weight_record firstRecord (weight_identity (by decide) (by decide))
    (weight_request 0 (by decide) sampleNumbers.1)
  have second := weight_record secondRecord (weight_identity (by decide) (by decide))
    (weight_request 10 (by decide) sampleNumbers.2.2.1)
  rw [weight, List.map_cons, List.map_cons, weightItems, weightItems, first, second]
  rfl

theorem built_namespace (generationNamespace : GenerationNamespace) :
    WellBuilt generationNamespace.json :=
  .dict (by simp) (by simp [WellBuilt.text, WellBuilt.nat])

theorem built_request (request : IdentityRequest) : WellBuilt request.json := by
  have segments : WellBuilt (.list (request.roleSegments.map ChoiceSegment.json)) :=
    .map _ fun segment => by cases segment <;> constructor <;> rfl
  exact .dict (by simp) (by simp [WellBuilt.text, WellBuilt.nat, segments])

theorem built_identity (identity : EntityIdentity) : WellBuilt identity.json :=
  .dict (by simp) (by simp [WellBuilt.text])

theorem built_record (record : IdentityRecord) : WellBuilt record.json :=
  .dict (by simp) (by simp [built_identity, built_request])

theorem bytes_of_weight {value : Value} {size : Nat} (built : WellBuilt value)
    (digits : value.every hasDigits = true) (weighs : weight value = size) :
    ∃ bytes, jsonBytes value = .ok bytes ∧ bytes.length = size + 1 := by
  obtain ⟨bytes, encoded⟩ := (jsonBytes_exists built).mpr digits
  exact ⟨bytes, encoded, weighs ▸ jsonBytes_length built encoded⟩

theorem material_exists {request : IdentityRequest} {size : Nat}
    (weighs : weight request.json = size) (digits : request.json.every hasDigits = true) :
    ∃ material, canonicalIdentityMaterial sampleNamespace request = .ok material ∧
      material.length = size + 921 := by
  have whole : weight (jsonDict [
      ("algorithm_id", jsonText "csd-identity-hmac-sha256"),
      ("algorithm_version", jsonNat 1),
      ("generation_namespace", sampleNamespace.json),
      ("request", request.json)]) = size + 920 :=
    weight_of_sizes [40, 20, 842, 9 + size] (by simp; omega) <|
      .cons ⟨by decide⟩ <| .cons (.of (by decide) sampleNumbers.2.1 rfl) <|
      .cons (.of (by decide) weight_namespace rfl) <| .cons (.of (by decide) weighs rfl) .nil
  have number : (jsonNat 1).every hasDigits = true :=
    (every_dict.mp sampleNumbers.2.2.2.1).2 (.text "choice_algorithm_version", jsonNat 1)
      (by simp [sampleNamespace])
  obtain ⟨material, encoded, length⟩ := bytes_of_weight
    (.dict (by simp) (by simp [WellBuilt.text, WellBuilt.nat, built_namespace, built_request]))
    (every_dict.mpr ⟨rfl, by simp [number, digits, sampleNumbers.2.2.2.1]; rfl⟩) whole
  exact ⟨material, by rw [canonicalIdentityMaterial, encoded]; rfl, length⟩

/-- The outer message of the HMAC, from the hash of the inner one. -/
def outerHex (inner : Nat) : String :=
  hex (toBigEndian 32 (sampleHashValue (List.replicate 64 0x5c ++ toBigEndian 32 inner)))

def sampleCreate (inner hash : Nat) : Except IdentityFailure EntityIdentity :=
  EntityIdentity.create .plan (outerHex inner) (displayOf .plan (outerHex inner))
    (hex (toBigEndian 32 hash)) sampleNamespaceDigest

theorem sampleHexes :
    hex (toBigEndian 32 0x50e76f97aaaedb9ef59875a8803785a7da17fe3356212d9597ebca85df296ab2) =
      sampleNamespaceDigest ∧
    hex (toBigEndian 32 0x6d655ffcf9a8d300fe0dc786eccc263252ccf07a881e8a5b50f451d93d3a828d) =
      sampleExpected ∧
    sampleCreate 0xae01f435b7ee367f1556bad1c1c838c477537c60ff55fbcb507d4419095fbcf1
      0x67cf85eb7bc8da3294c79ddd42fbdbfc2af0485117325bd8dfe14b183b4d0e49 = .ok firstIdentity ∧
    sampleCreate 0x9902bc4938445d6b90bf5bc12d7a2aa43a77a5c8c9358a0e196fa33fb0959d11
      0x31c47312ff2778d69f795fccf0cd24c2ac0e74bd46b34fc81dbadcfe8edd0a26 = .ok secondIdentity := by
  refine ⟨?_, ?_, ?_, ?_⟩ <;> decide +kernel

theorem sampleNamespace_digest : @GenerationNamespace.digest identityHash sampleNamespace =
    .ok sampleNamespaceDigest := by
  obtain ⟨bytes, encoded, length⟩ := bytes_of_weight (built_namespace sampleNamespace)
    sampleNumbers.2.2.2.1 weight_namespace
  have hashed : sampleHashValue bytes =
      0x50e76f97aaaedb9ef59875a8803785a7da17fe3356212d9597ebca85df296ab2 := if_pos length
  unfold GenerationNamespace.digest jsonDigest
  rw [encoded, ← sampleHexes.1, ← hashed]
  rfl

theorem sampleDigest : @recordsDigest identityHash [firstRecord, secondRecord] =
    .ok sampleExpected := by
  have digits : (Value.list ([firstRecord, secondRecord].map IdentityRecord.json)).every hasDigits =
      true := by
    obtain ⟨-, -, -, -, first, second⟩ := sampleNumbers
    refine every_list.mpr ⟨rfl, ?_⟩
    simp only [List.map_cons, List.map_nil, List.forall_mem_cons]
    exact ⟨every_dict.mpr ⟨rfl, by simpa using ⟨rfl, first⟩⟩,
      every_dict.mpr ⟨rfl, by simpa using ⟨rfl, second⟩⟩, by simp⟩
  obtain ⟨bytes, encoded, length⟩ :=
    bytes_of_weight (.map [firstRecord, secondRecord] built_record) digits weight_records
  have hashed : sampleHashValue bytes =
      0x6d655ffcf9a8d300fe0dc786eccc263252ccf07a881e8a5b50f451d93d3a828d := by
    simp [sampleHashValue, length]
  unfold recordsDigest jsonDigest
  rw [encoded, ← sampleHexes.2.1, ← hashed]
  rfl

theorem derive_of_material [HashBytes] {seed : RootSeed} {generationNamespace : GenerationNamespace}
    {request : IdentityRequest} {material : List UInt8} {name : String}
    (encoded : canonicalIdentityMaterial generationNamespace request = .ok material)
    (small : material.length < 2 ^ 64) (named : generationNamespace.digest = .ok name) :
    deriveIdentity seed generationNamespace request =
      let full := hex (hmacSha256 seed.material
        (identityPrefix ++ toBigEndian 8 material.length ++ material))
      EntityIdentity.create request.entityKind full (displayOf request.entityKind full)
        (hex (sha256 material)) name := by
  have bits : (hmacSha256 seed.material
      (identityPrefix ++ toBigEndian 8 material.length ++ material)).length * 8 = fullDigestBits := by
    rw [length_hmacSha256]
    rfl
  rw [deriveIdentity, encoded]
  change identityDigest seed material >>= _ = _
  rw [identityDigest, require, if_pos small]
  change identityFromDigest generationNamespace request material _ = _
  rw [identityFromDigest, require, if_pos bits, named]
  rfl

/-- The identity from the hashes of its material and of the inner message. -/
theorem derived_sample {ordinal : Nat} {bounded : ordinal ≤ maxRoleOrdinal} {size hash inner : Nat}
    (weighs : weight (jsonNat ordinal) = size)
    (digits : (sampleRequest ordinal bounded).json.every hasDigits = true)
    (hashed : ∀ message : List UInt8, message.length = 1052 + size → sampleHashValue message = hash)
    (nested : ∀ message : List UInt8, message.length = 1152 + size → sampleHashValue message = inner)
    (small : 1052 + size < 2 ^ 64) :
    @deriveIdentity identityHash sampleSeed sampleNamespace (sampleRequest ordinal bounded) =
      sampleCreate inner hash := by
  obtain ⟨material, encoded, length⟩ := material_exists (weight_request ordinal bounded weighs) digits
  have total : material.length = 1052 + size := by omega
  have inside := nested (sampleSeed.material.map (· ^^^ 0x36) ++ List.replicate 32 0x36 ++
    (identityPrefix ++ toBigEndian 8 material.length ++ material)) (by
      have fixed : identityPrefix.length = 28 := by decide
      simp only [List.length_append, List.length_map, List.length_replicate, sampleSeed,
        length_toBigEndian, fixed, total]
      omega)
  rw [@derive_of_material identityHash _ _ _ _ _ encoded (total ▸ small) sampleNamespace_digest,
    ← hashed material total, ← inside]
  rfl

theorem firstDerived : @deriveIdentity identityHash sampleSeed sampleNamespace firstPlan =
    .ok firstIdentity :=
  (derived_sample sampleNumbers.1 sampleNumbers.2.2.2.2.1
    (fun _ length => by simp [sampleHashValue, length])
    (fun _ length => by simp [sampleHashValue, length]) (by decide)).trans sampleHexes.2.2.1

theorem secondDerived : @deriveIdentity identityHash sampleSeed sampleNamespace secondPlan =
    .ok secondIdentity :=
  (derived_sample sampleNumbers.2.2.1 sampleNumbers.2.2.2.2.2
    (fun _ length => by simp [sampleHashValue, length])
    (fun _ length => by simp [sampleHashValue, length]) (by decide)).trans sampleHexes.2.2.2

/-- The requests in the order of their bytes, with different digests. -/
theorem samplePlans : ∃ x y, firstPlan.bytes = .ok x ∧ secondPlan.bytes = .ok y ∧ x < y ∧
    identityHash.sha256 x ≠ identityHash.sha256 y := by
  have computed : (do
      let x ← firstPlan.bytes
      let y ← secondPlan.bytes
      return decide (x < y ∧ identityHash.sha256 x ≠ identityHash.sha256 y) :
      Except IdentityFailure Bool) = .ok true := by decide +kernel
  obtain ⟨x, first, computed⟩ := bind_ok.mp computed
  obtain ⟨y, second, computed⟩ := bind_ok.mp computed
  exact ⟨x, y, first, second, of_decide_eq_true (Except.ok.inj computed)⟩

theorem samplePlans_apart : Apart firstRecord secondRecord := by
  obtain ⟨x, y, encoded, encoded', less, -⟩ := samplePlans
  refine ⟨?_, by decide, by decide⟩
  change firstPlan.bytes ≠ secondPlan.bytes
  rw [encoded, encoded']
  intro same
  exact less.ne (Except.ok.inj same)

theorem samplePlans_replay :
    @replayIdentityRecords identityHash sampleSeed sampleNamespace [secondRecord, firstRecord]
      sampleExpected = .ok sampleExpected := by
  obtain ⟨x, y, encoded, encoded', less, -⟩ := samplePlans
  have sorted : canonicalIdentityRecords [secondRecord, firstRecord] =
      .ok [firstRecord, secondRecord] := by
    refine sortedBy_ok.mpr ⟨[(y, secondRecord), (x, firstRecord)], rfl, ?_, ?_⟩
    · simpa using ⟨encoded', encoded⟩
    · simp [KeyedSort.KeyLe, less.not_ge]
  have replays : @Replays identityHash sampleSeed sampleNamespace [firstRecord, secondRecord] := by
    refine @Replays.mk identityHash _ _ _ ?_ ?_ (List.pairwise_pair.mpr samplePlans_apart)
    · simpa using ⟨⟨x, encoded⟩, ⟨y, encoded'⟩⟩
    · simpa using ⟨firstDerived, secondDerived⟩
  have digested := sampleDigest
  generalize sampleExpected = expected at digested ⊢
  exact (@replayIdentityRecords_ok identityHash _ _ _ _ _).mpr
    ⟨rfl, [firstRecord, secondRecord], sorted, replays, digested⟩

/-- The replay accepts records in an order in which no ledger lists them. -/
theorem replay_accepts_unsorted :
    ¬ ∀ (records : List IdentityRecord) (expected : String),
      @replayIdentityRecords identityHash sampleSeed sampleNamespace records expected =
        .ok expected ↔ ∃ requests,
          (@allocateAll identityHash sampleSeed sampleNamespace requests).2.sortedRecords =
            .ok records ∧
          @IdentityLedger.canonicalDigest identityHash
            (@allocateAll identityHash sampleSeed sampleNamespace requests).2 = .ok expected := by
  intro exact_lists
  obtain ⟨requests, listed, -⟩ := (exact_lists _ _).mp samplePlans_replay
  obtain ⟨x, y, encoded, encoded', less, -⟩ := samplePlans
  obtain ⟨y', x', keyed', keyed, order⟩ := List.pairwise_pair.mp (sortedBy_ascending listed)
  obtain rfl := Except.ok.inj (encoded.symm.trans keyed)
  obtain rfl := Except.ok.inj (encoded'.symm.trans keyed')
  exact less.not_ge order

theorem samplePlans_collide :
    ∀ a ∈ [firstPlan, secondPlan], ∀ b ∈ [firstPlan, secondPlan], a ≠ b →
      ¬ @Collides identityHash sampleSeed sampleNamespace a b := by
  obtain ⟨x, y, encoded, encoded', -, hashes⟩ := samplePlans
  have keys : ∀ key, ¬ (@requestKey identityHash firstPlan = .ok key ∧
      @requestKey identityHash secondPlan = .ok key) := by
    rintro key ⟨keyed, keyed'⟩
    rw [@requestKey_eq identityHash, encoded] at keyed
    rw [@requestKey_eq identityHash, encoded'] at keyed'
    exact hashes (hex_injective ((Except.ok.inj keyed).trans (Except.ok.inj keyed').symm))
  obtain ⟨-, full, display⟩ := samplePlans_apart
  intro a inA b inB differ
  have plans : a = firstPlan ∧ b = secondPlan ∨ a = secondPlan ∧ b = firstPlan := by
    simp only [List.mem_cons, List.not_mem_nil, or_false] at inA inB
    rcases inA with rfl | rfl <;> rcases inB with rfl | rfl <;> simp_all
  rcases plans with ⟨rfl, rfl⟩ | ⟨rfl, rfl⟩
  · rintro (⟨key, shared⟩ | ⟨identity, identity', made, made', shared⟩)
    · exact keys key shared
    · obtain rfl := Except.ok.inj (firstDerived.symm.trans made)
      obtain rfl := Except.ok.inj (secondDerived.symm.trans made')
      exact shared.elim full display
  · rintro (⟨key, shared⟩ | ⟨identity, identity', made, made', shared⟩)
    · exact keys key shared.symm
    · obtain rfl := Except.ok.inj (secondDerived.symm.trans made)
      obtain rfl := Except.ok.inj (firstDerived.symm.trans made')
      exact shared.elim (full ·.symm) (display ·.symm)

/-- The two orders of allocation leave one ledger, an allocation that is repeated changes nothing,
and the records replay from last to first. -/
theorem identity_ledger_order_independent_sample :
    (@allocateAll identityHash sampleSeed sampleNamespace [firstPlan, secondPlan]).2.sortedRecords =
      (@allocateAll identityHash sampleSeed sampleNamespace
        [secondPlan, firstPlan]).2.sortedRecords ∧
    (∃ failure ledger after, firstPlan ∈ ledger.records.map (·.2.request) ∧
      (@allocate identityHash sampleSeed sampleNamespace firstPlan).exec ledger =
        (.error failure, after) ∧ after = ledger) ∧
    ∃ requests listed,
      (@allocateAll identityHash sampleSeed sampleNamespace requests).2.sortedRecords = .ok listed ∧
      [secondRecord, firstRecord].Perm listed := by
  obtain ⟨order, unchanged, replay⟩ := @identity_ledger_order_independent identityHash
  obtain ⟨x, y, encoded, encoded', less, hashes⟩ := samplePlans
  refine ⟨(order sampleSeed sampleNamespace [firstPlan, secondPlan] [secondPlan, firstPlan]
    (.inr ⟨by simp [or_comm], samplePlans_collide⟩)).1, ?_, ?_⟩
  · have tracks := @allocateAll_tracks identityHash sampleSeed sampleNamespace [firstPlan, secondPlan]
    have derivable : @Derivable identityHash sampleSeed sampleNamespace firstPlan :=
      @derivable_of_derived identityHash _ _ firstRecord x encoded firstDerived
    have listed := (@mem_allocateAll identityHash sampleSeed sampleNamespace
      [firstPlan, secondPlan] samplePlans_collide firstPlan).mpr ⟨List.mem_cons_self, derivable⟩
    rw [← @Tracks.recorded identityHash _ _ _ tracks] at listed
    have kept := @Tracks.kept identityHash _ _ _ tracks
    obtain ⟨failure, raised⟩ := @Kept.allocate_again identityHash _ _ _ _ kept listed
    exact ⟨failure, _, _, listed, raised, unchanged _ _ _ _ _ _ raised⟩
  · have accepted := (replay sampleSeed sampleNamespace [secondRecord, firstRecord] sampleExpected
      sampleExpected ?_).mp samplePlans_replay
    · obtain ⟨-, requests, listed, lists, perm, -⟩ := accepted
      exact ⟨requests, listed, lists, perm⟩
    · have bytes : ∀ record ∈ [secondRecord, firstRecord], ∀ found,
          record.request.bytes = .ok found → found = y ∨ found = x := by
        intro record member found encodes
        rcases List.mem_pair.mp member with rfl | rfl
        · exact .inl (Except.ok.inj (encodes.symm.trans encoded'))
        · exact .inr (Except.ok.inj (encodes.symm.trans encoded))
      intro a inA b inB one other encodes encodes' same
      rcases bytes a inA one encodes with rfl | rfl <;>
        rcases bytes b inB other encodes' with rfl | rfl
      · rfl
      · exact absurd same.symm hashes
      · exact absurd same hashes
      · rfl

end Sample

end CsdFoundry.Synthesis.Identities
