import CsdFoundry.Registry.Execution

/-! Snapshots of a valid registry store: they succeed, and list exactly the heads of the
registry by entity. -/
namespace CsdFoundry.Registry
open Storage RegistryStore Prog
variable {D : Type} [LinearOrder D] [DigestText D] [Sha256 D] {s t : RegistryStore D}
  {registryType : RegistryType} {entityId : String}
  {head : RegistryEntityHead D} {heads : List (RegistryEntityHead D)}

/-- The entity ids ascend, each once. -/
def Ascending (heads : List (RegistryEntityHead D)) : Prop :=
  heads.Pairwise (fun a b => a.entityId < b.entityId)

omit [LinearOrder D] [DigestText D] [Sha256 D] in
theorem byEntity_perm : (byEntity heads).Perm heads := List.perm_insertionSort _ heads

omit [LinearOrder D] [DigestText D] [Sha256 D] in
@[simp] theorem mem_byEntity : head ∈ byEntity heads ↔ head ∈ heads := byEntity_perm.mem_iff

omit [LinearOrder D] [DigestText D] [Sha256 D] in
theorem byEntity_ordered : (byEntity heads).Pairwise (fun a b => a.entityId ≤ b.entityId) := by
  have : IsTrans (RegistryEntityHead D) (fun a b => a.entityId ≤ b.entityId) :=
    ⟨fun _ _ _ => le_trans⟩
  have : Std.Total (fun a b : RegistryEntityHead D => a.entityId ≤ b.entityId) :=
    ⟨fun a b => le_total a.entityId b.entityId⟩
  exact List.pairwise_insertionSort _ heads

omit [LinearOrder D] [DigestText D] [Sha256 D] in
theorem byEntity_ascending (distinct : (heads.map (·.entityId)).Nodup) :
    Ascending (byEntity heads) := by
  have distinct' : ((byEntity heads).map (·.entityId)).Nodup :=
    (byEntity_perm.map _).nodup_iff.mpr distinct
  rw [List.Nodup, List.pairwise_map] at distinct'
  exact byEntity_ordered.imp₂ (fun _ _ ordered different => lt_of_le_of_ne ordered different) distinct'

omit [LinearOrder D] [DigestText D] [Sha256 D] in
/-- Ascending lists are determined by their members. -/
theorem Ascending.eq_of_mem_iff {other : List (RegistryEntityHead D)} (first : Ascending heads)
    (second : Ascending other) (same : ∀ head, head ∈ heads ↔ head ∈ other) : heads = other := by
  have : Std.Irrefl (fun a b : RegistryEntityHead D => a.entityId < b.entityId) :=
    ⟨fun a => lt_irrefl a.entityId⟩
  have : Std.Antisymm (fun a b : RegistryEntityHead D => a.entityId < b.entityId) :=
    ⟨fun _ _ below above => absurd below above.asymm⟩
  exact List.Pairwise.eq_of_mem_iff first second same

namespace RegistryStore

/-- The heads of a registry, by entity. -/
def typeHeads (registryType : RegistryType) (s : RegistryStore D) :
    List (RegistryEntityHead D) :=
  byEntity ((s.headFiles registryType).map (·.head))

omit [Sha256 D] in
theorem mem_headFiles {file : HeadFile D} : file ∈ s.headFiles registryType ↔
    Keyed.find HeadFile.path s.heads file.path = some file ∧ file.directory = registryType := by
  simp [headFiles, Keyed.mem_entries]

theorem Valid.headFile_placed (valid : s.Valid) {file : HeadFile D}
    (member : file ∈ s.headFiles registryType) :
    file.head.registryType = registryType ∧ file.path = file.head.path := by
  obtain ⟨found, directory⟩ := mem_headFiles.mp member
  have placed := valid.placed file (Keyed.mem_of_find found)
  obtain ⟨types, -⟩ := Prod.mk.inj placed
  exact ⟨types.symm.trans directory, placed⟩

theorem Valid.mem_typeHeads (valid : s.Valid) : head ∈ s.typeHeads registryType ↔
    head.registryType = registryType ∧ s.headAt registryType head.entityId = some head := by
  simp only [typeHeads, mem_byEntity, List.mem_map]
  constructor
  · rintro ⟨file, member, rfl⟩
    obtain ⟨type_, placed⟩ := valid.headFile_placed member
    have found := (mem_headFiles.mp member).1
    rw [placed] at found
    subst type_
    exact ⟨rfl, Option.map_eq_some_iff.mpr ⟨file, found, rfl⟩⟩
  · rintro ⟨type_, last⟩
    obtain ⟨-, -, file, found, rfl⟩ := valid.headAt_iff.mp last
    have path := Keyed.key_of_find found
    refine ⟨file, mem_headFiles.mpr ⟨?_, (Prod.mk.inj path).1⟩, rfl⟩
    rw [path]
    exact found

theorem Valid.headFiles_distinct (valid : s.Valid) :
    ((s.headFiles registryType).map (·.head.entityId)).Nodup := by
  have entries : ((Keyed.entries HeadFile.path s.heads).map HeadFile.path).Nodup :=
    Keyed.nodup_entries
  have paths : ((s.headFiles registryType).map HeadFile.path).Nodup := by
    refine ((List.perm_insertionSort _ _).map _).nodup_iff.mpr ?_
    exact entries.sublist ((List.filter_sublist).map _)
  refine List.Nodup.of_map (fun id => (registryType, (headName registryType id : D))) ?_
  rw [List.map_map]
  convert paths using 1
  apply List.map_congr_left
  intro file member
  obtain ⟨type_, placed⟩ := valid.headFile_placed member
  simp [placed, RegistryEntityHead.path, type_]

theorem Valid.typeHeads_ascending (valid : s.Valid) : Ascending (s.typeHeads registryType) := by
  apply byEntity_ascending
  have distinct : ((s.headFiles registryType).map (·.head.entityId)).Nodup :=
    valid.headFiles_distinct
  rwa [List.map_map]

/-- The heads of a registry are determined by the heads of its entities. -/
theorem Valid.typeHeads_congr (valid : s.Valid) (valid' : t.Valid)
    (same : ∀ entityId, s.headAt registryType entityId = t.headAt registryType entityId) :
    s.typeHeads registryType = t.typeHeads registryType := by
  apply valid.typeHeads_ascending.eq_of_mem_iff valid'.typeHeads_ascending
  intro head
  rw [valid.mem_typeHeads, valid'.mem_typeHeads, same]

end RegistryStore

omit [DigestText D] in
theorem collectHeads_ok {files : List (HeadFile D)}
    (placed : ∀ file ∈ files, file.head.registryType = registryType ∧ file.path = file.head.path)
    (found : List (RegistryEntityHead D))
    (distinct : (found.map (·.entityId) ++ files.map (·.head.entityId)).Nodup) :
    collectHeads registryType files found = .ok (found ++ files.map (·.head)) := by
  induction files generalizing found with
  | nil => simp [collectHeads]
  | cons file files ih =>
      obtain ⟨type_, path⟩ := placed file (by simp)
      have path : file.path = (file.head.registryType,
          headName file.head.registryType file.head.entityId) := path
      have unknown : Keyed.find (·.entityId) found file.head.entityId = none := by
        rw [Keyed.find_eq_none]
        intro head member same
        have apart := (List.nodup_append.mp distinct).2.2
        exact apart _ (List.mem_map.mpr ⟨head, member, same⟩) _ (by simp) rfl
      have rest := ih (fun other member => placed other (by simp [member])) (found ++ [file.head])
        (by simpa using distinct)
      unfold collectHeads
      rw [if_neg (not_not.mpr type_), if_neg (not_not.mpr path), unknown]
      simpa using rest

/-- The event that a head cites is stored, and is the one that it says it is. -/
theorem RegistryStore.Valid.head_event (valid : s.Valid)
    (last : s.headAt head.registryType head.entityId = some head) : ∃ event,
      s.objects head.eventDigest = some event ∧ verifyHeadEvent head event = .ok () := by
  obtain ⟨items, chain⟩ := valid.chain head.registryType head.entityId
  obtain ⟨event, -, found, position⟩ := chain.head_event last
  obtain ⟨stored, type_, id⟩ := eventOf_iff.mp found
  refine ⟨event, stored, ?_⟩
  simp [verifyHeadEvent, type_, id, position, valid.named _ _ stored]

theorem exec_verifyHeads (valid : s.Valid)
    (known : ∀ head ∈ heads, s.headAt head.registryType head.entityId = some head) :
    (verifyHeads heads).exec s = (.ok (), s) := by
  induction heads with
  | nil => rfl
  | cons head heads ih =>
      have rest := ih (fun other member => known other (by simp [member]))
      obtain ⟨event, stored, agrees⟩ := valid.head_event (known head (by simp))
      unfold verifyHeads
      rw [exec_bind_ok _ (exec_getEvent valid.named head.eventDigest), stored]
      rw [exec_bind_ok (a := ()) (t := s) _ (by rw [agrees]; rfl)]
      exact rest

omit [DigestText D] in
theorem RegistrySnapshot.create_ok (ordered : heads.Pairwise (fun a b => a.entityId ≤ b.entityId))
    (distinct : (heads.map (·.entityId)).Nodup)
    (typed : ∀ head ∈ heads, head.registryType = registryType) :
    RegistrySnapshot.create registryType heads (snapshotRoot registryType heads) =
      .ok ⟨registryType, heads, snapshotRoot registryType heads, ordered, distinct, typed, rfl⟩ := by
  unfold RegistrySnapshot.create
  rw [dif_pos ordered, dif_pos distinct, dif_pos typed, dif_pos rfl]

namespace RegistryStore

theorem Valid.collectHeads_ok (valid : s.Valid) :
    collectHeads registryType (s.headFiles registryType) [] =
      .ok ((s.headFiles registryType).map (·.head)) := by
  have distinct : ((s.headFiles registryType).map (·.head.entityId)).Nodup :=
    valid.headFiles_distinct
  have all := Registry.collectHeads_ok (fun file member => valid.headFile_placed member) []
    (by simpa using distinct)
  simpa using all

theorem Valid.typeHeads_known (valid : s.Valid) :
    ∀ head ∈ s.typeHeads registryType, s.headAt head.registryType head.entityId = some head := by
  intro head member
  obtain ⟨type_, last⟩ := valid.mem_typeHeads.mp member
  rwa [type_]

theorem Valid.create_ok (valid : s.Valid) : ∃ snap : RegistrySnapshot D,
    RegistrySnapshot.create registryType (s.typeHeads registryType)
      (snapshotRoot registryType (s.typeHeads registryType)) = .ok snap ∧
    snap.heads = s.typeHeads registryType ∧
    snap.rootDigest = snapshotRoot registryType (s.typeHeads registryType) := by
  have ascending : Ascending (s.typeHeads registryType) := valid.typeHeads_ascending
  have distinct : ((s.typeHeads registryType).map (·.entityId)).Nodup := by
    rw [List.Nodup, List.pairwise_map]
    exact ascending.imp (fun below => below.ne)
  have typed : ∀ head ∈ s.typeHeads registryType, head.registryType = registryType :=
    fun head member => (valid.mem_typeHeads.mp member).1
  exact ⟨_, RegistrySnapshot.create_ok byEntity_ordered distinct typed, rfl, rfl⟩

end RegistryStore

/-- A snapshot of a valid store succeeds. -/
theorem exec_snapshotUnlocked (valid : s.Valid) : ∃ snap : RegistrySnapshot D,
    (snapshotUnlocked registryType).exec s = (.ok snap, s) ∧
      snap.heads = s.typeHeads registryType ∧
      snap.rootDigest = snapshotRoot registryType (s.typeHeads registryType) := by
  obtain ⟨snap, created, listed, root⟩ : ∃ snap : RegistrySnapshot D,
    RegistrySnapshot.create registryType (s.typeHeads registryType) _ = .ok snap ∧ _ ∧ _ :=
    valid.create_ok
  have verified : (verifyHeads (s.typeHeads registryType)).exec s = (.ok (), s) :=
    exec_verifyHeads valid valid.typeHeads_known
  refine ⟨snap, ?_, listed, root⟩
  unfold snapshotUnlocked
  rw [exec_bind_ok (a := s.headFiles registryType) (t := s) _ (exec_read _ _ s),
    exec_bind_ok (a := (s.headFiles registryType).map (·.head)) (t := s) _
      (by rw [exec_lift, valid.collectHeads_ok])]
  change (verifyHeads (s.typeHeads registryType) >>= fun _ => _).exec s = _
  rw [exec_bind_ok _ verified, exec_lift]
  exact congrArg (·, s) created

theorem exec_snapshot (valid : s.Valid) : ∃ snap : RegistrySnapshot D,
    (snapshot registryType).exec s = (.ok snap, s) ∧
      snap.heads = s.typeHeads registryType ∧
      snap.rootDigest = snapshotRoot registryType (s.typeHeads registryType) := by
  unfold snapshot
  rw [exec_locked]
  exact exec_snapshotUnlocked valid

theorem exec_reconstructHeads (valid : s.Valid)
    (known : ∀ head ∈ heads, head.registryType = registryType) :
    ∃ histories, (reconstructHeads registryType heads).exec s = (.ok histories, s) ∧
      List.Forall₂ (fun head items => s.Chain registryType head.entityId items) heads histories := by
  induction heads with
  | nil => exact ⟨[], rfl, .nil⟩
  | cons head heads ih =>
      obtain ⟨histories, rest, chains⟩ := ih (fun other member => known other (by simp [member]))
      obtain ⟨items, chain⟩ := valid.chain registryType head.entityId
      refine ⟨items :: histories, ?_, .cons chain chains⟩
      unfold reconstructHeads
      rw [exec_bind_ok _ (exec_reconstructEntity valid head.named chain), exec_bind_ok _ rest]
      rfl

theorem exec_reconstructSnapshot (valid : s.Valid) :
    ∃ histories, (reconstructSnapshot registryType).exec s = (.ok histories, s) ∧
      List.Forall₂ (fun head items => s.Chain registryType head.entityId items)
        (s.typeHeads registryType) histories := by
  have snapped : ∃ snap : RegistrySnapshot D, (snapshot registryType).exec s = (.ok snap, s) ∧
      snap.heads = s.typeHeads registryType ∧ _ := exec_snapshot valid
  obtain ⟨snap, taken, listed, -⟩ := snapped
  have typed : ∀ head ∈ s.typeHeads registryType, head.registryType = registryType :=
    fun head member => (valid.mem_typeHeads.mp member).1
  obtain ⟨histories, rebuilt, chains⟩ := exec_reconstructHeads valid typed
  refine ⟨histories, ?_, chains⟩
  unfold reconstructSnapshot
  rw [exec_bind_ok _ taken, listed]
  exact rebuilt

end CsdFoundry.Registry
