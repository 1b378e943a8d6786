import CsdFoundry.Registry.History

/-! Snapshots do not see the order in which the entities took turns, and their roots name the heads
they were taken of. -/
namespace CsdFoundry.Registry
open Storage RegistryStore Prog
variable {D : Type} [LinearOrder D] [DigestText D] [Sha256 D] {s t : RegistryStore D}
  {registryType : RegistryType}

/-- The history of an entity decides its head. -/
theorem headAt_of_histories (valid : s.Valid) (valid' : t.Valid)
    (same : ∀ entityId, entityId ≠ "" →
      ((reconstructEntity registryType entityId).exec s).1 =
        ((reconstructEntity registryType entityId).exec t).1) (entityId : String) :
    s.headAt registryType entityId = t.headAt registryType entityId := by
  by_cases named : entityId = ""
  · have nameless : ∀ {r : RegistryStore D}, r.Valid → r.headAt registryType entityId = none := by
      intro r validR
      cases last : r.headAt registryType entityId with
      | none => rfl
      | some head =>
          obtain ⟨-, id, -⟩ := validR.headAt_iff.mp last
          exact absurd (id.trans named) head.named
    rw [nameless valid, nameless valid']
  · obtain ⟨items, chain⟩ := valid.chain registryType entityId
    obtain ⟨items', chain'⟩ := valid'.chain registryType entityId
    have equal := same entityId named
    rw [exec_reconstructEntity valid named chain, exec_reconstructEntity valid' named chain'] at equal
    rw [← (chain.wellLinked valid).last, ← (chain'.wellLinked valid').last, Except.ok.inj equal]

omit [LinearOrder D] [DigestText D] in
/-- A root names the registry and, for every entity, the place and the digest of its head. -/
theorem snapshotRoot_names {type_ type_' : RegistryType} {heads heads' : List (RegistryEntityHead D)}
    (same : snapshotRoot type_ heads = snapshotRoot type_' heads') :
    type_ = type_' ∧ heads.map (fun head => (head.entityId, head.entitySequence, head.eventDigest)) =
      heads'.map fun head => (head.entityId, head.entitySequence, head.eventDigest) := by
  obtain ⟨-, fields⟩ := Sha256.collision_free same
  simp only [List.cons.injEq, Field.heads.injEq, Field.str.injEq, and_true, true_and] at fields
  exact ⟨RegistryType.text_injective fields.2, fields.1⟩

/-- The history of a head's entity, read on its own. -/
def Rebuilds (registryType : RegistryType) (s : RegistryStore D) (head : RegistryEntityHead D)
    (items : List (RegistryEvent D)) : Prop :=
  (reconstructEntity registryType head.entityId).exec s = (.ok items, s)

variable {ι : Type} [DecidableEq ι]

/-- Two runs of any writers and readers that give every entity the same history have one snapshot,
which rebuilds these histories. Two snapshots have one root only if they have the same heads. -/
theorem snapshot_order_independent {c c' : RegistryPool ι D}
    (run : Pool.Reaches Call (.idle .initial) c) (run' : Pool.Reaches Call (.idle .initial) c') :
    (∀ registryType,
      (∀ entityId, entityId ≠ "" → ((reconstructEntity registryType entityId).exec c.store).1 =
        ((reconstructEntity registryType entityId).exec c'.store).1) →
      ∃ (snap snap' : RegistrySnapshot D) (histories : List (List (RegistryEvent D))),
        (snapshot registryType).exec c.store = (.ok snap, c.store) ∧
        (snapshot registryType).exec c'.store = (.ok snap', c'.store) ∧
        snap.rootDigest = snap'.rootDigest ∧ snap.heads = snap'.heads ∧
        (reconstructSnapshot registryType).exec c.store = (.ok histories, c.store) ∧
        (reconstructSnapshot registryType).exec c'.store = (.ok histories, c'.store) ∧
        List.Forall₂ (Rebuilds registryType c.store) snap.heads histories) ∧
    ∀ snap snap' : RegistrySnapshot D, snap.rootDigest = snap'.rootDigest →
      snap.registryType = snap'.registryType ∧
      ∀ entry : String × Nat × D,
        entry ∈ snap.heads.map (fun head => (head.entityId, head.entitySequence, head.eventDigest)) ↔
        entry ∈ snap'.heads.map (fun head => (head.entityId, head.entitySequence, head.eventDigest)) := by
  have valid : c.store.Valid := (run_sound run).valid
  have valid' : c'.store.Valid := (run_sound run').valid
  refine ⟨fun registryType same => ?_, ?_⟩
  · have heads := valid.typeHeads_congr valid' (headAt_of_histories valid valid' same)
    obtain ⟨snap, taken, listed, root⟩ :=
      @exec_snapshot _ _ _ _ _ registryType valid
    obtain ⟨snap', taken', listed', root'⟩ := @exec_snapshot _ _ _ _ _ registryType valid'
    obtain ⟨histories, rebuilt, chains⟩ := @exec_reconstructSnapshot _ _ _ _ _ registryType valid
    obtain ⟨histories', rebuilt', chains'⟩ :=
      @exec_reconstructSnapshot _ _ _ _ _ registryType valid'
    have read : ∀ {r : RegistryStore D}, r.Valid → ∀ {heads histories},
        List.Forall₂ (fun (head : RegistryEntityHead D) items =>
          r.Chain registryType head.entityId items) heads histories →
        List.Forall₂ (Rebuilds registryType r) heads histories :=
      fun validR _ _ chains => chains.imp fun head items chain =>
        exec_reconstructEntity validR head.named chain
    have first := read valid chains
    have second : List.Forall₂ (Rebuilds registryType c.store) (c.store.typeHeads registryType)
        histories' := by
      rw [heads]
      refine (read valid' chains').imp fun head items found => ?_
      obtain ⟨items', chain⟩ := valid.chain registryType head.entityId
      have rebuilds := exec_reconstructEntity valid head.named chain
      have equal := same head.entityId head.named
      rw [rebuilds, found] at equal
      rwa [Rebuilds, ← Except.ok.inj equal]
    have equal : histories = histories' := by
      refine List.right_unique_forall₂' (fun head items items' left right => ?_) first second
      exact Except.ok.inj (Prod.mk.inj (left.symm.trans right)).1
    refine ⟨snap, snap', histories, taken, taken', ?_, ?_, rebuilt, equal ▸ rebuilt', ?_⟩
    · rw [root, root', heads]
    · rw [listed, listed', heads]
    · rw [listed]
      exact first
  · intro snap snap' same
    rw [snap.root, snap'.root] at same
    obtain ⟨types, heads⟩ := snapshotRoot_names same
    exact ⟨types, fun entry => by rw [heads]⟩

/-- An entity without a head has no history. -/
theorem reconstructEntity_absent (valid : s.Valid) {entityId : String} (named : entityId ≠ "")
    (missing : ∀ file ∈ s.heads, file.head.entityId ≠ entityId) :
    ((reconstructEntity registryType entityId).exec s).1 = .ok [] := by
  obtain ⟨items, chain⟩ := valid.chain registryType entityId
  have last := (chain.wellLinked valid).last
  have free : s.headAt registryType entityId = none := by
    cases found : s.headAt registryType entityId with
    | none => rfl
    | some head =>
        obtain ⟨-, id, file, located, rfl⟩ := valid.headAt_iff.mp found
        exact absurd id (missing file (Keyed.mem_of_find located))
  rw [free, Option.map_eq_none_iff, List.getLast?_eq_none_iff] at last
  rw [exec_reconstructEntity valid named chain, last]

/-! Two entities, in either order. -/
section Sample

theorem otherEntity_positive : 0 < (Assumptions.sampleEvent 0 none []).entitySequence := Nat.succ_pos 0

theorem otherEntity_clock : 0 < (Assumptions.sampleEvent 0 none []).clockSequence := Nat.succ_pos 0

theorem otherEntity_sourced :
    schemaDigest (List Nat) (Assumptions.sampleEvent 0 none []).sourceReceiptDigest = true :=
  Assumptions.sampleReceipt_digest

def otherEntity : RegistryEvent (List Nat) :=
  { Assumptions.sampleEvent 0 none [] with
    entityId := "b"
    token := Assumptions.sampleToken_b
    positive := otherEntity_positive
    clock := otherEntity_clock
    sourced := otherEntity_sourced }

def appends (events : List (RegistryEvent (List Nat))) :
    List (RegistryM (List Nat) (Answer (List Nat)) × Nat) :=
  events.map fun event => ((append event).map fun _ => .silent, 100)

theorem appends_calls (events : List (RegistryEvent (List Nat))) :
    ∀ call ∈ appends events, Call call.1 := by
  intro call member
  obtain ⟨event, -, rfl⟩ := List.mem_map.mp member
  exact .append event

def orders : List (RegistryEvent (List Nat)) × List (RegistryEvent (List Nat)) :=
  ([Assumptions.sampleEvent 0 none [], otherEntity], [otherEntity, Assumptions.sampleEvent 0 none []])

set_option maxRecDepth 100000 in
theorem snapshot_order_independent_two : ∃ s s' : RegistryStore (List Nat), s.heads ≠ s'.heads ∧
    ∃ snap snap' : RegistrySnapshot (List Nat),
      (snapshot .assumption).exec s = (.ok snap, s) ∧
      (snapshot .assumption).exec s' = (.ok snap', s') ∧ snap.rootDigest = snap'.rootDigest := by
  have run : Pool.Reaches Call (.idle .initial : RegistryPool Unit (List Nat)) _ :=
    Pool.history_reaches () (appends_calls orders.1) .initial
  have run' : Pool.Reaches Call (.idle .initial : RegistryPool Unit (List Nat)) _ :=
    Pool.history_reaches () (appends_calls orders.2) .initial
  have differ : (Prog.history (appends orders.1) .initial).heads ≠
      (Prog.history (appends orders.2) .initial).heads := by
    decide +kernel
  have entities : ∀ events ∈ [orders.1, orders.2], ∀ file ∈
      (Prog.history (appends events) .initial).heads, file.head.entityId ∈ ["a", "b"] := by
    decide +kernel
  obtain ⟨snap, snap', -, taken, taken', root, -⟩ :=
    (snapshot_order_independent run run').1 .assumption fun entityId named => by
      by_cases first : entityId = "a"
      · subst first
        decide +kernel
      by_cases second : entityId = "b"
      · subst second
        decide +kernel
      have missing : ∀ events ∈ [orders.1, orders.2], ∀ file ∈
          (Prog.history (appends events) .initial).heads, file.head.entityId ≠ entityId := by
        intro events among file member same
        have known := entities events among file member
        rw [same] at known
        simp [first, second] at known
      rw [reconstructEntity_absent (run_sound run).valid named (missing _ (by simp)),
        reconstructEntity_absent (run_sound run').valid named (missing _ (by simp))]
  exact ⟨_, _, differ, snap, snap', taken, taken', root⟩

end Sample
end CsdFoundry.Registry
