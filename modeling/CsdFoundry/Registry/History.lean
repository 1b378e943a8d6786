import CsdFoundry.Registry.Admission

/-! The histories of the entities over all runs of all writers and readers: they are linked
down to genesis, they only grow, and they can always be read. -/
namespace CsdFoundry.Registry
open Storage RegistryStore Prog
variable {D : Type} [LinearOrder D] [DigestText D] [Sha256 D] {s : RegistryStore D}

/-- What a call hands back: a history that it read, or whether its reads succeeded. -/
inductive Answer (D : Type) [DigestText D] where
  | silent
  | history (registryType : RegistryType) (entityId : String)
      (result : Except RegistryError (List (RegistryEvent D)))
  | reading (result : Except RegistryError Unit)

/-- The entry points of the registry. -/
inductive Call : RegistryM D (Answer D) → Prop where
  | append (event : RegistryEvent D) : Call ((append event).map fun _ => .silent)
  | admitGoverned {P : Type} {g : Governance D P} (governs : Governs g)
      (request : AdmitRequest D) : Call ((governedAdmit g request).map fun _ => .silent)
  | entityHead (registryType : RegistryType) (entityId : String) :
      Call ((entityHead registryType entityId).map fun _ => .silent)
  | reconstructEntity (registryType : RegistryType) (entityId : String) :
      Call ((reconstructEntity registryType entityId).report (.history registryType entityId))
  | snapshot (registryType : RegistryType) :
      Call ((snapshot registryType).report fun result => .reading (result.map fun _ => ()))
  | reconstructSnapshot (registryType : RegistryType) :
      Call ((reconstructSnapshot registryType).report
        fun result => .reading (result.map fun _ => ()))

/-- What was handed back stays true of the store. -/
def Answer.Meets : Answer D → RegistryStore D → Prop
  | .silent, _ => True
  | .history registryType entityId result, s => entityId ≠ "" →
      result = .error .os ∨ ∃ found items, result = .ok found ∧
        s.Chain registryType entityId items ∧ found <+: items
  | .reading result, _ => result = .error .os ∨ result = .ok ()

theorem sturdy_reading {result : Except RegistryError α} (sturdy : Sturdy result) :
    (Answer.reading (result.map fun _ => ()) : Answer D).Meets s := by
  rcases sturdy with rfl | ⟨a, rfl⟩
  · exact .inl rfl
  · exact .inr rfl

theorem Call.holds {p : RegistryM D (Answer D)} (call : Call p) (s : RegistryStore D)
    (valid : s.Valid) : discipline.Holds false p (Discipline.After false Answer.Meets) s := by
  cases call with
  | append event =>
      exact .map valid ((holds_append valid).weaken fun _ _ _ _ _ _ _ => True.intro)
  | admitGoverned governs request =>
      exact .map valid ((holds_governedAdmit governs.lawful valid).weaken
        fun _ _ _ _ _ _ _ => True.intro)
  | entityHead registryType entityId =>
      exact .map valid ((holds_entityHead valid).weaken fun _ _ _ _ _ _ _ => True.intro)
  | reconstructEntity registryType entityId =>
      by_cases named : entityId = ""
      · have any : discipline.Holds false
            (Registry.reconstructEntity registryType entityId : RegistryM D _) (fun l _ _ => l = false ∧ True) s :=
          (holds_reconstructEntity valid).mono fun _ _ _ _ met => ⟨met.1, True.intro⟩
        exact .report valid any fun _ _ _ _ _ _ other => absurd named other
      · obtain ⟨items, chain⟩ := valid.chain registryType entityId
        refine .report valid (holds_history valid named chain) fun result t u met moves _ _ => ?_
        rcases met with failed | ⟨found, later, returned, -, chain', begins⟩
        · exact .inl failed
        · obtain ⟨longest, chain'', extends_⟩ := held_chain moves chain'
          exact .inr ⟨found, longest, returned, chain'', begins.trans extends_⟩
  | snapshot registryType =>
      exact .report valid holds_snapshot fun _ _ _ met _ _ => sturdy_reading met
  | reconstructSnapshot registryType =>
      exact .report valid (holds_reconstructSnapshot valid) fun _ _ _ met _ _ => sturdy_reading met

variable {ι : Type} [DecidableEq ι]

abbrev RegistryPool (ι D : Type) [DigestText D] : Type :=
  Pool ι (RegistryStore D) RegistryError (Answer D)

theorem run_sound {c : RegistryPool ι D} (run : Pool.Reaches Call (.idle .initial) c) :
    Discipline.Sound discipline Answer.Meets c :=
  (Discipline.reaches_sound (fun _ call s valid => call.holds s valid) run
    (Discipline.sound_idle initial_valid)).1

theorem run_later {c c' : RegistryPool ι D} (run : Pool.Reaches Call (.idle .initial) c)
    (later : Pool.Reaches Call c c') : discipline.held c.store c'.store :=
  (Discipline.reaches_sound (fun _ call s valid => call.holds s valid) later (run_sound run)).2

/-- Each event cites the one before it by its digest. -/
theorem chain_adjacent {registryType : RegistryType} {entityId : String} (valid : s.Valid)
    {items : List (RegistryEvent D)} (chain : s.Chain registryType entityId items) :
    List.IsChain (fun older newer : RegistryEvent D =>
      newer.previousEntityEventDigest = some older.digest) items := by
  refine (Linked.adjacent chain).imp ?_
  rintro older newer ⟨key, cited, found⟩
  rw [cited, valid.named _ _ (eventOf_iff.mp found).1]

/-- The history of an entity: linked down to genesis, at places 1 to n, and ending in the
head of the entity. -/
structure WellLinked (s : RegistryStore D) (registryType : RegistryType) (entityId : String)
    (items : List (RegistryEvent D)) : Prop where
  entity : ∀ event ∈ items, event.registryType = registryType ∧ event.entityId = entityId
  sequences : items.map (·.entitySequence) = List.range' 1 items.length
  genesis : ∀ oldest, items.head? = some oldest → oldest.previousEntityEventDigest = none
  adjacent : List.IsChain (fun older newer : RegistryEvent D =>
    newer.previousEntityEventDigest = some older.digest) items
  last : items.getLast?.map (·.head) = s.headAt registryType entityId

theorem RegistryStore.Chain.wellLinked {registryType : RegistryType} {entityId : String}
    (valid : s.Valid) {items : List (RegistryEvent D)} (chain : s.Chain registryType entityId items) :
    WellLinked s registryType entityId items := by
  have length := Linked.length chain
  refine ⟨fun event member => chain.entity member, ?_, fun oldest first => Linked.first chain first,
    chain_adjacent valid chain, ?_⟩
  · rw [length]
    exact Linked.sequences chain
  · cases last : s.headAt registryType entityId with
    | none =>
        unfold Chain lastSequence lastDigest at chain
        rw [last] at chain
        cases chain
        rfl
    | some head =>
        obtain ⟨type_, id, -⟩ := valid.headAt_iff.mp last
        obtain ⟨event, ends, found, position⟩ := chain.head_event last
        obtain ⟨stored, types, ids⟩ := eventOf_iff.mp found
        rw [ends, Option.map_some]
        have same : event.head = head := RegistryEntityHead.ext (types.trans type_.symm)
          (ids.trans id.symm) position (valid.named _ _ stored)
        rw [same]

theorem appendLocked_failed (valid : s.Valid) {event : RegistryEvent D}
    (failed : (appendLocked event).exec s = (.error e, t)) : t = s := by
  rcases exec_appendLocked_cases valid with ⟨e', ran⟩ | ⟨current, -, -, ran⟩ | ⟨-, -, ran⟩
  · rw [ran] at failed
    exact (Prod.mk.inj failed).2.symm
  · rw [ran] at failed
    cases (Prod.mk.inj failed).1
  · rw [ran] at failed
    cases (Prod.mk.inj failed).1

theorem append_failed (valid : s.Valid) {event : RegistryEvent D}
    (failed : (append event).exec s = (.error e, t)) : t.heads = s.heads := by
  unfold append at failed
  cases checked : verifyEvent event with
  | error e' =>
      rw [exec_bind_error (e := e') (t := s) _ (by rw [exec_lift, checked])] at failed
      cases failed
      rfl
  | ok =>
      rw [exec_bind_ok (a := ()) (t := s) _ (by rw [exec_lift, checked]),
        exec_bind_ok _ (exec_install valid), exec_locked] at failed
      rw [appendLocked_failed valid.filed_free.2 failed, filed_heads]

/-- Over every run of any number of writers and readers: every history reconstructs, later
ones extend it, snapshots succeed, and an append that fails leaves every head as it was. -/
theorem history_safety {c : RegistryPool ι D} (run : Pool.Reaches Call (.idle .initial) c) :
    (∀ registryType entityId, entityId ≠ "" → ∃ items,
      (reconstructEntity registryType entityId).exec c.store = (.ok items, c.store) ∧
      WellLinked c.store registryType entityId items ∧
      ∀ c', Pool.Reaches Call c c' → ∃ later,
        (reconstructEntity registryType entityId).exec c'.store = (.ok later, c'.store) ∧
        items <+: later ∧
        (chainOf registryType entityId (c.store.headAt registryType entityId)).exec c'.store =
          (.ok items, c'.store)) ∧
    (∀ registryType, (∃ snap, (snapshot registryType).exec c.store = (.ok snap, c.store)) ∧
      ∃ histories, (reconstructSnapshot registryType).exec c.store = (.ok histories, c.store)) ∧
    (∀ i registryType entityId result, entityId ≠ "" →
      c.task i = some (.done (.ok (.history registryType entityId result))) →
      result = .error .os ∨ ∃ found items, result = .ok found ∧
        (reconstructEntity registryType entityId).exec c.store = (.ok items, c.store) ∧
        found <+: items) ∧
    (∀ i result, c.task i = some (.done (.ok (.reading result))) →
      result = .error .os ∨ result = .ok ()) ∧
    (∀ event e t, (append event).exec c.store = (.error e, t) ∨
      (appendLocked event).exec c.store = (.error e, t) → t.heads = c.store.heads) ∧
    ∀ (P : Type) (g : Governance D P), Governs g → ∀ request e t,
      (governedAdmit g request).exec c.store = (.error e, t) → t.heads = c.store.heads := by
  have valid : c.store.Valid := (run_sound run).valid
  refine ⟨?_, ?_, ?_, ?_, ?_, ?_⟩
  · intro registryType entityId named
    obtain ⟨items, chain⟩ := valid.chain registryType entityId
    refine ⟨items, exec_reconstructEntity valid named chain, chain.wellLinked valid, ?_⟩
    intro c' later
    have valid' : c'.store.Valid := (run_sound (run.trans later)).valid
    have moved := run_later run later
    obtain ⟨items', chain', extends_⟩ := held_chain moved chain
    refine ⟨items', exec_reconstructEntity valid' named chain', extends_, ?_⟩
    exact exec_chainOf valid' (Linked.mono chain (eventOf_mono (held_grown moved)))
  · intro registryType
    have snaps : ∃ snap : RegistrySnapshot D,
      (snapshot registryType).exec c.store = (.ok snap, c.store) ∧ _ := exec_snapshot valid
    have rebuilds : ∃ histories, (reconstructSnapshot registryType).exec c.store =
      (.ok histories, c.store) ∧ _ := exec_reconstructSnapshot valid
    obtain ⟨snap, taken, -⟩ := snaps
    obtain ⟨histories, rebuilt, -⟩ := rebuilds
    exact ⟨⟨snap, taken⟩, histories, rebuilt⟩
  · intro i registryType entityId result named found
    rcases (run_sound run).returned found named with failed | ⟨read, items, rfl, chain, begins⟩
    · exact .inl failed
    · exact .inr ⟨read, items, rfl, exec_reconstructEntity valid named chain, begins⟩
  · exact fun i result found => (run_sound run).returned found
  · rintro event e t (failed | failed)
    · exact append_failed valid failed
    · rw [appendLocked_failed valid failed]
  · intro P g governs request e t failed
    rw [(decides_governedAdmit governs.lawful valid).error failed]

/-! The proposal and the admission of an assumption, appended one after the other. -/
section Sample

def sampleAppends : List (RegistryM (List Nat) (Answer (List Nat)) × Nat) :=
  (Assumptions.sampleHistory.take 2).map fun event => ((append event).map fun _ => .silent, 100)

theorem sampleAppends_calls : ∀ call ∈ sampleAppends, Call call.1 := by
  intro call member
  obtain ⟨event, -, rfl⟩ := List.mem_map.mp member
  exact .append event

set_option maxRecDepth 100000 in
theorem history_safety_sample : ∃ s : RegistryStore (List Nat),
    s.lastSequence .assumption "a" = 2 ∧ ∃ items,
      (reconstructEntity .assumption "a").exec s = (.ok items, s) ∧
      WellLinked s .assumption "a" items := by
  have run : Pool.Reaches Call (.idle .initial : RegistryPool Unit (List Nat)) _ :=
    Pool.history_reaches () sampleAppends_calls .initial
  have second : (Prog.history sampleAppends .initial).lastSequence .assumption "a" = 2 := by
    decide +kernel
  obtain ⟨items, rebuilt, linked, -⟩ := (history_safety run).1 .assumption "a" (by decide)
  exact ⟨_, second, items, rebuilt, linked⟩

end Sample
end CsdFoundry.Registry
