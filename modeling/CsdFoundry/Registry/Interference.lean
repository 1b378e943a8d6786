import CsdFoundry.Registry.Snapshot

/-! Each operation of the registry store keeps the discipline, whatever the other writers
do meanwhile and wherever it crashes or fails. -/
namespace CsdFoundry.Registry
open Storage RegistryStore
open Storage.Discipline (After)
variable {D : Type} [LinearOrder D] [DigestText D] [Sha256 D] {locked : Bool}
  {s : RegistryStore D} {registryType : RegistryType} {entityId : String}
  {event : RegistryEvent D}

theorem quiet_getEvent (digest : D) : (getEvent digest).Quiet := .read _ _

theorem quiet_readHead : (readHead registryType entityId : RegistryM D _).Quiet :=
  .bind (.require _ _) (fun _ => .read _ _)

theorem quiet_verifyHeads (heads : List (RegistryEntityHead D)) : (verifyHeads heads).Quiet := by
  induction heads with
  | nil => exact .pure _
  | cons head heads ih =>
      refine .bind (quiet_getEvent _) (fun found => ?_)
      cases found with
      | none => exact .throw _
      | some event => exact .bind (.done _) (fun _ => ih)

theorem quiet_snapshotUnlocked : (snapshotUnlocked registryType : RegistryM D _).Quiet :=
  .bind (.read _ _) fun _ => .bind (.done _) fun _ => .bind (quiet_verifyHeads _) fun _ => .done _

theorem quiet_chainEvent (seen : List D) (digest : D) :
    (chainEvent registryType entityId seen digest).Quiet := by
  refine .bind (.require _ _) (fun _ => .bind (quiet_getEvent _) (fun found => ?_))
  cases found with
  | none => exact .throw _
  | some event => exact .bind (.require _ _) (fun _ => .pure _)

theorem quiet_chainFrom (expected : Nat) (seen : List D) (key : Option D) :
    (chainFrom registryType entityId expected seen key).Quiet := by
  induction expected generalizing seen key with
  | zero =>
      cases key with
      | none => exact .pure _
      | some digest => exact .bind (quiet_chainEvent _ _) (fun _ => .throw _)
  | succ expected ih =>
      cases key with
      | none => exact .throw _
      | some digest =>
          exact .bind (quiet_chainEvent _ _) fun _ => .bind (.require _ _) fun _ =>
            .bind (ih _ _) fun _ => .pure _

theorem quiet_chainOf (head : Option (RegistryEntityHead D)) :
    (chainOf registryType entityId head).Quiet := by
  cases head with
  | none => exact .pure _
  | some head => exact quiet_chainFrom _ _ _

theorem quiet_reconstructEntityUnlocked :
    (reconstructEntityUnlocked registryType entityId : RegistryM D _).Quiet :=
  .bind quiet_readHead fun head => quiet_chainOf head

/-- Under the lock the head stays what it was read to be. -/
theorem holds_readHead {normal : Option (RegistryEntityHead D) → RegistryStore D → Prop}
    (valid : s.Valid)
    (met : ∀ u, Free s u → u.Valid → normal (u.headAt registryType entityId) u) :
    discipline.Holds true (readHead registryType entityId) (After true normal) s := by
  refine .bind valid (.require fun t named moves (inv : t.Valid) => .read ?_)
  intro found u v moves' (invU : u.Valid) seen later invV
  have same : found = u.headAt registryType entityId := by
    have run : (readHead registryType entityId).exec u = (.ok (u.headAt registryType entityId), u) :=
      exec_readHead invU named
    unfold readHead at run
    rw [Prog.exec_bind_ok _ (Prog.exec_require_ok named _ u), Prog.exec_read] at run
    exact Except.ok.inj (seen.symm.trans (congrArg Prod.fst run))
  have still : v.headAt registryType entityId = u.headAt registryType entityId :=
    headAt_of_heads later.heads
  rw [same, ← still]
  exact met v ((Free.trans moves moves').trans later) invV

theorem answers_readHead (valid : s.Valid) (named : entityId ≠ "") :
    discipline.Answers true (readHead registryType entityId) .os
      (s.headAt registryType entityId) s := by
  refine .bind valid (.require named) fun t moves inv => .read fun u moves' (inv' : u.Valid) => ?_
  have run : (readHead registryType entityId).exec u = (.ok (u.headAt registryType entityId), u) :=
    exec_readHead inv' named
  unfold readHead at run
  rw [Prog.exec_bind_ok _ (Prog.exec_require_ok named _ u), Prog.exec_read] at run
  have still : u.headAt registryType entityId = s.headAt registryType entityId :=
    headAt_of_heads (Free.trans moves moves').heads
  exact (congrArg Prod.fst run).trans (congrArg Except.ok still)

theorem answers_getEvent {digest : D} (stored : s.objects digest = some event) :
    discipline.Answers locked (getEvent digest) .os (some event) s := by
  refine .read fun t moves (inv : t.Valid) => ?_
  have kept : t.objects digest = some event := env_grown moves _ _ stored
  simp [kept, inv.named _ _ kept]

theorem answers_chainEvent (valid : s.Valid) {seen : List D} {digest : D}
    (fresh : digest ∉ seen) (found : s.eventOf registryType entityId digest = some event) :
    discipline.Answers locked (chainEvent registryType entityId seen digest) .os event s := by
  obtain ⟨stored, mine⟩ := eventOf_iff.mp found
  refine .bind valid (.require fresh) fun t moves inv => ?_
  have kept : t.objects digest = some event := env_grown moves _ _ stored
  exact .bind inv (answers_getEvent kept) fun _ _ inv' => .bind inv' (.require mine) fun _ _ _ => .pure

/-- The walk finds the history of the head that it starts from, also outside the lock. The
digests that it has seen are those of later events. -/
theorem answers_chainFrom {n : Nat} {key : Option D} {items : List (RegistryEvent D)}
    (linked : Linked (s.eventOf registryType entityId) (·.entitySequence)
      (·.previousEntityEventDigest) n key items) (seen : List D)
    (later : ∀ digest ∈ seen, ∃ event, s.objects digest = some event ∧ n < event.entitySequence)
    {t : RegistryStore D} (valid : t.Valid) (grown : Grows s.objects t.objects) :
    discipline.Answers locked (chainFrom registryType entityId n seen key) .os items t := by
  induction linked generalizing seen t with
  | genesis => exact .pure
  | @next digest event n items found position rest ih =>
      have stored := (eventOf_iff.mp found).1
      have fresh : digest ∉ seen := by
        intro member
        obtain ⟨event', stored', above⟩ := later digest member
        obtain rfl := Option.some.inj (stored.symm.trans stored')
        omega
      have found' := eventOf_mono grown _ _ found
      refine .bind valid (answers_chainEvent valid fresh found') fun u moves inv => ?_
      refine .bind inv (.require position) fun v moves' (invV : v.Valid) => ?_
      have grown' := (grown.trans (env_grown moves)).trans (env_grown moves')
      refine .bind invV (ih (digest :: seen) ?_ invV grown') fun _ _ _ => .pure
      intro other member
      rcases List.mem_cons.mp member with rfl | old
      · exact ⟨event, stored, by omega⟩
      · obtain ⟨event', stored', above⟩ := later other old
        exact ⟨event', stored', by omega⟩

theorem answers_chainOf (valid : s.Valid) {head : Option (RegistryEntityHead D)}
    {items : List (RegistryEvent D)} (chain : s.HeadChain registryType entityId head items) :
    discipline.Answers locked (chainOf registryType entityId head) .os items s := by
  cases head with
  | none =>
      cases chain
      exact .pure
  | some head => exact answers_chainFrom chain [] (by simp) valid (.refl _)

/-- Under the lock a history stays what it is. -/
theorem holds_reconstructEntityUnlocked {items : List (RegistryEvent D)}
    {normal : List (RegistryEvent D) → RegistryStore D → Prop} (valid : s.Valid)
    (chain : s.Chain registryType entityId items)
    (met : ∀ u, Free s u → u.Valid → normal items u) :
    discipline.Holds true (reconstructEntityUnlocked registryType entityId)
      (After true normal) s := by
  refine .bind valid (holds_readHead valid fun t free inv => ?_)
  have chain' : t.Chain registryType entityId items :=
    chain.grown free.grown (headAt_of_heads free.heads)
  exact (answers_chainOf inv chain').after fun u moves inv' => met u (free.trans moves) inv'

theorem answers_verifyHeads {heads : List (RegistryEntityHead D)} (valid : s.Valid)
    (known : ∀ head ∈ heads, s.headAt head.registryType head.entityId = some head) :
    discipline.Answers true (verifyHeads heads) .os () s := by
  induction heads generalizing s with
  | nil => exact .pure
  | cons head heads ih =>
      obtain ⟨event, stored, agrees⟩ := valid.head_event (known head (by simp))
      refine .bind valid (answers_getEvent stored) fun t moves inv => ?_
      refine .bind inv (.done agrees) fun u moves' inv' => ih inv' fun other member => ?_
      rw [headAt_of_heads (Free.trans moves moves').heads]
      exact known other (by simp [member])

theorem answers_snapshotUnlocked (valid : s.Valid) : ∃ snap : RegistrySnapshot D,
    discipline.Answers true (snapshotUnlocked registryType) .os snap s ∧
      snap.heads = s.typeHeads registryType := by
  obtain ⟨snap, created, listed, -⟩ : ∃ snap : RegistrySnapshot D,
    RegistrySnapshot.create registryType (s.typeHeads registryType) _ = .ok snap ∧ _ ∧ _ :=
    valid.create_ok
  refine ⟨snap, ?_, listed⟩
  refine .bind valid (a := s.headFiles registryType) (.read fun t moves _ => ?_) fun t moves inv =>
    .bind inv (.done valid.collectHeads_ok) fun u moves' inv' => ?_
  · simp only [headFiles, Free.heads moves]
  · have still : u.heads = s.heads := (Free.trans moves moves').heads
    refine .bind inv' (answers_verifyHeads inv' fun head member => ?_) fun _ _ _ => .done created
    rw [headAt_of_heads still]
    exact valid.typeHeads_known head member

theorem holds_install {normal : Unit → RegistryStore D → Prop} (valid : s.Valid)
    (met : ∀ u, discipline.env locked s u → u.Valid →
      u.objects event.digest = some event → normal () u) :
    discipline.Holds locked (install event) (After locked normal) s := by
  refine .bind valid (.read ?_)
  rintro found t u moves (inv : t.Valid) ⟨⟩ later invU
  have before := discipline.env_trans moves later
  cases stored : t.objects event.digest with
  | some other =>
      refine .require fun v same moves' invV => ?_
      subst same
      have moved := discipline.env_trans later moves'
      exact met v (discipline.env_trans before moves') invV (env_grown moved _ _ stored)
  | none =>
      refine .install ?_ ?_ ?_ (fun v moves' invV placed =>
        met v (discipline.env_trans before moves') invV placed)
      · intro v
        simp [fileObject]
      · exact fun v w moves' placed => env_grown moves' _ _ placed
      · exact fun v _ (invV : v.Valid) fresh => invV.fileObject_free fresh

/-- The one step that moves a head. -/
theorem holds_replaceHead {normal : Unit → RegistryStore D → Prop}
    (appends : ∀ t, Free s t → t.Valid → Appends t (t.replaceHead event.head) event)
    (met : ∀ t u, Free s t → t.Valid → Free (t.replaceHead event.head) u → u.Valid →
      normal () u) :
    discipline.Holds true (Prog.write RegistryError.os (replaceHead event.head))
      (After true normal) s := by
  refine .write ?_ ?_
  · intro t moves (inv : t.Valid)
    have appended := appends t moves inv
    exact ⟨⟨.refl _, .inr ⟨event, appended⟩⟩, appended.valid inv⟩
  · exact fun t u moves inv later invU => met t u moves inv later invU

/-- The head that cites an event has it at the end of its history. -/
theorem RegistryStore.Valid.holding_of_head {head : RegistryEntityHead D} (valid : s.Valid)
    (last : s.headAt event.registryType event.entityId = some head)
    (same : head.eventDigest = event.digest) : Holding event s := by
  obtain ⟨items, chain⟩ := valid.chain event.registryType event.entityId
  obtain ⟨ending, isLast, found, -⟩ := chain.head_event last
  have named := valid.named _ _ (eventOf_iff.mp found).1
  obtain rfl := RegistryEvent.digest_inj (named.trans same)
  exact ⟨items, chain, List.mem_of_getLast? isLast⟩

/-- An append at the position that the head leaves open. -/
theorem holds_advance {expectedSequence : Nat} {expectedPrevious : Option D} (valid : s.Valid)
    (stored : s.objects event.digest = some event)
    (position : s.lastSequence event.registryType event.entityId + 1 = expectedSequence)
    (last : s.lastDigest event.registryType event.entityId = expectedPrevious) :
    discipline.Holds true (advance event expectedSequence expectedPrevious)
      (After true fun _ => Holding event) s := by
  refine .bind valid (.require fun t sequence moves inv => ?_)
  refine .bind inv (.require fun u previous moves' inv' => ?_)
  have appends : ∀ v, Free u v → v.Valid → Appends v (v.replaceHead event.head) event := by
    intro v moves'' _
    have free : Free s v := (Free.trans moves moves').trans moves''
    have head : v.headAt event.registryType event.entityId =
        s.headAt event.registryType event.entityId := headAt_of_heads free.heads
    refine ⟨free.grown _ _ stored, ?_, ?_, rfl⟩
    · rw [sequence, ← position, lastSequence, lastSequence, head]
    · rw [previous, ← last, lastDigest, lastDigest, head]
  refine .bind inv' (holds_replaceHead appends fun v w moves'' invV free _ => ?_)
  obtain ⟨items, chain⟩ := invV.chain event.registryType event.entityId
  have longer : Holding event (v.replaceHead event.head) :=
    ⟨_, (appends v moves'' invV).chain chain, by simp⟩
  exact .pure fun x later _ => longer.held (discipline.held_of_free (Free.trans free later))

theorem holds_appendLocked (valid : s.Valid) (stored : s.objects event.digest = some event) :
    discipline.Holds true (appendLocked event) (After true fun _ => Holding event) s := by
  refine .bind valid (holds_readHead valid fun u free inv => ?_)
  have stored : u.objects event.digest = some event := free.grown _ _ stored
  cases last : u.headAt event.registryType event.entityId with
  | none =>
      exact holds_advance inv stored (by simp [lastSequence, last]) (by simp [lastDigest, last])
  | some current =>
      simp only
      split
      · rename_i same
        have holding := RegistryStore.Valid.holding_of_head inv last same
        exact .bind inv (.require fun v _ moves _ => .pure fun w later _ =>
          holding.held (discipline.held_of_free (Free.trans moves later)))
      · exact holds_advance inv stored (by simp [lastSequence, last]) (by simp [lastDigest, last])

/-- An append that returns has its event in the history, whoever put it there. -/
theorem holds_append (valid : s.Valid) :
    discipline.Holds false (append event) (After false fun _ => Holding event) s := by
  refine .bind valid (.result fun _ t _ _ inv => ?_)
  refine .bind inv (holds_install inv fun u _ inv stored => ?_)
  refine .locked fun v moves inv => ?_
  exact (holds_appendLocked inv (held_grown moves _ _ stored)).weaken
    fun _ _ _ holding _ later _ => holding.held later

theorem holds_entityHead (valid : s.Valid) :
    discipline.Holds false (entityHead registryType entityId : RegistryM D _)
      (After false fun _ _ => True) s :=
  .bind valid (.require fun _ _ _ _ => .locked_quiet quiet_readHead)

theorem holds_reconstructEntity (valid : s.Valid) :
    discipline.Holds false (reconstructEntity registryType entityId : RegistryM D _)
      (After false fun _ _ => True) s :=
  .seq valid (holds_entityHead valid) (fun head _ _ _ => .quiet (quiet_chainOf head))

/-- What a reader has found out about a history when it holds a head. -/
def HeadRead (registryType : RegistryType) (entityId : String) (items : List (RegistryEvent D))
    (result : Except RegistryError (Option (RegistryEntityHead D))) (t : RegistryStore D) : Prop :=
  result = .error .os ∨ ∃ head found later, result = .ok head ∧
    t.HeadChain registryType entityId head found ∧ items <+: found ∧
    t.Chain registryType entityId later ∧ found <+: later

theorem holds_head (valid : s.Valid) (named : entityId ≠ "") {items : List (RegistryEvent D)}
    (chain : s.Chain registryType entityId items) :
    discipline.Holds false (entityHead registryType entityId)
      (fun l result t => l = false ∧ HeadRead registryType entityId items result t) s := by
  have checked : discipline.Answers false
      (Prog.require (entityId ≠ "") (RegistryError.store "REGISTRY_ENTITY_ID_INVALID"))
      RegistryError.os () s :=
    .require named
  refine .andThen valid (checked.mono ?_)
  rintro l result t inv ⟨rfl, moves, rfl | rfl⟩
  · refine .locked_result fun u moves' inv' => (answers_readHead inv' named).mono ?_
    rintro l result v _ ⟨rfl, free, rfl | rfl⟩
    · refine ⟨rfl, fun w moves'' _ => .inr ?_⟩
      have before : discipline.held s u := discipline.held_trans moves moves'
      obtain ⟨found, chain', extends_⟩ := held_chain before chain
      have grown := (Free.grown free).trans (held_grown moves'')
      obtain ⟨later, chain'', extends_'⟩ :=
        held_chain (discipline.held_trans (discipline.held_of_free free) moves'') chain'
      exact ⟨_, found, later, rfl, chain'.mono (eventOf_mono grown), extends_, chain'', extends_'⟩
    · exact ⟨rfl, fun _ _ _ => .inl rfl⟩
  · exact fun _ _ _ => ⟨rfl, .inl rfl⟩

/-- Whatever the writers do, a reconstruction does not raise but for an I/O error, and what
it returns is how the history of the entity began, from the time of the call on. -/
theorem holds_history (valid : s.Valid) (named : entityId ≠ "") {items : List (RegistryEvent D)}
    (chain : s.Chain registryType entityId items) :
    discipline.Holds false (reconstructEntity registryType entityId)
      (fun l result t => l = false ∧ (result = .error .os ∨ ∃ found later, result = .ok found ∧
        items <+: found ∧ t.Chain registryType entityId later ∧ found <+: later)) s := by
  refine .andThen valid ((holds_head valid named chain).mono ?_)
  rintro l result t inv ⟨rfl, rfl | ⟨head, found, later, rfl, walked, begun, chain', ends⟩⟩
  · exact fun _ _ _ => ⟨rfl, .inl rfl⟩
  · refine (answers_chainOf inv walked).mono ?_
    rintro l result u _ ⟨rfl, moves, rfl | rfl⟩
    · obtain ⟨longer, chain'', extends_⟩ := held_chain moves chain'
      exact ⟨rfl, .inr ⟨found, longer, rfl, begun, chain'', ends.trans extends_⟩⟩
    · exact ⟨rfl, .inl rfl⟩

/-- Nothing but an I/O error is raised. -/
def Sturdy (result : Except RegistryError α) : Prop :=
  result = .error .os ∨ ∃ a, result = .ok a

theorem holds_snapshot :
    discipline.Holds false (snapshot registryType : RegistryM D _)
      (fun l result _ => l = false ∧ Sturdy result) s := by
  refine .locked_result fun t _ inv => ?_
  obtain ⟨snap, answers, -⟩ := answers_snapshotUnlocked inv
  refine answers.mono ?_
  rintro l result u _ ⟨rfl, -, rfl | rfl⟩
  · exact ⟨rfl, fun _ _ _ => .inr ⟨snap, rfl⟩⟩
  · exact ⟨rfl, fun _ _ _ => .inl rfl⟩

theorem holds_reconstructHeads (valid : s.Valid) (heads : List (RegistryEntityHead D)) :
    discipline.Holds false (reconstructHeads registryType heads)
      (fun l result _ => l = false ∧ Sturdy result) s := by
  induction heads generalizing s with
  | nil => exact fun _ _ _ => ⟨rfl, .inr ⟨[], rfl⟩⟩
  | cons head heads ih =>
      obtain ⟨items, chain⟩ := valid.chain registryType head.entityId
      refine .andThen valid ((holds_history valid head.named chain).mono ?_)
      rintro l result t inv ⟨rfl, rfl | ⟨first, -, rfl, -⟩⟩
      · exact fun _ _ _ => ⟨rfl, .inl rfl⟩
      · refine .andThen inv ((ih inv).mono ?_)
        rintro l result u _ ⟨rfl, rfl | ⟨rest, rfl⟩⟩
        · exact fun _ _ _ => ⟨rfl, .inl rfl⟩
        · exact fun _ _ _ => ⟨rfl, .inr ⟨_, rfl⟩⟩

theorem holds_reconstructSnapshot (valid : s.Valid) :
    discipline.Holds false (reconstructSnapshot registryType : RegistryM D _)
      (fun l result _ => l = false ∧ Sturdy result) s := by
  refine .andThen valid (holds_snapshot.mono ?_)
  rintro l result t inv ⟨rfl, rfl | ⟨snap, rfl⟩⟩
  · exact fun _ _ _ => ⟨rfl, .inl rfl⟩
  · exact holds_reconstructHeads inv snap.heads

end CsdFoundry.Registry
