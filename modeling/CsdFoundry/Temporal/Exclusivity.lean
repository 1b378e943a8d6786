import CsdFoundry.Temporal.Agreement
import CsdFoundry.Temporal.Recovery
import CsdFoundry.Temporal.Sections

/-! Terminal exclusivity of an attempt. The receipts of failure and of completion are
written without consulting each other: a run keeps the promise when no failure is recorded
that the head contradicts, and no section publishes for an attempt that has both receipts. -/
namespace CsdFoundry.Temporal
open Storage TemporalStore Prog
variable {D : Type} [LinearOrder D] [Sha256 D] {s t : TemporalStore D}

/-- The head commits the completion that this attempt directory keeps. -/
def Committed (s : TemporalStore D) (attempt : String) : Prop :=
  ∃ items completion, s.Chain items ∧ completion ∈ items ∧
    s.attempts (attempt, .completion) = some (.clockCompletionReceipt completion)

/-- No attempt has both a recorded failure and a published completion. -/
def Exclusive (s : TemporalStore D) : Prop :=
  ∀ attempt, Committed s attempt → s.attempts (attempt, .failure) = none

/-- The completion names its claim, and the claim its attempt. -/
theorem attempt_unique (valid : s.Valid) {completion : ClockCompletionReceipt D}
    (first : s.attempts (a, .completion) = some (.clockCompletionReceipt completion))
    (second : s.attempts (b, .completion) = some (.clockCompletionReceipt completion)) : a = b := by
  obtain ⟨_, ⟨⟩, -, ⟨claim, -, rfl, completes, -⟩, -⟩ := valid.prepared _ _ first
  obtain ⟨_, ⟨⟩, -, ⟨claim', -, rfl, completes', -⟩, -⟩ := valid.prepared _ _ second
  rw [completes.claim_eq completes']

/-- What one operation can commit: what was committed before, or what it publishes. -/
theorem committed_step (valid : s.Valid) (valid' : t.Valid) (act : Act s t)
    (committed : Committed t attempt) : Committed s attempt ∨ ∃ completion,
      Publishes s t completion ∧
      s.attempts (attempt, .completion) = some (.clockCompletionReceipt completion) := by
  obtain ⟨items', completion, chain', member, kept'⟩ := committed
  obtain ⟨items, chain, known⟩ := valid.chain
  have old : completion ∈ items → Committed s attempt := by
    intro member
    obtain ⟨other, kept⟩ := known completion member
    obtain rfl := attempt_unique valid' (act.grown.attempts _ _ kept) kept'
    exact ⟨items, completion, chain, member, kept⟩
  rcases act.chain chain with same | ⟨next, publishes, longer⟩
  · obtain rfl := chain'.unique same
    exact .inl (old member)
  · obtain rfl := chain'.unique longer
    rcases List.mem_append.mp member with earlier | latest
    · exact .inl (old earlier)
    · obtain rfl := List.mem_singleton.mp latest
      obtain ⟨other, kept⟩ := publishes.prepared
      obtain rfl := attempt_unique valid' (act.grown.attempts _ _ kept) kept'
      exact .inr ⟨completion, publishes, kept⟩

/-- One operation keeps exclusivity when it neither publishes a failed attempt nor fails a
committed one. -/
theorem exclusive_step (valid : s.Valid) (valid' : t.Valid) (act : Act s t)
    (before : Exclusive s)
    (publishing : ∀ completion attempt, Publishes s t completion →
      s.attempts (attempt, .completion) = some (.clockCompletionReceipt completion) →
      s.attempts (attempt, .failure) = none)
    (failing : ∀ attempt, Committed s attempt → s.attempts (attempt, .failure) = none →
      t.attempts (attempt, .failure) = none) : Exclusive t := by
  intro attempt committed
  rcases committed_step valid valid' act committed with old | ⟨completion, publishes, kept⟩
  · exact failing attempt old (before attempt old)
  · rw [publishes.attempts]
    exact publishing completion attempt publishes kept

variable {ι : Type} [DecidableEq ι]

/-- No process has returned a failure outcome for a claim whose completion is committed. -/
def Honest (c : Pool ι (TemporalStore D) (TemporalError D) (Option (TemporalAttemptOutcome D))) :
    Prop :=
  ∀ i outcome failure, c.task i = some (.done (.ok (some outcome))) →
    outcome.terminal = .error failure → ∀ items, c.store.Chain items →
    ∀ completion ∈ items, ¬ Completes outcome.claim completion

theorem honest_of_exclusive
    {c : Pool ι (TemporalStore D) (TemporalError D) (Option (TemporalAttemptOutcome D))}
    (sound : Discipline.Sound discipline Finished c) (exclusive : Exclusive c.store) :
    Honest c := by
  intro i outcome failure returned failed items chain completion member completes
  have recorded := sound.returned returned outcome rfl failure failed
  have valid : c.store.Valid := sound.valid
  obtain ⟨items', chain', known⟩ := valid.chain
  obtain rfl := chain.unique chain'
  obtain ⟨attempt, kept⟩ := known completion member
  obtain ⟨_, ⟨⟩, -, ⟨claim, -, rfl, completes', -⟩, -⟩ := valid.prepared _ _ kept
  obtain rfl := completes'.claim_eq completes
  have absent := exclusive _ ⟨items, completion, chain, member, kept⟩
  rw [recorded] at absent
  cases absent

/-- The marker names an attempt that has recorded a failure and prepared a completion. -/
structure Torn (s : TemporalStore D) (claim : ClockClaim D) : Prop where
  marked : s.active = some claim.digest
  failed : s.attempts (claim.attemptId, .failure) ≠ none
  prepared : ∃ completion, s.Owns claim completion

/-- No completion of this claim becomes the head. -/
def Spares (claim : ClockClaim D) (update : TemporalStore D → TemporalStore D) : Prop :=
  ∀ s completion, Completes claim completion →
    (update s).head = .publishing completion → s.head = .publishing completion

/-- The head has not come to the sequence of this completion, or another completion took it. -/
def Outstanding (s : TemporalStore D) (completion : ClockCompletionReceipt D) : Prop :=
  s.head.clockSequence < completion.clockSequence ∨ ∃ items other, s.Chain items ∧
    other ∈ items ∧ other.clockSequence = completion.clockSequence ∧ other ≠ completion

/-- What a move of process `i` asks of the state that it starts from. A failure is recorded
where the completion beside it is outstanding; a process that takes the lock while an attempt
is torn does not publish that attempt; nor does one that holds the lock while another process
installs the second of the two receipts. -/
structure Orderly (i : ι)
    (c d : Pool ι (TemporalStore D) (TemporalError D) (Option (TemporalAttemptOutcome D))) :
    Prop where
  failing : ∀ attempt, c.store.attempts (attempt, .failure) = none →
    d.store.attempts (attempt, .failure) ≠ none → ∀ completion,
    c.store.attempts (attempt, .completion) = some (.clockCompletionReceipt completion) →
    Outstanding c.store completion
  entering : ∀ next, c.task i = some (.acquire next) → d.owner = some i →
    ∀ claim, Torn c.store claim → next.Section (Spares claim)
  meeting : ∀ claim, ¬ Torn c.store claim → Torn d.store claim →
    ∀ j p, c.owner = some j → j ≠ i → c.task j = some p → p.Section (Spares claim)

/-- The moves of the service whose state allows them. -/
def OrderlyMove
    (c d : Pool ι (TemporalStore D) (TemporalError D) (Option (TemporalAttemptOutcome D))) :
    Prop :=
  ∃ i p, ServiceCall p ∧ Pool.MoveBy p i c d ∧ Orderly i c d

theorem KeepsHead.spares {update : TemporalStore D → TemporalStore D} (keeps : KeepsHead update)
    (claim : ClockClaim D) : Spares claim update :=
  fun s _ _ head => (keeps s).symm.trans head

/-- An attempt is not torn by a calm update. -/
theorem Calm.torn {update : TemporalStore D → TemporalStore D} (calm : Calm update)
    (torn : Torn (update s) claim) : Torn s claim := by
  obtain ⟨marked, failed, completion, kept, completes⟩ := torn
  rw [calm.attempts s _ _ (.inl rfl)] at failed
  rw [calm.attempts s _ _ (.inr rfl)] at kept
  refine ⟨?_, failed, completion, kept, completes⟩
  rcases calm.active s with same | cleared
  · exact same.symm.trans marked
  · rw [cleared] at marked
    cases marked

omit [Sha256 D] in
/-- An outstanding completion is not one of the chain. -/
theorem Outstanding.not_mem {completion : ClockCompletionReceipt D}
    (outstanding : Outstanding s completion) {items : List (ClockCompletionReceipt D)}
    (chain : s.Chain items) : completion ∉ items := by
  intro member
  rcases outstanding with ahead | ⟨items', other, chain', taken, same, different⟩
  · obtain ⟨-, -, m, -, at_, below, -⟩ := Linked.of_mem chain member
    omega
  · obtain rfl := chain.unique chain'
    exact different (chain_injective chain taken member same)

/-- The invariant of orderly runs. -/
structure Safe
    (c : Pool ι (TemporalStore D) (TemporalError D) (Option (TemporalAttemptOutcome D))) :
    Prop where
  sound : Discipline.Sound discipline Finished c
  exclusive : Exclusive c.store
  settled : Pool.Settled Calm KeepsHead c
  guarded : ∀ claim, Pool.Guarded (fun s => Torn s claim) (Spares claim) c

theorem Safe.initial : Safe (Pool.idle initial : Pool ι (TemporalStore D) (TemporalError D)
    (Option (TemporalAttemptOutcome D))) where
  sound := Discipline.sound_idle initial_valid
  exclusive := fun _ _ => rfl
  settled := .idle _
  guarded := fun _ => .idle _

variable
  {c d : Pool ι (TemporalStore D) (TemporalError D) (Option (TemporalAttemptOutcome D))}
  {p : StoreM D (Option (TemporalAttemptOutcome D))}

theorem publishes_sequence {completion : ClockCompletionReceipt D}
    (publishes : Publishes s t completion) : s.head ≠ .publishing completion := by
  intro same
  have position := congrArg TemporalHead.clockSequence same
  have next := publishes.sequence
  change s.head.clockSequence = completion.clockSequence at position
  omega

/-- The publisher owns the marker and the lock, and a guarded one spares a torn attempt. -/
theorem Safe.publishing (safe : Safe c) (move : Pool.MoveBy p i c d)
    {completion : ClockCompletionReceipt D} (publishes : Publishes c.store d.store completion)
    (kept : c.store.attempts (attempt, .completion) = some (.clockCompletionReceipt completion)) :
    c.store.attempts (attempt, .failure) = none := by
  have valid : c.store.Valid := safe.sound.valid
  obtain ⟨_, ⟨⟩, -, ⟨claim, -, rfl, completes, -⟩, -⟩ := valid.prepared _ _ kept
  by_contra failed
  have torn : Torn c.store claim :=
    ⟨publishes.owner.trans (congrArg some completes.cites), failed, completion, kept, completes⟩
  have moved := publishes_sequence publishes
  have effect := move.effect safe.sound
  by_cases owned : c.owner = some i
  · rcases (safe.guarded claim).updates torn owned move with same | ⟨update, spares, same⟩
    · exact moved ((congrArg TemporalStore.head same).symm.trans publishes.head)
    · exact moved (spares _ _ completes ((congrArg TemporalStore.head same).symm.trans
        publishes.head))
  · rw [decide_eq_false owned] at effect
    have free : Free c.store d.store := effect
    exact moved (free.head.symm.trans publishes.head)

/-- The step lemma. -/
theorem Safe.move (safe : Safe c) (move : OrderlyMove c d) : Safe d := by
  obtain ⟨i, p, call, move, orderly⟩ := move
  have step : Pool.Move ServiceCall c d := move.move call
  obtain ⟨sound, act⟩ := Discipline.move_sound
    (fun _ call s valid => ServiceCall.holds call s valid) step safe.sound
  refine ⟨sound, ?_, move.settled call.tidy.settles safe.settled, fun claim => ?_⟩
  · refine exclusive_step safe.sound.valid sound.valid act safe.exclusive
      (fun completion attempt => safe.publishing move) ?_
    rintro attempt ⟨items, completion, chain, member, kept⟩ absent
    by_contra failed
    exact (orderly.failing attempt absent failed completion kept).not_mem chain member
  · refine move.guarded (safe.guarded claim) safe.sound.owned ?_
      (fun _ _ => Calm.torn) ?_ (orderly.meeting claim)
    · exact fun j q found => (safe.settled j q found).imp fun _ keeps => keeps.spares claim
    · exact fun next found entered torn => orderly.entering next found entered claim torn

/-- In every orderly run each state is exclusive, and each returned failure outcome honest. -/
theorem exclusive_run (run : Relation.ReflTransGen OrderlyMove (Pool.idle .initial) c) :
    Exclusive c.store ∧ Honest c := by
  have safe : Safe c := by
    induction run with
    | refl => exact .initial
    | tail _ move ih => exact ih.move move
  exact ⟨safe.exclusive, honest_of_exclusive safe.sound safe.exclusive⟩

/-- A recovery that enters a torn attempt undisturbed publishes it. -/
theorem recover_torn (valid : s.Valid) (torn : Torn s claim) :
    ¬ Exclusive ((recover : StoreM D String).exec s).2 := by
  obtain ⟨completion, owned⟩ := torn.prepared
  obtain ⟨claim', cites, active⟩ := valid.active _ torn.marked
  obtain rfl := ClockClaim.digest_inj cites
  have after := recover_valid valid
  rw [exec_recover_prepared valid torn.marked active owned] at after ⊢
  intro exclusive
  obtain ⟨items, chain, -⟩ := after.chain
  obtain ⟨last, isLast, digest⟩ : ∃ last, items.getLast? = some last ∧
      last.digest = completion.digest := by
    have ends := chain_last after chain
    simpa [TemporalHead.publishing] using ends
  obtain rfl := ClockCompletionReceipt.digest_inj digest
  exact torn.failed (exclusive _ ⟨items, last, chain, List.mem_of_getLast? isLast, owned.1⟩)

/-- Between the calls of a sequential history the store is valid. -/
theorem service_valid (run : Pool.Reaches ServiceCall (.idle .initial : Pool ι (TemporalStore D)
    (TemporalError D) (Option (TemporalAttemptOutcome D))) (.idle s)) : s.Valid :=
  (Discipline.reaches_sound (fun _ call s valid => ServiceCall.holds call s valid) run
    (Discipline.sound_idle initial_valid)).1.valid

/-- No attempt has both terminal receipts. -/
def Apart (s : TemporalStore D) : Prop :=
  ∀ attempt, s.attempts (attempt, .failure) = none ∨ s.attempts (attempt, .completion) = none

theorem Apart.not_torn (apart : Apart s) (claim : ClockClaim D) : ¬ Torn s claim := by
  rintro ⟨-, failed, completion, kept, -⟩
  rcases apart claim.attemptId with absent | absent
  · exact failed absent
  · rw [absent] at kept
    cases kept

omit [Sha256 D] in
theorem Apart.earlier (apart : Apart t) (grown : Grown s t) : Apart s := by
  have absent : ∀ key, t.attempts key = none → s.attempts key = none := by
    intro key absent
    by_contra present
    obtain ⟨value, found⟩ := Option.ne_none_iff_exists'.mp present
    rw [grown.attempts _ _ found] at absent
    cases absent
  exact fun attempt => (apart attempt).imp (absent _) (absent _)

/-- A run that leaves no attempt with both receipts is orderly. -/
theorem orderly_run (run : Pool.Reaches ServiceCall c d)
    (sound : Discipline.Sound discipline Finished c) (apart : Apart d.store) :
    Relation.ReflTransGen OrderlyMove c d := by
  induction run with
  | refl => exact .refl
  | @tail b d before move ih =>
      obtain ⟨sound', -⟩ := Discipline.reaches_sound
        (fun _ call s valid => ServiceCall.holds call s valid) before sound
      obtain ⟨-, act⟩ := Discipline.move_sound
        (fun _ call s valid => ServiceCall.holds call s valid) move sound'
      have apart' : Apart b.store := apart.earlier act.grown
      obtain ⟨i, p, call, by_⟩ := move.moveBy (.store .recover)
      refine (ih apart').tail ⟨i, p, call, by_, fun attempt _ failed completion kept => ?_, ?_, ?_⟩
      · have absent := (apart attempt).resolve_left failed
        rw [act.grown.attempts _ _ kept] at absent
        cases absent
      · exact fun next _ _ claim torn => absurd torn (apart'.not_torn claim)
      · exact fun claim _ torn => absurd torn (apart.not_torn claim)

/-- Calls one after the other, crashes included, whose last store keeps the receipts apart. -/
theorem orderly_history (i : ι)
    {calls : List (StoreM D (Option (TemporalAttemptOutcome D)) × Nat)}
    (allowed : ∀ call ∈ calls, ServiceCall call.1) (apart : Apart (history calls initial)) :
    Relation.ReflTransGen OrderlyMove (.idle .initial : Pool ι (TemporalStore D)
      (TemporalError D) (Option (TemporalAttemptOutcome D))) (.idle (history calls initial)) :=
  orderly_run (Pool.history_reaches i allowed .initial) (Discipline.sound_idle initial_valid) apart

def sampleCoordinator : ProjectionCoordinator (List Nat) where
  semanticProjector claim _ := .ok (sampleReceipt claim)
  projectionAdapter _ _ _ := .ok sampleArtifacts
  claimPolicyDigest := [2]
  completionPolicyDigest := [11]
  osText := "OSError:"

def sampleOutage : ProjectionCoordinator (List Nat) :=
  { sampleCoordinator with
    semanticProjector := fun _ _ => .error (.foreign "RuntimeError" "projector is down") }

/-- A tick of the service for this claim. -/
def sampleTick (coordinator : ProjectionCoordinator (List Nat)) (claim : ClockClaim (List Nat)) :
    List (StoreM (List Nat) (Option (TemporalAttemptOutcome (List Nat))) × Nat) :=
  [((claimSuccessor .initial claim).discard.map fun _ => none, 100),
    ((coordinator.completeClaim .initial claim claim.validatedEventDigest).map some, 100)]

theorem sampleTick_calls (coordinator : ProjectionCoordinator (List Nat))
    (claim : ClockClaim (List Nat)) : ∀ call ∈ sampleTick coordinator claim,
    ServiceCall call.1 := by
  intro call member
  simp only [sampleTick, List.mem_cons, List.not_mem_nil, or_false] at member
  rcases member with rfl | rfl
  · exact .store (.claimSuccessor _ _)
  · exact .completeClaim _ _ _ _

/-- One attempt fails and another one completes in its place. -/
def sampleRecovery : List (StoreM (List Nat) (Option (TemporalAttemptOutcome (List Nat))) × Nat) :=
  sampleTick sampleOutage (sampleClaim "a") ++ sampleTick sampleCoordinator (sampleClaim "b")

theorem sampleRecovery_calls : ∀ call ∈ sampleRecovery, ServiceCall call.1 := by
  intro call member
  rcases List.mem_append.mp member with failed | completed
  · exact sampleTick_calls _ _ call failed
  · exact sampleTick_calls _ _ call completed

/-- The calls of a tick write in the directory of its attempt. -/
theorem sampleTick_writes (coordinator : ProjectionCoordinator (List Nat))
    (claim : ClockClaim (List Nat)) : ∀ call ∈ sampleTick coordinator claim,
    call.1.Uses (WritesIn claim.attemptId) := by
  intro call member
  simp only [sampleTick, List.mem_cons, List.not_mem_nil, or_false] at member
  rcases member with rfl | rfl
  · exact Within.map (Within.map (writes_claimSuccessor _ _) fun _ => True.intro)
      fun _ => True.intro
  · exact Within.map (writes_completeClaim _ _ _ _) fun _ => True.intro

/-- The two directories hold one terminal receipt each, and there is no other. -/
theorem sampleRecovery_apart : Apart (history sampleRecovery .initial) := by
  intro attempt
  by_cases first : attempt = "a"
  · subst first
    exact .inr (by decide +kernel)
  by_cases second : attempt = "b"
  · subst second
    exact .inl (by decide +kernel)
  refine .inl (history_elsewhere ["a", "b"] (fun call member => ?_)
    (by simp [first, second]) .failure)
  rcases List.mem_append.mp member with failed | completed
  · exact ⟨"a", by simp, sampleTick_writes _ _ call failed⟩
  · exact ⟨"b", by simp, sampleTick_writes _ _ call completed⟩

theorem exclusive_sample : ∃ s : TemporalStore (List Nat),
    s.head.completionDigest = some (sampleCompletion (sampleClaim "b")).digest ∧
    (s.attempts ("a", .failure)).isSome = true ∧ Exclusive s := by
  have run := orderly_history () sampleRecovery_calls sampleRecovery_apart
  exact ⟨_, by decide +kernel, by decide +kernel, (exclusive_run run).1⟩

/-- An attempt fails, is claimed again and completes. -/
def sampleRevival (claim : ClockClaim (List Nat)) :
    List (StoreM (List Nat) (Option (TemporalAttemptOutcome (List Nat))) × Nat) :=
  sampleTick sampleOutage claim ++ sampleTick sampleCoordinator claim

theorem sampleRevival_calls (claim : ClockClaim (List Nat)) :
    ∀ call ∈ sampleRevival claim, ServiceCall call.1 := by
  intro call member
  rcases List.mem_append.mp member with failed | completed
  · exact sampleTick_calls _ _ call failed
  · exact sampleTick_calls _ _ call completed

def sampleRevived : TemporalStore (List Nat) :=
  history (sampleRevival (sampleClaim "a")) .initial

theorem sampleRevived_reaches : Pool.Reaches ServiceCall
    (.idle .initial : Pool Unit (TemporalStore (List Nat)) (TemporalError (List Nat))
      (Option (TemporalAttemptOutcome (List Nat)))) (.idle sampleRevived) :=
  Pool.history_reaches () (sampleRevival_calls (sampleClaim "a")) .initial

theorem revived_attempt_not_exclusive : Pool.Reaches ServiceCall
    (.idle .initial : Pool Unit (TemporalStore (List Nat)) (TemporalError (List Nat))
      (Option (TemporalAttemptOutcome (List Nat)))) (.idle sampleRevived) ∧
    ¬ Exclusive sampleRevived := by
  refine ⟨sampleRevived_reaches, fun exclusive => ?_⟩
  have head : sampleRevived.head.completionDigest =
      some (sampleCompletion (sampleClaim "a")).digest := by decide +kernel
  have failed : (sampleRevived.attempts ("a", .failure)).isSome = true := by decide +kernel
  have kept : sampleRevived.attempts ("a", .completion) =
      some (.clockCompletionReceipt (sampleCompletion (sampleClaim "a"))) := by decide +kernel
  have valid := service_valid sampleRevived_reaches
  obtain ⟨items, chain, -⟩ := valid.chain
  obtain ⟨last, isLast, digest⟩ : ∃ last, items.getLast? = some last ∧
      last.digest = (sampleCompletion (sampleClaim "a")).digest := by
    have ends := chain_last valid chain
    rw [head] at ends
    simpa using ends
  rw [← ClockCompletionReceipt.digest_inj digest] at kept
  have absent := exclusive "a" ⟨items, last, chain, List.mem_of_getLast? isLast, kept⟩
  rw [absent] at failed
  cases failed

end CsdFoundry.Temporal
