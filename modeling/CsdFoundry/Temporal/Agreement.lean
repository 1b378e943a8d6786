import CsdFoundry.Temporal.Execution

/-! Agreement on the temporal head: whatever the claimants do, there is one chain of
completions, and it only ever grows at its end. -/
namespace CsdFoundry.Temporal
open Storage TemporalStore
variable {D : Type} [LinearOrder D] [Sha256 D] {s : TemporalStore D}

theorem TemporalStore.Valid.completion_digest (valid : s.Valid)
    {completion : ClockCompletionReceipt D} (found : s.completionAt key = some completion) :
    completion.digest = key :=
  (valid.named _ _ _ (completionAt_iff.mp found)).2

/-- Each completion of the chain names the one before it by digest. -/
theorem chain_adjacent (valid : s.Valid) {items : List (ClockCompletionReceipt D)}
    (chain : s.Chain items) : List.IsChain (fun older newer : ClockCompletionReceipt D =>
      newer.previousCompletionDigest = some older.digest) items := by
  apply chain.adjacent.imp
  rintro older newer ⟨key, cited, found⟩
  rw [cited, valid.completion_digest found]

theorem chain_last (valid : s.Valid) {items : List (ClockCompletionReceipt D)}
    (chain : s.Chain items) : items.getLast?.map (·.digest) = s.head.completionDigest := by
  unfold Chain at chain
  cases cited : s.head.completionDigest with
  | none =>
      rw [cited] at chain
      have empty := chain.length.trans (chain.zero_iff.mpr rfl)
      simp [List.eq_nil_of_length_eq_zero empty]
  | some key =>
      rw [cited] at chain
      obtain ⟨item, last, found⟩ := chain.getLast
      simp [last, valid.completion_digest found]

omit [Sha256 D] in
/-- A chain holds one completion for each sequence. -/
theorem chain_injective {items : List (ClockCompletionReceipt D)} (chain : s.Chain items)
    (first : a ∈ items) (second : b ∈ items) (same : a.clockSequence = b.clockSequence) :
    a = b := by
  have distinct : (items.map (·.clockSequence)).Nodup := by
    rw [chain.sequences]
    exact List.nodup_range'
  exact List.inj_on_of_nodup_map distinct first second same

variable {ι : Type} [DecidableEq ι]

/-- At every moment of every run: the next move publishes at most the next completion;
the marker names one claim; the chain of the head reconstructs, down to genesis; and
whatever happens later extends it, so that a sequence is never committed twice. -/
theorem head_agreement {c : Pool ι (TemporalStore D) (TemporalError D) Unit}
    (run : Pool.Reaches Call (.idle .initial) c) :
    (∀ c', Pool.Move Call c c' → c'.store.head = c.store.head ∨
      ∃ completion, Publishes c.store c'.store completion) ∧
    (∀ digest, c.store.active = some digest →
      ∃! claim : ClockClaim D, claim.digest = digest ∧ c.store.Active claim) ∧
    ∃ items, reconstructChain.exec c.store = (.ok items, c.store) ∧
      items.map (·.clockSequence) = List.range' 1 c.store.head.clockSequence ∧
      (∀ oldest, items.head? = some oldest → oldest.previousCompletionDigest = none) ∧
      List.IsChain (fun older newer : ClockCompletionReceipt D =>
        newer.previousCompletionDigest = some older.digest) items ∧
      items.getLast?.map (·.digest) = c.store.head.completionDigest ∧
      ∀ c', Pool.Reaches Call c c' → ∃ later,
        reconstructChain.exec c'.store = (.ok later, c'.store) ∧ items <+: later ∧
        (chainFrom c.store.head.clockSequence c.store.head.completionDigest).exec c'.store =
          (.ok items, c'.store) ∧
        ∀ a ∈ items, ∀ b ∈ later, a.clockSequence = b.clockSequence → a = b := by
  have checked : ∀ p, Call p → ∀ s : TemporalStore D, discipline.inv s →
      discipline.Holds false p (Discipline.After false fun _ _ => True) s :=
    fun _ call s valid => call.holds s valid
  have sound := run_sound run
  have valid : c.store.Valid := sound.valid
  obtain ⟨items, chain, -⟩ := valid.chain
  refine ⟨?_, ?_, items, exec_reconstructChain valid chain, chain.sequences,
    fun oldest isFirst => chain.first isFirst, chain_adjacent valid chain,
    chain_last valid chain, ?_⟩
  · intro c' move
    exact (Discipline.move_sound checked move sound).2.head
  · intro digest marked
    obtain ⟨claim, cites, active⟩ := valid.active digest marked
    refine ⟨claim, ⟨cites, active⟩, ?_⟩
    rintro other ⟨cites', -⟩
    exact ClockClaim.digest_inj (cites'.trans cites.symm)
  · intro c' later
    have moved := Discipline.reaches_sound checked later sound
    have valid' : c'.store.Valid := moved.1.valid
    obtain ⟨items', chain', extends_⟩ := held_chain moved.2 chain
    refine ⟨items', exec_reconstructChain valid' chain', extends_, ?_, ?_⟩
    · exact exec_chainFrom valid' (chain.mono (held_grown moved.2).completionAt)
    · intro a memberA b memberB same
      exact chain_injective chain' (extends_.subset memberA) memberB same

/-! A small store to run the protocol on, digests being their own preimages. -/
section Sample

def sampleClaim (attempt : String) : ClockClaim (List Nat) where
  attemptId := attempt
  previousCommittedSequence := 0
  previousCompletionDigest := none
  proposedSequence := 1
  validatedEventDigest := [1]
  claimantId := "claimant"
  claimPolicyDigest := [2]
  successor := rfl

def sampleReceipt (claim : ClockClaim (List Nat)) : SemanticProjectionReceipt (List Nat) where
  clockClaimDigest := claim.digest
  validatedEventDigest := claim.validatedEventDigest
  projectionSequence := claim.proposedSequence
  preStateDigest := [3]
  postStateDigest := [4]
  semanticTraceDigest := [5]
  semanticPolicyDigest := [6]

def sampleArtifacts : ProjectionArtifacts (List Nat) where
  evidenceUnitRootDigest := [7]
  assumptionRootDigest := [8]
  alternativeModelRootDigest := [9]
  dispositionReceiptDigest := [10]
  quarantineEpoch := 0
  quarantineMarkerDigests := []
  observedPhaseOrder := phases
  releaseCompilationInvocations := 0

def sampleCompletion (claim : ClockClaim (List Nat)) : ClockCompletionReceipt (List Nat) where
  clockSequence := claim.proposedSequence
  previousCompletionDigest := claim.previousCompletionDigest
  clockClaimDigest := claim.digest
  validatedEventDigest := claim.validatedEventDigest
  semanticProjectionReceiptDigest := (sampleReceipt claim).digest
  registryRootDigests := ⟨[7], [8], [9]⟩
  dispositionReceiptDigest := [10]
  quarantineEpoch := 0
  quarantineMarkerDigests := []
  completionPolicyDigest := [11]
  positive := claim.successor ▸ Nat.succ_pos _
  canonical := .nil

/-- A claim of the first sequence, and the records that its completion depends on. -/
def sampleAttempt (claim : ClockClaim (List Nat)) : List (StoreM (List Nat) Unit × Nat) :=
  [((claimSuccessor .initial claim).discard, 100),
    (recordAttemptArtifact claim.attemptId .semantic
      (.semanticProjectionReceipt (sampleReceipt claim)), 100),
    (recordProjectionArtifacts claim (sampleReceipt claim) sampleArtifacts, 100)]

theorem sampleAttempt_calls (claim : ClockClaim (List Nat)) :
    ∀ call ∈ sampleAttempt claim, Call call.1 := by
  intro call member
  simp only [sampleAttempt, List.mem_cons, List.not_mem_nil, or_false] at member
  rcases member with rfl | rfl | rfl
  · exact .claimSuccessor _ _
  · exact .recordSemantic _ _
  · exact .recordProjectionArtifacts _ _ _

def samplePublication (claim : ClockClaim (List Nat)) : List (StoreM (List Nat) Unit × Nat) :=
  sampleAttempt claim ++
    [((publishCompletion .initial claim (sampleCompletion claim)).discard, 100)]

theorem samplePublication_calls (claim : ClockClaim (List Nat)) :
    ∀ call ∈ samplePublication claim, Call call.1 := by
  intro call member
  rcases List.mem_append.mp member with attempt | published
  · exact sampleAttempt_calls _ call attempt
  · obtain rfl := List.mem_singleton.mp published
    exact .publishCompletion _ _ _

set_option maxRecDepth 100000 in
theorem head_agreement_sample :
    ∃ s : TemporalStore (List Nat), s.head.clockSequence = 1 ∧
      ∃ items, reconstructChain.exec s = (.ok items, s) ∧ items.length = 1 := by
  have run := Pool.history_reaches () (samplePublication_calls (sampleClaim "a")) .initial
  have committed : (Prog.history (samplePublication (sampleClaim "a"))
      (.initial : TemporalStore (List Nat))).head.clockSequence = 1 := by decide +kernel
  obtain ⟨-, -, items, chain, sequences, -⟩ := head_agreement run
  have count := congrArg List.length sequences
  simp only [List.length_map, List.length_range'] at count
  exact ⟨_, committed, items, chain, count.trans committed⟩

end Sample
end CsdFoundry.Temporal
