import CsdFoundry.Temporal.Agreement

/-! When `recover` brings a crashed store back, and when it cannot. A failure receipt
that a crash left behind differs from the one that recovery wants to install. -/
namespace CsdFoundry.Temporal
open Storage TemporalStore Prog
variable {D : Type} [LinearOrder D] [Sha256 D] {s : TemporalStore D}

/-- The predecessor of an active claim is a head that `TemporalHead` admits. -/
theorem TemporalStore.Active.genesis (valid : s.Valid) {claim : ClockClaim D}
    (active : s.Active claim) :
    claim.previousCommittedSequence = 0 ↔ claim.previousCompletionDigest = none := by
  rcases active.2 with ⟨sequence, digest⟩ | ⟨completion, ⟨kept, completes⟩, at_⟩
  · rw [sequence, digest]
    exact s.head.genesis
  · obtain ⟨items, chain, -⟩ := valid.chain
    obtain ⟨_, ⟨⟩, ready⟩ := valid.prepared _ _ kept
    unfold Chain at chain
    have position : s.head.clockSequence = claim.previousCommittedSequence + 1 := by
      rw [at_, ← claim.successor, ← completes.sequence]
      rfl
    have cited : s.head.completionDigest = some completion.digest := by
      rw [at_]
      rfl
    rw [position, cited] at chain
    cases chain with
    | next found _ rest =>
        obtain rfl := Option.some.inj (ready.object.symm.trans found)
        rw [← completes.previous]
        exact rest.zero_iff

/-- A prepared completion of the active claim passes `_verify_prepared` again. -/
theorem exec_verifyPrepared (valid : s.Valid) {claim : ClockClaim D}
    {completion : ClockCompletionReceipt D} (token : isToken claim.attemptId = true)
    (owned : s.Owns claim completion) :
    (verifyPrepared claim completion).exec s = (.ok (), s) := by
  obtain ⟨kept, completes⟩ := owned
  obtain ⟨_, ⟨⟩, -, ⟨other, bundle, named, completes', found, verified⟩,
    ⟨stored, filed, object⟩, -⟩ := valid.prepared _ _ kept
  obtain rfl := completes'.claim_eq completes
  unfold verifyPrepared
  have checked : (lift (verifyCompletion other completion)).exec s = (.ok (), s) := by
    rw [exec_lift, verifyCompletion_iff.mpr completes]
  have identified : (lift (attemptId other)).exec s = (.ok other.attemptId, s) := by
    rw [exec_lift, attemptId_ok token]
  rw [exec_bind_ok _ checked, exec_bind_ok _ identified,
    exec_bind_ok (t := s) (a := (some bundle, some stored)) _ (by rw [exec_read, found, filed])]
  unfold verifyDependencies
  have matches_ : (lift (verifyProjectionBundle bundle other completion)).exec s = (.ok (), s) := by
    rw [exec_lift, verified]
  have semantic := exec_getContract valid .semanticProjectionReceipt
    completion.semanticProjectionReceiptDigest
  rw [object] at semantic
  rw [exec_bind_ok _ matches_, exec_bind_ok _ semantic, exec_require_ok rfl]

/-- The attempt directory of the active claim, as `recover` finds it. -/
theorem exec_recover (valid : s.Valid) {claim : ClockClaim D}
    (marked : s.active = some claim.digest) (active : s.Active claim) :
    (recover : StoreM D String).exec s =
      (match s.attempts (claim.attemptId, .completion) with
      | some (.clockCompletionReceipt completion) => do
          verifyPrepared claim completion
          let expected ← lift
            (temporalHead claim.previousCommittedSequence claim.previousCompletionDigest)
          let _ ← publish expected claim completion
          return "PREPARED_COMPLETION_PUBLISHED"
      | some _ => throw (.conflict "stored contract fails validation")
      | none => do
          recordAttemptArtifact claim.attemptId .failure
            (.clockProjectionFailure (recoveryFailure claim))
          clearActive
          return "INCOMPLETE_ATTEMPT_FAILED" : StoreM D String).exec s := by
  unfold recover
  have identified : (lift (attemptId claim)).exec s = (.ok claim.attemptId, s) := by
    rw [exec_lift, attemptId_ok active.1.token]
  rw [exec_locked, exec_bind_ok _ (exec_readActive_some valid marked active),
    exec_bind_ok _ identified]
  rfl

theorem exec_recover_idle (unmarked : s.active = none) :
    (recover : StoreM D String).exec s = (.ok "NO_ACTIVE_CLAIM", s) := by
  unfold recover
  rw [exec_locked, exec_bind_ok _ (exec_readActive_none unmarked)]
  rfl

theorem exec_recover_prepared (valid : s.Valid) {claim : ClockClaim D}
    {completion : ClockCompletionReceipt D} (marked : s.active = some claim.digest)
    (active : s.Active claim) (owned : s.Owns claim completion) :
    (recover : StoreM D String).exec s = (.ok "PREPARED_COMPLETION_PUBLISHED",
      { s with head := .publishing completion, active := none }) := by
  rw [exec_recover valid marked active, owned.1]
  have head : temporalHead claim.previousCommittedSequence claim.previousCompletionDigest =
      .ok ⟨_, _, active.genesis valid⟩ := dif_pos _
  rw [exec_bind_ok _ (exec_verifyPrepared valid active.1.token owned),
    exec_bind_ok (t := s) _ (by rw [exec_lift, head])]
  rcases active.2 with follows | ⟨other, ⟨kept, -⟩, committed⟩
  · have expected : s.head = ⟨_, _, active.genesis valid⟩ := by
      rcases follows with ⟨sequence, digest⟩
      cases heads : s.head
      rw [heads] at sequence digest
      simp [sequence, digest]
    have open_ : s.head.clockSequence ≠ completion.clockSequence := by
      have next := owned.2.sequence_succ follows
      omega
    have published := exec_publish claim completion s.head valid marked active
    rw [if_neg open_, if_pos rfl, if_pos rfl] at published
    rw [← expected, exec_bind_ok _ published]
    rfl
  · have same : other = completion := by simpa using kept.symm.trans owned.1
    subst same
    have sequence : s.head.clockSequence = other.clockSequence := by rw [committed]; rfl
    have digest : s.head.completionDigest = some other.digest := by rw [committed]; rfl
    have published := exec_publish claim other ⟨_, _, active.genesis valid⟩ valid marked active
    rw [if_pos sequence, if_pos digest] at published
    rw [exec_bind_ok _ published, exec_pure, ← committed]

/-- After recovery a claim of the next sequence is acquired, unless its attempt directory
belongs to another claim. -/
def Claimable (s : TemporalStore D) : Prop :=
  ∀ claim : ClockClaim D, claim.Follows s.head → isToken claim.attemptId = true →
    (∀ stored, s.attempts (claim.attemptId, .claim) = some stored → stored = .clockClaim claim) →
    ((claimSuccessor s.head claim).exec s).1 = .ok ⟨claim, true, "CLAIM_ACQUIRED"⟩

theorem exec_claimSuccessor (valid : s.Valid) (unmarked : s.active = none) : Claimable s := by
  intro claim follows token own
  have verified : (lift (verifyClaim s.head claim)).exec s = (.ok (), s) := by
    rw [exec_lift, verifyClaim_iff.mpr follows]
  have identified : (lift (attemptId claim)).exec s = (.ok claim.attemptId, s) := by
    rw [exec_lift, attemptId_ok token]
  obtain ⟨t, grown, run⟩ := exec_recordAttemptArtifact valid token .claim (.clockClaim claim)
  have filed : ∃ u, (recordAttemptArtifact claim.attemptId .claim (.clockClaim claim)).exec s =
      (.ok (), u) ∧ u.head = s.head ∧ u.active = s.active := by
    have still : t.head = s.head ∧ t.active = s.active := by
      rcases grown with rfl | rfl <;> exact ⟨rfl, rfl⟩
    cases found : s.attempts (claim.attemptId, .claim) with
    | none =>
        rw [found] at run
        exact ⟨_, run, still⟩
    | some stored =>
        rw [found, own stored found] at run
        exact ⟨t, by simpa using run, still⟩
  obtain ⟨u, filed, head, active⟩ := filed
  unfold claimSuccessor
  rw [exec_bind_ok _ verified, exec_bind_ok _ identified, exec_bind_ok _ filed, exec_locked,
    exec_bind_ok _ exec_readHead, if_neg (not_not.mpr head),
    exec_bind_ok _ (exec_readActive_none (active.trans unmarked)),
    exec_bind_ok _ (exec_write _ _ u), exec_pure]

/-- What recovery promises: no exception, no marker, a head that is unchanged or the prepared
completion of the active claim, and room for the next claim. -/
def Recovers (s : TemporalStore D) : Prop :=
  ∃ outcome t, (recover : StoreM D String).exec s = (.ok outcome, t) ∧ t.active = none ∧
    (t.head = s.head ∨ ∃ (claim : ClockClaim D) (completion : ClockCompletionReceipt D),
      s.active = some claim.digest ∧
      s.attempts (claim.attemptId, .completion) = some (.clockCompletionReceipt completion) ∧
      t.head = .publishing completion) ∧
    Claimable t

/-- The attempt directory of the active claim holds a completion of that claim, or no completion
and no failure receipt but the one that recovery itself would write. -/
def AttemptRecoverable (s : TemporalStore D) (claim : ClockClaim D) : Prop :=
  match s.attempts (claim.attemptId, .completion) with
  | some (.clockCompletionReceipt completion) => completion.clockClaimDigest = claim.digest
  | some _ => False
  | none => ∀ stored, s.attempts (claim.attemptId, .failure) = some stored →
      stored = .clockProjectionFailure (recoveryFailure claim)

theorem owns_of_cites (valid : s.Valid) {claim : ClockClaim D}
    {completion : ClockCompletionReceipt D}
    (kept : s.attempts (claim.attemptId, .completion) = some (.clockCompletionReceipt completion))
    (cites : completion.clockClaimDigest = claim.digest) : s.Owns claim completion := by
  obtain ⟨_, ⟨⟩, -, ⟨other, _, _, completes, _⟩, -⟩ := valid.prepared _ _ kept
  obtain rfl : other = claim := ClockClaim.digest_inj (completes.cites.symm.trans cites)
  exact ⟨kept, completes⟩

theorem recover_valid (valid : s.Valid) :
    ((recover : StoreM D String).exec s).2.Valid := by
  obtain ⟨_, _, -, -, after, -⟩ := (holds_recover (s := s)).alone valid
  exact after

theorem recovers_of_recoverable (valid : s.Valid) (claim : ClockClaim D)
    (marked : s.active = some claim.digest) (active : s.Active claim)
    (recoverable : AttemptRecoverable s claim) : Recovers s := by
  have after := recover_valid valid
  unfold AttemptRecoverable at recoverable
  split at recoverable
  · rename_i completion kept
    have owned := owns_of_cites valid kept recoverable
    have run := exec_recover_prepared valid marked active owned
    rw [run] at after
    exact ⟨_, _, run, rfl, .inr ⟨claim, completion, marked, kept, rfl⟩,
      exec_claimSuccessor after rfl⟩
  · exact recoverable.elim
  · rename_i absent
    have run := exec_recover valid marked active
    rw [absent] at run
    obtain ⟨t, grown, recorded⟩ := exec_recordAttemptArtifact valid active.1.token .failure
      (.clockProjectionFailure (recoveryFailure claim))
    have head : t.head = s.head := by rcases grown with rfl | rfl <;> rfl
    have filed : ∃ u, (recordAttemptArtifact claim.attemptId .failure
        (.clockProjectionFailure (recoveryFailure claim))).exec s = (.ok (), u) ∧
        u.head = s.head := by
      cases found : s.attempts (claim.attemptId, .failure) with
      | none =>
          rw [found] at recorded
          exact ⟨_, recorded, head⟩
      | some stored =>
          rw [found, recoverable stored found] at recorded
          exact ⟨t, by simpa using recorded, head⟩
    obtain ⟨u, filed, head⟩ := filed
    rw [exec_bind_ok _ filed, exec_bind_ok _ exec_clearActive, exec_pure] at run
    rw [run] at after
    exact ⟨_, _, run, rfl, .inl head, exec_claimSuccessor after rfl⟩

theorem recoverable_of_recovers (valid : s.Valid) (claim : ClockClaim D)
    (marked : s.active = some claim.digest) (active : s.Active claim) (recovers : Recovers s) :
    AttemptRecoverable s claim := by
  obtain ⟨outcome, t, run, -⟩ := recovers
  rw [exec_recover valid marked active] at run
  unfold AttemptRecoverable
  split at run
  · rename_i completion kept
    obtain ⟨_, _, verified, -⟩ := exec_bind_ok_iff.mp run
    unfold verifyPrepared at verified
    obtain ⟨_, _, checked, -⟩ := exec_bind_ok_iff.mp verified
    rw [exec_lift] at checked
    exact (verifyCompletion_iff.mp (Prod.mk.inj checked).1).cites
  · cases run
  · obtain ⟨_, _, recorded, -⟩ := exec_bind_ok_iff.mp run
    obtain ⟨u, -, outcome⟩ := exec_recordAttemptArtifact valid active.1.token .failure
      (.clockProjectionFailure (recoveryFailure claim))
    intro stored found
    rw [outcome, found] at recorded
    by_contra different
    simp [different] at recorded

variable {ι : Type} [DecidableEq ι]

/-- Recovery is complete exactly on the stores whose active attempt is recoverable. -/
theorem recovers_iff (reachable : Reachable ι s) :
    Recovers s ↔ ∀ claim : ClockClaim D, s.active = some claim.digest →
      AttemptRecoverable s claim := by
  have valid := reachable.valid
  constructor
  · intro recovers claim marked
    obtain ⟨other, cites, active⟩ := valid.active _ marked
    obtain rfl := ClockClaim.digest_inj cites
    exact recoverable_of_recovers valid other marked active recovers
  · intro recoverable
    cases marked : s.active with
    | none =>
        exact ⟨_, s, exec_recover_idle marked, marked, .inl rfl, exec_claimSuccessor valid marked⟩
    | some digest =>
        obtain ⟨claim, rfl, active⟩ := valid.active _ marked
        exact recovers_of_recoverable valid claim marked active (recoverable claim marked)

/-- The claimant of `sampleClaim` has prepared its completion and crashed. -/
def samplePrepared : TemporalStore (List Nat) :=
  history (sampleAttempt (sampleClaim "a") ++
    [(prepareCompletion (sampleClaim "a") (sampleCompletion (sampleClaim "a")), 100)]) .initial

theorem samplePrepared_reachable : Reachable Unit samplePrepared := by
  refine reachable_history () ?_
  intro call member
  rcases List.mem_append.mp member with attempt | prepared
  · exact sampleAttempt_calls _ call attempt
  · obtain rfl := List.mem_singleton.mp prepared
    exact .prepareCompletion _ _

theorem samplePrepared_recovers : Recovers samplePrepared := by
  apply (recovers_iff samplePrepared_reachable).mpr
  intro claim marked
  have cites : samplePrepared.active = some (sampleClaim "a").digest := by decide +kernel
  obtain rfl := ClockClaim.digest_inj (Option.some.inj (marked.symm.trans cites))
  have kept : samplePrepared.attempts ("a", .completion) =
      some (.clockCompletionReceipt (sampleCompletion (sampleClaim "a"))) := by decide +kernel
  unfold AttemptRecoverable
  rw [show (sampleClaim "a").attemptId = "a" from rfl, kept]
  rfl

def sampleFailure (claim : ClockClaim (List Nat)) : ClockProjectionFailure (List Nat) :=
  { recoveryFailure claim with failureCode := "PROJECTION_FAILED" }

/-- `record_failure` crashes after its receipt is durable and before the marker is cleared. -/
def sampleWedged : TemporalStore (List Nat) :=
  history (sampleAttempt (sampleClaim "a") ++
    [(recordFailure (sampleClaim "a") (sampleFailure (sampleClaim "a")), 2)]) .initial

theorem recovery_wedged : Reachable Unit sampleWedged ∧ ¬ Recovers sampleWedged := by
  constructor
  · refine reachable_history () ?_
    intro call member
    rcases List.mem_append.mp member with attempt | failed
    · exact sampleAttempt_calls _ call attempt
    · obtain rfl := List.mem_singleton.mp failed
      exact .recordFailure _ _
  · rintro ⟨outcome, t, run, -⟩
    have raises : ((recover : StoreM (List Nat) String).exec sampleWedged).1 =
        .error (.conflict "immutable path contains different bytes") := by decide +kernel
    rw [run] at raises
    cases raises

end CsdFoundry.Temporal
