import CsdFoundry.Temporal.Agreement

/-! What a claimant can do to the claim that owns the marker. Everything is kept, except
that publishing a completion which is the head already clears whichever marker it finds. -/
namespace CsdFoundry.Temporal
open Storage TemporalStore Prog
variable {D : Type} [LinearOrder D] [Sha256 D] {s t : TemporalStore D}

/-- The operations that are made in the name of a claim. -/
inductive Operation (D : Type) [LinearOrder D] where
  | prepare (completion : ClockCompletionReceipt D)
  | publish (expectedHead : TemporalHead D) (completion : ClockCompletionReceipt D)
  | recordFailure (failure : ClockProjectionFailure D)

def Operation.run (claim : ClockClaim D) : Operation D → StoreM D Unit
  | .prepare completion => prepareCompletion claim completion
  | .publish expectedHead completion => (publishCompletion expectedHead claim completion).discard
  | .recordFailure failure => Temporal.recordFailure claim failure

/-- The retry of a publication that has happened: the head is the claim's own completion. -/
def Operation.Republishes (claim : ClockClaim D) (head : TemporalHead D) : Operation D → Prop
  | .publish _ completion => Completes claim completion ∧ head = .publishing completion
  | .prepare _ | .recordFailure _ => False

/-- The owner of the marker prepares and publishes in `t` with the outcome it has in `s`. -/
structure Isolated (owner : ClockClaim D) (s t : TemporalStore D) : Prop where
  marker : t.active = s.active
  prepares : ∀ completion, ((prepareCompletion owner completion).exec t).1 =
    ((prepareCompletion owner completion).exec s).1
  publishes : ∀ expectedHead completion,
    let after := (publishCompletion expectedHead owner completion).exec t
    let before := (publishCompletion expectedHead owner completion).exec s
    after.1 = before.1 ∧ after.2.head = before.2.head ∧ after.2.active = before.2.active

/-- What an operation of `claim` may change: its own attempt directory, and contract objects
other than the semantic receipts. -/
structure Confined (claim : ClockClaim D) (s t : TemporalStore D) : Prop where
  valid : t.Valid
  grown : Grown s t
  head : t.head = s.head
  active : t.active = s.active
  bundles : t.bundles = s.bundles
  semantics : ∀ attempt, t.attempts (attempt, .semantic) = s.attempts (attempt, .semantic)
  receipts : ∀ digest, t.objects (.semanticProjectionReceipt, digest) =
    s.objects (.semanticProjectionReceipt, digest)
  completions : ∀ attempt, t.attempts (attempt, .completion) = s.attempts (attempt, .completion) ∨
    attempt = claim.attemptId ∧ ∃ completion, prepareChecks s claim completion = .ok ()

theorem Confined.refl (claim : ClockClaim D) (valid : s.Valid) : Confined claim s s :=
  ⟨valid, .refl s, rfl, rfl, rfl, fun _ => rfl, fun _ => rfl, fun _ => .inl rfl⟩

theorem prepareChecks_congr {owner : ClockClaim D} {completion : ClockCompletionReceipt D}
    (confined : Confined claim s t) :
    prepareChecks t owner completion = prepareChecks s owner completion := by
  unfold prepareChecks
  simp only [confined.bundles, confined.semantics, confined.receipts]

theorem prepareChecks_ok {owner : ClockClaim D} {completion : ClockCompletionReceipt D}
    (passed : prepareChecks s owner completion = .ok ()) :
    Completes owner completion ∧ isToken owner.attemptId = true ∧ ∃ bundle,
      s.bundles owner.attemptId = some bundle ∧ bundle.clockClaimDigest = owner.digest := by
  unfold prepareChecks at passed
  cases verified : verifyCompletion owner completion with
  | error e =>
      rw [verified, error_bind] at passed
      cases passed
  | ok _ =>
      rw [verified, ok_bind] at passed
      by_cases token : isToken owner.attemptId = true
      · rw [attemptId_ok token, ok_bind] at passed
        refine ⟨verifyCompletion_iff.mp verified, token, ?_⟩
        split at passed
        · rename_i bundle stored files
          obtain ⟨found, -⟩ := Prod.mk.inj files
          refine ⟨bundle, found, ?_⟩
          cases checked : verifyProjectionBundle bundle owner completion with
          | error e =>
              rw [checked, error_bind] at passed
              cases passed
          | ok _ =>
              by_contra other
              refine absurd checked ?_
              rw [verifyProjectionBundle, if_neg]
              · simp
              · rintro rfl
                exact other rfl
        · cases passed
      · rw [attemptId, if_neg token, error_bind] at passed
        cases passed

/-- A recorded artifact, whether it was accepted or not. -/
theorem confined_recordAttemptArtifact (valid : s.Valid) (token : isToken claim.attemptId = true)
    (contract : ContractObject D) (kind : contract.name ≠ .semanticProjectionReceipt)
    (own : artifact ≠ .semantic) (checked : artifact = .completion →
      ∃ completion, prepareChecks s claim completion = .ok ())
    (after : ((recordAttemptArtifact claim.attemptId artifact contract).exec s).2.Valid)
    (grown : Grown s ((recordAttemptArtifact claim.attemptId artifact contract).exec s).2) :
    Confined claim s ((recordAttemptArtifact claim.attemptId artifact contract).exec s).2 := by
  obtain ⟨t, put, run⟩ := exec_recordAttemptArtifact valid token artifact contract
  have filed : t.head = s.head ∧ t.active = s.active ∧ t.bundles = s.bundles ∧
      t.attempts = s.attempts ∧ (∀ digest, t.objects (.semanticProjectionReceipt, digest) =
        s.objects (.semanticProjectionReceipt, digest)) := by
    rcases put with rfl | rfl
    · exact ⟨rfl, rfl, rfl, rfl, fun _ => rfl⟩
    · refine ⟨rfl, rfl, rfl, rfl, fun digest => ?_⟩
      have other : (ContractName.semanticProjectionReceipt, digest) ≠
          (contract.name, contract.digest) := fun same => kind (Prod.mk.inj same).1.symm
      simp [fileObject, other]
  obtain ⟨head, active, bundles, attempts, receipts⟩ := filed
  rw [run] at after grown ⊢
  cases found : s.attempts (claim.attemptId, artifact) with
  | some stored =>
      simp only [found] at after grown ⊢
      exact ⟨after, grown, head, active, bundles, fun _ => by rw [attempts], receipts,
        fun _ => .inl (by rw [attempts])⟩
  | none =>
      simp only [found] at after grown ⊢
      refine ⟨after, grown, head, active, bundles, fun attempt => ?_, receipts, fun attempt => ?_⟩
      · have other : (attempt, ArtifactName.semantic) ≠ (claim.attemptId, artifact) :=
          fun same => own (Prod.mk.inj same).2.symm
        simp [fileAttempt, other, attempts]
      · by_cases here : (attempt, ArtifactName.completion) = (claim.attemptId, artifact)
        · obtain ⟨rfl, rfl⟩ := Prod.mk.inj here
          exact .inr ⟨rfl, checked rfl⟩
        · exact .inl (by simp [fileAttempt, here, attempts])

/-- An undisturbed operation keeps the invariant and all files. -/
theorem exec_grown {p : StoreM D α} {goal : Bool → Except (TemporalError D) α → TemporalStore D → Prop}
    (holds : discipline.Holds false p goal s) (valid : s.Valid) :
    (p.exec s).2.Valid ∧ Grown s (p.exec s).2 := by
  obtain ⟨_, _, -, -, after, moved⟩ := holds.alone valid
  exact ⟨after, held_grown moved⟩

theorem confined_prepare (valid : s.Valid) (claim : ClockClaim D)
    (completion : ClockCompletionReceipt D) :
    Confined claim s ((prepareCompletion claim completion).exec s).2 := by
  have holds : discipline.Holds false (prepareCompletion claim completion)
      (Discipline.After false fun _ _ => True) s :=
    holds_prepareCompletion valid fun _ _ _ _ => trivial
  obtain ⟨after, grown⟩ := exec_grown holds valid
  rw [exec_prepareCompletion valid] at after grown ⊢
  cases passed : prepareChecks s claim completion with
  | error e => exact .refl claim valid
  | ok _ =>
      rw [passed] at after grown
      exact confined_recordAttemptArtifact valid (prepareChecks_ok passed).2.1 _
        (by simp [ContractObject.name]) (by simp) (fun _ => ⟨completion, passed⟩) after grown

/-- `record_failure` of a claim that does not own the marker. -/
theorem confined_recordFailure (valid : s.Valid) {owner : ClockClaim D} (claim : ClockClaim D)
    (failure : ClockProjectionFailure D) (marked : s.active = some owner.digest)
    (active : s.Active owner) (different : claim ≠ owner) :
    Confined claim s ((recordFailure claim failure).exec s).2 := by
  cases verified : verifyFailure claim failure with
  | error e =>
      have raised : (lift (verifyFailure claim failure)).exec s = (.error e, s) := by
        rw [exec_lift, verified]
      rw [recordFailure, exec_bind_error _ raised]
      exact .refl claim valid
  | ok _ =>
      have checked : (lift (verifyFailure claim failure)).exec s = (.ok (), s) := by
        rw [exec_lift, verified]
      rw [recordFailure, exec_bind_ok _ checked]
      by_cases token : isToken claim.attemptId = true
      · have identified : (lift (attemptId claim)).exec s = (.ok claim.attemptId, s) := by
          rw [exec_lift, attemptId_ok token]
        rw [exec_bind_ok _ identified]
        have holds : discipline.Holds false (recordAttemptArtifact claim.attemptId .failure
            (.clockProjectionFailure failure)) (Discipline.After false fun _ _ => True) s :=
          holds_recordAttemptArtifact valid (by simp) fun _ _ _ _ _ _ => trivial
        obtain ⟨after, grown⟩ := exec_grown holds valid
        have confined := confined_recordAttemptArtifact valid token
          (.clockProjectionFailure failure) (by simp [ContractObject.name]) (by simp) (by simp)
          after grown
        cases run : (recordAttemptArtifact claim.attemptId .failure
            (.clockProjectionFailure failure)).exec s with
        | mk result u =>
            rw [run] at after grown confined
            cases result with
            | error e =>
                rw [exec_bind_error _ run]
                exact confined
            | ok _ =>
                have foreign : ¬ owner.digest = claim.digest := fun same =>
                  different (ClockClaim.digest_inj same).symm
                have held := exec_readActive_some after (confined.active.trans marked)
                  (active.grown grown confined.head)
                rw [exec_bind_ok _ run, exec_locked, exec_bind_ok _ held,
                  exec_bind_error _ (exec_require_error foreign _ u)]
                exact confined
      · have raised : (lift (attemptId claim)).exec s =
            (.error (.store "attempt path token is invalid"), s) := by
          rw [exec_lift, attemptId, if_neg token]
        rw [exec_bind_error _ raised]
        exact .refl claim valid

theorem exec_publishCompletion_error {claim : ClockClaim D}
    {completion : ClockCompletionReceipt D} {expectedHead : TemporalHead D}
    (raised : (prepareCompletion claim completion).exec s = (.error e, t)) :
    (publishCompletion expectedHead claim completion).exec s = (.error e, t) := by
  rw [publishCompletion, exec_bind_error _ raised]

theorem exec_publishCompletion {owner : ClockClaim D} (valid : s.Valid) (claim : ClockClaim D)
    (completion : ClockCompletionReceipt D) (expectedHead : TemporalHead D)
    (prepared : (prepareCompletion claim completion).exec s = (.ok (), t))
    (marked : s.active = some owner.digest) (active : s.Active owner) :
    (publishCompletion expectedHead claim completion).exec s =
      if s.head.clockSequence = completion.clockSequence then
        if s.head.completionDigest = some completion.digest then
          (.ok s.head, { t with active := none })
        else (.error (.conflict "clock sequence already committed with different bytes"), t)
      else if s.head = expectedHead then
        if owner.digest = claim.digest then
          (.ok (.publishing completion), { t with head := .publishing completion, active := none })
        else (.error (.conflict "completion does not own the active claim"), t)
      else (.error (.conflict "committed head changed before publication"), t) := by
  have confined := confined_prepare valid claim completion
  rw [prepared] at confined
  have published := exec_publish claim completion expectedHead confined.valid
    (confined.active.trans marked) (active.grown confined.grown confined.head)
  rw [publishCompletion, exec_bind_ok _ prepared, exec_locked, published, confined.head]

/-- A confined change does not show in what the owner does. -/
theorem Confined.isolated {claim owner : ClockClaim D} (confined : Confined claim s t)
    (valid : s.Valid) (marked : s.active = some owner.digest) (active : s.Active owner)
    (different : claim ≠ owner) : Isolated owner s t := by
  have prepares : ∀ completion, ((prepareCompletion owner completion).exec t).1 =
      ((prepareCompletion owner completion).exec s).1 := by
    intro completion
    rw [exec_prepareCompletion valid, exec_prepareCompletion confined.valid,
      prepareChecks_congr confined]
    cases passed : prepareChecks s owner completion with
    | error e => rfl
    | ok _ =>
        have ready := prepareChecks_ok passed
        -- a shared attempt directory has one bundle, which names one of the two claims
        have own : t.attempts (owner.attemptId, .completion) =
            s.attempts (owner.attemptId, .completion) := by
          rcases confined.completions owner.attemptId with same | ⟨shared, other, passed'⟩
          · exact same
          · obtain ⟨-, -, bundle, found, cites⟩ := ready
            obtain ⟨-, -, bundle', found', cites'⟩ := prepareChecks_ok passed'
            rw [shared] at found
            obtain rfl := Option.some.inj (found.symm.trans found')
            exact absurd (ClockClaim.digest_inj (cites'.symm.trans cites)) different
        obtain ⟨u, -, before⟩ := exec_recordAttemptArtifact valid ready.2.1 .completion
          (.clockCompletionReceipt completion)
        obtain ⟨v, -, after⟩ := exec_recordAttemptArtifact confined.valid ready.2.1 .completion
          (.clockCompletionReceipt completion)
        simp only [before, after, own]
        cases s.attempts (owner.attemptId, .completion) with
        | none => rfl
        | some stored => rfl
  refine ⟨confined.active, prepares, fun expectedHead completion => ?_⟩
  have same := prepares completion
  have before := confined_prepare valid owner completion
  have after := confined_prepare confined.valid owner completion
  cases ran : (prepareCompletion owner completion).exec s with
  | mk result u =>
      cases ran' : (prepareCompletion owner completion).exec t with
      | mk result' v =>
          rw [ran, ran'] at same
          rw [ran] at before
          rw [ran'] at after
          subst same
          cases result' with
          | error e =>
              rw [exec_publishCompletion_error ran, exec_publishCompletion_error ran']
              refine ⟨rfl, ?_, ?_⟩
              · exact after.head.trans (confined.head.trans before.head.symm)
              · exact after.active.trans (confined.active.trans before.active.symm)
          | ok _ =>
              have head : v.head = u.head := after.head.trans (confined.head.trans before.head.symm)
              have marker : v.active = u.active :=
                after.active.trans (confined.active.trans before.active.symm)
              rw [exec_publishCompletion valid owner completion expectedHead ran marked active,
                exec_publishCompletion confined.valid owner completion expectedHead ran'
                  (confined.active.trans marked) (active.grown confined.grown confined.head),
                confined.head]
              split
              · split
                · exact ⟨rfl, head, rfl⟩
                · exact ⟨rfl, head, marker⟩
              · split
                · split
                  · exact ⟨rfl, rfl, rfl⟩
                  · exact ⟨rfl, head, marker⟩
                · exact ⟨rfl, head, marker⟩

/-- Publication by a claim that does not own the marker. -/
theorem exec_publish_foreign {claim owner : ClockClaim D} (valid : s.Valid)
    (marked : s.active = some owner.digest) (active : s.Active owner) (different : claim ≠ owner)
    (expectedHead : TemporalHead D) (completion : ClockCompletionReceipt D)
    (fresh : ¬ (Completes claim completion ∧ s.head = .publishing completion)) :
    Confined claim s ((publishCompletion expectedHead claim completion).exec s).2 := by
  have confined := confined_prepare valid claim completion
  cases ran : (prepareCompletion claim completion).exec s with
  | mk result u =>
      rw [ran] at confined
      cases result with
      | error e =>
          rw [publishCompletion, exec_bind_error _ ran]
          exact confined
      | ok _ =>
          rw [exec_publishCompletion valid claim completion expectedHead ran marked active]
          split
          · rename_i sequence
            split
            · rename_i digest
              refine absurd ⟨?_, ?_⟩ fresh
              · rw [exec_prepareCompletion valid] at ran
                cases passed : prepareChecks s claim completion with
                | error e =>
                    rw [passed] at ran
                    cases ran
                | ok _ => exact (prepareChecks_ok passed).1
              · cases heads : s.head
                rw [heads] at sequence digest
                simp_all [TemporalHead.publishing]
            · exact confined
          · split
            · split
              · rename_i same
                exact absurd (ClockClaim.digest_inj same).symm different
              · exact confined
            · exact confined

/-- The completion that is the head prepares again, whoever asks. -/
theorem exec_prepare_committed (valid : s.Valid) {claim : ClockClaim D}
    {completion : ClockCompletionReceipt D} (completes : Completes claim completion)
    (committed : s.head = .publishing completion) :
    ∃ u, (prepareCompletion claim completion).exec s = (.ok (), u) := by
  obtain ⟨items, chain, known⟩ := valid.chain
  have last := chain_last valid chain
  obtain ⟨item, isLast, digest⟩ : ∃ item, items.getLast? = some item ∧
      item.digest = completion.digest := by
    rw [committed] at last
    simpa [TemporalHead.publishing] using last
  obtain rfl := ClockCompletionReceipt.digest_inj digest
  obtain ⟨attempt, kept⟩ := known item (List.mem_of_getLast? isLast)
  obtain ⟨_, ⟨⟩, token, ⟨other, bundle, rfl, completes', found, verified⟩,
    ⟨stored, filed, object⟩, -⟩ := valid.prepared _ _ kept
  obtain rfl := completes'.claim_eq completes
  have passed : prepareChecks s other item = .ok () := by
    simp [prepareChecks, verifyCompletion_iff.mpr completes, attemptId_ok token, ok_bind, found,
      filed, verified, object]
  obtain ⟨u, -, run⟩ := exec_recordAttemptArtifact valid token .completion
    (.clockCompletionReceipt item)
  rw [kept] at run
  exact ⟨u, by rw [exec_prepareCompletion valid, passed]; simpa using run⟩

variable {ι : Type} [DecidableEq ι]

/-- An operation in the name of another claim leaves the owner of the marker alone exactly
when it does not publish what is published already. -/
theorem isolated_iff (reachable : Reachable ι s) (claim owner : ClockClaim D)
    (operation : Operation D) (marked : s.active = some owner.digest) (different : claim ≠ owner) :
    Isolated owner s ((operation.run claim).exec s).2 ↔ ¬ operation.Republishes claim s.head := by
  have valid := reachable.valid
  obtain ⟨other, cites, active⟩ := valid.active _ marked
  obtain rfl := ClockClaim.digest_inj cites
  constructor
  · rintro isolated republishes
    cases operation with
    | prepare completion => exact republishes
    | recordFailure failure => exact republishes
    | publish expectedHead completion =>
        obtain ⟨completes, committed⟩ := republishes
        obtain ⟨u, prepared⟩ := exec_prepare_committed valid completes committed
        have sequence : s.head.clockSequence = completion.clockSequence := by rw [committed]; rfl
        have digest : s.head.completionDigest = some completion.digest := by rw [committed]; rfl
        have cleared := exec_publishCompletion valid claim completion expectedHead prepared marked
          active
        rw [if_pos sequence, if_pos digest] at cleared
        have marker := isolated.marker
        simp only [Operation.run, exec_discard, cleared, marked] at marker
        cases marker
  · intro fresh
    refine Confined.isolated ?_ valid marked active different
    cases operation with
    | prepare completion => exact confined_prepare valid claim completion
    | recordFailure failure =>
        exact confined_recordFailure valid claim failure marked active different
    | publish expectedHead completion =>
        rw [Operation.run, exec_discard]
        exact exec_publish_foreign valid marked active different expectedHead completion fresh

/-- The claim of the second sequence. -/
def sampleNext : ClockClaim (List Nat) where
  attemptId := "b"
  previousCommittedSequence := 1
  previousCompletionDigest := some (sampleCompletion (sampleClaim "a")).digest
  proposedSequence := 2
  validatedEventDigest := [1]
  claimantId := "other claimant"
  claimPolicyDigest := [2]
  successor := rfl

/-- One claim after the first completion is published. -/
def sampleContention (head : TemporalHead (List Nat)) (claim : ClockClaim (List Nat)) :
    List (StoreM (List Nat) Unit × Nat) :=
  samplePublication (sampleClaim "a") ++ [((claimSuccessor head claim).discard, 100)]

theorem sampleContention_calls (head : TemporalHead (List Nat)) (claim : ClockClaim (List Nat)) :
    ∀ call ∈ sampleContention head claim, Call call.1 := by
  intro call member
  rcases List.mem_append.mp member with published | claimed
  · exact samplePublication_calls _ call published
  · rw [List.mem_singleton.mp claimed]
    exact .claimSuccessor head claim

def sampleContended : TemporalStore (List Nat) :=
  history (sampleContention (.publishing (sampleCompletion (sampleClaim "a"))) sampleNext) .initial

theorem sampleContended_reachable : Reachable Unit sampleContended :=
  reachable_history () (sampleContention_calls _ _)

theorem sampleContended_marked : sampleContended.active = some sampleNext.digest := by
  decide +kernel

theorem sampleNext_other : sampleClaim "a" ≠ sampleNext := by decide +kernel

theorem samplePreparation_isolated : Isolated sampleNext sampleContended
    ((prepareCompletion (sampleClaim "a") (sampleCompletion (sampleClaim "a"))).exec
      sampleContended).2 :=
  (isolated_iff sampleContended_reachable (sampleClaim "a") sampleNext
    (.prepare (sampleCompletion (sampleClaim "a"))) sampleContended_marked
    sampleNext_other).mpr id

/-- A retry of the first publication takes the marker of the second claim away. -/
theorem republication_interferes : Reachable Unit sampleContended ∧
    sampleContended.active = some sampleNext.digest ∧ sampleClaim "a" ≠ sampleNext ∧
    ¬ Isolated sampleNext sampleContended
      ((publishCompletion .initial (sampleClaim "a") (sampleCompletion (sampleClaim "a"))).exec
        sampleContended).2 := by
  refine ⟨sampleContended_reachable, sampleContended_marked, sampleNext_other, fun isolated => ?_⟩
  have cleared : ((publishCompletion .initial (sampleClaim "a")
      (sampleCompletion (sampleClaim "a"))).exec sampleContended).2.active = none := by
    decide +kernel
  have kept := isolated.marker.trans sampleContended_marked
  rw [cleared] at kept
  cases kept

end CsdFoundry.Temporal
