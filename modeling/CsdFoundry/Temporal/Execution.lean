import CsdFoundry.Temporal.Interference

/-! What the operations do when they run undisturbed on a valid store. -/
namespace CsdFoundry.Temporal
open Storage TemporalStore Prog
variable {D : Type} [LinearOrder D] [Sha256 D] {s : TemporalStore D}

theorem ok_bind (a : α) (f : α → Except ε β) : (.ok a >>= f) = f a := rfl

theorem error_bind (e : ε) (f : α → Except ε β) : (.error e >>= f) = .error e := rfl

omit [Sha256 D] in
@[simp] theorem exec_lift (result : Except (TemporalError D) α) :
    (lift result).exec s = (result, s) := rfl

omit [Sha256 D] in
@[simp] theorem exec_readHead : (readHead : StoreM D (TemporalHead D)).exec s = (.ok s.head, s) :=
  rfl

omit [Sha256 D] in
@[simp] theorem exec_clearActive :
    (clearActive : StoreM D Unit).exec s = (.ok (), { s with active := none }) := rfl

omit [LinearOrder D] [Sha256 D] in
theorem attemptId_ok {claim : ClockClaim D} (token : isToken claim.attemptId = true) :
    attemptId claim = .ok claim.attemptId := if_pos token

theorem exec_getContract (valid : s.Valid) (name : ContractName) (digest : D) :
    (getContract name digest).exec s = (.ok (s.objects (name, digest)), s) := by
  unfold getContract
  rw [exec_read]
  cases found : s.objects (name, digest) with
  | none => rfl
  | some contract =>
      obtain ⟨named, addressed⟩ := valid.named name digest contract found
      simp [parseObject, named, addressed]

theorem exec_readActive_none (unmarked : s.active = none) :
    (readActive : StoreM D (Option (ClockClaim D))).exec s = (.ok none, s) := by
  unfold readActive
  rw [exec_bind_ok (t := s) (a := none) _ (by rw [exec_read, unmarked])]
  rfl

theorem exec_readActive_some (valid : s.Valid) {claim : ClockClaim D}
    (marked : s.active = some claim.digest) (active : s.Active claim) :
    (readActive : StoreM D (Option (ClockClaim D))).exec s = (.ok (some claim), s) := by
  unfold readActive
  rw [exec_bind_ok (t := s) (a := some claim.digest) _ (by rw [exec_read, marked])]
  have stored := exec_getContract valid .clockClaim claim.digest
  rw [active.1.object] at stored
  rw [exec_bind_ok _ stored]
  rfl

/-- `put_contract` never meets other bytes: the path is the digest. -/
theorem exec_putContract (valid : s.Valid) (contract : ContractObject D) :
    ∃ t, (putContract contract).exec s = (.ok (), t) ∧ (t = s ∨ t = s.fileObject contract) := by
  cases found : s.objects (contract.name, contract.digest) with
  | none => exact ⟨_, exec_install_fresh found, .inr rfl⟩
  | some stored =>
      obtain ⟨named, addressed⟩ := valid.named _ _ stored found
      obtain rfl := ContractObject.eq_of_digest named addressed
      exact ⟨s, exec_install_present found, .inl rfl⟩

/-- The outcome is decided by the attempt directory alone. -/
theorem exec_recordAttemptArtifact (valid : s.Valid) (token : isToken attempt = true)
    (artifact : ArtifactName) (contract : ContractObject D) :
    ∃ t, (t = s ∨ t = s.fileObject contract) ∧
      (recordAttemptArtifact attempt artifact contract).exec s =
        match s.attempts (attempt, artifact) with
        | none => (.ok (), t.fileAttempt attempt artifact contract)
        | some stored => (if stored = contract then .ok ()
            else .error (.conflict "immutable path contains different bytes"), t) := by
  obtain ⟨t, put, grown⟩ := exec_putContract valid contract
  refine ⟨t, grown, ?_⟩
  have files : t.attempts = s.attempts := by
    rcases grown with rfl | rfl
    · rfl
    · rfl
  unfold recordAttemptArtifact
  rw [exec_bind_ok _ (exec_require_ok token _ s), exec_bind_ok _ put, exec_install, files]
  cases s.attempts (attempt, artifact) with
  | none => rfl
  | some stored => rfl

theorem exec_readCompletion (valid : s.Valid) {completion : ClockCompletionReceipt D}
    (found : s.completionAt digest = some completion) :
    (readCompletion digest).exec s = (.ok completion, s) := by
  unfold readCompletion
  have stored := exec_getContract valid .clockCompletionReceipt digest
  rw [completionAt_iff.mp found] at stored
  rw [exec_bind_ok _ stored]
  rfl

/-- The walk finds exactly the linked chain. -/
theorem exec_chainFrom (valid : s.Valid) {items : List (ClockCompletionReceipt D)}
    (linked : Linked s.completionAt (·.clockSequence) (·.previousCompletionDigest) n key items) :
    (chainFrom n key).exec s = (.ok items, s) := by
  induction linked with
  | genesis => rfl
  | next found position rest ih =>
      unfold chainFrom
      rw [exec_bind_ok _ (exec_readCompletion valid found),
        exec_bind_ok _ (exec_require_ok position _ s), exec_bind_ok _ ih]
      rfl

theorem exec_reconstructChain (valid : s.Valid) {items : List (ClockCompletionReceipt D)}
    (chain : s.Chain items) :
    (reconstructChain : StoreM D (List (ClockCompletionReceipt D))).exec s = (.ok items, s) := by
  unfold reconstructChain
  rw [exec_bind_ok (t := s) (a := s.head) _ (by rw [exec_locked, exec_readHead])]
  exact exec_chainFrom valid chain

/-- `_publish` by anyone, while `holder` owns the marker. -/
theorem exec_publish {holder : ClockClaim D} (claim : ClockClaim D)
    (completion : ClockCompletionReceipt D) (expectedHead : TemporalHead D) (valid : s.Valid)
    (marked : s.active = some holder.digest) (active : s.Active holder) :
    (publish expectedHead claim completion).exec s =
      if s.head.clockSequence = completion.clockSequence then
        if s.head.completionDigest = some completion.digest then
          (.ok s.head, { s with active := none })
        else (.error (.conflict "clock sequence already committed with different bytes"), s)
      else if s.head = expectedHead then
        if holder.digest = claim.digest then
          (.ok (.publishing completion), { s with head := .publishing completion, active := none })
        else (.error (.conflict "completion does not own the active claim"), s)
      else (.error (.conflict "committed head changed before publication"), s) := by
  unfold publish
  rw [exec_bind_ok _ exec_readHead]
  by_cases committed : s.head.clockSequence = completion.clockSequence
  · rw [if_pos committed, if_pos committed]
    by_cases same : s.head.completionDigest = some completion.digest
    · rw [exec_bind_ok _ (exec_require_ok same _ s), exec_bind_ok _ exec_clearActive, exec_pure,
        if_pos same]
    · rw [exec_bind_error _ (exec_require_error same _ s), if_neg same]
  · rw [if_neg committed, if_neg committed]
    by_cases expected : s.head = expectedHead
    · rw [exec_bind_ok _ (exec_require_ok expected _ s),
        exec_bind_ok _ (exec_readActive_some valid marked active), if_pos expected]
      by_cases owned : holder.digest = claim.digest
      · rw [exec_bind_ok _ (exec_require_ok owned _ s), exec_bind_ok _ (exec_write _ _ s),
          exec_bind_ok _ exec_clearActive, exec_pure, if_pos owned]
      · rw [exec_bind_error _ (exec_require_error owned _ s), if_neg owned]
    · rw [exec_bind_error _ (exec_require_error expected _ s), if_neg expected]

/-- What `prepare_completion` checks before it writes anything. -/
def prepareChecks (s : TemporalStore D) (claim : ClockClaim D)
    (completion : ClockCompletionReceipt D) : Except (TemporalError D) Unit := do
  verifyCompletion claim completion
  let attempt ← attemptId claim
  match (s.bundles attempt, s.attempts (attempt, .semantic)) with
  | (some bundle, some stored) =>
      verifyProjectionBundle bundle claim completion
      if s.objects (.semanticProjectionReceipt, completion.semanticProjectionReceiptDigest) =
        some stored then .ok ()
      else .error (.conflict "completion semantic receipt is unavailable")
  | _ => .error (.conflict "completion dependencies are incomplete")

theorem exec_prepareCompletion (valid : s.Valid) (claim : ClockClaim D)
    (completion : ClockCompletionReceipt D) :
    (prepareCompletion claim completion).exec s = match prepareChecks s claim completion with
      | .ok () => (recordAttemptArtifact claim.attemptId .completion
          (.clockCompletionReceipt completion)).exec s
      | .error e => (.error e, s) := by
  unfold prepareCompletion prepareChecks
  rw [exec_bind, exec_lift]
  cases verifyCompletion claim completion with
  | error e => rfl
  | ok _ =>
      simp only [exec_bind, exec_lift, ok_bind]
      by_cases token : isToken claim.attemptId = true
      · simp only [attemptId_ok token, ok_bind, exec_read]
        cases s.bundles claim.attemptId with
        | none => rfl
        | some bundle =>
            cases s.attempts (claim.attemptId, .semantic) with
            | none => rfl
            | some stored =>
                simp only [verifyDependencies, exec_bind, exec_lift]
                cases verifyProjectionBundle bundle claim completion with
                | error e => rfl
                | ok _ =>
                    simp only [ok_bind, exec_getContract valid]
                    cases s.objects (.semanticProjectionReceipt,
                        completion.semanticProjectionReceiptDigest) with
                    | none => simp
                    | some semantic =>
                        by_cases same : stored = semantic
                        · subst same
                          simp [exec_require_ok]
                        · have other : ¬ semantic = stored := fun h => same h.symm
                          simp [exec_require_error, same, other]
      · simp only [attemptId, if_neg token, error_bind]

end CsdFoundry.Temporal
