import CsdFoundry.Digest
import CsdFoundry.Keyed
import Mathlib.Data.String.Basic

/-! Attempt completions and the resolution of a sample by its lowest valid attempt. Contract
constants such as the release and the schema versions are digest domains here. -/
namespace CsdFoundry.Synthesis

/-- The error classes of the synthesis protocols. Those about attempts carry their message. -/
inductive SynthesisError where
  | attemptReplay (message : String)
  | postAcceptance (message : String)
  | publicationProtocol
  | shardPublication
  | reconciliation
  | conflict
  deriving DecidableEq

def require (condition : Prop) [Decidable condition] (otherwise : SynthesisError) :
    Except SynthesisError Unit :=
  if condition then .ok () else .error otherwise

theorem require_bind_ok {condition : Prop} [Decidable condition] {otherwise : SynthesisError}
    {next : Unit → Except SynthesisError α} {a : α} :
    (require condition otherwise >>= next) = .ok a ↔ condition ∧ next () = .ok a := by
  by_cases met : condition
  · simp [require, met, Bind.bind, Except.bind]
  · simp [require, met, Bind.bind, Except.bind]

theorem require_pos {condition : Prop} [Decidable condition] (met : condition)
    {otherwise : SynthesisError} : require condition otherwise = .ok () := if_pos met

theorem require_neg_bind {condition : Prop} [Decidable condition] (unmet : ¬ condition)
    {otherwise : SynthesisError} {next : Unit → Except SynthesisError α} :
    (require condition otherwise >>= next) = .error otherwise := by
  rw [require, if_neg unmet]
  rfl

theorem ok_bind {a : α} {next : α → Except SynthesisError β} :
    (Except.ok a >>= next) = next a := rfl

theorem mapM_ok_iff {f : α → Except SynthesisError β} {l : List α} {bs : List β} :
    l.mapM f = .ok bs ↔ List.Forall₂ (fun a b => f a = .ok b) l bs := by
  induction l generalizing bs with
  | nil =>
      rw [List.mapM_nil, List.forall₂_nil_left_iff]
      exact ⟨fun same => (Except.ok.inj same).symm, fun same => same ▸ rfl⟩
  | cons a l ih =>
      rw [List.mapM_cons, List.forall₂_cons_left_iff]
      cases first : f a with
      | error e => simp [Bind.bind, Except.bind]
      | ok b =>
          cases rest : l.mapM f with
          | error e => simp [Bind.bind, Except.bind, ← ih, rest]
          | ok more =>
              simp only [← ih, rest, Except.ok.injEq]
              constructor
              · intro same
                exact ⟨b, more, rfl, rfl, (Except.ok.inj same).symm⟩
              · rintro ⟨_, _, rfl, rfl, rfl⟩
                rfl

theorem mapM_ok {f : α → Except SynthesisError β} {l : List α} (each : ∀ a ∈ l, ∃ b, f a = .ok b) :
    ∃ bs, l.mapM f = .ok bs := by
  simp only [mapM_ok_iff]
  induction l with
  | nil => exact ⟨[], .nil⟩
  | cons a l ih =>
      obtain ⟨b, first⟩ := each a List.mem_cons_self
      obtain ⟨bs, rest⟩ := ih fun other later => each other (List.mem_cons_of_mem _ later)
      exact ⟨b :: bs, .cons first rest⟩

/-- Calls that succeed under a condition, each with a known value. -/
theorem mapM_known_iff {f : α → Except SynthesisError β} {g : α → β} {P : α → Prop}
    (spec : ∀ a b, f a = .ok b ↔ P a ∧ b = g a) {l : List α} {bs : List β} :
    l.mapM f = .ok bs ↔ (∀ a ∈ l, P a) ∧ bs = l.map g := by
  rw [mapM_ok_iff]
  simp only [spec]
  induction l generalizing bs with
  | nil => simp
  | cons a l ih =>
      simp only [List.forall₂_cons_left_iff, ih, List.mem_cons, List.map_cons, forall_eq_or_imp]
      constructor
      · rintro ⟨_, _, ⟨met, rfl⟩, ⟨all, rfl⟩, rfl⟩
        exact ⟨⟨met, all⟩, rfl⟩
      · rintro ⟨⟨met, all⟩, rfl⟩
        exact ⟨_, _, ⟨met, rfl⟩, ⟨all, rfl⟩, rfl⟩

structure SampleKey where
  targetId : String
  sampleIndex : Nat
  deriving DecidableEq

structure AttemptKey where
  sampleKey : SampleKey
  attemptIndex : Nat
  deriving DecidableEq

structure AttemptRange where
  maximumAttempts : Nat
  positive : 1 ≤ maximumAttempts
  bounded : maximumAttempts ≤ 2 ^ 32
  deriving DecidableEq

def AttemptRange.contains (range : AttemptRange) (attemptIndex : Nat) : Bool :=
  attemptIndex < range.maximumAttempts

def AttemptKey.fields {D : Type} (key : AttemptKey) : List (Field D) :=
  [.nat key.attemptIndex, .nat key.sampleKey.sampleIndex, .str key.sampleKey.targetId]

inductive RejectionOwner where
  | targetCatalog
  | planner
  | stateConstructor
  | eventSampler
  | kernel
  | independentVerifier
  | replayEngine
  | canonicalizer
  | holdoutAllocator
  | mutationEngine
  | duplicateMonitor
  | releaseCompiler
  deriving DecidableEq

def RejectionOwner.value : RejectionOwner → String
  | .targetCatalog => "target_catalog"
  | .planner => "planner"
  | .stateConstructor => "state_constructor"
  | .eventSampler => "event_sampler"
  | .kernel => "kernel"
  | .independentVerifier => "independent_verifier"
  | .replayEngine => "replay_engine"
  | .canonicalizer => "canonicalizer"
  | .holdoutAllocator => "holdout_allocator"
  | .mutationEngine => "mutation_engine"
  | .duplicateMonitor => "duplicate_monitor"
  | .releaseCompiler => "release_compiler"

inductive RejectionCause where
  | targetContractUnsat
  | targetSearchBudgetExhausted
  | planConstructionFailure
  | stateConstructionFailure
  | samplerPreconditionFailure
  | kernelExecutionFailure
  | independentVerifierFailure
  | replayDivergence
  | canonicalizationFailure
  | canonicalizationDivergence
  | holdoutConflict
  | mutationNoop
  | mutationNotInvalid
  | mutationAmbiguous
  | mutationEscape
  | duplicateAnomaly
  | artifactSerializationFailure
  deriving DecidableEq

def RejectionCause.value : RejectionCause → String
  | .targetContractUnsat => "TARGET_CONTRACT_UNSAT"
  | .targetSearchBudgetExhausted => "TARGET_SEARCH_BUDGET_EXHAUSTED"
  | .planConstructionFailure => "PLAN_CONSTRUCTION_FAILURE"
  | .stateConstructionFailure => "STATE_CONSTRUCTION_FAILURE"
  | .samplerPreconditionFailure => "SAMPLER_PRECONDITION_FAILURE"
  | .kernelExecutionFailure => "KERNEL_EXECUTION_FAILURE"
  | .independentVerifierFailure => "INDEPENDENT_VERIFIER_FAILURE"
  | .replayDivergence => "REPLAY_DIVERGENCE"
  | .canonicalizationFailure => "CANONICALIZATION_FAILURE"
  | .canonicalizationDivergence => "CANONICALIZATION_DIVERGENCE"
  | .holdoutConflict => "HOLDOUT_CONFLICT"
  | .mutationNoop => "MUTATION_NOOP"
  | .mutationNotInvalid => "MUTATION_NOT_INVALID"
  | .mutationAmbiguous => "MUTATION_AMBIGUOUS"
  | .mutationEscape => "MUTATION_ESCAPE"
  | .duplicateAnomaly => "DUPLICATE_ANOMALY"
  | .artifactSerializationFailure => "ARTIFACT_SERIALIZATION_FAILURE"

/-- `_REJECTION_OWNERS`. -/
def RejectionCause.owner : RejectionCause → RejectionOwner
  | .targetContractUnsat => .targetCatalog
  | .targetSearchBudgetExhausted | .planConstructionFailure => .planner
  | .stateConstructionFailure => .stateConstructor
  | .samplerPreconditionFailure => .eventSampler
  | .kernelExecutionFailure => .kernel
  | .independentVerifierFailure => .independentVerifier
  | .replayDivergence => .replayEngine
  | .canonicalizationFailure | .canonicalizationDivergence => .canonicalizer
  | .holdoutConflict => .holdoutAllocator
  | .mutationNoop | .mutationNotInvalid | .mutationAmbiguous | .mutationEscape => .mutationEngine
  | .duplicateAnomaly => .duplicateMonitor
  | .artifactSerializationFailure => .releaseCompiler

def RejectionCause.all : List RejectionCause :=
  [.targetContractUnsat, .targetSearchBudgetExhausted, .planConstructionFailure,
    .stateConstructionFailure, .samplerPreconditionFailure, .kernelExecutionFailure,
    .independentVerifierFailure, .replayDivergence, .canonicalizationFailure,
    .canonicalizationDivergence, .holdoutConflict, .mutationNoop, .mutationNotInvalid,
    .mutationAmbiguous, .mutationEscape, .duplicateAnomaly, .artifactSerializationFailure]

theorem RejectionCause.value_injective : Function.Injective RejectionCause.value := by
  have listed : ∀ cause,
      RejectionCause.all.find? (fun other => other.value = cause.value) = some cause := by
    intro cause
    cases cause <;> decide
  intro a b same
  have found := listed a
  rw [same, listed b] at found
  exact (Option.some.inj found).symm

structure AttemptRejection (D : Type) where
  cause : RejectionCause
  detailCode : String
  constraintIds : List String
  normalizedFacts : Json
  searchBranchDigest : D
  deriving DecidableEq

/-- What the attempt came to: `AttemptAccepted` or `AttemptRejected`. -/
inductive AttemptOutcome (D : Type) where
  | accepted (result : Json)
  | rejected (rejection : AttemptRejection D)
  deriving DecidableEq

structure AttemptCompletion (D : Type) where
  attemptKey : AttemptKey
  generationNamespaceDigest : D
  attemptInputCommitmentDigest : D
  searchBranchDigest : D
  choiceLedgerDigest : D
  identityLedgerDigest : D
  outcome : AttemptOutcome D
  deriving DecidableEq

namespace AttemptCompletion
variable {D : Type}

def isAccepted (completion : AttemptCompletion D) : Bool :=
  match completion.outcome with
  | .accepted _ => true
  | .rejected _ => false

def attemptIndex (completion : AttemptCompletion D) : Nat := completion.attemptKey.attemptIndex

def sampleKey (completion : AttemptCompletion D) : SampleKey := completion.attemptKey.sampleKey

end AttemptCompletion

variable {D : Type} [Sha256 D]

def AttemptRejection.fields (rejection : AttemptRejection D) : List (Field D) :=
  [.str rejection.cause.value, .json (.arr (rejection.constraintIds.map .str)),
    .str rejection.detailCode, .json rejection.normalizedFacts, .str rejection.cause.owner.value,
    .digest rejection.searchBranchDigest]

def AttemptRejection.digest (rejection : AttemptRejection D) : D :=
  Sha256.sha256 "csd-attempt-rejection/0.4" rejection.fields

def AttemptOutcome.fields : AttemptOutcome D → List (Field D)
  | .accepted result => [.str "accepted", .json result, .digest (Sha256.sha256 "result" [.json result])]
  | .rejected rejection => [.str "rejected", .digest rejection.digest] ++ rejection.fields

def AttemptCompletion.completionDigest (completion : AttemptCompletion D) : D :=
  Sha256.sha256 "csd-attempt-replay/0.4"
    ([.digest completion.attemptInputCommitmentDigest] ++ completion.attemptKey.fields ++
      [.digest completion.choiceLedgerDigest, .digest completion.generationNamespaceDigest,
        .digest completion.searchBranchDigest, .digest completion.identityLedgerDigest] ++
      completion.outcome.fields)

theorem AttemptRejection.digest_injective {a b : AttemptRejection D} (same : a.digest = b.digest) :
    a = b := by
  obtain ⟨-, fields⟩ := Sha256.collision_free same
  simp only [AttemptRejection.fields, List.cons.injEq, Field.str.injEq, Field.json.injEq,
    Json.arr.injEq, Field.digest.injEq, and_true] at fields
  obtain ⟨cause, constraints, detail, facts, -, branch⟩ := fields
  have ids := List.map_injective_iff.mpr (fun _ _ h => Json.str.inj h) constraints
  have causes := RejectionCause.value_injective cause
  cases a
  cases b
  simp_all

theorem AttemptOutcome.fields_injective {a b : AttemptOutcome D} (same : a.fields = b.fields) :
    a = b := by
  cases a with
  | accepted result =>
      cases b with
      | accepted result' => simp_all [AttemptOutcome.fields]
      | rejected rejection' => simp [AttemptOutcome.fields] at same
  | rejected rejection =>
      cases b with
      | accepted result' => simp [AttemptOutcome.fields] at same
      | rejected rejection' =>
          simp only [AttemptOutcome.fields, List.cons_append, List.nil_append, List.cons.injEq,
            Field.digest.injEq] at same
          rw [AttemptRejection.digest_injective same.2.1]

theorem AttemptCompletion.completionDigest_injective {a b : AttemptCompletion D}
    (same : a.completionDigest = b.completionDigest) : a = b := by
  obtain ⟨-, fields⟩ := Sha256.collision_free same
  simp only [AttemptKey.fields, List.cons_append, List.nil_append, List.cons.injEq, Field.nat.injEq,
    Field.str.injEq, Field.digest.injEq] at fields
  obtain ⟨input, index, sample, target, choices, corpus, branch, identity, outcome⟩ := fields
  have outcomes := AttemptOutcome.fields_injective outcome
  obtain ⟨⟨⟨_, _⟩, _⟩, _, _, _, _, _, _⟩ := a
  obtain ⟨⟨⟨_, _⟩, _⟩, _, _, _, _, _, _⟩ := b
  simp_all

/-- `_counter_object`. -/
def counterObject (values : List String) : Json :=
  .obj ((sortedSet values.toFinset).map fun name => (name, .int (values.count name)))

/-- `result` is the result of the accepted attempt. -/
structure AcceptedSampleReplay (D : Type) where
  sampleKey : SampleKey
  attemptRange : AttemptRange
  rejectedPrefix : List (AttemptCompletion D)
  acceptedAttempt : AttemptCompletion D
  result : Json

structure ExhaustionEvidence (D : Type) where
  sampleKey : SampleKey
  generationNamespaceDigest : D
  attemptRange : AttemptRange
  rejectedAttempts : List (AttemptCompletion D × AttemptRejection D)

inductive AttemptResolution (D : Type) where
  | accepted (replay : AcceptedSampleReplay D)
  | incomplete (sampleKey : SampleKey) (attemptRange : AttemptRange)
      (firstMissingAttemptIndex : Nat) (suppliedAttemptIndices : List Nat)
  | exhausted (evidence : ExhaustionEvidence D)

def AcceptedSampleReplay.replayDigest (replay : AcceptedSampleReplay D) : D :=
  Sha256.sha256 "accepted" [.digest replay.acceptedAttempt.completionDigest,
    .nat replay.attemptRange.maximumAttempts,
    .digests (replay.rejectedPrefix.map (·.completionDigest)),
    .nat replay.sampleKey.sampleIndex, .str replay.sampleKey.targetId]

def ExhaustionEvidence.exhaustionDigest (evidence : ExhaustionEvidence D) : D :=
  let rejections := evidence.rejectedAttempts.map (·.2)
  Sha256.sha256 "csd-exhaustion-evidence/0.4" [.nat evidence.attemptRange.maximumAttempts,
    .json (counterObject (rejections.map (·.cause.value))),
    .digest (Sha256.sha256 "digests"
      [.digests (evidence.rejectedAttempts.map (·.1.choiceLedgerDigest))]),
    .json (counterObject (rejections.flatMap (·.constraintIds))),
    .json (counterObject (rejections.map (·.detailCode))),
    .digest evidence.generationNamespaceDigest,
    .digest (Sha256.sha256 "digests"
      [.digests (evidence.rejectedAttempts.map (·.1.identityLedgerDigest))]),
    .json (counterObject (rejections.map (·.cause.owner.value))),
    .digests (evidence.rejectedAttempts.map (·.1.completionDigest)),
    .nat evidence.sampleKey.sampleIndex, .str evidence.sampleKey.targetId]

def AttemptResolution.terminal : AttemptResolution D → Bool
  | .accepted _ | .exhausted _ => true
  | .incomplete .. => false

def acceptedPositions (ordered : List (AttemptCompletion D)) : List Nat :=
  (ordered.zipIdx.filter (·.1.isAccepted)).map (·.2)

/-- The first position whose index is another, or the length. -/
def firstMissing (indices : List Nat) : Nat :=
  match indices.zipIdx.find? (fun (actual, expected) => expected ≠ actual) with
  | some (_, expected) => expected
  | none => indices.length

/-- The rejections of attempts that must not be accepted. -/
def rejections (message : String) (attempts : List (AttemptCompletion D)) :
    Except SynthesisError (List (AttemptCompletion D × AttemptRejection D)) :=
  attempts.mapM fun attempt => match attempt.outcome with
    | .rejected rejection => .ok (attempt, rejection)
    | .accepted _ => .error (.attemptReplay message)

variable [DecidableEq D]

/-- The end of `resolve_attempt_prefix`, once the attempts are sorted and checked. -/
def resolveChecked (range : AttemptRange) (first : AttemptCompletion D)
    (ordered : List (AttemptCompletion D)) : Except SynthesisError (AttemptResolution D) := do
  let indices := ordered.map (·.attemptIndex)
  if firstMissing indices < indices.length ∨ first.attemptIndex ≠ 0 then
    let missing := if first.attemptIndex ≠ 0 then 0 else firstMissing indices
    return .incomplete first.sampleKey range missing indices
  else if acceptedPositions ordered = [] then
    if ordered.length < range.maximumAttempts then
      return .incomplete first.sampleKey range ordered.length indices
    else
      let rejected ← rejections "complete exhaustion may contain only rejections" ordered
      return .exhausted ⟨first.sampleKey, first.generationNamespaceDigest, range, rejected⟩
  else
    match ordered.getLast? with
    | none => throw (.attemptReplay "accepted position does not contain an accepted attempt")
    | some last =>
        match last.outcome with
        | .rejected _ =>
            throw (.attemptReplay "accepted position does not contain an accepted attempt")
        | .accepted result =>
            let _ ← rejections "lower attempt prefix must contain only rejections"
              ordered.dropLast
            return .accepted ⟨first.sampleKey, range, ordered.dropLast, last, result⟩

/-- The constructors of the three results repeat these checks. -/
def resolveSorted (range : AttemptRange) (ordered : List (AttemptCompletion D)) :
    Except SynthesisError (AttemptResolution D) := do
  match ordered.head? with
  | none => throw (.attemptReplay "attempt completions must be a nonempty immutable tuple")
  | some first =>
      let indices := ordered.map (·.attemptIndex)
      require indices.Nodup (.attemptReplay "attempt completions contain duplicate indices")
      require (∀ index ∈ indices, range.contains index = true)
        (.attemptReplay "attempt completion index is outside the declared range")
      require (∀ item ∈ ordered, item.sampleKey = first.sampleKey)
        (.attemptReplay "attempt completions span multiple samples")
      require (∀ item ∈ ordered, item.generationNamespaceDigest = first.generationNamespaceDigest)
        (.attemptReplay "attempt completions span multiple namespaces")
      require ((acceptedPositions ordered).length ≤ 1)
        (.attemptReplay "attempt prefix contains multiple accepted completions")
      require (∀ position ∈ (acceptedPositions ordered).head?, position = ordered.length - 1)
        (.postAcceptance "semantic completions after acceptance are prohibited")
      resolveChecked range first ordered

def resolveAttemptPrefix (range : AttemptRange) (completions : List (AttemptCompletion D)) :
    Except SynthesisError (AttemptResolution D) :=
  resolveSorted range (completions.insertionSort fun a b => a.attemptIndex ≤ b.attemptIndex)

/-! ### Complete prefixes -/

/-- The attempts from the first one on, all rejected but possibly the last one; it is accepted, or
the range ends there. -/
structure CompletePrefix (range : AttemptRange) (attempts : List (AttemptCompletion D)) : Prop where
  contiguous : attempts.map (·.attemptIndex) = List.range attempts.length
  rejected : ∀ k item, attempts[k]? = some item → item.isAccepted = true → k + 1 = attempts.length
  ends : (∃ item ∈ attempts, item.isAccepted = true) ∨ range.maximumAttempts ≤ attempts.length

omit [Sha256 D] [DecidableEq D] in
theorem mem_acceptedPositions {attempts : List (AttemptCompletion D)} {k : Nat} :
    k ∈ acceptedPositions attempts ↔ ∃ item, attempts[k]? = some item ∧ item.isAccepted = true := by
  simp only [acceptedPositions, List.mem_map, List.mem_filter, Prod.exists,
    List.mem_zipIdx_iff_getElem?]
  constructor
  · rintro ⟨item, _, ⟨found, accepted⟩, rfl⟩
    exact ⟨item, found, accepted⟩
  · rintro ⟨item, found, accepted⟩
    exact ⟨item, k, ⟨found, accepted⟩, rfl⟩

omit [Sha256 D] [DecidableEq D] in
theorem acceptedPositions_nodup (attempts : List (AttemptCompletion D)) :
    (acceptedPositions attempts).Nodup := by
  have sub : (acceptedPositions attempts).Sublist (attempts.zipIdx.map (·.2)) :=
    List.filter_sublist.map _
  rw [List.zipIdx_map_snd] at sub
  exact sub.nodup (List.nodup_range' 1)

omit [Sha256 D] [DecidableEq D] in
/-- Nothing is accepted but the last attempt. -/
theorem acceptedPositions_last_iff {attempts : List (AttemptCompletion D)} :
    ((acceptedPositions attempts).length ≤ 1 ∧
      ∀ position ∈ (acceptedPositions attempts).head?, position = attempts.length - 1) ↔
    ∀ k item, attempts[k]? = some item → item.isAccepted = true → k + 1 = attempts.length := by
  constructor
  · rintro ⟨one, last⟩ k item found accepted
    have member : k ∈ acceptedPositions attempts := mem_acceptedPositions.mpr ⟨item, found, accepted⟩
    have inside : k < attempts.length := (List.getElem?_eq_some_iff.mp found).1
    match listed : acceptedPositions attempts with
    | [] => simp [listed] at member
    | [position] =>
        rw [listed, List.mem_singleton] at member
        have same := last position (by rw [listed]; rfl)
        omega
    | _ :: _ :: _ => simp [listed] at one
  · intro last
    have settled : ∀ k ∈ acceptedPositions attempts, k + 1 = attempts.length := by
      intro k member
      obtain ⟨item, found, accepted⟩ := mem_acceptedPositions.mp member
      exact last k item found accepted
    have distinct := acceptedPositions_nodup attempts
    match listed : acceptedPositions attempts with
    | [] => simp
    | [position] =>
        have same := settled position (by rw [listed]; exact List.mem_cons_self)
        simp only [List.length_singleton, le_refl, List.head?_cons, Option.mem_some_iff, true_and]
        rintro _ rfl
        omega
    | a :: b :: _ =>
        rw [listed] at distinct settled
        have first := settled a (by simp)
        have second := settled b (by simp)
        have equal : a = b := by omega
        simp [equal] at distinct

theorem firstMissing_iff {indices : List Nat} :
    ¬ firstMissing indices < indices.length ↔ indices = List.range indices.length := by
  rw [firstMissing]
  cases found : indices.zipIdx.find? (fun (actual, expected) => expected ≠ actual) with
  | none =>
      simp only [lt_self_iff_false, not_false_eq_true, true_iff]
      rw [List.find?_eq_none] at found
      refine List.ext_getElem (by simp) ?_
      intro k here there
      have same := found (indices[k], k) (by simp [List.mem_zipIdx_iff_getElem?])
      simpa using Eq.symm (by simpa using same)
  | some entry =>
      obtain ⟨actual, expected⟩ := entry
      have member := List.mem_of_find?_eq_some found
      have differs := List.find?_some found
      rw [List.mem_zipIdx_iff_getElem?] at member
      obtain ⟨inside, same⟩ := List.getElem?_eq_some_iff.mp member
      simp only [inside, not_true_eq_false, false_iff]
      intro contiguous
      have value : (List.range indices.length)[expected]? = some expected :=
        List.getElem?_range inside
      rw [← contiguous] at value
      have equal : actual = expected := Option.some.inj (member.symm.trans value)
      simp [equal] at differs

omit [Sha256 D] [DecidableEq D] in
theorem rejections_ok (message : String) {attempts : List (AttemptCompletion D)}
    (rejected : ∀ item ∈ attempts, ¬ item.isAccepted = true) :
    ∃ found, rejections message attempts = .ok found := by
  induction attempts with
  | nil => exact ⟨[], rfl⟩
  | cons item rest ih =>
      obtain ⟨found, more⟩ := ih fun other member => rejected other (List.mem_cons_of_mem _ member)
      have first := rejected item List.mem_cons_self
      rw [rejections, List.mapM_cons]
      cases outcome : item.outcome with
      | accepted result => simp [AttemptCompletion.isAccepted, outcome] at first
      | rejected rejection =>
          rw [rejections] at more
          rw [more]
          exact ⟨_, rfl⟩

/-- The attempts of one sample in ascending order. -/
structure Ordered (range : AttemptRange) (attempts : List (AttemptCompletion D)) : Prop where
  nonempty : attempts ≠ []
  ascending : attempts.Pairwise fun a b => a.attemptIndex < b.attemptIndex
  inside : ∀ item ∈ attempts, item.attemptIndex < range.maximumAttempts
  sample : ∀ a ∈ attempts, ∀ b ∈ attempts, a.sampleKey = b.sampleKey
  corpus : ∀ a ∈ attempts, ∀ b ∈ attempts,
    a.generationNamespaceDigest = b.generationNamespaceDigest

omit [Sha256 D] in
theorem resolveAttemptPrefix_ok_iff {range : AttemptRange} {attempts : List (AttemptCompletion D)}
    (ordered : Ordered range attempts) {first : AttemptCompletion D}
    (head : attempts.head? = some first) {resolution : AttemptResolution D} :
    resolveAttemptPrefix range attempts = .ok resolution ↔
      ((acceptedPositions attempts).length ≤ 1 ∧
        ∀ position ∈ (acceptedPositions attempts).head?, position = attempts.length - 1) ∧
      resolveChecked range first attempts = .ok resolution := by
  have sorted : attempts.insertionSort (fun a b => a.attemptIndex ≤ b.attemptIndex) = attempts :=
    (ordered.ascending.imp fun less => le_of_lt less).insertionSort_eq
  have distinct : (attempts.map (·.attemptIndex)).Nodup :=
    List.pairwise_map.mpr (ordered.ascending.imp fun less => ne_of_lt less)
  have inside : ∀ index ∈ attempts.map (·.attemptIndex), range.contains index = true := by
    simpa [AttemptRange.contains] using ordered.inside
  have member : first ∈ attempts := List.mem_of_head? head
  have samples : ∀ item ∈ attempts, item.sampleKey = first.sampleKey :=
    fun item among => ordered.sample item among first member
  have corpora : ∀ item ∈ attempts,
      item.generationNamespaceDigest = first.generationNamespaceDigest :=
    fun item among => ordered.corpus item among first member
  rw [resolveAttemptPrefix, sorted, resolveSorted, head]
  simp only [require_bind_ok]
  tauto

omit [Sha256 D] [DecidableEq D] in
theorem contiguous_iff {attempts : List (AttemptCompletion D)} {first : AttemptCompletion D}
    (head : attempts.head? = some first) :
    ¬ (firstMissing (attempts.map (·.attemptIndex)) < (attempts.map (·.attemptIndex)).length ∨
        first.attemptIndex ≠ 0) ↔
      attempts.map (·.attemptIndex) = List.range attempts.length := by
  rw [not_or, firstMissing_iff, List.length_map]
  constructor
  · exact fun both => both.1
  · intro same
    refine ⟨same, ?_⟩
    have heads := congrArg List.head? same
    cases attempts with
    | nil => cases head
    | cons item rest =>
        cases head
        simpa [List.range_succ_eq_map] using heads

omit [Sha256 D] [DecidableEq D] in
theorem acceptedPositions_eq_nil {attempts : List (AttemptCompletion D)} :
    acceptedPositions attempts = [] ↔ ∀ item ∈ attempts, ¬ item.isAccepted = true := by
  rw [List.eq_nil_iff_forall_not_mem]
  simp only [mem_acceptedPositions, not_exists, not_and]
  constructor
  · intro absent item member
    obtain ⟨k, found⟩ := List.getElem?_of_mem member
    exact absent k item found
  · exact fun absent k item found => absent item (List.mem_of_getElem? found)

omit [Sha256 D] in
/-- The accepted attempt is the last one. -/
theorem resolveAttemptPrefix_accepted {range : AttemptRange} {attempts : List (AttemptCompletion D)}
    (ordered : Ordered range attempts) {replay : AcceptedSampleReplay D}
    (resolved : resolveAttemptPrefix range attempts = .ok (.accepted replay)) :
    replay.acceptedAttempt ∈ attempts ∧ replay.rejectedPrefix.length + 1 = attempts.length := by
  obtain ⟨first, rest, rfl⟩ := List.exists_cons_of_ne_nil ordered.nonempty
  obtain ⟨-, checked⟩ := (resolveAttemptPrefix_ok_iff ordered rfl).mp resolved
  rw [resolveChecked] at checked
  split at checked
  · cases checked
  · split at checked
    · split at checked
      · cases checked
      · cases rejected :
            rejections "complete exhaustion may contain only rejections" (first :: rest) with
        | error e =>
            rw [rejected] at checked
            cases checked
        | ok found =>
            rw [rejected] at checked
            cases checked
    · split at checked
      · cases checked
      · rename_i last final
        split at checked
        · cases checked
        · cases rejected : rejections "lower attempt prefix must contain only rejections"
              (first :: rest).dropLast with
          | error e =>
              rw [rejected] at checked
              cases checked
          | ok found =>
              rw [rejected] at checked
              cases checked
              refine ⟨List.mem_of_getLast? final, ?_⟩
              simp

omit [Sha256 D] in
theorem resolveAttemptPrefix_terminal_iff {range : AttemptRange}
    {attempts : List (AttemptCompletion D)} (ordered : Ordered range attempts) :
    (∃ resolution, resolveAttemptPrefix range attempts = .ok resolution ∧
      resolution.terminal = true) ↔ CompletePrefix range attempts := by
  obtain ⟨first, head⟩ : ∃ first, attempts.head? = some first := by
    obtain ⟨first, rest, rfl⟩ := List.exists_cons_of_ne_nil ordered.nonempty
    exact ⟨first, rfl⟩
  simp only [resolveAttemptPrefix_ok_iff ordered head, acceptedPositions_last_iff, and_assoc]
  constructor
  · rintro ⟨resolution, last, resolved, terminal⟩
    rw [resolveChecked] at resolved
    split at resolved
    · cases resolved
      cases terminal
    · rename_i covers
      refine ⟨(contiguous_iff head).mp covers, last, ?_⟩
      split at resolved
      · split at resolved
        · cases resolved
          cases terminal
        · rename_i long
          exact .inr (not_lt.mp long)
      · rename_i some
        rw [acceptedPositions_eq_nil] at some
        push Not at some
        exact .inl some
  · rintro ⟨covers, last, ends⟩
    rw [← contiguous_iff head] at covers
    rw [resolveChecked, if_neg covers]
    by_cases empty : acceptedPositions attempts = []
    · have rejected := acceptedPositions_eq_nil.mp empty
      have long : range.maximumAttempts ≤ attempts.length := by
        rcases ends with ⟨item, member, accepted⟩ | long
        · exact absurd accepted (rejected item member)
        · exact long
      obtain ⟨found, ok⟩ := rejections_ok _ rejected
      rw [if_pos empty, if_neg (not_lt.mpr long), ok]
      exact ⟨_, last, rfl, rfl⟩
    · rw [if_neg empty]
      rw [acceptedPositions_eq_nil] at empty
      push Not at empty
      obtain ⟨item, member, accepted⟩ := empty
      obtain ⟨k, found⟩ := List.getElem?_of_mem member
      have final := last k item found accepted
      have least : attempts.getLast? = some item := by
        rw [List.getLast?_eq_getElem?, ← found]
        congr 1
        omega
      have lower : ∀ other ∈ attempts.dropLast, ¬ other.isAccepted = true := by
        intro other among accepts
        obtain ⟨j, place⟩ := List.getElem?_of_mem among
        rw [List.getElem?_dropLast] at place
        split at place
        · have final' := last j other place accepts
          omega
        · cases place
      obtain ⟨others, ok⟩ := rejections_ok _ lower
      rw [least]
      cases outcome : item.outcome with
      | rejected rejection => simp [AttemptCompletion.isAccepted, outcome] at accepted
      | accepted result =>
          simp only [outcome]
          rw [ok]
          exact ⟨_, last, rfl, rfl⟩

end CsdFoundry.Synthesis
