import CsdFoundry.Storage.Chain
import CsdFoundry.Temporal.Store

/-! What every reachable temporal store satisfies, and what one file operation may
do to it. The head, the marker and the immutable receipts are tied together here. -/
namespace CsdFoundry.Temporal
open Storage
variable {D : Type} [LinearOrder D] [Sha256 D]

omit [LinearOrder D] [Sha256 D] in
/-- The claim proposes the successor of this head. -/
def ClockClaim.Follows (claim : ClockClaim D) (head : TemporalHead D) : Prop :=
  claim.previousCommittedSequence = head.clockSequence ∧
    claim.previousCompletionDigest = head.completionDigest

/-- The completion is one of this claim. -/
structure Completes (claim : ClockClaim D) (completion : ClockCompletionReceipt D) : Prop where
  cites : completion.clockClaimDigest = claim.digest
  event : completion.validatedEventDigest = claim.validatedEventDigest
  sequence : completion.clockSequence = claim.proposedSequence
  previous : completion.previousCompletionDigest = claim.previousCompletionDigest

omit [Sha256 D] in
theorem verifyClaim_iff {head : TemporalHead D} {claim : ClockClaim D} :
    verifyClaim head claim = .ok () ↔ claim.Follows head := by
  have successor := claim.successor
  unfold verifyClaim ClockClaim.Follows
  constructor
  · intro passed
    split at passed
    · cases passed
    · rename_i agrees
      push Not at agrees
      exact ⟨agrees.1, agrees.2.1⟩
  · rintro ⟨sequence, digest⟩
    rw [if_neg]
    push Not
    exact ⟨sequence, digest, by omega⟩

theorem verifyCompletion_iff {claim : ClockClaim D} {completion : ClockCompletionReceipt D} :
    verifyCompletion claim completion = .ok () ↔ Completes claim completion := by
  unfold verifyCompletion
  constructor
  · intro passed
    split at passed
    · cases passed
    · rename_i agrees
      push Not at agrees
      exact ⟨agrees.1, agrees.2.1, agrees.2.2.1, agrees.2.2.2⟩
  · rintro ⟨cites, event, sequence, previous⟩
    rw [if_neg]
    push Not
    exact ⟨cites, event, sequence, previous⟩

/-- A completion cites its claim, so two claims do not share one. -/
theorem Completes.claim_eq {a b : ClockClaim D} {completion : ClockCompletionReceipt D}
    (first : Completes a completion) (second : Completes b completion) : a = b :=
  ClockClaim.digest_inj (first.cites.symm.trans second.cites)

theorem Completes.sequence_succ {claim : ClockClaim D} {completion : ClockCompletionReceipt D}
    (completes : Completes claim completion) (follows : claim.Follows head) :
    completion.clockSequence = head.clockSequence + 1 := by
  rw [completes.sequence, claim.successor, follows.1]

namespace TemporalStore

/-- The files that are written once and stay. -/
structure Grown (s t : TemporalStore D) : Prop where
  objects : Grows s.objects t.objects
  attempts : Grows s.attempts t.attempts
  bundles : Grows s.bundles t.bundles

omit [Sha256 D] in
theorem Grown.refl (s : TemporalStore D) : Grown s s := ⟨.refl _, .refl _, .refl _⟩

omit [Sha256 D] in
theorem Grown.trans {s t u : TemporalStore D} (first : Grown s t) (second : Grown t u) :
    Grown s u :=
  ⟨first.objects.trans second.objects, first.attempts.trans second.attempts,
    first.bundles.trans second.bundles⟩

omit [Sha256 D] in
/-- The completion object under this digest. -/
def completionAt (s : TemporalStore D) (digest : D) : Option (ClockCompletionReceipt D) :=
  match s.objects (.clockCompletionReceipt, digest) with
  | some (.clockCompletionReceipt completion) => some completion
  | _ => none

omit [Sha256 D] in
theorem completionAt_iff {s : TemporalStore D} {completion : ClockCompletionReceipt D} :
    s.completionAt digest = some completion ↔
      s.objects (.clockCompletionReceipt, digest) = some (.clockCompletionReceipt completion) := by
  unfold completionAt
  split
  · rename_i found
    rw [found]
    simp
  · rename_i other
    constructor
    · intro absent
      cases absent
    · exact fun found => absurd found (other _)

omit [Sha256 D] in
theorem Grown.completionAt {s t : TemporalStore D} (grown : Grown s t) :
    Grows s.completionAt t.completionAt := fun _ _ found =>
  completionAt_iff.mpr (grown.objects _ _ (completionAt_iff.mp found))

omit [Sha256 D] in
/-- The completions that the head commits, oldest first. -/
def Chain (s : TemporalStore D) (items : List (ClockCompletionReceipt D)) : Prop :=
  Linked s.completionAt (·.clockSequence) (·.previousCompletionDigest)
    s.head.clockSequence s.head.completionDigest items

omit [Sha256 D] in
theorem Chain.grown {s t : TemporalStore D} {items : List (ClockCompletionReceipt D)}
    (chain : s.Chain items) (grown : Grown s t) (still : t.head = s.head) : t.Chain items := by
  unfold Chain
  rw [still]
  exact chain.mono grown.completionAt

/-- Everything that `_verify_prepared` will look for is in place. -/
structure Prepared (s : TemporalStore D) (attempt : String)
    (completion : ClockCompletionReceipt D) : Prop where
  token : isToken attempt = true
  backed : ∃ claim bundle, claim.attemptId = attempt ∧ Completes claim completion ∧
    s.bundles attempt = some bundle ∧ verifyProjectionBundle bundle claim completion = .ok ()
  receipt : ∃ stored, s.attempts (attempt, .semantic) = some stored ∧
    s.objects (.semanticProjectionReceipt, completion.semanticProjectionReceiptDigest) =
      some stored
  object : s.completionAt completion.digest = some completion

theorem Prepared.grown {s t : TemporalStore D} {completion : ClockCompletionReceipt D}
    (prepared : s.Prepared attempt completion) (grown : Grown s t) :
    t.Prepared attempt completion := by
  obtain ⟨token, ⟨claim, bundle, named, completes, found, verified⟩, ⟨stored, kept, filed⟩,
    object⟩ := prepared
  exact ⟨token, ⟨claim, bundle, named, completes, grown.bundles _ _ found, verified⟩,
    ⟨stored, grown.attempts _ _ kept, grown.objects _ _ filed⟩, grown.completionAt _ _ object⟩

/-- The claim has been filed: its object and its place in the attempt directory. -/
structure Filed (s : TemporalStore D) (claim : ClockClaim D) : Prop where
  token : isToken claim.attemptId = true
  object : s.objects (.clockClaim, claim.digest) = some (.clockClaim claim)
  attempt : s.attempts (claim.attemptId, .claim) = some (.clockClaim claim)

theorem Filed.grown {s t : TemporalStore D} {claim : ClockClaim D} (filed : s.Filed claim)
    (grown : Grown s t) : t.Filed claim :=
  ⟨filed.token, grown.objects _ _ filed.object, grown.attempts _ _ filed.attempt⟩

/-- The completion that the attempt directory of this claim keeps, if it is the claim's own. -/
def Owns (s : TemporalStore D) (claim : ClockClaim D)
    (completion : ClockCompletionReceipt D) : Prop :=
  s.attempts (claim.attemptId, .completion) = some (.clockCompletionReceipt completion) ∧
    Completes claim completion

/-- The marker cites a filed claim that follows the head, or one whose completion is the
head already, which is where a crash between publication and clean-up leaves it. -/
def Active (s : TemporalStore D) (claim : ClockClaim D) : Prop :=
  s.Filed claim ∧ (claim.Follows s.head ∨
    ∃ completion, s.Owns claim completion ∧ s.head = .publishing completion)

theorem Active.grown {s t : TemporalStore D} {claim : ClockClaim D} (active : s.Active claim)
    (grown : Grown s t) (still : t.head = s.head) : t.Active claim := by
  obtain ⟨filed, follows | ⟨completion, ⟨kept, completes⟩, at_⟩⟩ := active
  · exact ⟨filed.grown grown, .inl (still ▸ follows)⟩
  · exact ⟨filed.grown grown,
      .inr ⟨completion, ⟨grown.attempts _ _ kept, completes⟩, still.trans at_⟩⟩

/-- The invariant of the store. -/
structure Valid (s : TemporalStore D) : Prop where
  named : ∀ name digest contract, s.objects (name, digest) = some contract →
    contract.name = name ∧ contract.digest = digest
  prepared : ∀ attempt contract, s.attempts (attempt, .completion) = some contract →
    ∃ completion, contract = .clockCompletionReceipt completion ∧ s.Prepared attempt completion
  chain : ∃ items, s.Chain items ∧ ∀ completion ∈ items, ∃ attempt,
    s.attempts (attempt, .completion) = some (.clockCompletionReceipt completion)
  active : ∀ digest, s.active = some digest → ∃ claim, claim.digest = digest ∧ s.Active claim

theorem initial_valid : (initial : TemporalStore D).Valid where
  named := by simp [initial]
  prepared := by simp [initial]
  chain := ⟨[], .genesis, by simp⟩
  active := by simp [initial]

/-- A process without the lock only adds files. -/
structure Free (s t : TemporalStore D) : Prop where
  grown : Grown s t
  head : t.head = s.head
  active : t.active = s.active

/-- One publication: the owner of the marker moves the head to its prepared completion. -/
structure Publishes (s t : TemporalStore D) (completion : ClockCompletionReceipt D) : Prop where
  owner : s.active = some completion.clockClaimDigest
  prepared : ∃ attempt,
    s.attempts (attempt, .completion) = some (.clockCompletionReceipt completion)
  object : s.completionAt completion.digest = some completion
  sequence : completion.clockSequence = s.head.clockSequence + 1
  previous : completion.previousCompletionDigest = s.head.completionDigest
  head : t.head = .publishing completion
  attempts : t.attempts = s.attempts

/-- One operation, with or without the lock. -/
structure Act (s t : TemporalStore D) : Prop where
  grown : Grown s t
  head : t.head = s.head ∨ ∃ completion, Publishes s t completion
  active : t.active = s.active ∨ t.active = none ∨ s.active = none

omit [Sha256 D] in
theorem Free.refl (s : TemporalStore D) : Free s s := ⟨.refl s, rfl, rfl⟩

omit [Sha256 D] in
theorem Free.trans {s t u : TemporalStore D} (first : Free s t) (second : Free t u) : Free s u :=
  ⟨first.grown.trans second.grown, second.head.trans first.head,
    second.active.trans first.active⟩

theorem Free.act {s t : TemporalStore D} (free : Free s t) : Act s t :=
  ⟨free.grown, .inl free.head, .inl free.active⟩

theorem Valid.free_valid {s t : TemporalStore D} (valid : s.Valid) (free : Free s t)
    (named : ∀ name digest contract, t.objects (name, digest) = some contract →
      contract.name = name ∧ contract.digest = digest)
    (prepared : ∀ attempt contract, t.attempts (attempt, .completion) = some contract →
      s.attempts (attempt, .completion) = some contract ∨
      ∃ completion, contract = .clockCompletionReceipt completion ∧
        s.Prepared attempt completion) : t.Valid where
  named := named
  prepared := by
    intro attempt contract found
    rcases prepared attempt contract found with old | ⟨completion, rfl, ready⟩
    · obtain ⟨completion, rfl, ready⟩ := valid.prepared attempt contract old
      exact ⟨completion, rfl, ready.grown free.grown⟩
    · exact ⟨completion, rfl, ready.grown free.grown⟩
  chain := by
    obtain ⟨items, chain, known⟩ := valid.chain
    refine ⟨items, chain.grown free.grown free.head, fun completion member => ?_⟩
    obtain ⟨attempt, found⟩ := known completion member
    exact ⟨attempt, free.grown.attempts _ _ found⟩
  active := by
    intro digest marked
    obtain ⟨claim, cites, active⟩ := valid.active digest (free.active ▸ marked)
    exact ⟨claim, cites, active.grown free.grown free.head⟩

/-- The temporal discipline. -/
def discipline : Discipline (TemporalStore D) where
  inv := Valid
  free := Free
  act := Act
  free_refl := Free.refl
  free_trans := Free.trans
  act_of_free := Free.act

theorem held_grown {s t : TemporalStore D} (held : discipline.held s t) : Grown s t := by
  induction held with
  | refl => exact .refl s
  | tail _ act ih => exact ih.trans act.grown

theorem env_grown {locked : Bool} {s t : TemporalStore D} (moves : discipline.env locked s t) :
    Grown s t := by
  cases locked
  · exact held_grown moves
  · exact Free.grown moves

/-- One operation extends the chain by at most one completion. -/
theorem Act.chain {s t : TemporalStore D} {items : List (ClockCompletionReceipt D)}
    (act : Act s t) (chain : s.Chain items) :
    t.Chain items ∨ ∃ completion, Publishes s t completion ∧ t.Chain (items ++ [completion]) := by
  rcases act.head with still | ⟨completion, publishes⟩
  · exact .inl (chain.grown act.grown still)
  · refine .inr ⟨completion, publishes, ?_⟩
    have rest : Linked t.completionAt (·.clockSequence) (·.previousCompletionDigest)
        s.head.clockSequence completion.previousCompletionDigest items := by
      rw [publishes.previous]
      exact chain.mono act.grown.completionAt
    have linked := Linked.next (act.grown.completionAt _ _ publishes.object)
      publishes.sequence rest
    have position : t.head.clockSequence = s.head.clockSequence + 1 := by
      rw [publishes.head]
      exact publishes.sequence
    have cited : t.head.completionDigest = some completion.digest := by
      rw [publishes.head]
      rfl
    unfold Chain
    rw [position, cited]
    exact linked

theorem held_chain {s t : TemporalStore D} {items : List (ClockCompletionReceipt D)}
    (held : discipline.held s t) (chain : s.Chain items) :
    ∃ later, t.Chain later ∧ items <+: later := by
  induction held with
  | refl => exact ⟨items, chain, List.prefix_rfl⟩
  | tail _ act ih =>
      obtain ⟨later, chain', extends_⟩ := ih
      rcases act.chain chain' with same | ⟨completion, -, longer⟩
      · exact ⟨later, same, extends_⟩
      · exact ⟨_, longer, extends_.trans (List.prefix_append _ _)⟩

end TemporalStore
end CsdFoundry.Temporal
