import CsdFoundry.Temporal.Invariant

/-! Each operation of the temporal store keeps the discipline, whatever the other
processes do meanwhile and wherever it crashes or fails. -/
namespace CsdFoundry.Temporal
open Storage TemporalStore
open Storage.Discipline (After)
variable {D : Type} [LinearOrder D] [Sha256 D] {locked : Bool} {s : TemporalStore D}

theorem holds_readHead {normal : TemporalHead D → TemporalStore D → Prop}
    (met : ∀ t u, discipline.env locked s t → t.Valid → discipline.env locked t u → u.Valid →
      normal t.head u) :
    discipline.Holds locked readHead (After locked normal) s := by
  refine .read ?_
  rintro _ t u moves inv ⟨⟩ later invU
  exact met t u moves inv later invU

theorem holds_putContract {contract : ContractObject D} {normal : Unit → TemporalStore D → Prop}
    (met : ∀ u, discipline.env locked s u → u.Valid →
      u.objects (contract.name, contract.digest) = some contract → normal () u) :
    discipline.Holds locked (putContract contract) (After locked normal) s := by
  refine .install ?_ ?_ ?_ met
  · intro t
    simp [fileObject]
  · exact fun t u moves found => (env_grown moves).objects _ _ found
  · intro t moves (valid : t.Valid) fresh
    have free : Free t (t.fileObject contract) :=
      ⟨⟨Grows.update fresh _, .refl _, .refl _⟩, rfl, rfl⟩
    refine ⟨free, valid.free_valid free ?_ (fun _ _ found => .inl found)⟩
    intro name digest stored found
    unfold fileObject at found
    by_cases here : (name, digest) = (contract.name, contract.digest)
    · simp only [here, Function.update_self, Option.some.injEq] at found
      subst found
      simp_all
    · simp only [ne_eq, here, not_false_eq_true, Function.update_of_ne] at found
      exact valid.named name digest stored found

theorem holds_recordAttemptArtifact {contract : ContractObject D}
    {normal : Unit → TemporalStore D → Prop} (valid : s.Valid)
    (ready : artifact = .completion → ∀ t, Grown s t →
      t.objects (contract.name, contract.digest) = some contract →
      ∃ completion, contract = .clockCompletionReceipt completion ∧ t.Prepared attempt completion)
    (met : ∀ u, discipline.env locked s u → u.Valid → isToken attempt = true →
      u.objects (contract.name, contract.digest) = some contract →
      u.attempts (attempt, artifact) = some contract → normal () u) :
    discipline.Holds locked (recordAttemptArtifact attempt artifact contract)
      (After locked normal) s := by
  refine .bind valid (.require fun t token moves invT => ?_)
  refine .bind invT (holds_putContract fun u moves' invU stored => ?_)
  have grown := (env_grown moves).trans (env_grown moves')
  refine .install ?_ ?_ ?_ ?_
  · intro v
    simp [fileAttempt]
  · exact fun v w later found => (env_grown later).attempts _ _ found
  · intro v later (invV : v.Valid) fresh
    have free : Free v (v.fileAttempt attempt artifact contract) :=
      ⟨⟨.refl _, Grows.update fresh _, .refl _⟩, rfl, rfl⟩
    refine ⟨free, invV.free_valid free (fun _ _ _ found => invV.named _ _ _ found) ?_⟩
    intro attempt' contract' found
    unfold fileAttempt at found
    by_cases here : (attempt', ArtifactName.completion) = (attempt, artifact)
    · simp only [here, Function.update_self, Option.some.injEq] at found
      subst found
      obtain ⟨rfl, rfl⟩ := Prod.mk.inj here
      exact .inr (ready rfl v (grown.trans (env_grown later))
        ((env_grown later).objects _ _ stored))
    · simp only [ne_eq, here, not_false_eq_true, Function.update_of_ne] at found
      exact .inl found
  · intro v later invV found
    exact met v (discipline.env_trans (discipline.env_trans moves moves') later) invV token
      ((env_grown later).objects _ _ stored) found

theorem holds_attemptId {claim : ClockClaim D} {normal : String → TemporalStore D → Prop}
    (met : ∀ t, isToken claim.attemptId = true → discipline.env locked s t → t.Valid →
      normal claim.attemptId t) :
    discipline.Holds locked (lift (attemptId claim)) (After locked normal) s := by
  refine .result ?_
  intro attempt t named moves inv
  unfold attemptId at named
  split at named
  · cases named
    exact met t ‹_› moves inv
  · cases named

theorem holds_getContract {normal : Option (ContractObject D) → TemporalStore D → Prop}
    (met : ∀ t u, discipline.env locked s t → t.Valid → discipline.env locked t u → u.Valid →
      normal (t.objects (name, digest)) u) :
    discipline.Holds locked (getContract name digest) (After locked normal) s := by
  refine .read ?_
  intro found t u moves inv seen later invU
  have same : found = t.objects (name, digest) := by
    cases stored : t.objects (name, digest) with
    | none =>
        rw [stored] at seen
        cases seen
        rfl
    | some contract =>
        rw [stored] at seen
        simp only [parseObject] at seen
        split at seen
        · cases seen
        · split at seen
          · cases seen
          · cases seen
            rfl
  rw [same]
  exact met t u moves inv later invU

/-- Under the lock the marker stays what it was read to be. -/
theorem holds_readActive {normal : Option (ClockClaim D) → TemporalStore D → Prop}
    (valid : s.Valid)
    (absent : ∀ u, Free s u → u.Valid → u.active = none → normal none u)
    (present : ∀ u claim, Free s u → u.Valid → u.active = some claim.digest → u.Active claim →
      normal (some claim) u) :
    discipline.Holds true readActive (After true normal) s := by
  refine .bind valid (.read ?_)
  rintro marker t u moves inv ⟨⟩ later invU
  have free : Free s u := Free.trans moves later
  have still : u.active = t.active := later.active
  cases marked : t.active with
  | none =>
      refine .pure fun v moves' invV => ?_
      have unmarked : v.active = none := (moves'.active.trans still).trans marked
      exact absent v (free.trans moves') invV unmarked
  | some digest =>
      obtain ⟨claim, rfl, active⟩ := invU.active digest (still.trans marked)
      refine .bind invU (holds_getContract fun v w moves' invV later' invW => ?_)
      have found : v.objects (.clockClaim, claim.digest) = some (.clockClaim claim) :=
        (env_grown moves').objects _ _ active.1.object
      rw [found]
      refine .pure fun x moves'' invX => ?_
      have free' : Free u x := Free.trans (Free.trans moves' later') moves''
      exact present x claim (free.trans free') invX
        ((free'.active.trans still).trans marked) (active.grown free'.grown free'.head)

theorem TemporalStore.Valid.unmark (valid : s.Valid) : ({ s with active := none } : TemporalStore D).Valid where
  named := valid.named
  prepared := by
    intro attempt contract found
    obtain ⟨completion, rfl, ready⟩ := valid.prepared attempt contract found
    exact ⟨completion, rfl, ready.grown ⟨.refl _, .refl _, .refl _⟩⟩
  chain := valid.chain
  active := by simp

theorem holds_clearActive {normal : Unit → TemporalStore D → Prop}
    (met : ∀ u, Free { s with active := none } u → u.Valid → normal () u) :
    discipline.Holds true clearActive (After true normal) s := by
  refine .write ?_ ?_
  · intro t moves inv
    exact ⟨⟨⟨.refl _, .refl _, .refl _⟩, .inl rfl, .inr (.inl rfl)⟩, TemporalStore.Valid.unmark inv⟩
  · intro t u moves inv later invU
    have before : Free { s with active := none } { t with active := none } :=
      ⟨⟨moves.grown.objects, moves.grown.attempts, moves.grown.bundles⟩, moves.head, rfl⟩
    exact met u (before.trans later) invU

theorem holds_claimSuccessor (expectedHead : TemporalHead D) (claim : ClockClaim D)
    (valid : s.Valid) :
    discipline.Holds false (claimSuccessor expectedHead claim)
      (After false fun _ _ => True) s := by
  refine .bind valid (.result fun _ t verified moves inv => ?_)
  have follows := verifyClaim_iff.mp verified
  refine .bind inv (holds_attemptId fun u token moves inv => ?_)
  refine .bind inv (holds_recordAttemptArtifact inv (by simp) fun v moves inv _ object kept => ?_)
  refine .locked fun w moves inv => ?_
  have filed : w.Filed claim := Filed.grown ⟨token, object, kept⟩ (held_grown moves)
  refine .bind inv (holds_readHead fun x y moves invX later inv => ?_)
  have head : y.head = x.head := later.head
  have filed : y.Filed claim := filed.grown ((env_grown moves).trans (env_grown later))
  split
  · exact .pure fun _ _ _ _ _ _ => trivial
  · rename_i same
    have expected : x.head = expectedHead := not_not.mp same
    refine .bind inv (holds_readActive inv ?_ ?_)
    · intro z free inv unmarked
      refine .bind inv (.write ?_ fun _ _ _ _ _ _ => .pure fun _ _ _ _ _ _ => trivial)
      -- the claim follows the head it was checked against, which nobody has moved
      intro a moves inv
      have free := free.trans moves
      refine ⟨⟨⟨.refl _, .refl _, .refl _⟩, .inl rfl, ?_⟩, inv.named, ?_, inv.chain, ?_⟩
      · exact .inr (.inr (moves.active.trans unmarked))
      · intro attempt contract found
        obtain ⟨completion, rfl, ready⟩ := inv.prepared attempt contract found
        exact ⟨completion, rfl, ready.grown ⟨.refl _, .refl _, .refl _⟩⟩
      · rintro digest ⟨⟩
        have filed := filed.grown free.grown
        refine ⟨claim, rfl, ⟨filed.token, filed.object, filed.attempt⟩, .inl ?_⟩
        rw [free.head, head, expected]
        exact follows
    · intro z active free inv marked _
      dsimp only
      split
      · exact .pure fun _ _ _ _ _ _ => trivial
      · exact .pure fun _ _ _ _ _ _ => trivial

theorem holds_recordFailure (claim : ClockClaim D) (failure : ClockProjectionFailure D)
    (valid : s.Valid) :
    discipline.Holds false (recordFailure claim failure) (After false fun _ u =>
      u.attempts (claim.attemptId, .failure) = some (.clockProjectionFailure failure)) s := by
  refine .bind valid (.result fun _ t verified moves inv => ?_)
  refine .bind inv (holds_attemptId fun u token moves inv => ?_)
  refine .bind inv (holds_recordAttemptArtifact inv (by simp) fun v moves inv _ object kept => ?_)
  refine .locked fun w moves inv => ?_
  refine .bind inv (holds_readActive inv (fun _ _ _ _ => .throw) ?_)
  intro x active free inv marked _
  refine .bind inv (.require fun y owned moves' inv => ?_)
  refine holds_clearActive fun z free' inv v' held _ => ?_
  have grown : Grown v v' := (held_grown moves).trans (free.grown.trans
    ((env_grown moves').trans (Grown.trans ⟨free'.grown.objects, free'.grown.attempts,
      free'.grown.bundles⟩ (held_grown held))))
  exact grown.attempts _ _ kept

/-- The files of an attempt, as far as they had been written at some earlier moment. -/
theorem holds_readFiles
    {normal : Option (ProjectionBundle D) × Option (ContractObject D) → TemporalStore D → Prop}
    (met : ∀ bundle stored u, discipline.env locked s u → u.Valid →
      (∀ b, bundle = some b → u.bundles attempt = some b) →
      (∀ c, stored = some c → u.attempts (attempt, .semantic) = some c) →
      normal (bundle, stored) u) :
    discipline.Holds locked
      (.read .os (fun s => .ok (s.bundles attempt, s.attempts (attempt, .semantic))) :
        StoreM D (Option (ProjectionBundle D) × Option (ContractObject D)))
      (After locked normal) s := by
  refine .read ?_
  rintro _ t u moves inv ⟨⟩ later invU
  exact met _ _ u (discipline.env_trans moves later) invU
    (fun _ found => (env_grown later).bundles _ _ found)
    (fun _ found => (env_grown later).attempts _ _ found)

theorem holds_verifyDependencies {claim : ClockClaim D} {completion : ClockCompletionReceipt D}
    {bundle : ProjectionBundle D} {stored : ContractObject D}
    {normal : Unit → TemporalStore D → Prop} (valid : s.Valid)
    (met : ∀ u, discipline.env locked s u → u.Valid →
      verifyProjectionBundle bundle claim completion = .ok () →
      u.objects (.semanticProjectionReceipt, completion.semanticProjectionReceiptDigest) =
        some stored → normal () u) :
    discipline.Holds locked (verifyDependencies claim completion bundle stored unavailable)
      (After locked normal) s := by
  refine .bind valid (.result fun _ t verified moves inv => ?_)
  refine .bind inv (holds_getContract fun u v moves' invU later inv => ?_)
  cases found : u.objects (.semanticProjectionReceipt,
      completion.semanticProjectionReceiptDigest) with
  | none => exact .throw
  | some semantic =>
      refine .require fun w same moves'' inv => ?_
      subst same
      have kept := discipline.env_trans later moves''
      exact met w (discipline.env_trans (discipline.env_trans moves moves') kept) inv verified
        ((env_grown kept).objects _ _ found)

/-- `prepare_completion` leaves an attempt behind that recovery will accept. -/
theorem holds_prepareCompletion {claim : ClockClaim D} {completion : ClockCompletionReceipt D}
    {normal : Unit → TemporalStore D → Prop} (valid : s.Valid)
    (met : ∀ u, discipline.env locked s u → u.Valid → u.Owns claim completion → normal () u) :
    discipline.Holds locked (prepareCompletion claim completion) (After locked normal) s := by
  refine .bind valid (.result fun _ t verified moves inv => ?_)
  have completes := verifyCompletion_iff.mp verified
  refine .bind inv (holds_attemptId fun u token moves' inv => ?_)
  refine .bind inv (holds_readFiles fun bundle stored v moves'' inv bundled kept => ?_)
  have before := discipline.env_trans (discipline.env_trans moves moves') moves''
  rcases bundle with _ | bundle
  · exact .throw
  rcases stored with _ | stored
  · exact .throw
  refine .bind inv (holds_verifyDependencies inv fun w later inv bundleOk semantic => ?_)
  have before := discipline.env_trans before later
  refine holds_recordAttemptArtifact inv ?_ fun x last inv _ _ found => ?_
  · rintro ⟨⟩ x grown object
    refine ⟨completion, rfl, token, ⟨claim, bundle, rfl, completes, ?_, bundleOk⟩,
      ⟨stored, ?_, ?_⟩, ?_⟩
    · exact grown.bundles _ _ ((env_grown later).bundles _ _ (bundled _ rfl))
    · exact grown.attempts _ _ ((env_grown later).attempts _ _ (kept _ rfl))
    · exact grown.objects _ _ semantic
    · exact completionAt_iff.mpr object
  · exact met x (discipline.env_trans before last) inv ⟨found, completes⟩

/-- The one step that moves the head. -/
theorem publish_act {claim : ClockClaim D} {completion : ClockCompletionReceipt D}
    (valid : s.Valid) (owned : s.Owns claim completion) (marked : s.active = some claim.digest)
    (active : s.Active claim) (open_ : s.head.clockSequence ≠ completion.clockSequence) :
    Act s { s with head := .publishing completion } ∧
      ({ s with head := .publishing completion } : TemporalStore D).Valid := by
  obtain ⟨kept, completes⟩ := owned
  have follows : claim.Follows s.head := by
    rcases active.2 with follows | ⟨other, ⟨kept', -⟩, at_⟩
    · exact follows
    · have same : other = completion := by
        have files := kept'.symm.trans kept
        simpa using files
      subst same
      exact absurd (by rw [at_]; rfl) open_
  obtain ⟨_, ⟨⟩, ready⟩ := valid.prepared _ _ kept
  have publishes : Publishes s { s with head := .publishing completion } completion :=
    ⟨by rw [marked, completes.cites], ⟨_, kept⟩, ready.object, completes.sequence_succ follows,
      completes.previous.trans follows.2, rfl, rfl⟩
  have act : Act s { s with head := .publishing completion } :=
    ⟨⟨.refl _, .refl _, .refl _⟩, .inr ⟨completion, publishes⟩, .inl rfl⟩
  refine ⟨act, valid.named, ?_, ?_, ?_⟩
  · intro attempt contract found
    obtain ⟨completion', rfl, ready'⟩ := valid.prepared attempt contract found
    exact ⟨completion', rfl, ready'.grown act.grown⟩
  · obtain ⟨items, chain, known⟩ := valid.chain
    rcases act.chain chain with same | ⟨completion', publishes', longer⟩
    · exact ⟨items, same, known⟩
    · refine ⟨_, longer, fun item member => ?_⟩
      rcases List.mem_append.mp member with earlier | latest
      · exact known item earlier
      · obtain rfl := List.mem_singleton.mp latest
        exact publishes'.prepared
  · intro digest marked'
    have cites : claim.digest = digest := Option.some.inj (marked.symm.trans marked')
    have filed := active.1
    exact ⟨claim, cites, ⟨filed.token, filed.object, filed.attempt⟩,
      .inr ⟨completion, ⟨kept, completes⟩, rfl⟩⟩

theorem holds_publish {expectedHead : TemporalHead D} {claim : ClockClaim D}
    {completion : ClockCompletionReceipt D} (valid : s.Valid) (owned : s.Owns claim completion) :
    discipline.Holds true (publish expectedHead claim completion) (After true fun _ _ => True) s := by
  refine .bind valid (holds_readHead fun t u moves invT later inv => ?_)
  have free : Free s u := Free.trans moves later
  have head : u.head = t.head := later.head
  have owned : u.Owns claim completion := ⟨free.grown.attempts _ _ owned.1, owned.2⟩
  split
  · refine .bind inv (.require fun v same moves inv => ?_)
    exact .bind inv (holds_clearActive fun _ _ _ => .pure fun _ _ _ => trivial)
  · rename_i open_
    refine .bind inv (.require fun v expected moves inv => ?_)
    have owned : v.Owns claim completion := ⟨(env_grown moves).attempts _ _ owned.1, owned.2⟩
    refine .bind inv (holds_readActive inv (fun _ _ _ _ => .throw) ?_)
    intro w holder free inv marked active
    refine .bind inv (.require fun x mine moves' inv => ?_)
    obtain rfl := ClockClaim.digest_inj mine
    have free : Free v x := free.trans moves'
    have owned : x.Owns holder completion := ⟨free.grown.attempts _ _ owned.1, owned.2⟩
    have marked : x.active = some holder.digest := moves'.active.trans marked
    have active : x.Active holder := active.grown moves'.grown moves'.head
    have head : x.head = t.head := free.head.trans (moves.head.trans head)
    refine .bind inv (.write ?_ fun y z _ _ _ inv => ?_)
    · intro y moves inv
      have owned : y.Owns holder completion := ⟨moves.grown.attempts _ _ owned.1, owned.2⟩
      refine publish_act inv owned (moves.active.trans marked)
        (active.grown moves.grown moves.head) ?_
      rw [moves.head, head]
      exact open_
    · exact .bind inv (holds_clearActive fun _ _ _ => .pure fun _ _ _ => trivial)

theorem holds_publishCompletion (expectedHead : TemporalHead D) (claim : ClockClaim D)
    (completion : ClockCompletionReceipt D) (valid : s.Valid) :
    discipline.Holds false (publishCompletion expectedHead claim completion)
      (After false fun _ _ => True) s := by
  refine .bind valid (holds_prepareCompletion valid fun t moves inv owned => ?_)
  refine .locked fun u moves inv => ?_
  have owned : u.Owns claim completion := ⟨(held_grown moves).attempts _ _ owned.1, owned.2⟩
  exact (holds_publish inv owned).weaken fun _ _ _ _ _ _ _ => trivial

theorem holds_verifyPrepared {claim : ClockClaim D} {completion : ClockCompletionReceipt D}
    {normal : Unit → TemporalStore D → Prop} (valid : s.Valid)
    (met : ∀ u, discipline.env locked s u → u.Valid → Completes claim completion → normal () u) :
    discipline.Holds locked (verifyPrepared claim completion) (After locked normal) s := by
  refine .bind valid (.result fun _ t verified moves inv => ?_)
  have completes := verifyCompletion_iff.mp verified
  refine .bind inv (holds_attemptId fun u token moves' inv => ?_)
  refine .bind inv (holds_readFiles fun bundle stored v moves'' inv bundled kept => ?_)
  have before := discipline.env_trans (discipline.env_trans moves moves') moves''
  rcases bundle with _ | bundle
  · exact .throw
  rcases stored with _ | stored
  · exact .throw
  refine holds_verifyDependencies inv fun w later inv _ _ => ?_
  exact met w (discipline.env_trans before later) inv completes

theorem holds_recover :
    discipline.Holds false (recover : StoreM D String) (After false fun _ _ => True) s := by
  refine .locked fun t moves inv => ?_
  refine .bind inv (holds_readActive inv (fun _ _ _ _ => .pure fun _ _ _ _ _ _ => trivial) ?_)
  intro u active free inv marked _
  refine .bind inv (holds_attemptId fun v token moves inv => ?_)
  refine .bind inv (.read ?_)
  rintro prepared w x moves' invW ⟨⟩ later inv
  cases found : w.attempts (active.attemptId, .completion) with
  | none =>
      refine .bind inv (holds_recordAttemptArtifact inv (by simp) fun y _ inv _ _ _ => ?_)
      exact .bind inv (holds_clearActive fun _ _ _ => .pure fun _ _ _ _ _ _ => trivial)
  | some contract =>
      obtain ⟨completion, rfl, ready⟩ := invW.prepared _ _ found
      refine .bind inv (holds_verifyPrepared inv fun y moves'' inv completes => ?_)
      refine .bind inv (.result fun expected z _ moves''' inv => ?_)
      have grown := later.grown.trans ((env_grown moves'').trans (env_grown moves'''))
      have owned : z.Owns active completion := ⟨grown.attempts _ _ found, completes⟩
      refine (holds_publish inv owned).seq inv fun _ _ _ _ => ?_
      exact .pure fun _ _ _ _ _ _ => trivial

theorem holds_recordProjectionArtifacts (claim : ClockClaim D)
    (semantic : SemanticProjectionReceipt D) (artifacts : ProjectionArtifacts D)
    (valid : s.Valid) :
    discipline.Holds false (recordProjectionArtifacts claim semantic artifacts)
      (After false fun _ _ => True) s := by
  refine .bind valid (holds_attemptId fun t token moves inv => ?_)
  refine .install ?_ ?_ ?_ (fun _ _ _ _ => trivial)
  · intro v
    simp [fileBundle]
  · exact fun v w later found => (env_grown later).bundles _ _ found
  · intro v later (invV : v.Valid) fresh
    have free : Free v (v.fileBundle claim.attemptId _) :=
      ⟨⟨.refl _, .refl _, Grows.update fresh (projectionBundle claim semantic artifacts)⟩, rfl, rfl⟩
    exact ⟨free, invV.free_valid free (fun _ _ _ found => invV.named _ _ _ found)
      fun _ _ found => .inl found⟩

theorem holds_readCompletion (digest : D)
    {normal : ClockCompletionReceipt D → TemporalStore D → Prop}
    (valid : s.Valid) (met : ∀ completion u, discipline.env locked s u → u.Valid →
      normal completion u) :
    discipline.Holds locked (readCompletion digest) (After locked normal) s := by
  refine .bind valid (holds_getContract fun t u moves invT later inv => ?_)
  have before := discipline.env_trans moves later
  cases t.objects (.clockCompletionReceipt, digest) with
  | none => exact .throw
  | some contract =>
      cases contract with
      | clockCompletionReceipt completion =>
          exact .pure fun v moves inv => met completion v (discipline.env_trans before moves) inv
      | clockClaim contract | clockProjectionFailure contract
      | semanticProjectionReceipt contract => exact .throw

theorem holds_chainFrom (expected : Nat) (digest : Option D) (valid : s.Valid) :
    discipline.Holds locked (chainFrom expected digest) (After locked fun _ _ => True) s := by
  induction expected generalizing digest s with
  | zero =>
      cases digest with
      | none => exact .pure fun _ _ _ => trivial
      | some digest => exact .bind valid (holds_readCompletion digest valid fun _ _ _ _ => .throw)
  | succ expected ih =>
      cases digest with
      | none => exact .throw
      | some digest =>
          refine .bind valid (holds_readCompletion digest valid fun item t moves inv => ?_)
          refine .bind inv (.require fun u _ moves inv => ?_)
          refine (ih item.previousCompletionDigest inv).seq inv fun _ _ _ _ => ?_
          exact .pure fun _ _ _ => trivial

theorem holds_reconstructChain (valid : s.Valid) :
    discipline.Holds false (reconstructChain : StoreM D (List (ClockCompletionReceipt D)))
      (After false fun _ _ => True) s := by
  refine .bind valid (.locked fun t moves inv => ?_)
  exact holds_readHead fun u v _ _ _ _ w _ inv => holds_chainFrom _ _ inv

/-- The calls that a claimant may make, in any order and with any arguments. -/
inductive Call : StoreM D Unit → Prop where
  | claimSuccessor (expectedHead : TemporalHead D) (claim : ClockClaim D) :
      Call (claimSuccessor expectedHead claim).discard
  | recordSemantic (attempt : String) (receipt : SemanticProjectionReceipt D) :
      Call (recordAttemptArtifact attempt .semantic (.semanticProjectionReceipt receipt))
  | recordProjectionArtifacts (claim : ClockClaim D) (semantic : SemanticProjectionReceipt D)
      (artifacts : ProjectionArtifacts D) : Call (recordProjectionArtifacts claim semantic artifacts)
  | recordFailure (claim : ClockClaim D) (failure : ClockProjectionFailure D) :
      Call (recordFailure claim failure)
  | prepareCompletion (claim : ClockClaim D) (completion : ClockCompletionReceipt D) :
      Call (prepareCompletion claim completion)
  | publishCompletion (expectedHead : TemporalHead D) (claim : ClockClaim D)
      (completion : ClockCompletionReceipt D) :
      Call (publishCompletion expectedHead claim completion).discard
  | readHead : Call (Prog.locked (Temporal.readHead (D := D))).discard
  | recover : Call (recover : StoreM D String).discard
  | reconstructChain :
      Call (reconstructChain : StoreM D (List (ClockCompletionReceipt D))).discard

theorem Call.holds {p : StoreM D Unit} (call : Call p) (s : TemporalStore D) (valid : s.Valid) :
    discipline.Holds false p (After false fun _ _ => True) s := by
  cases call with
  | readHead =>
      have head : discipline.Holds false (Prog.locked (Temporal.readHead (D := D)))
          (After false fun _ _ => True) s :=
        .locked fun t moves inv => holds_readHead fun _ _ _ _ _ _ _ _ _ => trivial
      exact head.discard valid
  | claimSuccessor expectedHead claim =>
      exact (holds_claimSuccessor expectedHead claim valid).discard valid
  | recordSemantic attempt receipt =>
      exact holds_recordAttemptArtifact valid (by simp) fun _ _ _ _ _ _ => trivial
  | recordProjectionArtifacts claim semantic artifacts =>
      exact holds_recordProjectionArtifacts claim semantic artifacts valid
  | recordFailure claim failure => exact (holds_recordFailure claim failure valid).trivial
  | prepareCompletion claim completion =>
      exact holds_prepareCompletion valid fun _ _ _ _ => trivial
  | publishCompletion expectedHead claim completion =>
      exact (holds_publishCompletion expectedHead claim completion valid).discard valid
  | recover => exact holds_recover.discard valid
  | reconstructChain => exact (holds_reconstructChain valid).discard valid

variable {ι : Type} [DecidableEq ι]

/-- A store that some run of the calls leaves behind at some moment. -/
def Reachable (ι : Type) [DecidableEq ι] (s : TemporalStore D) : Prop :=
  ∃ c : Pool ι (TemporalStore D) (TemporalError D) Unit,
    Pool.Reaches Call (.idle .initial) c ∧ c.store = s

theorem run_sound {c : Pool ι (TemporalStore D) (TemporalError D) Unit}
    (run : Pool.Reaches Call (.idle .initial) c) :
    Discipline.Sound discipline (fun _ _ => True) c :=
  (Discipline.reaches_sound (fun _ call s valid => call.holds s valid) run
    (Discipline.sound_idle initial_valid)).1

theorem Reachable.valid (reachable : Reachable ι s) : s.Valid := by
  obtain ⟨c, run, rfl⟩ := reachable
  exact (run_sound run).valid

/-- Sequential histories with crashes are enough to reach a store. -/
theorem reachable_history (i : ι) {trace : List (StoreM D Unit × Nat)}
    (allowed : ∀ call ∈ trace, Call call.1) : Reachable ι (Prog.history trace .initial) :=
  ⟨_, Pool.history_reaches i allowed _, rfl⟩

end CsdFoundry.Temporal
