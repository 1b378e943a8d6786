import CsdFoundry.Storage.Section
import CsdFoundry.Temporal.Service

/-! The critical sections of the temporal protocol. Only `publish` replaces the head, and no
section does so once it has set the marker or installed a terminal receipt itself. -/
namespace CsdFoundry.Temporal
open Storage TemporalStore Prog
variable {D : Type} [LinearOrder D]

/-- The receipts that end an attempt. -/
def Terminal (artifact : ArtifactName) : Prop := artifact = .failure ∨ artifact = .completion

def KeepsHead (update : TemporalStore D → TemporalStore D) : Prop := ∀ s, (update s).head = s.head

/-- No terminal receipt is installed, and the marker is at most cleared. -/
structure Calm (update : TemporalStore D → TemporalStore D) : Prop where
  attempts : ∀ s attempt artifact, Terminal artifact →
    (update s).attempts (attempt, artifact) = s.attempts (attempt, artifact)
  active : ∀ s, (update s).active = s.active ∨ (update s).active = none

/-- Most updates of the protocol are both. -/
structure Harmless (update : TemporalStore D → TemporalStore D) : Prop where
  calm : Calm update
  head : KeepsHead update

/-- The program keeps the head up to the next operation on the lock, and within a section
after each update of its own that is not calm. -/
structure Tidy (p : StoreM D α) : Prop where
  entry : p.Section KeepsHead
  settles : p.Settles Calm KeepsHead

theorem harmless_id : Harmless (id : TemporalStore D → TemporalStore D) :=
  ⟨⟨fun _ _ _ _ => rfl, fun _ => .inl rfl⟩, fun _ => rfl⟩

theorem calm_of_quiet {p : StoreM D α} (quiet : p.Quiet) : p.Uses Calm :=
  .of_quiet quiet harmless_id.calm

namespace Tidy
variable {p : StoreM D α} {f : α → StoreM D β}

theorem of_harmless (uses : p.Uses Harmless) : Tidy p :=
  ⟨.of_uses (Within.imp uses fun _ harmless => harmless.head),
    .of_calm (Within.imp uses fun _ harmless => harmless.calm)⟩

theorem of_quiet (quiet : p.Quiet) : Tidy p := of_harmless (.of_quiet quiet harmless_id)

theorem done (result : Except (TemporalError D) α) : Tidy (.done result : StoreM D α) :=
  ⟨True.intro, True.intro⟩

theorem bind (first : Tidy p) (rest : ∀ a, Tidy (f a)) : Tidy (p >>= f) :=
  ⟨first.entry.bind fun a => (rest a).entry,
    first.settles.bind (fun a => (rest a).settles) fun a => (rest a).entry⟩

theorem tryCatch {handler : TemporalError D → StoreM D α} (first : Tidy p)
    (handled : ∀ e, Tidy (handler e)) : Tidy (tryCatch p handler) :=
  ⟨first.entry.tryCatch fun e => (handled e).entry,
    first.settles.tryCatch (fun e => (handled e).settles) fun e => (handled e).entry⟩

theorem map (f : α → β) (first : Tidy p) : Tidy (p.map f) :=
  ⟨first.entry.map f, first.settles.map f⟩

theorem locked {body : StoreM D α} (settles : body.Settles Calm KeepsHead) :
    Tidy (Prog.locked body) := ⟨True.intro, settles.locked⟩

end Tidy

theorem quiet_readHead : (readHead : StoreM D (TemporalHead D)).Quiet := .read _ _

theorem harmless_clearActive : (clearActive : StoreM D Unit).Uses Harmless :=
  .atomically ⟨⟨fun _ _ _ _ => rfl, fun _ => .inr rfl⟩, fun _ => rfl⟩

variable [Sha256 D]

theorem quiet_getContract (name : ContractName) (digest : D) :
    (getContract name digest : StoreM D _).Quiet := .read _ _

theorem quiet_readActive : (readActive : StoreM D (Option (ClockClaim D))).Quiet := by
  refine .bind (.read _ _) fun digest => ?_
  cases digest with
  | none => exact .pure _
  | some digest =>
      refine .bind (quiet_getContract _ _) fun contract => ?_
      split
      · exact .pure _
      · exact .throw _

theorem quiet_verifyDependencies (claim : ClockClaim D) (completion : ClockCompletionReceipt D)
    (bundle : ProjectionBundle D) (stored : ContractObject D) (unavailable : String) :
    (verifyDependencies claim completion bundle stored unavailable).Quiet := by
  refine .bind (.done _) fun _ => .bind (quiet_getContract _ _) fun semantic => ?_
  cases semantic with
  | none => exact .throw _
  | some semantic => exact .require _ _

theorem harmless_putContract (contract : ContractObject D) :
    (putContract contract).Uses Harmless := by
  refine .atomically ⟨⟨fun s attempt artifact _ => ?_, fun s => .inl ?_⟩, fun s => ?_⟩
  all_goals
    split
    · rfl
    · rfl

theorem harmless_recordProjectionArtifacts (claim : ClockClaim D)
    (semantic : SemanticProjectionReceipt D) (artifacts : ProjectionArtifacts D) :
    (recordProjectionArtifacts claim semantic artifacts).Uses Harmless := by
  refine .bind (.done _) fun attempt => .atomically ⟨⟨fun s attempt artifact _ => ?_,
    fun s => .inl ?_⟩, fun s => ?_⟩
  all_goals
    split
    · rfl
    · rfl

/-- A claim or a semantic receipt is not terminal. -/
theorem harmless_recordAttemptArtifact {artifact : ArtifactName} (open_ : ¬ Terminal artifact)
    (attempt : String) (contract : ContractObject D) :
    (recordAttemptArtifact attempt artifact contract).Uses Harmless := by
  refine .bind (.done _) fun _ => .bind (harmless_putContract contract) fun _ =>
    .atomically ⟨⟨fun s attempt' artifact' terminal => ?_, fun s => .inl ?_⟩, fun s => ?_⟩
  · split
    · have different : (attempt', artifact') ≠ (attempt, artifact) := by
        intro same
        exact open_ ((Prod.mk.inj same).2 ▸ terminal)
      exact Function.update_of_ne different _ _
    · rfl
  all_goals
    split
    · rfl
    · rfl

/-- A terminal receipt is the last file that is installed. -/
theorem tidy_recordAttemptArtifact (attempt : String) (artifact : ArtifactName)
    (contract : ContractObject D) : Tidy (recordAttemptArtifact attempt artifact contract) := by
  refine .bind (.done _) fun _ => .bind (.of_harmless (harmless_putContract contract)) fun _ => ?_
  have keeps : KeepsHead fun s : TemporalStore D => if s.attempts (attempt, artifact) = none then
      s.fileAttempt attempt artifact contract else s := by
    intro s
    dsimp only
    split
    · rfl
    · rfl
  exact ⟨⟨keeps, fun _ => True.intro, True.intro⟩,
    .inr ⟨fun _ => True.intro, True.intro⟩, fun _ => True.intro, True.intro⟩

theorem tidy_claimSuccessor (expectedHead : TemporalHead D) (claim : ClockClaim D) :
    Tidy (claimSuccessor expectedHead claim) := by
  have claimed : ¬ Terminal .claim := by simp [Terminal]
  refine .bind (.done _) fun _ => .bind (.done _) fun _ => .bind
    (.of_harmless (harmless_recordAttemptArtifact claimed _ _)) fun _ => .locked ?_
  refine .bind_of_calm (calm_of_quiet quiet_readHead) fun head => ?_
  split
  · exact .of_calm (.done _)
  · refine .bind_of_calm (calm_of_quiet quiet_readActive) fun active => ?_
    cases active with
    | some active =>
        dsimp only
        split
        · exact .of_calm (.done _)
        · exact .of_calm (.done _)
    -- nothing follows the marker in its section
    | none => exact ⟨.inr ⟨fun _ => True.intro, True.intro⟩, fun _ => True.intro, True.intro⟩

theorem tidy_recordFailure (claim : ClockClaim D) (failure : ClockProjectionFailure D) :
    Tidy (recordFailure claim failure) := by
  refine .bind (.done _) fun _ => .bind (.done _) fun _ => .bind
    (tidy_recordAttemptArtifact _ _ _) fun _ => .locked ?_
  refine .bind_of_calm (calm_of_quiet quiet_readActive) fun active => ?_
  cases active with
  | some active =>
      exact .bind_of_calm (.done _) fun _ => (Tidy.of_harmless harmless_clearActive).settles
  | none => exact .of_calm (.done _)

theorem tidy_prepareCompletion (claim : ClockClaim D) (completion : ClockCompletionReceipt D) :
    Tidy (prepareCompletion claim completion) := by
  refine .bind (.done _) fun _ => .bind (.done _) fun attempt => .bind (.of_quiet (.read _ _))
    fun files => ?_
  rcases files with ⟨bundle, stored⟩
  cases bundle with
  | none => exact .done _
  | some bundle =>
      cases stored with
      | none => exact .done _
      | some stored => exact .bind (.of_quiet (quiet_verifyDependencies _ _ _ _ _)) fun _ =>
          tidy_recordAttemptArtifact _ _ _

/-- The head is replaced by an update that installs nothing and leaves the marker. -/
theorem calm_publish (expectedHead : TemporalHead D) (claim : ClockClaim D)
    (completion : ClockCompletionReceipt D) :
    (publish expectedHead claim completion).Uses Calm := by
  have clears : (clearActive : StoreM D Unit).Uses Calm :=
    Within.imp harmless_clearActive fun _ harmless => harmless.calm
  refine .bind (calm_of_quiet quiet_readHead) fun current => ?_
  split
  · exact .bind (.done _) fun _ => .bind clears fun _ => .done _
  · refine .bind (.done _) fun _ => .bind (calm_of_quiet quiet_readActive) fun active => ?_
    cases active with
    | none => exact .done _
    | some active =>
        have replaces : Calm fun s : TemporalStore D =>
            { s with head := .publishing completion } :=
          ⟨fun _ _ _ _ => rfl, fun _ => .inl rfl⟩
        exact .bind (.done _) fun _ => .bind (.atomically replaces) fun _ => .bind clears fun _ =>
          .done _

theorem tidy_publishCompletion (expectedHead : TemporalHead D) (claim : ClockClaim D)
    (completion : ClockCompletionReceipt D) :
    Tidy (publishCompletion expectedHead claim completion) :=
  .bind (tidy_prepareCompletion claim completion) fun _ =>
    .locked (.of_calm (calm_publish expectedHead claim completion))

/-- Recovery publishes, or it installs a failure and publishes nothing. -/
theorem tidy_recover : Tidy (recover : StoreM D String) := by
  refine .locked (.bind_of_calm (calm_of_quiet quiet_readActive) fun active => ?_)
  cases active with
  | none => exact .of_calm (.done _)
  | some active =>
      refine .bind_of_calm (.done _) fun attempt => .bind_of_calm (.atomically harmless_id.calm)
        fun prepared => ?_
      split
      · rename_i completion
        have verifies : (verifyPrepared active completion).Quiet := by
          refine .bind (.done _) fun _ => .bind (.done _) fun _ => .bind (.read _ _) fun files => ?_
          split
          · exact quiet_verifyDependencies _ _ _ _ _
          · exact .throw _
        exact .of_calm (.bind (calm_of_quiet verifies) fun _ => .bind (.done _) fun _ =>
          .bind (calm_publish _ _ _) fun _ => .done _)
      · exact .of_calm (.done _)
      · exact (Tidy.bind (tidy_recordAttemptArtifact _ _ _) fun _ =>
          .bind (.of_harmless harmless_clearActive) fun _ => .done _).settles

theorem quiet_chainFrom (expected : Nat) (digest : Option D) :
    (chainFrom expected digest : StoreM D _).Quiet := by
  have reads : ∀ digest, (readCompletion digest : StoreM D (ClockCompletionReceipt D)).Quiet := by
    intro digest
    refine .bind (quiet_getContract _ _) fun contract => ?_
    split
    · exact .pure _
    · exact .throw _
  induction expected generalizing digest with
  | zero =>
      cases digest with
      | none => exact .pure _
      | some digest => exact .bind (reads digest) fun _ => .throw _
  | succ expected ih =>
      cases digest with
      | none => exact .throw _
      | some digest =>
          exact .bind (reads digest) fun item => .bind (.require _ _) fun _ =>
            .bind (ih _) fun _ => .pure _

theorem Call.tidy {p : StoreM D Unit} (call : Call p) : Tidy p := by
  have reads : Tidy (Prog.locked (Temporal.readHead (D := D))) :=
    .locked (.of_calm (calm_of_quiet quiet_readHead))
  cases call with
  | readHead => exact reads.map _
  | claimSuccessor expectedHead claim => exact (tidy_claimSuccessor expectedHead claim).map _
  | recordSemantic attempt receipt => exact tidy_recordAttemptArtifact _ _ _
  | recordProjectionArtifacts claim semantic artifacts =>
      exact .of_harmless (harmless_recordProjectionArtifacts claim semantic artifacts)
  | recordFailure claim failure => exact tidy_recordFailure claim failure
  | prepareCompletion claim completion => exact tidy_prepareCompletion claim completion
  | publishCompletion expectedHead claim completion =>
      exact (tidy_publishCompletion expectedHead claim completion).map _
  | recover => exact tidy_recover.map _
  | reconstructChain => exact (reads.bind fun head => .of_quiet (quiet_chainFrom _ _)).map _

variable (coordinator : ProjectionCoordinator D)

theorem tidy_fail (claim : ClockClaim D) (receipt : Option (SemanticProjectionReceipt D))
    (error : TemporalError D) : Tidy (coordinator.fail claim receipt error) :=
  .bind (.done _) fun failure => .bind (tidy_recordFailure claim failure) fun _ => .done _

theorem tidy_project (expectedHead : TemporalHead D) (claim : ClockClaim D) (event : D)
    (receipt : SemanticProjectionReceipt D) :
    Tidy (coordinator.project expectedHead claim event receipt) :=
  .bind (.done _) fun _ => .bind (.of_harmless (harmless_putContract _)) fun _ =>
    .bind (tidy_recordAttemptArtifact _ _ _) fun _ => .bind (.done _) fun artifacts =>
    .bind (.done _) fun _ =>
    .bind (.of_harmless (harmless_recordProjectionArtifacts claim receipt artifacts)) fun _ =>
    .bind (.done _) fun completion => .bind (tidy_prepareCompletion claim completion) fun _ =>
    .bind (tidy_publishCompletion expectedHead claim completion) fun _ => .done _

theorem tidy_completeClaim (expectedHead : TemporalHead D) (claim : ClockClaim D) (event : D) :
    Tidy (coordinator.completeClaim expectedHead claim event) := by
  refine .bind (.done _) fun _ => ?_
  cases coordinator.semanticProjector claim event with
  | error error => exact tidy_fail coordinator claim none error
  | ok receipt =>
      exact .tryCatch (tidy_project coordinator expectedHead claim event receipt) fun error =>
        tidy_fail coordinator claim (some receipt) error

theorem tidy_claim (event : D) (attemptId claimantId : String)
    (observedHead : Option (TemporalHead D)) :
    Tidy (coordinator.claim event attemptId claimantId observedHead) := by
  have observes : Tidy (ProjectionCoordinator.observeHead observedHead) := by
    cases observedHead with
    | some head => exact .done _
    | none => exact .locked (.of_calm (calm_of_quiet quiet_readHead))
  have builds : Tidy (coordinator.buildClaim event attemptId claimantId observedHead) :=
    observes.bind fun head => .bind (.done _) fun _ => .bind (.done _) fun _ => .done _
  exact builds.bind fun built => (tidy_claimSuccessor built.1 built.2).bind fun _ => .done _

/-- In a service call, too, only `publish` replaces the head. -/
theorem ServiceCall.tidy {p : StoreM D (Option (TemporalAttemptOutcome D))}
    (call : ServiceCall p) : Tidy p := by
  cases call with
  | store call => exact call.tidy.map _
  | claim coordinator event attemptId claimantId observedHead =>
      exact (tidy_claim coordinator event attemptId claimantId observedHead).map _
  | completeClaim coordinator expectedHead claim event =>
      exact (tidy_completeClaim coordinator expectedHead claim event).map _
  | execute coordinator event attemptId claimantId =>
      exact ((tidy_claim coordinator event attemptId claimantId none).bind fun claimed =>
        .bind (.done _) fun _ => tidy_completeClaim coordinator _ _ event).map _

/-- No file changes outside this attempt directory. -/
def WritesIn (attempt : String) (update : TemporalStore D → TemporalStore D) : Prop :=
  ∀ s other artifact, other ≠ attempt →
    (update s).attempts (other, artifact) = s.attempts (other, artifact)

omit [Sha256 D] in
theorem writes_of_quiet {p : StoreM D α} (quiet : p.Quiet) : p.Uses (WritesIn attempt) :=
  .of_quiet quiet fun _ _ _ _ => rfl

omit [Sha256 D] in
theorem writes_clearActive : (clearActive : StoreM D Unit).Uses (WritesIn attempt) :=
  .atomically fun _ _ _ _ => rfl

theorem writes_putContract (contract : ContractObject D) :
    (putContract contract).Uses (WritesIn attempt) := by
  refine .atomically fun s other artifact _ => ?_
  split
  · rfl
  · rfl

theorem writes_recordAttemptArtifact (attempt : String) (artifact : ArtifactName)
    (contract : ContractObject D) :
    (recordAttemptArtifact attempt artifact contract).Uses (WritesIn attempt) := by
  refine .bind (.done _) fun _ => .bind (writes_putContract contract) fun _ =>
    .atomically fun s other artifact' different => ?_
  split
  · exact Function.update_of_ne (fun same => different (Prod.mk.inj same).1) _ _
  · rfl

omit [Sha256 D] in
/-- The path of the attempt directory is the token of the claim. -/
theorem writes_attemptId {claim : ClockClaim D} {f : String → StoreM D β}
    (rest : (f claim.attemptId).Uses (WritesIn claim.attemptId)) :
    (lift (attemptId claim) >>= f).Uses (WritesIn claim.attemptId) := by
  unfold attemptId
  split
  · exact rest
  · trivial

theorem writes_claimSuccessor (expectedHead : TemporalHead D) (claim : ClockClaim D) :
    (claimSuccessor expectedHead claim).Uses (WritesIn claim.attemptId) := by
  refine .bind (.done _) fun _ => writes_attemptId (.bind (writes_recordAttemptArtifact _ _ _)
    fun _ => .locked (.bind (writes_of_quiet quiet_readHead) fun head => ?_))
  split
  · exact .done _
  · refine .bind (writes_of_quiet quiet_readActive) fun active => ?_
    cases active with
    | some active =>
        dsimp only
        split
        · exact .done _
        · exact .done _
    | none => exact .bind (.atomically fun _ _ _ _ => rfl) fun _ => .done _

theorem writes_recordFailure (claim : ClockClaim D) (failure : ClockProjectionFailure D) :
    (recordFailure claim failure).Uses (WritesIn claim.attemptId) := by
  refine .bind (.done _) fun _ => writes_attemptId (.bind (writes_recordAttemptArtifact _ _ _)
    fun _ => .locked (.bind (writes_of_quiet quiet_readActive) fun active => ?_))
  cases active with
  | some active => exact .bind (.done _) fun _ => writes_clearActive
  | none => exact .done _

theorem writes_prepareCompletion (claim : ClockClaim D) (completion : ClockCompletionReceipt D) :
    (prepareCompletion claim completion).Uses (WritesIn claim.attemptId) := by
  refine .bind (.done _) fun _ => writes_attemptId (.bind (writes_of_quiet (.read _ _))
    fun files => ?_)
  split
  · exact .bind (writes_of_quiet (quiet_verifyDependencies _ _ _ _ _)) fun _ =>
      writes_recordAttemptArtifact _ _ _
  · exact .done _

theorem writes_publish (expectedHead : TemporalHead D) (claim : ClockClaim D)
    (completion : ClockCompletionReceipt D) :
    (publish expectedHead claim completion).Uses (WritesIn attempt) := by
  refine .bind (writes_of_quiet quiet_readHead) fun current => ?_
  split
  · exact .bind (.done _) fun _ => .bind writes_clearActive fun _ => .done _
  · refine .bind (.done _) fun _ => .bind (writes_of_quiet quiet_readActive) fun active => ?_
    cases active with
    | none => exact .done _
    | some active =>
        exact .bind (.done _) fun _ => .bind (.atomically fun _ _ _ _ => rfl) fun _ =>
          .bind writes_clearActive fun _ => .done _

/-- Completing a claim touches the directory of its own attempt alone. -/
theorem writes_completeClaim (expectedHead : TemporalHead D) (claim : ClockClaim D) (event : D) :
    (coordinator.completeClaim expectedHead claim event).Uses (WritesIn claim.attemptId) := by
  have fails : ∀ receipt error,
      (coordinator.fail claim receipt error).Uses (WritesIn claim.attemptId) := fun _ _ =>
    .bind (.done _) fun failure => .bind (writes_recordFailure claim failure) fun _ => .done _
  refine .bind (.done _) fun _ => ?_
  cases coordinator.semanticProjector claim event with
  | error error => exact fails none error
  | ok receipt =>
      have projects : (coordinator.project expectedHead claim event receipt).Uses
          (WritesIn claim.attemptId) :=
        .bind (.done _) fun _ => .bind (writes_putContract _) fun _ =>
          .bind (writes_recordAttemptArtifact _ _ _) fun _ => .bind (.done _) fun artifacts =>
          .bind (.done _) fun _ =>
          .bind (writes_attemptId (.atomically fun s _ _ _ => by dsimp only; split <;> rfl))
          fun _ => .bind (.done _) fun completion =>
          .bind (writes_prepareCompletion claim completion) fun _ =>
          .bind (.bind (writes_prepareCompletion claim completion) fun _ =>
            .locked (writes_publish _ _ _)) fun _ => .done _
      refine Within.andThen projects fun result _ => ?_
      cases result with
      | error error => exact fails (some receipt) error
      | ok outcome => trivial

omit [Sha256 D] in
/-- A history of calls leaves the attempts alone that it does not name. -/
theorem history_elsewhere (names : List String) {calls : List (StoreM D α × Nat)}
    (writes : ∀ call ∈ calls, ∃ attempt ∈ names, call.1.Uses (WritesIn attempt))
    (outside : other ∉ names) (artifact : ArtifactName) :
    (Prog.history calls initial).attempts (other, artifact) = none := by
  have kept : ∀ (update : TemporalStore D → TemporalStore D) s,
      (∃ attempt ∈ names, WritesIn attempt update) → s.attempts (other, artifact) = none →
      (update s).attempts (other, artifact) = none := by
    rintro update s ⟨attempt, named, writes⟩ absent
    have different : other ≠ attempt := by
      rintro rfl
      exact outside named
    exact (writes s other artifact different).trans absent
  have uses : ∀ call ∈ calls,
      call.1.Uses fun update => ∃ attempt ∈ names, WritesIn attempt update := by
    intro call member
    obtain ⟨attempt, named, uses⟩ := writes call member
    exact Within.imp uses fun _ within => ⟨attempt, named, within⟩
  exact Uses.history kept uses rfl

end CsdFoundry.Temporal
