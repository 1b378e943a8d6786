import CsdFoundry.AlternativeModels.Use

/-! Challenges that are all upheld leave an alternative model as it was before the first of them. -/
namespace CsdFoundry.AlternativeModels
open Registry
variable {D : Type} [DecidableEq D] [DigestText D] [Sha256 D] {before after m n : AlternativeModel D}
  {event : RegistryEvent D} {events more : List (RegistryEvent D)}

/-- The event opens a challenge, or resolves some and upholds the model. -/
def Disputes (event : RegistryEvent D) : Prop :=
  Operates "CHALLENGE" event ∨
    Operates "RESOLVE_CHALLENGES" event ∧ event.payload.get "resolution_outcome" = .str "UPHOLD"

/-- Only the active challenges have changed, and the place in the chain. -/
def Undisturbed (before after : AlternativeModel D) : Prop :=
  after = { before with
    activeChallenges := after.activeChallenges
    currentSourceReceiptDigest := after.currentSourceReceiptDigest
    currentEventDigest := after.currentEventDigest
    currentEntitySequence := after.currentEntitySequence
    lastClockSequence := after.lastClockSequence }

omit [DecidableEq D] [DigestText D] [Sha256 D] in
theorem Undisturbed.refl (m : AlternativeModel D) : Undisturbed m m := rfl

omit [DecidableEq D] [DigestText D] [Sha256 D] in
theorem Undisturbed.trans (first : Undisturbed m before) (second : Undisturbed before after) :
    Undisturbed m after := by
  unfold Undisturbed at first second ⊢
  rw [second, first]

omit [Sha256 D] in
theorem postInit_challenges (valid : m.postInit = .ok ()) :
    m.activeChallenges = [] ∨ m.separationStatus.challengeable = true := by
  simp only [AlternativeModel.postInit, AlternativeModel.checkChallenges, except_bind_ok,
    check_ok] at valid
  obtain ⟨-, -, -, -, -, -, -, -, -, -, -, -, -, -, -, -, -, -, -, -, -, -, -, -, -, -, -, -, -, -,
    -, ⟨-, -, -, -, standing⟩, -⟩ := valid
  exact standing

omit [Sha256 D] in
theorem postInit_supersession (valid : m.postInit = .ok ())
    (live : m.separationStatus ≠ .superseded) : m.supersededById = none := by
  simp only [AlternativeModel.postInit, AlternativeModel.checkSupersession, except_bind_ok,
    check_ok] at valid
  obtain ⟨-, -, -, -, -, -, -, -, -, -, -, -, -, -, -, -, -, -, -, -, -, -, -, -, -, -, -, -, -, -,
    -, -, -, ⟨-, -, -, free, -⟩, -⟩ := valid
  exact free live

/-- A change of the challenges alone. -/
theorem advance_undisturbed {challenges : List (AlternativeModelChallenge D)}
    (valid : before.postInit = .ok ()) (live : before.separationStatus.challengeable = true)
    (changed : advance before event { activeChallenges := some challenges } = .ok after) :
    Undisturbed before after := by
  obtain ⟨-, rfl⟩ := create_ok.mp changed
  have free := postInit_supersession valid fun ended => by
    rw [ended] at live
    cases live
  obtain ⟨⟩ := before
  cases free
  rfl

theorem operate_undisturbed {name : String} (valid : before.postInit = .ok ())
    (operates : Operates name event) (disputes : Disputes event)
    (accepted : operate name before event = .ok after) : Undisturbed before after := by
  rcases disputes with opens | ⟨resolves, upholds⟩
  · obtain rfl := operates.unique opens
    change challenge before event = .ok after at accepted
    simp only [challenge, except_bind_ok, check_ok] at accepted
    obtain ⟨-, live, -, -, id, -, -, -, challenger, -, reason, -, receipt, -, changed⟩ := accepted
    exact advance_undisturbed valid live changed
  · obtain rfl := operates.unique resolves
    change resolveChallenges before event = .ok after at accepted
    simp only [resolveChallenges, except_bind_ok, check_ok] at accepted
    obtain ⟨-, live, -, -, -, -, outcome, named, -, known, resolver, -, receipt, -, basis, -, ids, -,
      -, -, -, -, changed⟩ := accepted
    obtain rfl := Json.str.inj ((requireToken_ok named).1.symm.trans upholds)
    exact advance_undisturbed valid live changed

theorem reduceAlternativeModel_undisturbed (valid : before.postInit = .ok ())
    (disputes : Disputes event)
    (accepted : reduceAlternativeModel (some before) event = .ok after) :
    Undisturbed before after := by
  simp only [reduceAlternativeModel, except_bind_ok, check_ok] at accepted
  obtain ⟨-, -, name, operation, done, chained, -, live, operated⟩ := accepted
  exact operate_undisturbed valid (requireToken_ok operation).1 disputes operated

theorem projectFrom_undisturbed (valid : m.postInit = .ok ())
    (disputes : ∀ event ∈ more, Disputes event)
    (accepted : projectFrom (some m) more = .ok (some n)) : Undisturbed m n := by
  induction more generalizing m with
  | nil =>
      obtain rfl := Option.some.inj (Except.ok.inj accepted)
      exact .refl m
  | cons event more ih =>
      obtain ⟨next, reduced, rest⟩ := except_bind_ok.mp accepted
      obtain ⟨first, others⟩ := List.forall_mem_cons.mp disputes
      have step := reduceAlternativeModel_undisturbed valid first reduced
      exact step.trans (ih (reduceAlternativeModel_moves reduced).2.1 others rest)

/-- Only a CONFIRM confirms. -/
theorem projectFrom_confirmed (accepted : projectFrom (some m) more = .ok (some n))
    (confirmed : n.separationStatus = .confirmed) :
    m.separationStatus = .confirmed ∨ ∃ event ∈ more, Operates "CONFIRM" event := by
  induction more generalizing m with
  | nil =>
      obtain rfl := Option.some.inj (Except.ok.inj accepted)
      exact .inl confirmed
  | cons event more ih =>
      obtain ⟨next, reduced, rest⟩ := except_bind_ok.mp accepted
      rcases ih rest with status | ⟨later, member, confirms⟩
      · obtain ⟨-, -, moves⟩ := reduceAlternativeModel_moves reduced
        cases moves with
        | admitted operates was becomes => cases becomes.symm.trans status
        | confirmed operates => exact .inr ⟨event, List.mem_cons_self, operates⟩
        | challenged challengeId opens same => exact .inl (same.symm.trans status)
        | upheld resolvedIds operates upholds same => exact .inl (same.symm.trans status)
        | ended terminal =>
            rw [AlternativeModel.terminal, status] at terminal
            cases terminal
      · exact .inr ⟨later, List.mem_cons_of_mem _ member, confirms⟩

theorem projectFrom_append {state result : Option (AlternativeModel D)} :
    projectFrom state (events ++ more) = .ok result ↔ ∃ middle,
      projectFrom state events = .ok middle ∧ projectFrom middle more = .ok result := by
  induction events generalizing state with
  | nil => simp [projectFrom]
  | cons event events ih =>
      rw [List.cons_append, projectFrom, projectFrom, except_bind_ok]
      simp only [ih, except_bind_ok]
      constructor
      · rintro ⟨next, reduced, middle, first, second⟩
        exact ⟨middle, ⟨next, reduced, first⟩, second⟩
      · rintro ⟨middle, ⟨next, reduced, first⟩, second⟩
        exact ⟨next, reduced, middle, first, second⟩

/-- Of every accepted history, challenges that are all upheld leave the model as it was; an
unverified model takes a CONFIRM to be confirmed and is never admitted; and a terminal one has no
challenge and takes no event. -/
theorem challenge_round_trip (accepted : projectAlternativeModelHistory events = .ok (some m)) :
    (∀ more n, (∀ event ∈ more, Disputes event) →
      projectAlternativeModelHistory (events ++ more) = .ok (some n) →
        Undisturbed m n ∧
          (n.activeChallenges = [] → n.standing = .separation m.separationStatus)) ∧
    (∀ more n, m.separationStatus = .unverified →
      projectAlternativeModelHistory (events ++ more) = .ok (some n) →
        n.separationStatus ≠ .admitted ∧
          (n.separationStatus = .confirmed → ∃ event ∈ more, Operates "CONFIRM" event)) ∧
    (m.terminal = true → m.activeChallenges = [] ∧
      ∀ event result, reduceAlternativeModel (some m) event ≠ .ok result) := by
  have told := project_told accepted
  have continues : ∀ {more n}, projectAlternativeModelHistory (events ++ more) = .ok (some n) →
      projectFrom (some m) more = .ok (some n) := by
    intro more n whole
    obtain ⟨middle, first, second⟩ := projectFrom_append.mp whole
    obtain rfl := Except.ok.inj (first.symm.trans accepted)
    exact second
  refine ⟨?_, ?_, ?_⟩
  · intro more n disputes whole
    have same := projectFrom_undisturbed told.valid disputes (continues whole)
    refine ⟨same, fun quiet => ?_⟩
    have status : n.separationStatus = m.separationStatus := by rw [same]
    rw [AlternativeModel.standing, if_pos quiet, status]
  · intro more n unverified whole
    refine ⟨(project_told whole).reachable, fun confirmed => ?_⟩
    refine (projectFrom_confirmed (continues whole) confirmed).resolve_left fun already => ?_
    cases unverified.symm.trans already
  · intro terminal
    constructor
    · refine (postInit_challenges told.valid).resolve_right fun live => ?_
      revert terminal live
      unfold AlternativeModel.terminal
      cases m.separationStatus <;> decide
    · intro event result reduced
      have live := (reduceAlternativeModel_moves reduced).1
      rw [terminal] at live
      cases live

/-! Two challenges of a confirmed model, upheld one after the other. -/
section Sample

def sampleChallenge (challengeId : String) : JsonObject :=
  [("challenge_id", .str challengeId), ("challenge_reason_code", .str "reason"),
    ("challenge_receipt_digest", .str "sha256:challenge"),
    ("challenger_authority_id", .str "challenger"), ("operation", .str "CHALLENGE")]

def sampleUphold (challengeId : String) : JsonObject :=
  [("operation", .str "RESOLVE_CHALLENGES"), ("replacement_model_id", .null),
    ("resolution_basis_code", .str "basis"), ("resolution_outcome", .str "UPHOLD"),
    ("resolution_receipt_digest", .str "sha256:resolution"),
    ("resolved_challenge_ids", .arr [.str challengeId]), ("resolver_authority_id", .str "resolver")]

def sampleDisputed : List (RegistryEvent (List Nat)) :=
  sampleChain (samplePayloads ++ [sampleChallenge "second", sampleChallenge "first",
    sampleUphold "second", sampleUphold "first"]) 0 none

set_option maxRecDepth 100000 in
theorem sampleDisputed_projects : ∃ n, projectAlternativeModelHistory sampleDisputed = .ok (some n) ∧
    n.activeChallenges = [] := by
  have summary : (projectAlternativeModelHistory sampleDisputed).toOption.join.map (fun n =>
      decide (n.activeChallenges = [])) = some true := by decide +kernel
  obtain ⟨n, projected, passes⟩ := Results.ok_some_of_join summary
  exact ⟨n, projected, of_decide_eq_true passes⟩

/-- The model is CONFIRMED again, by the authority that confirmed it. -/
theorem challenge_round_trip_sample : ∃ m n,
    projectAlternativeModelHistory sampleHistory = .ok (some m) ∧
    projectAlternativeModelHistory sampleDisputed = .ok (some n) ∧
    n.standing = .separation .confirmed ∧ n.confirmingAuthorityId = m.confirmingAuthorityId := by
  obtain ⟨m, accepted, -, confirmed, -⟩ := sampleModel
  obtain ⟨n, projected, quiet⟩ := sampleDisputed_projects
  have disputes : ∀ event ∈ sampleDisputed.drop 3, Disputes event := by
    intro event member
    simp only [sampleDisputed, samplePayloads, List.cons_append, List.nil_append, sampleChain,
      List.drop_succ_cons, List.drop_zero, List.mem_cons, List.not_mem_nil, or_false] at member
    rcases member with rfl | rfl | rfl | rfl
    · exact .inl rfl
    · exact .inl rfl
    · exact .inr ⟨rfl, rfl⟩
    · exact .inr ⟨rfl, rfl⟩
  have split : sampleHistory ++ sampleDisputed.drop 3 = sampleDisputed := rfl
  obtain ⟨same, standing⟩ := (challenge_round_trip accepted).1 (sampleDisputed.drop 3) n disputes
    (split ▸ projected)
  refine ⟨m, n, accepted, projected, ?_, by rw [same]⟩
  rw [standing quiet, confirmed]

end Sample
end CsdFoundry.AlternativeModels
