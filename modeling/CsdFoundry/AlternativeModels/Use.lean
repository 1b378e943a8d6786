import CsdFoundry.AlternativeModels.History
import CsdFoundry.Results

/-! The use-time authority gate of alternative models. -/
namespace CsdFoundry.AlternativeModels
open Registry
open Temporal (isToken)
variable {D : Type}

/-- `AlternativeModel.standing`: the separation status, unless a challenge is active. -/
inductive Standing where
  | challenged
  | separation (status : SeparationStatus)
  deriving DecidableEq

def SeparationStatus.value : SeparationStatus → String
  | .proposed => "PROPOSED"
  | .unverified => "UNVERIFIED"
  | .admitted => "ADMITTED"
  | .confirmed => "CONFIRMED"
  | .rejected => "REJECTED"
  | .expired => "EXPIRED"
  | .superseded => "SUPERSEDED"

def AlternativeModel.standing (m : AlternativeModel D) : Standing :=
  if m.activeChallenges = [] then .separation m.separationStatus else .challenged

/-- `_USABLE_STANDINGS`. -/
def Standing.usable : Standing → Bool
  | .separation .admitted | .separation .confirmed => true
  | _ => false

/-- `_REUSE_CLASS_RANK`: the classes are listed by rank. -/
def reuseClassRank (reuseClass : String) : Nat := reuseClasses.idxOf reuseClass

/-- `_unsigned_value`, without its schema version. -/
structure UseAuthorityValue where
  modelId : String
  logicalClock : Nat
  scopeId : String
  requiredReuseClass : String
  maximumReuseClass : String
  separationStatus : String
  expiresAtSequence : Option Nat
  decision : String
  reasonCode : String

structure UseAuthorityDecision (D : Type) extends UseAuthorityValue where
  decisionDigest : D

def optionalNat : Option Nat → Field D
  | none => .null
  | some value => .nat value

/-- The keys in canonical order. -/
def UseAuthorityValue.digest [Sha256 D] (value : UseAuthorityValue) : D :=
  Sha256.sha256 "ALTERNATIVE_MODEL_USE_AUTHORITY_DECISION" [
    .str value.decision, optionalNat value.expiresAtSequence, .nat value.logicalClock,
    .str value.maximumReuseClass, .str value.modelId, .str value.reasonCode,
    .str value.requiredReuseClass, .str "alternative-model-use-authority-decision/1",
    .str value.scopeId, .str value.separationStatus]

/-- `UseAuthorityDecision.__post_init__`. -/
def UseAuthorityDecision.postInit [DecidableEq D] [Sha256 D] (d : UseAuthorityDecision D) :
    Except String Unit := do
  check (isToken d.modelId = true) "USE_AUTHORITY_MODEL_ID_INVALID"
  check (1 ≤ d.logicalClock) "USE_AUTHORITY_LOGICAL_CLOCK_INVALID"
  check (isToken d.scopeId = true) "USE_AUTHORITY_SCOPE_ID_INVALID"
  check (d.requiredReuseClass ∈ reuseClasses) "USE_AUTHORITY_REQUIRED_REUSE_CLASS_INVALID"
  check (d.maximumReuseClass ∈ reuseClasses) "USE_AUTHORITY_MAXIMUM_REUSE_CLASS_INVALID"
  check (d.separationStatus ≠ "") "USE_AUTHORITY_SEPARATION_STATUS_INVALID"
  check (∀ expires ∈ d.expiresAtSequence, 1 ≤ expires) "USE_AUTHORITY_EXPIRES_INVALID"
  check (d.decision = "ALLOW" ∨ d.decision = "DENY") "USE_AUTHORITY_DECISION_INVALID"
  check (isToken d.reasonCode = true) "USE_AUTHORITY_REASON_CODE_INVALID"
  check (d.decisionDigest = d.toUseAuthorityValue.digest) "USE_AUTHORITY_DIGEST_MISMATCH"

/-- The decision and the reason code. -/
def useDecision (m : AlternativeModel D) (logicalClock : Nat) (scopeId requiredReuseClass : String) :
    String × String :=
  if m.standing = .separation .unverified then ("DENY", "USE_DENIED_UNVERIFIED")
  else if m.terminal = true then ("DENY", "USE_DENIED_TERMINAL")
  else if m.standing.usable = false then ("DENY", "USE_DENIED_NOT_ADMISSIBLE")
  else if m.expiresAtSequence.any (· ≤ logicalClock) = true then ("DENY", "USE_DENIED_EXPIRED")
  else if scopeId ∉ m.scopeIds then ("DENY", "USE_DENIED_SCOPE")
  else if reuseClassRank m.maximumReuseClass < reuseClassRank requiredReuseClass then
    ("DENY", "USE_DENIED_REUSE_CLASS")
  else ("ALLOW", "USE_ALLOWED")

/-- The decision before it is digested. -/
def useValue (m : AlternativeModel D) (logicalClock : Nat) (scopeId requiredReuseClass : String) :
    UseAuthorityValue where
  modelId := m.modelId
  logicalClock := logicalClock
  scopeId := scopeId
  requiredReuseClass := requiredReuseClass
  maximumReuseClass := m.maximumReuseClass
  separationStatus := m.separationStatus.value
  expiresAtSequence := m.expiresAtSequence
  decision := (useDecision m logicalClock scopeId requiredReuseClass).1
  reasonCode := (useDecision m logicalClock scopeId requiredReuseClass).2

variable [DecidableEq D] [Sha256 D]

def evaluateAlternativeModelUseAuthority (m : AlternativeModel D) (logicalClock : Nat)
    (scopeId requiredReuseClass : String) : Except String (UseAuthorityDecision D) := do
  check (1 ≤ logicalClock) "USE_AUTHORITY_LOGICAL_CLOCK_INVALID"
  check (scopeId ≠ "") "USE_AUTHORITY_SCOPE_ID_INVALID"
  check (requiredReuseClass ∈ reuseClasses) "USE_AUTHORITY_REQUIRED_REUSE_CLASS_INVALID"
  let value := useValue m logicalClock scopeId requiredReuseClass
  let decision : UseAuthorityDecision D := { value with decisionDigest := value.digest }
  decision.postInit
  .ok decision

/-- The gate allows the use. -/
def Allows (m : AlternativeModel D) (logicalClock : Nat) (scopeId requiredReuseClass : String) :
    Prop :=
  ∃ decision, evaluateAlternativeModelUseAuthority m logicalClock scopeId requiredReuseClass =
    .ok decision ∧ decision.decision = "ALLOW"

omit [DecidableEq D] [Sha256 D] in
theorem unexpired_iff {m : AlternativeModel D} :
    (∀ expires ∈ m.expiresAtSequence, logicalClock < expires) ↔
      ¬ m.expiresAtSequence.any (· ≤ logicalClock) = true := by
  cases m.expiresAtSequence <;> simp

omit [DecidableEq D] [Sha256 D] in
theorem usable_iff {m : AlternativeModel D} : m.standing.usable = true ↔
    m.activeChallenges = [] ∧
      (m.separationStatus = .admitted ∨ m.separationStatus = .confirmed) := by
  rw [AlternativeModel.standing]
  split
  · case isTrue quiet =>
      cases status : m.separationStatus <;> simp [Standing.usable, quiet]
  · case isFalse disputed => simp [Standing.usable, disputed]

omit [DecidableEq D] [Sha256 D] in
theorem live_of_usable {m : AlternativeModel D} (usable : m.standing.usable = true) :
    m.terminal = false ∧ m.standing ≠ .separation .unverified := by
  obtain ⟨quiet, standing⟩ := usable_iff.mp usable
  constructor
  · rcases standing with status | status <;> simp [AlternativeModel.terminal, status,
      SeparationStatus.terminal]
  · intro unverified
    rw [unverified] at usable
    cases usable

omit [DecidableEq D] [Sha256 D] in
/-- The gate looks at standing, expiry, scope and reuse class. -/
theorem useDecision_allows {m : AlternativeModel D} :
    (useDecision m logicalClock scopeId requiredReuseClass).1 = "ALLOW" ↔
      m.standing.usable = true ∧ (∀ expires ∈ m.expiresAtSequence, logicalClock < expires) ∧
        scopeId ∈ m.scopeIds ∧
        reuseClassRank requiredReuseClass ≤ reuseClassRank m.maximumReuseClass := by
  rw [unexpired_iff, ← not_lt]
  by_cases usable : m.standing.usable = true
  · obtain ⟨live, verified⟩ := live_of_usable usable
    rw [useDecision, if_neg verified, if_neg (by simp [live]), if_neg (by simp [usable])]
    by_cases expired : m.expiresAtSequence.any (· ≤ logicalClock) = true
    · simp [expired]
    by_cases within : scopeId ∈ m.scopeIds
    · by_cases exceeds : reuseClassRank m.maximumReuseClass < reuseClassRank requiredReuseClass <;>
        simp [usable, expired, within, exceeds]
    · simp [expired, within]
  · have denied : (useDecision m logicalClock scopeId requiredReuseClass).1 = "DENY" := by
      rw [useDecision]
      split
      · rfl
      split
      · rfl
      rw [if_pos (Bool.not_eq_true _ ▸ usable)]
    simp [denied, usable]

variable [DigestText D] {events : List (RegistryEvent D)} {m : AlternativeModel D}

/-- What every model knows of itself. -/
structure WellFormed (m : AlternativeModel D) : Prop where
  named : isToken m.modelId = true
  scopes : SortedTokens m.scopeIds
  positive : 1 ≤ m.validFromSequence
  expiry : ∀ expires ∈ m.expiresAtSequence, m.validFromSequence < expires
  reuse : m.maximumReuseClass ∈ reuseClasses

omit [Sha256 D] in
theorem wellFormed (valid : m.postInit = .ok ()) : WellFormed m := by
  simp only [AlternativeModel.postInit, except_bind_ok, check_ok] at valid
  obtain ⟨-, named, -, -, -, -, -, -, -, -, -, -, sorted, scopes, -, -, -, -, -, -, -, -, -, -, -, -,
    -, positive, checked, expiry, -, -, -, -, -, -, -, reuse, -⟩ := valid
  refine ⟨named, requireSortedTokens_ok scopes, positive, ?_, reuse⟩
  intro expires declared
  rw [AlternativeModel.checkExpiry, Option.mem_def.mp declared] at expiry
  exact check_ok.mp expiry

/-- Everything that the use of a model calls for. -/
structure Justified (events : List (RegistryEvent D)) (m : AlternativeModel D) (logicalClock : Nat)
    (scopeId requiredReuseClass : String) : Prop where
  confirmed : Followed (Operates "ADMIT") (Operates "CONFIRM") events
  upheld : ∀ front opening back challengeId, events = front ++ opening :: back →
    Opens opening challengeId → ∃ later ∈ back, Upholds later challengeId
  live : m.terminal = false
  started : m.validFromSequence ≤ logicalClock
  unexpired : ∀ expires ∈ m.expiresAtSequence, logicalClock < expires
  scope : scopeId ∈ m.scopeIds
  reuse : reuseClassRank requiredReuseClass ≤ reuseClassRank m.maximumReuseClass

/-- A confirmed and unchallenged model, asked for within its scope and reuse class at a clock
before its validity starts. -/
structure Early (m : AlternativeModel D) (logicalClock : Nat) (scopeId requiredReuseClass : String) :
    Prop where
  clock : 1 ≤ logicalClock
  confirmed : m.separationStatus = .confirmed
  unchallenged : m.activeChallenges = []
  scope : scopeId ∈ m.scopeIds
  known : requiredReuseClass ∈ reuseClasses
  reuse : reuseClassRank requiredReuseClass ≤ reuseClassRank m.maximumReuseClass
  early : logicalClock < m.validFromSequence

/-- A decision on a model of the lifecycle passes its own checks. -/
theorem decided (valid : m.postInit = .ok ()) (clock : 1 ≤ logicalClock)
    (scope : scopeId ∈ m.scopeIds) (known : requiredReuseClass ∈ reuseClasses) :
    ∃ decision, evaluateAlternativeModelUseAuthority m logicalClock scopeId requiredReuseClass =
        .ok decision ∧
      decision.decision = (useDecision m logicalClock scopeId requiredReuseClass).1 := by
  have form := wellFormed valid
  have token : isToken scopeId = true := form.scopes.2 scopeId scope
  have named : scopeId ≠ "" := by
    rintro rfl
    exact absurd token (by decide)
  have status : m.separationStatus.value ≠ "" := by
    cases m.separationStatus <;> decide
  have decides : (useDecision m logicalClock scopeId requiredReuseClass).1 = "ALLOW" ∨
      (useDecision m logicalClock scopeId requiredReuseClass).1 = "DENY" := by
    simp only [useDecision]
    split_ifs <;> simp
  have reasoned : isToken (useDecision m logicalClock scopeId requiredReuseClass).2 = true := by
    simp only [useDecision]
    split_ifs <;> decide
  have expires : ∀ expires ∈ m.expiresAtSequence, 1 ≤ expires :=
    fun expires declared => form.positive.trans (form.expiry expires declared).le
  let value := useValue m logicalClock scopeId requiredReuseClass
  refine ⟨{ value with decisionDigest := value.digest }, ?_, rfl⟩
  simp only [evaluateAlternativeModelUseAuthority, except_bind_ok, check_ok, Except.ok.injEq]
  refine ⟨(), clock, (), named, (), known, (), ?_, rfl⟩
  simp only [UseAuthorityDecision.postInit, except_bind_ok, check_ok]
  exact ⟨(), form.named, (), clock, (), token, (), known, (), form.reuse, (), status, (), expires,
    (), decides, (), reasoned, trivial⟩

theorem Early.allowed (early : Early m logicalClock scopeId requiredReuseClass)
    (valid : m.postInit = .ok ()) : Allows m logicalClock scopeId requiredReuseClass := by
  obtain ⟨decision, evaluated, decides⟩ := decided valid early.clock early.scope early.known
  refine ⟨decision, evaluated, decides.trans (useDecision_allows.mpr ?_)⟩
  refine ⟨usable_iff.mpr ⟨early.unchallenged, .inr early.confirmed⟩, ?_, early.scope, early.reuse⟩
  intro expires declared
  exact early.early.trans ((wellFormed valid).expiry expires declared)

omit [DigestText D] in
/-- What the gate checks, and no more. -/
theorem Allows.checked (allows : Allows m logicalClock scopeId requiredReuseClass) :
    1 ≤ logicalClock ∧ requiredReuseClass ∈ reuseClasses ∧ m.standing.usable = true ∧
      (∀ expires ∈ m.expiresAtSequence, logicalClock < expires) ∧ scopeId ∈ m.scopeIds ∧
      reuseClassRank requiredReuseClass ≤ reuseClassRank m.maximumReuseClass := by
  obtain ⟨decision, evaluated, allowed⟩ := allows
  simp only [evaluateAlternativeModelUseAuthority, except_bind_ok, check_ok, Except.ok.injEq]
    at evaluated
  obtain ⟨-, clock, -, -, -, known, -, -, rfl⟩ := evaluated
  exact ⟨clock, known, useDecision_allows.mp allowed⟩

omit [Sha256 D] in
theorem Told.confirmed_of_usable (told : Told events m) (usable : m.standing.usable = true) :
    m.activeChallenges = [] ∧ m.separationStatus = .confirmed := by
  obtain ⟨quiet, standing⟩ := usable_iff.mp usable
  exact ⟨quiet, standing.resolve_left told.reachable⟩

/-- The use of a model is justified by its history whenever the gate allows it, unless the model
is asked for before its validity starts: the gate does not look at that bound. -/
theorem use_justified_iff (accepted : projectAlternativeModelHistory events = .ok (some m)) :
    (Allows m logicalClock scopeId requiredReuseClass →
      Justified events m logicalClock scopeId requiredReuseClass) ↔
    ¬ Early m logicalClock scopeId requiredReuseClass := by
  have told := project_told accepted
  constructor
  · intro justified early
    exact Nat.not_le.mpr early.early (justified (early.allowed told.valid)).started
  · intro timely allows
    obtain ⟨clock, known, usable, unexpired, scope, reuse⟩ := allows.checked
    obtain ⟨quiet, confirmed⟩ := told.confirmed_of_usable usable
    have live := (live_of_usable usable).1
    have started : m.validFromSequence ≤ logicalClock := by
      by_contra early
      exact timely ⟨clock, confirmed, quiet, scope, known, reuse, Nat.not_le.mp early⟩
    refine ⟨told.confirmed confirmed, ?_, live, started, unexpired, scope, reuse⟩
    intro front opening back challengeId split opens
    refine (told.challenges live front opening back challengeId split opens).resolve_left ?_
    simp [AlternativeModel.activeChallengeIds, quiet]

/-! A history of a model that is confirmed before its validity starts. -/
section Sample

def sampleEvent (place : Nat) (previous : Option (List Nat)) (payload : JsonObject) :
    RegistryEvent (List Nat) where
  registryType := .alternativeModel
  entityId := "m"
  entitySequence := place + 1
  previousEntityEventDigest := previous
  clockSequence := place + 1
  projectionPhase := .alternativeModelRegistry
  sourceReceiptDigest := "sha256:receipt"
  payloadSchemaVersion := payloadSchemaVersion
  payload := payload
  token := by decide
  positive := Nat.succ_pos place
  clock := Nat.succ_pos place
  sourced := by decide
  version := by decide

def samplePayloads : List JsonObject :=
  [[("assumption_ids", .arr []), ("challenge_basis_code", .str "basis"),
      ("declared_difference_digest", .str "sha256:difference"), ("evidence_ids", .arr []),
      ("expires_at_sequence", .null), ("graph_digest", .str "sha256:graph"),
      ("limitations", .arr []), ("materiality", .str "MATERIAL"),
      ("maximum_reuse_class", .str "D1"), ("model_version", .str "1"),
      ("operation", .str "PROPOSE"), ("primary_model_id", .str "primary"),
      ("proposer_authority_id", .str "proposer"), ("scope_ids", .arr [.str "scope"]),
      ("valid_from_sequence", .int 100)],
    [("admitting_authority_id", .str "admitting"), ("operation", .str "ADMIT")],
    [("confirming_authority_id", .str "confirming"), ("operation", .str "CONFIRM")]]

/-- Events with these payloads, each citing the one before. -/
def sampleChain : List JsonObject → Nat → Option (List Nat) → List (RegistryEvent (List Nat))
  | [], _, _ => []
  | payload :: payloads, place, previous =>
      let event := sampleEvent place previous payload
      event :: sampleChain payloads (place + 1) (some event.digest)

def sampleHistory : List (RegistryEvent (List Nat)) := sampleChain samplePayloads 0 none

set_option maxRecDepth 100000 in
theorem sampleModel : ∃ m, projectAlternativeModelHistory sampleHistory = .ok (some m) ∧
    m.validFromSequence = 100 ∧ m.separationStatus = .confirmed ∧ m.activeChallenges = [] ∧
    m.scopeIds = ["scope"] ∧ m.maximumReuseClass = "D1" := by
  have summary : (projectAlternativeModelHistory sampleHistory).toOption.join.map (fun m =>
      decide (m.validFromSequence = 100 ∧ m.separationStatus = .confirmed ∧
        m.activeChallenges = [] ∧ m.scopeIds = ["scope"] ∧ m.maximumReuseClass = "D1")) =
      some true := by decide +kernel
  obtain ⟨m, projected, passes⟩ := Results.ok_some_of_join summary
  exact ⟨m, projected, of_decide_eq_true passes⟩

theorem sampleEarly : ∃ m, projectAlternativeModelHistory sampleHistory = .ok (some m) ∧
    Early m 3 "scope" "D1" := by
  obtain ⟨m, accepted, started, confirmed, quiet, scopes, reuse⟩ := sampleModel
  refine ⟨m, accepted, by decide, confirmed, quiet, ?_, by decide, ?_, ?_⟩
  · rw [scopes]
    exact List.mem_singleton_self _
  · rw [reuse]
  · omega

/-- The gate allows the model at clock 3, and its validity starts at clock 100. -/
theorem use_before_validity : ∃ m, projectAlternativeModelHistory sampleHistory = .ok (some m) ∧
    Allows m 3 "scope" "D1" ∧ ¬ m.validFromSequence ≤ 3 ∧
    ¬ Justified sampleHistory m 3 "scope" "D1" := by
  obtain ⟨m, accepted, early⟩ := sampleEarly
  have late : ¬ m.validFromSequence ≤ 3 := Nat.not_le.mpr early.early
  exact ⟨m, accepted, early.allowed (project_told accepted).valid, late,
    fun justified => late justified.started⟩

theorem use_justified_sample : ∃ m, projectAlternativeModelHistory sampleHistory = .ok (some m) ∧
    ((Allows m 200 "scope" "D1" → Justified sampleHistory m 200 "scope" "D1") ↔
      ¬ Early m 200 "scope" "D1") := by
  obtain ⟨m, accepted, -⟩ := sampleModel
  exact ⟨m, accepted, use_justified_iff accepted⟩

end Sample
end CsdFoundry.AlternativeModels
