import CsdFoundry.Admission.Receipts

/-! What the admission store always satisfies: files only grow, they are what their paths say,
and every accepted receipt has its evidence beside it. -/
namespace CsdFoundry.Admission
open Storage
open Storage.Discipline (After)
variable {D : Type} [DigestText D] [Sha256 D]

/-- A call of `admit`, with the engine that serves it. -/
structure AdmitCall (D : Type) [DigestText D] [Sha256 D] where
  engine : EventAdmissionEngine D
  rawEvent : Submission D .rawEvent
  signatureSet : Submission D .signatureSet
  validationPolicy : Submission D .validationPolicy
  tick : Int

def AdmitCall.run (call : AdmitCall D) : AdmissionM D (AdmissionOutcome D) :=
  admitEvent call.engine call.rawEvent call.signatureSet call.validationPolicy call.tick

/-- The evidence that an accepting call evaluated. -/
structure Evidence (D : Type) [DigestText D] [Sha256 D] where
  rawEvent : ContractObject D .rawEvent
  signatureSet : ContractObject D .signatureSet
  validationPolicy : ContractObject D .validationPolicy
  context : CommittedValidationContext D

/-- The call passes every check on this evidence. -/
structure AdmitCall.AcceptsOn (call : AdmitCall D) (evidence : Evidence D) : Prop where
  raw : coerceContract call.rawEvent = .ok evidence.rawEvent
  signatures : coerceContract call.signatureSet = .ok evidence.signatureSet
  policy : coerceContract call.validationPolicy = .ok evidence.validationPolicy
  admissible : ∃ registered, call.engine.Admissible call.tick evidence.rawEvent
    evidence.signatureSet evidence.validationPolicy evidence.context registered

/-- The members of the receipt on the evidence. -/
def Evidence.cited (evidence : Evidence D) (tick : Int) : Dict :=
  acceptedMembers evidence.rawEvent.digest evidence.validationPolicy.digest
    evidence.signatureSet.digest tick

namespace EventAdmissionStore
variable {s t : EventAdmissionStore D}

/-- The contract is stored. -/
def Holds (s : EventAdmissionStore D) {kind : ContractName} (contract : ContractObject D kind) :
    Prop :=
  ∃ payload, contract.canonicalBytes = .ok payload ∧
    s.contracts (kind, contract.digest) = some payload

structure Backed (s : EventAdmissionStore D) (evidence : Evidence D) : Prop where
  raw : s.Holds evidence.rawEvent
  signatures : s.Holds evidence.signatureSet
  policy : s.Holds evidence.validationPolicy
  context : s.contexts evidence.context.tick = some evidence.context

/-- The receipt in a file is the one that an issued call has built on evidence that is stored. -/
def Receipted (s : EventAdmissionStore D) (issued : AdmitCall D → Prop) (digest : String)
    (payload : JsonObject) : Prop :=
  ∃ call : AdmitCall D, ∃ evidence : Evidence D, ∃ receipt : ContractObject D .validatedEvent,
    issued call ∧ call.AcceptsOn evidence ∧
    ContractObject.build .validatedEvent (evidence.cited call.tick) = .ok receipt ∧
    receipt.canonicalBytes = .ok payload ∧ receipt.digest = digest ∧ s.Backed evidence

/-- An issued call has resolved the context. -/
def Resolved (issued : AdmitCall D → Prop) (context : CommittedValidationContext D) : Prop :=
  ∃ call, issued call ∧ (call.engine.resolve call.tick).2 = some context

/-- `issued` are the calls that may have run. -/
structure Valid (issued : AdmitCall D → Prop) (s : EventAdmissionStore D) : Prop where
  contracts : ∀ kind digest payload, s.contracts (kind, digest) = some payload →
    ∃ contract : ContractObject D kind, contract.canonicalBytes = .ok payload ∧
      contract.digest = digest
  contexts : ∀ tick context, s.contexts tick = some context →
    context.tick = tick ∧ Resolved issued context
  receipts : ∀ digest payload, s.contracts (.validatedEvent, digest) = some payload →
    s.Receipted issued digest payload

structure Grown (s t : EventAdmissionStore D) : Prop where
  contracts : Grows s.contracts t.contracts
  contexts : Grows s.contexts t.contexts

omit [Sha256 D] in
theorem Grown.refl (s : EventAdmissionStore D) : Grown s s := ⟨.refl _, .refl _⟩

omit [Sha256 D] in
theorem Grown.trans {u : EventAdmissionStore D} (first : Grown s t) (second : Grown t u) :
    Grown s u := ⟨first.contracts.trans second.contracts, first.contexts.trans second.contexts⟩

theorem Grown.holds (grown : Grown s t) {kind : ContractName} {contract : ContractObject D kind}
    (holds : s.Holds contract) : t.Holds contract := by
  obtain ⟨payload, bytes, stored⟩ := holds
  exact ⟨payload, bytes, grown.contracts _ _ stored⟩

theorem Grown.backed (grown : Grown s t) {evidence : Evidence D} (backed : s.Backed evidence) :
    t.Backed evidence :=
  ⟨grown.holds backed.raw, grown.holds backed.signatures, grown.holds backed.policy,
    grown.contexts _ _ backed.context⟩

theorem Grown.receipted (grown : Grown s t) {issued : AdmitCall D → Prop} {digest : String}
    {payload : JsonObject} (receipted : s.Receipted issued digest payload) :
    t.Receipted issued digest payload := by
  obtain ⟨call, evidence, receipt, ran, accepts, built, bytes, named, backed⟩ := receipted
  exact ⟨call, evidence, receipt, ran, accepts, built, bytes, named, grown.backed backed⟩

theorem initial_valid (issued : AdmitCall D → Prop) :
    (initial : EventAdmissionStore D).Valid issued where
  contracts := by rintro _ _ _ ⟨⟩
  contexts := by rintro _ _ ⟨⟩
  receipts := by rintro _ _ ⟨⟩

omit [Sha256 D] in
theorem grown_fileContract {key : ContractName × String} {payload : JsonObject}
    (fresh : s.contracts key = none) : Grown s (s.fileContract key payload) :=
  ⟨.update fresh payload, .refl _⟩

omit [Sha256 D] in
theorem grown_fileContext {context : CommittedValidationContext D}
    (fresh : s.contexts context.tick = none) : Grown s (s.fileContext context) :=
  ⟨.refl _, .update fresh context⟩

variable {issued : AdmitCall D → Prop}

/-- A new contract file: an accepted receipt comes after its evidence. -/
theorem Valid.fileContract (valid : s.Valid issued) {kind : ContractName}
    {contract : ContractObject D kind} {payload : JsonObject}
    (bytes : contract.canonicalBytes = .ok payload)
    (fresh : s.contracts (kind, contract.digest) = none)
    (founded : kind = .validatedEvent → s.Receipted issued contract.digest payload) :
    (s.fileContract (kind, contract.digest) payload).Valid issued := by
  have grown : Grown s (s.fileContract (kind, contract.digest) payload) := grown_fileContract fresh
  refine ⟨?_, valid.contexts, ?_⟩
  · intro kind' digest' payload' stored
    by_cases same : (kind', digest') = (kind, contract.digest)
    · obtain ⟨rfl, rfl⟩ := Prod.mk.inj same
      simp only [EventAdmissionStore.fileContract, Function.update_self] at stored
      obtain rfl := Option.some.inj stored
      exact ⟨contract, bytes, rfl⟩
    · simp only [EventAdmissionStore.fileContract, Function.update_of_ne same] at stored
      exact valid.contracts kind' digest' payload' stored
  · intro digest' payload' stored
    by_cases same : (ContractName.validatedEvent, digest') = (kind, contract.digest)
    · simp only [EventAdmissionStore.fileContract, same, Function.update_self] at stored
      obtain rfl := Option.some.inj stored
      obtain ⟨kinds, rfl⟩ := Prod.mk.inj same
      exact grown.receipted (founded kinds.symm)
    · simp only [EventAdmissionStore.fileContract, Function.update_of_ne same] at stored
      exact grown.receipted (valid.receipts digest' payload' stored)

theorem Valid.fileContext (valid : s.Valid issued) {context : CommittedValidationContext D}
    (resolved : Resolved issued context) (fresh : s.contexts context.tick = none) : (s.fileContext context).Valid issued := by
  have grown : Grown s (s.fileContext context) := grown_fileContext fresh
  refine ⟨valid.contracts, ?_, ?_⟩
  · intro tick found stored
    by_cases same : tick = context.tick
    · subst same
      simp only [EventAdmissionStore.fileContext, Function.update_self] at stored
      obtain rfl := Option.some.inj stored
      exact ⟨rfl, resolved⟩
    · simp only [EventAdmissionStore.fileContext, Function.update_of_ne same] at stored
      exact valid.contexts tick found stored
  · exact fun digest payload stored => grown.receipted (valid.receipts digest payload stored)

end EventAdmissionStore
open EventAdmissionStore

/-- Files are never replaced, and there is no lock. -/
def discipline (issued : AdmitCall D → Prop) : Discipline (EventAdmissionStore D) where
  inv := Valid issued
  free := Grown
  act := Grown
  free_refl := Grown.refl
  free_trans := Grown.trans
  act_of_free := id

section Programs
variable {issued : AdmitCall D → Prop} {locked : Bool} {s : EventAdmissionStore D}

theorem env_grown {t : EventAdmissionStore D} (moves : (discipline issued).env locked s t) :
    Grown s t := by
  cases locked with
  | true => exact moves
  | false =>
      induction moves with
      | refl => exact .refl _
      | tail _ step ih => exact ih.trans step

theorem holds_atomicInstall {β : Type} [DecidableEq β] {find : EventAdmissionStore D → Option β}
    {put : EventAdmissionStore D → EventAdmissionStore D} {payload : β}
    {normal : Unit → EventAdmissionStore D → Prop} (valid : s.Valid issued)
    (placed : ∀ t, find (put t) = some payload)
    (kept : ∀ t u, Grown t u → find t = some payload → find u = some payload)
    (fresh : ∀ t, Grown s t → t.Valid issued → find t = none →
      Grown t (put t) ∧ (put t).Valid issued)
    (met : ∀ u, Grown s u → u.Valid issued → find u = some payload → normal () u) :
    (discipline issued).Holds locked (atomicInstall find put payload) (After locked normal) s := by
  refine .bind valid (.read ?_)
  rintro _ t u before (invT : t.Valid issued) ⟨⟩ later (invU : u.Valid issued)
  have moved := (env_grown before).trans (env_grown later)
  cases seen : find t with
  | some stored =>
      refine .require fun v same after invV => ?_
      subst same
      exact met v (moved.trans (env_grown after)) invV
        (kept t v ((env_grown later).trans (env_grown after)) seen)
  | none =>
      refine .install placed (fun v w moves => kept v w (env_grown moves)) ?_ ?_
      · exact fun v after invV absent => fresh v (moved.trans (env_grown after)) invV absent
      · exact fun v after invV found => met v (moved.trans (env_grown after)) invV found

theorem holds_lift {result : Except Raise α} {normal : α → EventAdmissionStore D → Prop}
    (met : ∀ a t, result = .ok a → Grown s t → t.Valid issued → normal a t) :
    (discipline issued).Holds locked (lift result) (After locked normal) s :=
  .result fun a t same moves inv => met a t same (env_grown moves) inv

theorem holds_putContract {kind : ContractName} {contract : ContractObject D kind}
    {normal : Unit → EventAdmissionStore D → Prop} (valid : s.Valid issued)
    (founded : kind = .validatedEvent → ∀ payload, contract.canonicalBytes = .ok payload →
      s.Receipted issued contract.digest payload)
    (met : ∀ u, Grown s u → u.Valid issued → u.Holds contract → normal () u) :
    (discipline issued).Holds locked (putContract contract) (After locked normal) s := by
  refine .bind valid (holds_lift fun path t located moved invT => ?_)
  refine .bind invT (holds_lift fun payload u bytes moved' invU => ?_)
  unfold contractPath at located
  split at located
  · obtain rfl := Except.ok.inj located
    have before := moved.trans moved'
    refine holds_atomicInstall invU ?_ ?_ ?_ ?_
    · intro v
      simp [fileContract]
    · exact fun v w grown found => grown.contracts _ _ found
    · intro v after invV absent
      refine ⟨grown_fileContract absent, invV.fileContract bytes absent fun same => ?_⟩
      exact (before.trans after).receipted (founded same payload bytes)
    · exact fun v after invV found => met v (before.trans after) invV ⟨payload, bytes, found⟩
  · cases located

theorem holds_putContext {context : CommittedValidationContext D}
    {normal : Unit → EventAdmissionStore D → Prop} (valid : s.Valid issued)
    (resolved : Resolved issued context)
    (met : ∀ u, Grown s u → u.Valid issued → u.contexts context.tick = some context → normal () u) :
    (discipline issued).Holds locked (putContext context) (After locked normal) s := by
  refine holds_atomicInstall valid ?_ ?_ ?_ met
  · intro t
    simp [fileContext]
  · exact fun t u grown found => grown.contexts _ _ found
  · exact fun t _ invT absent => ⟨grown_fileContext absent, invT.fileContext resolved absent⟩

theorem holds_putAvailable {kind : ContractName} {contract : Option (ContractObject D kind)}
    {normal : Unit → EventAdmissionStore D → Prop} (valid : s.Valid issued)
    (input : kind ≠ .validatedEvent)
    (met : ∀ u, Grown s u → u.Valid issued → (∀ c, contract = some c → u.Holds c) → normal () u) :
    (discipline issued).Holds locked (putAvailable contract) (After locked normal) s := by
  cases contract with
  | none => exact .pure fun u moves invU => met u (env_grown moves) invU (by rintro _ ⟨⟩)
  | some contract =>
      refine holds_putContract valid (fun same => absurd same input) fun u grown invU held => ?_
      refine met u grown invU ?_
      rintro _ ⟨⟩
      exact held

/-- What is at hand is stored. -/
structure Persisted (inputs : Inputs D) (s : EventAdmissionStore D) : Prop where
  raw : ∀ raw, inputs.rawEvent = some raw → s.Holds raw
  signatures : ∀ signatures, inputs.signatureSet = some signatures → s.Holds signatures
  policy : ∀ policy, inputs.validationPolicy = some policy → s.Holds policy
  context : ∀ context, inputs.context = some context → s.contexts context.tick = some context

theorem holds_persist {inputs : Inputs D} {normal : Unit → EventAdmissionStore D → Prop}
    (valid : s.Valid issued)
    (resolved : ∀ context, inputs.context = some context → Resolved issued context)
    (met : ∀ u, Grown s u → u.Valid issued → Persisted inputs u → normal () u) :
    (discipline issued).Holds locked (persistAvailableInputs inputs) (After locked normal) s := by
  refine .bind valid (holds_putAvailable valid (by decide) fun t grownT invT raw => ?_)
  refine .bind invT (holds_putAvailable invT (by decide) fun u grownU invU signatures => ?_)
  refine .bind invU (holds_putAvailable invU (by decide) fun v grownV invV policy => ?_)
  have all : ∀ w, Grown v w → w.Valid issued →
      (∀ context, inputs.context = some context → w.contexts context.tick = some context) →
      normal () w := by
    intro w grownW invW context
    refine met w (grownT.trans (grownU.trans (grownV.trans grownW))) invW ⟨?_, ?_, ?_, context⟩
    · exact fun c same => ((grownU.trans grownV).trans grownW).holds (raw c same)
    · exact fun c same => (grownV.trans grownW).holds (signatures c same)
    · exact fun c same => grownW.holds (policy c same)
  cases given : inputs.context with
  | none =>
      refine .pure fun w moves invW => all w (env_grown moves) invW ?_
      rw [given]
      rintro _ ⟨⟩
  | some context =>
      refine holds_putContext invV (resolved context given) fun w grownW invW stored =>
        all w grownW invW ?_
      rw [given]
      rintro _ ⟨⟩
      exact stored

end Programs
end CsdFoundry.Admission
