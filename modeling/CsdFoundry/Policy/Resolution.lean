import CsdFoundry.Keyed
import CsdFoundry.Policy.Ledger
import CsdFoundry.Policy.Overlap

/-! The policy that governs a sequence, and the selection of one of its grants. -/
namespace CsdFoundry.Policy
open Temporal (isToken)
variable {D : Type} [Sha256 D] [DigestText D] [DecidableEq D]

/-- The binding of the generation that governs a sequence. Its canonical bytes are equal exactly
when the records are. -/
@[ext] structure ResolvedPolicyAtSequence (D : Type) where
  eventSequence : Nat
  policyId : String
  policyDigest : D
  effectiveFromSequence : Nat
  signingPayloadDigest : D
  commitReceiptDigest : D
  ledgerEntryDigest : D
  ledgerRootDigest : D
  started : effectiveFromSequence ≤ eventSequence
  named : isToken policyId = true

instance {D : Type} [DecidableEq D] : DecidableEq (ResolvedPolicyAtSequence D) := fun _ _ =>
  decidable_of_iff _ ResolvedPolicyAtSequence.ext_iff.symm

def ResolvedPolicyAtSequence.fromEntry (entry : AssumptionPolicyLedgerEntryV3 D)
    (ledger : AssumptionPolicyLedgerV3 D) (eventSequence : Nat) :
    Except PolicyError (ResolvedPolicyAtSequence D) :=
  if started : entry.effectiveFromSequence ≤ eventSequence then
    .ok {
      eventSequence := eventSequence
      policyId := entry.policy.policyId
      policyDigest := entry.policy.policyDigest
      effectiveFromSequence := entry.effectiveFromSequence
      signingPayloadDigest := entry.signingPayload.signingPayloadDigest
      commitReceiptDigest := entry.commitReceiptDigest
      ledgerEntryDigest := entry.ledgerEntryDigest
      ledgerRootDigest := ledger.ledgerRootDigest
      started := started
      named := entry.policy.named }
  else .error (.activation "ASSUMPTION_POLICY_RESOLUTION_EVENT_BEFORE_EFFECTIVE")

/-- The latest entry of the ledger that is in effect: the reversed walk of the resolver. -/
def governingEntry (entries : List (AssumptionPolicyLedgerEntryV3 D)) (eventSequence : Nat) :
    Option (AssumptionPolicyLedgerEntryV3 D) :=
  entries.reverse.find? fun entry => entry.effectiveFromSequence ≤ eventSequence

def resolvePolicyAtV3 (ledger : AssumptionPolicyLedgerV3 D) (eventSequence : Nat) :
    Except PolicyError (ResolvedPolicyAtSequence D) :=
  if ledger.entries = [] then .error (.activation "ASSUMPTION_POLICY_NOT_ACTIVE")
  else
    match governingEntry ledger.entries eventSequence with
    | some entry => ResolvedPolicyAtSequence.fromEntry entry ledger eventSequence
    | none => .error (.activation "ASSUMPTION_POLICY_NOT_ACTIVE")

/-- The entry carries every binding of the resolution. -/
def bindsEntry (entry : AssumptionPolicyLedgerEntryV3 D) (resolved : ResolvedPolicyAtSequence D) :
    Bool :=
  entry.policy.policyId = resolved.policyId && entry.policy.policyDigest = resolved.policyDigest &&
    entry.effectiveFromSequence = resolved.effectiveFromSequence &&
    entry.signingPayload.signingPayloadDigest = resolved.signingPayloadDigest &&
    entry.commitReceiptDigest = resolved.commitReceiptDigest &&
    entry.ledgerEntryDigest = resolved.ledgerEntryDigest

/-- `_source_entry_for_resolution`. -/
def sourceEntryForResolution (ledger : AssumptionPolicyLedgerV3 D)
    (resolved : ResolvedPolicyAtSequence D) :
    Except PolicyError (AssumptionPolicyLedgerEntryV3 D) := do
  require (resolved.ledgerRootDigest = ledger.ledgerRootDigest)
    (.activation "ASSUMPTION_GRANT_SELECTION_LEDGER_ROOT_MISMATCH")
  let authoritative ← resolvePolicyAtV3 ledger resolved.eventSequence
  require (authoritative = resolved)
    (.activation "ASSUMPTION_GRANT_SELECTION_RESOLUTION_NOT_AUTHORITATIVE")
  match ledger.entries.filter fun entry => entry.ledgerEntryDigest = resolved.ledgerEntryDigest with
  | [] => throw (.activation "ASSUMPTION_GRANT_SELECTION_SOURCE_ENTRY_MISSING")
  | [entry] =>
      require (bindsEntry entry resolved = true)
        (.activation "ASSUMPTION_GRANT_SELECTION_SOURCE_BINDING_MISMATCH")
      return entry
  | _ :: _ :: _ => throw (.activation "ASSUMPTION_GRANT_SELECTION_SOURCE_ENTRY_AMBIGUOUS")

inductive DecisionType where
  | selected
  | noApplicableGrant
  | ambiguousGrants
  deriving DecidableEq

namespace DecisionType

def text : DecisionType → String
  | selected => "SELECTED"
  | noApplicableGrant => "NO_APPLICABLE_GRANT"
  | ambiguousGrants => "AMBIGUOUS_GRANTS"

/-- `DECISION_CODES`. -/
def code : DecisionType → String
  | selected => "ASSUMPTION_GRANT_SELECTED"
  | noApplicableGrant => "ASSUMPTION_POLICY_NO_APPLICABLE_GRANT"
  | ambiguousGrants => "ASSUMPTION_POLICY_AMBIGUOUS_GRANTS"

end DecisionType

/-- The decision mirrors the resolution it was taken under. -/
structure GrantSelectionDecision (D : Type) extends ResolvedPolicyAtSequence D where
  request : SelectionRequest
  decisionType : DecisionType
  selectedGrantId : Option String
  grantDigest : Option D
  deriving DecidableEq

/-- The challenge materiality that the action needs, or none. -/
def checkChallengeMateriality (request : SelectionRequest) : Except PolicyError Unit :=
  if request.action.resolution = true then
    require (request.challengeMateriality ≠ none)
      (.activation "ASSUMPTION_GRANT_SELECTION_CHALLENGE_MATERIALITY_REQUIRED")
  else
    require (request.challengeMateriality = none)
      (.activation "ASSUMPTION_GRANT_SELECTION_CHALLENGE_MATERIALITY_UNEXPECTED")

namespace GrantSelectionDecision

/-- `__post_init__`, less what the resolution and the types already say. -/
def postInit (decision : GrantSelectionDecision D) : Except PolicyError Unit := do
  if decision.decisionType = .selected then
    require (decision.selectedGrantId ≠ none ∧ decision.grantDigest ≠ none)
      (.activation "ASSUMPTION_GRANT_SELECTION_SELECTED_GRANT_MISSING")
    require (∀ grantId ∈ decision.selectedGrantId, isToken grantId = true)
      (.activation "ASSUMPTION_GRANT_SELECTION_SELECTED_GRANT_ID_INVALID")
  else
    require (decision.selectedGrantId = none ∧ decision.grantDigest = none)
      (.activation "ASSUMPTION_GRANT_SELECTION_DENIAL_GRANT_PRESENT")
  require (isToken decision.request.authorityId = true)
    (.activation "ASSUMPTION_GRANT_SELECTION_AUTHORITY_INVALID")
  require (isToken decision.request.scopeId = true)
    (.activation "ASSUMPTION_GRANT_SELECTION_SCOPE_INVALID")
  checkChallengeMateriality decision.request

def selectionDigest (decision : GrantSelectionDecision D) : D :=
  domainDigest "ASSUMPTION_GRANT_SELECTION_DECISION" (.obj
    [("action", .str decision.request.action.text),
      ("assumption_materiality", .str decision.request.assumptionMateriality.text),
      ("authority_id", .str decision.request.authorityId),
      ("challenge_materiality", match decision.request.challengeMateriality with
        | none => .null
        | some materiality => .str materiality.text),
      ("commit_receipt_digest", digestValue decision.commitReceiptDigest),
      ("decision_code", .str decision.decisionType.code),
      ("decision_type", .str decision.decisionType.text),
      ("effective_from_sequence", .int decision.effectiveFromSequence),
      ("event_sequence", .int decision.eventSequence),
      ("grant_digest", optionalDigestValue decision.grantDigest),
      ("ledger_entry_digest", digestValue decision.ledgerEntryDigest),
      ("ledger_root_digest", digestValue decision.ledgerRootDigest),
      ("policy_digest", digestValue decision.policyDigest),
      ("policy_id", .str decision.policyId),
      ("schema_version", .str "assumption-grant-selection-decision/1"),
      ("scope_id", .str decision.request.scopeId),
      ("selected_grant_id", match decision.selectedGrantId with
        | none => .null
        | some grantId => .str grantId),
      ("signing_payload_digest", digestValue decision.signingPayloadDigest)])

end GrantSelectionDecision

/-- `_build_decision`. -/
def buildDecision (resolved : ResolvedPolicyAtSequence D) (request : SelectionRequest)
    (decisionType : DecisionType) (grant : Option AssumptionAuthorityGrant) :
    Except PolicyError (GrantSelectionDecision D) := do
  let decision : GrantSelectionDecision D :=
    { resolved with
      request := request
      decisionType := decisionType
      selectedGrantId := grant.map (·.grantId)
      grantDigest := grant.map (·.grantDigest D) }
  decision.postInit
  return decision

def selectApplicableGrantV3 (ledger : AssumptionPolicyLedgerV3 D)
    (resolved : ResolvedPolicyAtSequence D) (request : SelectionRequest) :
    Except PolicyError (GrantSelectionDecision D) := do
  let source ← sourceEntryForResolution ledger resolved
  checkChallengeMateriality request
  require (isToken request.authorityId = true)
    (.activation "ASSUMPTION_GRANT_SELECTION_AUTHORITY_INVALID")
  require (isToken request.scopeId = true) (.activation "ASSUMPTION_GRANT_SELECTION_SCOPE_INVALID")
  match source.policy.grants.filter fun grant =>
      grantCoversRequest grant request resolved.eventSequence with
  | [] => buildDecision resolved request .noApplicableGrant none
  | [grant] => buildDecision resolved request .selected (some grant)
  | _ :: _ :: _ => buildDecision resolved request .ambiguousGrants none

/-! ### The selection -/

omit [Sha256 D] [DigestText D] [DecidableEq D] in
theorem checkChallengeMateriality_ok {request : SelectionRequest} :
    checkChallengeMateriality request = .ok () ↔
      request.challengeMateriality.isSome = request.action.resolution := by
  rw [checkChallengeMateriality]
  cases resolution : request.action.resolution with
  | true => rw [if_pos rfl, require_ok, Option.isSome_iff_ne_none]
  | false =>
      rw [if_neg Bool.false_ne_true, require_ok, Option.isSome_eq_false_iff,
        Option.isNone_iff_eq_none]

/-- The only grant of a list. -/
def soleGrant : List AssumptionAuthorityGrant → Option AssumptionAuthorityGrant
  | [grant] => some grant
  | _ => none

def decisionTypeOf : List AssumptionAuthorityGrant → DecisionType
  | [] => .noApplicableGrant
  | [_] => .selected
  | _ :: _ :: _ => .ambiguousGrants

/-- The grants of the policy that the selector finds to cover a request. -/
def AssumptionAuthorityPolicy.covering (policy : AssumptionAuthorityPolicy D)
    (request : SelectionRequest) (eventSequence : Nat) : List AssumptionAuthorityGrant :=
  policy.grants.filter fun grant => grantCoversRequest grant request eventSequence

/-- The decision that mirrors the grants which cover the request. -/
def selectionOf (resolved : ResolvedPolicyAtSequence D) (request : SelectionRequest)
    (covering : List AssumptionAuthorityGrant) : GrantSelectionDecision D :=
  { resolved with
    request := request
    decisionType := decisionTypeOf covering
    selectedGrantId := (soleGrant covering).map (·.grantId)
    grantDigest := (soleGrant covering).map (·.grantDigest D) }

omit [DigestText D] [DecidableEq D] in
theorem selectionOf_postInit {resolved : ResolvedPolicyAtSequence D} {request : SelectionRequest}
    {covering : List AssumptionAuthorityGrant} (wellFormed : request.WellFormed) :
    (selectionOf resolved request covering).postInit = .ok () := by
  have challenge := checkChallengeMateriality_ok.mpr wellFormed.challenge
  rw [GrantSelectionDecision.postInit]
  match covering with
  | [] => simp [selectionOf, decisionTypeOf, soleGrant, require_bind_ok, wellFormed.authority,
      wellFormed.scope, challenge]
  | [grant] => simp [selectionOf, decisionTypeOf, soleGrant, require_bind_ok, grant.named,
      wellFormed.authority, wellFormed.scope, challenge]
  | _ :: _ :: _ => simp [selectionOf, decisionTypeOf, soleGrant, require_bind_ok,
      wellFormed.authority, wellFormed.scope, challenge]

omit [DigestText D] [DecidableEq D] in
theorem buildDecision_ok {resolved : ResolvedPolicyAtSequence D} {request : SelectionRequest}
    {covering : List AssumptionAuthorityGrant} (wellFormed : request.WellFormed) :
    buildDecision resolved request (decisionTypeOf covering) (soleGrant covering) =
      .ok (selectionOf resolved request covering) := by
  rw [buildDecision, bind_ok]
  exact ⟨(), selectionOf_postInit wellFormed, rfl⟩

/-- The selector takes exactly the well-formed requests, and finds what covers them. -/
theorem selectApplicableGrantV3_ok {ledger : AssumptionPolicyLedgerV3 D}
    {resolved : ResolvedPolicyAtSequence D} {source : AssumptionPolicyLedgerEntryV3 D}
    {request : SelectionRequest} {decision : GrantSelectionDecision D}
    (sourced : sourceEntryForResolution ledger resolved = .ok source) :
    selectApplicableGrantV3 ledger resolved request = .ok decision ↔ request.WellFormed ∧
      decision = selectionOf resolved request
        (source.policy.covering request resolved.eventSequence) := by
  have build : request.WellFormed →
      (match source.policy.grants.filter fun grant =>
          grantCoversRequest grant request resolved.eventSequence with
        | [] => buildDecision resolved request .noApplicableGrant none
        | [grant] => buildDecision resolved request .selected (some grant)
        | _ :: _ :: _ => buildDecision resolved request .ambiguousGrants none) =
      .ok (selectionOf resolved request
        (source.policy.covering request resolved.eventSequence)) := by
    intro wellFormed
    rw [← buildDecision_ok wellFormed, AssumptionAuthorityPolicy.covering]
    match source.policy.grants.filter fun grant =>
        grantCoversRequest grant request resolved.eventSequence with
    | [] => rfl
    | [grant] => rfl
    | _ :: _ :: _ => rfl
  rw [selectApplicableGrantV3, sourced]
  constructor
  · intro selected
    obtain ⟨_, same, selected⟩ := bind_ok.mp selected
    cases same
    obtain ⟨_, challenge, selected⟩ := bind_ok.mp selected
    obtain ⟨authority, selected⟩ := require_bind_ok.mp selected
    obtain ⟨scope, selected⟩ := require_bind_ok.mp selected
    have wellFormed : request.WellFormed :=
      ⟨authority, scope, narrow_of_token scope, checkChallengeMateriality_ok.mp challenge⟩
    exact ⟨wellFormed, Except.ok.inj (selected.symm.trans (build wellFormed))⟩
  · rintro ⟨wellFormed, rfl⟩
    refine bind_ok.mpr ⟨source, rfl, bind_ok.mpr ⟨(), ?_, ?_⟩⟩
    · exact checkChallengeMateriality_ok.mpr wellFormed.challenge
    · rw [require_bind_ok, require_bind_ok]
      exact ⟨wellFormed.authority, wellFormed.scope, build wellFormed⟩

/-! ### One grant -/

/-- A predicate that one item of a list meets. -/
theorem filter_eq_singleton_iff {p : α → Bool} {items : List α} (distinct : items.Nodup) {item : α} :
    items.filter p = [item] ↔ (item ∈ items ∧ p item = true) ∧
      ∀ other, other ∈ items ∧ p other = true → other = item := by
  constructor
  · intro single
    have members : ∀ other, other ∈ items ∧ p other = true ↔ other = item := by
      intro other
      rw [← List.mem_filter, single, List.mem_singleton]
    exact ⟨(members item).mpr rfl, fun other => (members other).mp⟩
  · rintro ⟨met, unique⟩
    have once : (items.filter p).Perm [item] := by
      rw [List.perm_ext_iff_of_nodup (distinct.filter p) (List.nodup_singleton item)]
      intro other
      rw [List.mem_filter, List.mem_singleton]
      exact ⟨unique other, fun same => same ▸ met⟩
    exact List.perm_singleton.mp once

omit [Sha256 D] [DigestText D] [DecidableEq D] in
theorem covering_eq_singleton_iff {policy : AssumptionAuthorityPolicy D} {request : SelectionRequest}
    {eventSequence : Nat} {grant : AssumptionAuthorityGrant} :
    policy.covering request eventSequence = [grant] ↔
      (grant ∈ policy.grants ∧ grantCoversRequest grant request eventSequence = true) ∧
      ∀ other, other ∈ policy.grants ∧ grantCoversRequest other request eventSequence = true →
        other = grant := by
  have ids : (policy.grants.map (·.grantId)).Nodup := policy.grantsOrdered.imp ne_of_lt
  exact filter_eq_singleton_iff ids.of_map

theorem decisionTypeOf_eq_selected {covering : List AssumptionAuthorityGrant} :
    decisionTypeOf covering = .selected ↔ ∃ grant, covering = [grant] := by
  match covering with
  | [] => simp [decisionTypeOf]
  | [grant] => simp [decisionTypeOf]
  | _ :: _ :: _ => simp [decisionTypeOf]

omit [Sha256 D] [DigestText D] [DecidableEq D] in
theorem decisionTypeOf_covering {policy : AssumptionAuthorityPolicy D} {request : SelectionRequest}
    {eventSequence : Nat} :
    decisionTypeOf (policy.covering request eventSequence) = .selected ↔
      ∃! grant, grant ∈ policy.grants ∧ grantCoversRequest grant request eventSequence = true := by
  rw [decisionTypeOf_eq_selected]
  exact exists_congr fun _ => covering_eq_singleton_iff

/-! ### Half-open intervals -/

/-- In an ascending list the last item below a bound is the one whose successor is above it. -/
theorem find_reverse_ascending {f : α → Nat} {bound : Nat} {items : List α}
    (ascending : items.Pairwise fun a b => f a < f b) {item : α} :
    (items.reverse.find? fun other => f other ≤ bound) = some item ↔
      ∃ i, items[i]? = some item ∧ f item ≤ bound ∧
        ∀ next, items[i + 1]? = some next → bound < f next := by
  induction items with
  | nil => simp
  | cons first rest ih =>
      obtain ⟨below, later⟩ := List.pairwise_cons.mp ascending
      rw [List.reverse_cons, List.find?_append]
      cases found : rest.reverse.find? fun other => f other ≤ bound with
      | some last =>
          rw [Option.some_or, ← found, ih later]
          have member : last ∈ rest := List.mem_reverse.mp (List.mem_of_find?_eq_some found)
          have small : f last ≤ bound := by simpa using List.find?_some found
          constructor
          · rintro ⟨i, place, under, above⟩
            exact ⟨i + 1, place, under, above⟩
          · rintro ⟨i, place, under, above⟩
            cases i with
            | succ i => exact ⟨i, place, under, above⟩
            | zero =>
                exfalso
                cases rest with
                | nil => cases member
                | cons second more =>
                    have high := above second rfl
                    rcases List.mem_cons.mp member with rfl | farther
                    · omega
                    · have order := (List.pairwise_cons.mp later).1 last farther
                      omega
      | none =>
          rw [List.find?_eq_none] at found
          have high : ∀ other ∈ rest, bound < f other := by
            intro other member
            have above := found other (List.mem_reverse.mpr member)
            simpa using above
          rw [Option.none_or, List.find?_singleton]
          constructor
          · intro same
            split at same
            · rename_i under
              cases same
              refine ⟨0, rfl, of_decide_eq_true under, ?_⟩
              intro next place
              exact high next (List.mem_of_getElem? place)
            · cases same
          · rintro ⟨i, place, under, -⟩
            cases i with
            | zero =>
                cases place
                rw [if_pos (decide_eq_true under)]
            | succ i =>
                have above := high item (List.mem_of_getElem? place)
                omega

/-- In an ascending list the successor of an item is above the bound when every later item is. -/
theorem latest_iff_next {f : α → Nat} {bound : Nat} {items : List α}
    (ascending : items.Pairwise fun a b => f a < f b) {item : α} :
    (∃ i, items[i]? = some item ∧ f item ≤ bound ∧
        ∀ next, items[i + 1]? = some next → bound < f next) ↔
      item ∈ items ∧ f item ≤ bound ∧ ∀ other ∈ items, f other ≤ bound → f other ≤ f item := by
  rw [List.pairwise_iff_getElem] at ascending
  constructor
  · rintro ⟨i, place, under, above⟩
    refine ⟨List.mem_of_getElem? place, under, ?_⟩
    intro other member small
    obtain ⟨here, rfl⟩ := List.getElem?_eq_some_iff.mp place
    obtain ⟨j, there, rfl⟩ := List.getElem_of_mem member
    rcases Nat.lt_trichotomy j i with before | rfl | after
    · exact (ascending j i there here before).le
    · exact le_refl _
    · have next : i + 1 < items.length := by omega
      have high := above items[i + 1] (List.getElem?_eq_getElem next)
      rcases Nat.eq_or_lt_of_le (show i + 1 ≤ j from after) with rfl | farther
      · omega
      · have order := ascending (i + 1) j next there farther
        omega
  · rintro ⟨member, under, latest⟩
    obtain ⟨i, here, rfl⟩ := List.getElem_of_mem member
    refine ⟨i, List.getElem?_eq_getElem here, under, ?_⟩
    intro next place
    obtain ⟨there, rfl⟩ := List.getElem?_eq_some_iff.mp place
    have order := ascending i (i + 1) here there (by omega)
    by_contra low
    have early := latest items[i + 1] (List.getElem_mem there) (by omega)
    omega

/-! ### The generation that governs -/

/-- The entry at a position governs a sequence: the sequence lies in its half-open interval. -/
def GovernsAt (entries : List (AssumptionPolicyLedgerEntryV3 D)) (i : Nat)
    (entry : AssumptionPolicyLedgerEntryV3 D) (eventSequence : Nat) : Prop :=
  entries[i]? = some entry ∧ entry.effectiveFromSequence ≤ eventSequence ∧
    ∀ next, entries[i + 1]? = some next → eventSequence < next.effectiveFromSequence

namespace AssumptionPolicyLedgerV3
variable (ledger : AssumptionPolicyLedgerV3 D)

theorem governingEntry_iff {eventSequence : Nat} {entry : AssumptionPolicyLedgerEntryV3 D} :
    governingEntry ledger.entries eventSequence = some entry ↔
      ∃ i, GovernsAt ledger.entries i entry eventSequence :=
  find_reverse_ascending ledger.ascending

theorem governingEntry_latest {eventSequence : Nat} {entry : AssumptionPolicyLedgerEntryV3 D} :
    governingEntry ledger.entries eventSequence = some entry ↔
      entry ∈ ledger.entries ∧ entry.effectiveFromSequence ≤ eventSequence ∧
      ∀ other ∈ ledger.entries, other.effectiveFromSequence ≤ eventSequence →
        other.effectiveFromSequence ≤ entry.effectiveFromSequence := by
  rw [governingEntry_iff]
  exact latest_iff_next ledger.ascending

/-- No two entries share a digest. -/
theorem distinctDigests : (ledger.entries.map (·.ledgerEntryDigest)).Nodup := by
  have commits := List.pairwise_map.mp ledger.ordered.distinct
  apply List.pairwise_map.mpr
  apply commits.imp
  intro a b differ same
  exact differ (AssumptionPolicyLedgerEntryV3.commit_of_digest same)

end AssumptionPolicyLedgerV3

theorem fromEntry_ok {entry : AssumptionPolicyLedgerEntryV3 D} {ledger : AssumptionPolicyLedgerV3 D}
    {eventSequence : Nat} (started : entry.effectiveFromSequence ≤ eventSequence) :
    ∃ resolved, ResolvedPolicyAtSequence.fromEntry entry ledger eventSequence = .ok resolved := by
  rw [ResolvedPolicyAtSequence.fromEntry, dif_pos started]
  exact ⟨_, rfl⟩

/-- A resolution names the digest of its entry. -/
theorem fromEntry_digest {entry : AssumptionPolicyLedgerEntryV3 D}
    {ledger : AssumptionPolicyLedgerV3 D} {eventSequence : Nat} {resolved : ResolvedPolicyAtSequence D}
    (bound : ResolvedPolicyAtSequence.fromEntry entry ledger eventSequence = .ok resolved) :
    resolved.eventSequence = eventSequence ∧ bindsEntry entry resolved = true ∧
      resolved.ledgerRootDigest = ledger.ledgerRootDigest := by
  rw [ResolvedPolicyAtSequence.fromEntry] at bound
  split at bound
  · cases bound
    simp [bindsEntry]
  · cases bound

theorem bindsEntry_digest {entry : AssumptionPolicyLedgerEntryV3 D}
    {resolved : ResolvedPolicyAtSequence D} (binds : bindsEntry entry resolved = true) :
    entry.ledgerEntryDigest = resolved.ledgerEntryDigest := by
  simp only [bindsEntry, Bool.and_eq_true, decide_eq_true_eq] at binds
  exact binds.2

/-- The resolver binds the governing entry, and has no other answer. -/
theorem resolvePolicyAtV3_eq (ledger : AssumptionPolicyLedgerV3 D) (eventSequence : Nat) :
    resolvePolicyAtV3 ledger eventSequence =
      match governingEntry ledger.entries eventSequence with
      | some entry => ResolvedPolicyAtSequence.fromEntry entry ledger eventSequence
      | none => .error (.activation "ASSUMPTION_POLICY_NOT_ACTIVE") := by
  rw [resolvePolicyAtV3]
  split
  · rename_i none
    rw [none]
    rfl
  · rfl

theorem resolvePolicyAtV3_ok {ledger : AssumptionPolicyLedgerV3 D} {eventSequence : Nat}
    {resolved : ResolvedPolicyAtSequence D} :
    resolvePolicyAtV3 ledger eventSequence = .ok resolved ↔
      ∃ entry, governingEntry ledger.entries eventSequence = some entry ∧
        ResolvedPolicyAtSequence.fromEntry entry ledger eventSequence = .ok resolved := by
  rw [resolvePolicyAtV3_eq]
  cases governingEntry ledger.entries eventSequence with
  | none => simp
  | some entry => simp

/-- The source of a resolution is the entry that governs its sequence. -/
theorem sourceEntryForResolution_ok {ledger : AssumptionPolicyLedgerV3 D} {eventSequence : Nat}
    {resolved : ResolvedPolicyAtSequence D} {entry : AssumptionPolicyLedgerEntryV3 D}
    (governs : governingEntry ledger.entries eventSequence = some entry)
    (bound : ResolvedPolicyAtSequence.fromEntry entry ledger eventSequence = .ok resolved) :
    sourceEntryForResolution ledger resolved = .ok entry := by
  obtain ⟨asked, binds, root⟩ := fromEntry_digest bound
  have authoritative : resolvePolicyAtV3 ledger resolved.eventSequence = .ok resolved := by
    rw [asked]
    exact resolvePolicyAtV3_ok.mpr ⟨entry, governs, bound⟩
  have member := ((ledger.governingEntry_latest).mp governs).1
  have single := Keyed.filter_key ledger.distinctDigests member
  rw [bindsEntry_digest binds] at single
  rw [sourceEntryForResolution, require_bind_ok]
  refine ⟨root, bind_ok.mpr ⟨resolved, authoritative, require_bind_ok.mpr ⟨rfl, ?_⟩⟩⟩
  rw [single]
  exact require_bind_ok.mpr ⟨binds, rfl⟩

/-! ### Later generations -/

/-- The resolution, read from a ledger of another root. Every binding of the generation stays. -/
def ResolvedPolicyAtSequence.under (resolved : ResolvedPolicyAtSequence D) (root : D) :
    ResolvedPolicyAtSequence D :=
  { resolved with ledgerRootDigest := root }

def GrantSelectionDecision.under (decision : GrantSelectionDecision D) (root : D) :
    GrantSelectionDecision D :=
  { decision with ledgerRootDigest := root }

theorem fromEntry_under (entry : AssumptionPolicyLedgerEntryV3 D)
    (ledger later : AssumptionPolicyLedgerV3 D) (eventSequence : Nat) :
    ResolvedPolicyAtSequence.fromEntry entry later eventSequence =
      (ResolvedPolicyAtSequence.fromEntry entry ledger eventSequence).map
        (·.under later.ledgerRootDigest) := by
  rw [ResolvedPolicyAtSequence.fromEntry, ResolvedPolicyAtSequence.fromEntry]
  split
  · rfl
  · rfl

omit [DigestText D] [DecidableEq D] in
theorem buildDecision_under (resolved : ResolvedPolicyAtSequence D) (root : D)
    (request : SelectionRequest) (decisionType : DecisionType)
    (grant : Option AssumptionAuthorityGrant) :
    buildDecision (resolved.under root) request decisionType grant =
      (buildDecision resolved request decisionType grant).map (·.under root) := by
  rw [buildDecision, buildDecision]
  have unread : ∀ decision : GrantSelectionDecision D,
      (decision.under root).postInit = decision.postInit := fun _ => rfl
  have mirrored : ({ resolved.under root with
        request := request
        decisionType := decisionType
        selectedGrantId := grant.map (·.grantId)
        grantDigest := grant.map (·.grantDigest D) } : GrantSelectionDecision D) =
      GrantSelectionDecision.under
        { resolved with
          request := request
          decisionType := decisionType
          selectedGrantId := grant.map (·.grantId)
          grantDigest := grant.map (·.grantDigest D) } root := rfl
  simp only [mirrored, unread]
  cases GrantSelectionDecision.postInit _ with
  | error error => rfl
  | ok checked => rfl

/-- The selection reads the source entry and the sequence, so it only mirrors the root. -/
theorem selectApplicableGrantV3_under {ledger later : AssumptionPolicyLedgerV3 D}
    {resolved : ResolvedPolicyAtSequence D} {root : D}
    (same : sourceEntryForResolution later (resolved.under root) =
      sourceEntryForResolution ledger resolved) (request : SelectionRequest) :
    selectApplicableGrantV3 later (resolved.under root) request =
      (selectApplicableGrantV3 ledger resolved request).map (·.under root) := by
  rw [selectApplicableGrantV3, selectApplicableGrantV3, same]
  cases sourceEntryForResolution ledger resolved with
  | error error => rfl
  | ok source =>
      cases checkChallengeMateriality request with
      | error error => rfl
      | ok checked =>
          by_cases authority : isToken request.authorityId = true
          · by_cases scope : isToken request.scopeId = true
            · simp only [require, authority, scope]
              change (match source.policy.grants.filter _ with
                | [] => _
                | [grant] => _
                | _ :: _ :: _ => _) = Except.map _ (match source.policy.grants.filter _ with
                | [] => _
                | [grant] => _
                | _ :: _ :: _ => _)
              have covers : (resolved.under root).eventSequence = resolved.eventSequence := rfl
              rw [covers]
              split
              · exact buildDecision_under ..
              · exact buildDecision_under ..
              · exact buildDecision_under ..
            · simp only [require, authority, scope]
              rfl
          · simp only [require, authority]
            rfl

/-- Entries that take effect after a sequence do not change the entry that governs it. -/
theorem governingEntry_appended {ledger later : AssumptionPolicyLedgerV3 D}
    {more : List (AssumptionPolicyLedgerEntryV3 D)} {eventSequence : Nat}
    (appended : AssumptionPolicyLedgerV3.build (ledger.entries ++ more) = .ok later)
    (after : ∀ entry ∈ more, eventSequence < entry.effectiveFromSequence) :
    governingEntry later.entries eventSequence = governingEntry ledger.entries eventSequence := by
  have same : later.entries.Perm (ledger.entries ++ more) :=
    (orderPolicyEntriesV3_spec (AssumptionPolicyLedgerV3.build_ok.mp appended)).2
  have started : ∀ {entry}, entry.effectiveFromSequence ≤ eventSequence →
      (entry ∈ later.entries ↔ entry ∈ ledger.entries) := by
    intro entry early
    rw [same.mem_iff, List.mem_append]
    constructor
    · rintro (old | new)
      · exact old
      · have late := after entry new
        omega
    · exact .inl
  apply Option.ext
  intro entry
  rw [later.governingEntry_latest, ledger.governingEntry_latest]
  constructor
  · rintro ⟨member, early, latest⟩
    refine ⟨(started early).mp member, early, ?_⟩
    intro other among under
    exact latest other ((started under).mpr among) under
  · rintro ⟨member, early, latest⟩
    refine ⟨(started early).mpr member, early, ?_⟩
    intro other among under
    exact latest other ((started under).mp among) under

theorem resolvePolicyAtV3_appended {ledger later : AssumptionPolicyLedgerV3 D}
    {eventSequence : Nat}
    (same : governingEntry later.entries eventSequence =
      governingEntry ledger.entries eventSequence) :
    resolvePolicyAtV3 later eventSequence = (resolvePolicyAtV3 ledger eventSequence).map
      (·.under later.ledgerRootDigest) := by
  rw [resolvePolicyAtV3_eq, resolvePolicyAtV3_eq, same]
  cases governingEntry ledger.entries eventSequence with
  | none => rfl
  | some entry => exact fromEntry_under entry ledger later eventSequence

theorem sourceEntry_appended {ledger later : AssumptionPolicyLedgerV3 D} {eventSequence : Nat}
    {resolved : ResolvedPolicyAtSequence D}
    (same : governingEntry later.entries eventSequence =
      governingEntry ledger.entries eventSequence)
    (resolution : resolvePolicyAtV3 ledger eventSequence = .ok resolved) :
    sourceEntryForResolution later (resolved.under later.ledgerRootDigest) =
      sourceEntryForResolution ledger resolved := by
  obtain ⟨entry, governs, bound⟩ := resolvePolicyAtV3_ok.mp resolution
  rw [sourceEntryForResolution_ok governs bound]
  apply sourceEntryForResolution_ok (same.trans governs)
  rw [fromEntry_under entry ledger, bound]
  rfl

/-- Two positions cannot govern one sequence. -/
theorem GovernsAt.unique {ledger : AssumptionPolicyLedgerV3 D} {i j eventSequence : Nat}
    {a b : AssumptionPolicyLedgerEntryV3 D} (first : GovernsAt ledger.entries i a eventSequence)
    (second : GovernsAt ledger.entries j b eventSequence) : i = j ∧ a = b := by
  have same : a = b := Option.some.inj
    ((ledger.governingEntry_iff.mpr ⟨i, first⟩).symm.trans
      (ledger.governingEntry_iff.mpr ⟨j, second⟩))
  refine ⟨?_, same⟩
  subst same
  have ascending := ledger.ascending
  rw [List.pairwise_iff_getElem] at ascending
  obtain ⟨here, atHere⟩ := List.getElem?_eq_some_iff.mp first.1
  obtain ⟨there, atThere⟩ := List.getElem?_eq_some_iff.mp second.1
  rcases Nat.lt_trichotomy i j with before | equal | after
  · have order := ascending i j here there before
    rw [atHere, atThere] at order
    omega
  · exact equal
  · have order := ascending j i there here after
    rw [atHere, atThere] at order
    omega

/-- Before the first entry takes effect there is no governing entry. -/
theorem governingEntry_none (ledger : AssumptionPolicyLedgerV3 D) {eventSequence : Nat} :
    governingEntry ledger.entries eventSequence = none ↔
      ∀ first, ledger.entries.head? = some first → eventSequence < first.effectiveFromSequence := by
  rw [governingEntry, List.find?_eq_none]
  have ascending := ledger.ascending
  cases shape : ledger.entries with
  | nil => simp
  | cons first rest =>
      rw [shape, List.pairwise_cons] at ascending
      constructor
      · intro none other head
        cases head
        have above := none first (List.mem_reverse.mpr List.mem_cons_self)
        simpa using above
      · intro early entry member under
        have first_late := early first rfl
        have small := of_decide_eq_true under
        rcases List.mem_cons.mp (List.mem_reverse.mp member) with rfl | later
        · omega
        · have order := ascending.1 entry later
          omega

/-- Every resolution has a source, and it is the entry at the only position that governs. -/
theorem resolvePolicyAtV3_governs {ledger : AssumptionPolicyLedgerV3 D} {eventSequence : Nat}
    {resolved : ResolvedPolicyAtSequence D} :
    resolvePolicyAtV3 ledger eventSequence = .ok resolved ↔
      ∃ i entry, GovernsAt ledger.entries i entry eventSequence ∧
        ResolvedPolicyAtSequence.fromEntry entry ledger eventSequence = .ok resolved ∧
        sourceEntryForResolution ledger resolved = .ok entry := by
  rw [resolvePolicyAtV3_ok]
  constructor
  · rintro ⟨entry, governs, bound⟩
    obtain ⟨i, position⟩ := ledger.governingEntry_iff.mp governs
    exact ⟨i, entry, position, bound, sourceEntryForResolution_ok governs bound⟩
  · rintro ⟨i, entry, position, bound, -⟩
    exact ⟨entry, ledger.governingEntry_iff.mpr ⟨i, position⟩, bound⟩

theorem resolvePolicyAtV3_inactive {ledger : AssumptionPolicyLedgerV3 D} {eventSequence : Nat} :
    resolvePolicyAtV3 ledger eventSequence = .error (.activation "ASSUMPTION_POLICY_NOT_ACTIVE") ↔
      governingEntry ledger.entries eventSequence = none := by
  rw [resolvePolicyAtV3_eq]
  cases governed : governingEntry ledger.entries eventSequence with
  | none => simp
  | some entry =>
      obtain ⟨resolved, bound⟩ :=
        @fromEntry_ok _ _ _ _ entry ledger _ (ledger.governingEntry_latest.mp governed).2.1
      simp [bound]

/-- The resolver returns the entry whose half-open interval holds the sequence, and entries that
take effect later change neither the generation nor what is read from it. -/
theorem resolvePolicyAtV3_exact (ledger : AssumptionPolicyLedgerV3 D) (eventSequence : Nat) :
    (ledger.entries.Pairwise fun a b => a.effectiveFromSequence < b.effectiveFromSequence) ∧
    (∀ resolved, resolvePolicyAtV3 ledger eventSequence = .ok resolved ↔
      ∃ i entry, GovernsAt ledger.entries i entry eventSequence ∧
        ResolvedPolicyAtSequence.fromEntry entry ledger eventSequence = .ok resolved ∧
        sourceEntryForResolution ledger resolved = .ok entry) ∧
    (resolvePolicyAtV3 ledger eventSequence = .error (.activation "ASSUMPTION_POLICY_NOT_ACTIVE") ↔
      ∀ first, ledger.entries.head? = some first → eventSequence < first.effectiveFromSequence) ∧
    (∀ first, ledger.entries.head? = some first → first.effectiveFromSequence ≤ eventSequence →
      ∃! i, ∃ entry, GovernsAt ledger.entries i entry eventSequence) ∧
    ∀ more listed later, listed.Perm (ledger.entries ++ more) →
      AssumptionPolicyLedgerV3.build listed = .ok later →
      (∀ entry ∈ more, eventSequence < entry.effectiveFromSequence) →
      resolvePolicyAtV3 later eventSequence = (resolvePolicyAtV3 ledger eventSequence).map
        (·.under later.ledgerRootDigest) ∧
      ∀ resolved, resolvePolicyAtV3 ledger eventSequence = .ok resolved →
        sourceEntryForResolution later (resolved.under later.ledgerRootDigest) =
          sourceEntryForResolution ledger resolved ∧
        ∀ request, selectApplicableGrantV3 later (resolved.under later.ledgerRootDigest) request =
          (selectApplicableGrantV3 ledger resolved request).map
            (·.under later.ledgerRootDigest) := by
  refine ⟨ledger.ascending, fun _ => resolvePolicyAtV3_governs, ?_, ?_, ?_⟩
  · rw [resolvePolicyAtV3_inactive]
    exact governingEntry_none ledger
  · intro first head started
    cases governed : governingEntry ledger.entries eventSequence with
    | none =>
        have early := (governingEntry_none ledger).mp governed first head
        omega
    | some entry =>
        obtain ⟨i, position⟩ := ledger.governingEntry_iff.mp governed
        refine ⟨i, ⟨entry, position⟩, ?_⟩
        rintro j ⟨other, another⟩
        exact (another.unique position).1
  · intro more listed later same built after
    rw [AssumptionPolicyLedgerV3.build_perm same] at built
    have governs := governingEntry_appended built after
    refine ⟨resolvePolicyAtV3_appended governs, ?_⟩
    intro resolved resolution
    have source := sourceEntry_appended governs resolution
    exact ⟨source, selectApplicableGrantV3_under source⟩

end CsdFoundry.Policy
