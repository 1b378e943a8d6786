import CsdFoundry.Policy.Resolution

/-! Grant selection is exact: a grant is selected when it alone covers the request, and only under
the resolution that the ledger itself gives. -/
namespace CsdFoundry.Policy
open Temporal (isToken)
variable {D : Type} [Sha256 D] [DigestText D] [DecidableEq D]

/-- The grant allows the request at the sequence. -/
structure Covers (grant : AssumptionAuthorityGrant) (request : SelectionRequest)
    (eventSequence : Nat) : Prop where
  action : grant.action = request.action
  authority : grant.authorityId = request.authorityId
  scope : grant.scopeIds = [globalAssumptionScope] ∨ request.scopeId ∈ grant.scopeIds
  materiality : request.assumptionMateriality ∈ grant.assumptionMaterialities
  challenge : ∀ materiality ∈ request.challengeMateriality,
    materiality ∈ grant.challengeMaterialities
  unchallenged : request.challengeMateriality = none → grant.challengeMaterialities = []
  started : grant.effectiveFromSequence ≤ eventSequence
  unexpired : ∀ limit ∈ grant.effectiveUntilSequence, eventSequence < limit

theorem covers_iff {grant : AssumptionAuthorityGrant} {request : SelectionRequest}
    {eventSequence : Nat} :
    grantCoversRequest grant request eventSequence = true ↔ Covers grant request eventSequence := by
  rw [grantCoversRequest_iff]
  have scopes : scopeMatches request.scopeId grant.scopeIds = true ↔
      grant.scopeIds = [globalAssumptionScope] ∨ request.scopeId ∈ grant.scopeIds := by
    simp [scopeMatches]
  have challenges : challengeMatches request.challengeMateriality grant.challengeMaterialities =
      true ↔ (∀ materiality ∈ request.challengeMateriality,
        materiality ∈ grant.challengeMaterialities) ∧
        (request.challengeMateriality = none → grant.challengeMaterialities = []) := by
    cases request.challengeMateriality with
    | none => simp [challengeMatches]
    | some materiality => simp [challengeMatches]
  have limits : before eventSequence grant.effectiveUntilSequence = true ↔
      ∀ limit ∈ grant.effectiveUntilSequence, eventSequence < limit := by
    cases grant.effectiveUntilSequence with
    | none => simp [before]
    | some limit => simp [before]
  rw [scopes, challenges, limits]
  constructor
  · rintro ⟨action, authority, scope, materiality, ⟨challenge, unchallenged⟩, started, unexpired⟩
    exact ⟨action, authority, scope, materiality, challenge, unchallenged, started, unexpired⟩
  · rintro ⟨action, authority, scope, materiality, challenge, unchallenged, started, unexpired⟩
    exact ⟨action, authority, scope, materiality, ⟨challenge, unchallenged⟩, started, unexpired⟩

/-- A request for a token scope that some grant covers passes every check of the selector. -/
theorem Covers.wellFormed {grant : AssumptionAuthorityGrant} {request : SelectionRequest}
    {eventSequence : Nat} (covers : Covers grant request eventSequence)
    (scope : isToken request.scopeId = true) : request.WellFormed := by
  refine ⟨covers.authority ▸ grant.authority, scope, narrow_of_token scope, ?_⟩
  rw [← covers.action]
  cases asked : request.challengeMateriality with
  | none =>
      have resolving := grant.resolving
      rw [covers.unchallenged asked] at resolving
      cases resolution : grant.action.resolution with
      | false => rfl
      | true => exact absurd rfl (resolving.mpr resolution)
  | some materiality =>
      have member := covers.challenge materiality asked
      rw [grant.resolving.mp (List.ne_nil_of_mem member)]
      rfl

/-! ### The resolution -/

/-- A resolution that is accepted is the ledger's own. -/
theorem authoritative_of_source {ledger : AssumptionPolicyLedgerV3 D}
    {resolved : ResolvedPolicyAtSequence D} {source : AssumptionPolicyLedgerEntryV3 D}
    (sourced : sourceEntryForResolution ledger resolved = .ok source) :
    resolvePolicyAtV3 ledger resolved.eventSequence = .ok resolved := by
  rw [sourceEntryForResolution, require_bind_ok] at sourced
  obtain ⟨authoritative, resolution, checked⟩ := bind_ok.mp sourced.2
  rw [require_bind_ok] at checked
  rw [resolution, checked.1]

theorem authoritative_of_selection {ledger : AssumptionPolicyLedgerV3 D}
    {resolved : ResolvedPolicyAtSequence D} {request : SelectionRequest}
    {decision : GrantSelectionDecision D}
    (selected : selectApplicableGrantV3 ledger resolved request = .ok decision) :
    resolvePolicyAtV3 ledger resolved.eventSequence = .ok resolved := by
  rw [selectApplicableGrantV3] at selected
  obtain ⟨source, sourced, -⟩ := bind_ok.mp selected
  exact authoritative_of_source sourced

theorem refused_of_not_authoritative {ledger : AssumptionPolicyLedgerV3 D}
    {resolved : ResolvedPolicyAtSequence D} {request : SelectionRequest}
    (forged : resolvePolicyAtV3 ledger resolved.eventSequence ≠ .ok resolved) :
    ∃ error, selectApplicableGrantV3 ledger resolved request = .error error := by
  cases selected : selectApplicableGrantV3 ledger resolved request with
  | error error => exact ⟨error, rfl⟩
  | ok decision => exact absurd (authoritative_of_selection selected) forged

/-- A resolution names one generation. -/
theorem not_authoritative_of_superseded {ledger : AssumptionPolicyLedgerV3 D}
    {resolved : ResolvedPolicyAtSequence D} {entry : AssumptionPolicyLedgerEntryV3 D}
    (member : entry ∈ ledger.entries)
    (bound : ResolvedPolicyAtSequence.fromEntry entry ledger resolved.eventSequence = .ok resolved)
    (superseded : governingEntry ledger.entries resolved.eventSequence ≠ some entry) :
    resolvePolicyAtV3 ledger resolved.eventSequence ≠ .ok resolved := by
  intro resolution
  obtain ⟨other, governs, other_bound⟩ := resolvePolicyAtV3_ok.mp resolution
  have among := (ledger.governingEntry_latest.mp governs).1
  have same : entry.ledgerEntryDigest = other.ledgerEntryDigest :=
    (bindsEntry_digest (fromEntry_digest bound).2.1).trans
      (bindsEntry_digest (fromEntry_digest other_bound).2.1).symm
  rw [List.inj_on_of_nodup_map ledger.distinctDigests member among same] at superseded
  exact superseded governs

/-! ### The selection -/

omit [Sha256 D] [DigestText D] [DecidableEq D] in
theorem sole_iff {policy : AssumptionAuthorityPolicy D} {request : SelectionRequest}
    {eventSequence : Nat} :
    (∃! grant, grant ∈ policy.grants ∧ grantCoversRequest grant request eventSequence = true) ↔
      ∃! grant, grant ∈ policy.grants ∧ Covers grant request eventSequence := by
  simp only [covers_iff]

/-- Under the ledger's own resolution a grant is selected when it alone covers the request. -/
theorem selected_iff {ledger : AssumptionPolicyLedgerV3 D} {resolved : ResolvedPolicyAtSequence D}
    {source : AssumptionPolicyLedgerEntryV3 D} {request : SelectionRequest}
    (sourced : sourceEntryForResolution ledger resolved = .ok source) :
    (∃ decision, selectApplicableGrantV3 ledger resolved request = .ok decision ∧
        decision.decisionType = .selected) ↔
      isToken request.scopeId = true ∧
        ∃! grant, grant ∈ source.policy.grants ∧ Covers grant request resolved.eventSequence := by
  simp only [selectApplicableGrantV3_ok sourced]
  constructor
  · rintro ⟨_, ⟨wellFormed, rfl⟩, selected⟩
    exact ⟨wellFormed.scope, sole_iff.mp (decisionTypeOf_covering.mp selected)⟩
  · rintro ⟨scope, sole⟩
    obtain ⟨grant, ⟨-, covers⟩, -⟩ := id sole
    exact ⟨_, ⟨covers.wellFormed scope, rfl⟩, decisionTypeOf_covering.mpr (sole_iff.mpr sole)⟩

/-- What a selection reports. -/
structure Reports (resolved : ResolvedPolicyAtSequence D) (request : SelectionRequest)
    (grant : AssumptionAuthorityGrant) (decision : GrantSelectionDecision D) : Prop where
  resolution : decision.toResolvedPolicyAtSequence = resolved
  request : decision.request = request
  grantId : decision.selectedGrantId = some grant.grantId
  digest : decision.grantDigest = some (grant.grantDigest D)

theorem selected_reports {ledger : AssumptionPolicyLedgerV3 D}
    {resolved : ResolvedPolicyAtSequence D} {source : AssumptionPolicyLedgerEntryV3 D}
    {request : SelectionRequest} {decision : GrantSelectionDecision D}
    (sourced : sourceEntryForResolution ledger resolved = .ok source)
    (made : selectApplicableGrantV3 ledger resolved request = .ok decision)
    (selected : decision.decisionType = .selected) :
    ∃ grant ∈ source.policy.grants, Covers grant request resolved.eventSequence ∧
      Reports resolved request grant decision := by
  obtain ⟨-, rfl⟩ := (selectApplicableGrantV3_ok sourced).mp made
  obtain ⟨grant, single⟩ := decisionTypeOf_eq_selected.mp selected
  obtain ⟨⟨member, covers⟩, -⟩ := covering_eq_singleton_iff.mp single
  refine ⟨grant, member, covers_iff.mp covers, rfl, rfl, ?_, ?_⟩
  · rw [selectionOf, single]
    rfl
  · rw [selectionOf, single]
    rfl

/-- The selector accepts the ledger's own resolution and no other, and selects under it the grant
that alone covers the request. -/
theorem selectApplicableGrantV3_exact (ledger : AssumptionPolicyLedgerV3 D)
    (resolved : ResolvedPolicyAtSequence D) (request : SelectionRequest) :
    (∀ decision, selectApplicableGrantV3 ledger resolved request = .ok decision →
      resolvePolicyAtV3 ledger resolved.eventSequence = .ok resolved) ∧
    (resolvePolicyAtV3 ledger resolved.eventSequence ≠ .ok resolved →
      ∃ error, selectApplicableGrantV3 ledger resolved request = .error error) ∧
    (∀ entry ∈ ledger.entries,
      ResolvedPolicyAtSequence.fromEntry entry ledger resolved.eventSequence = .ok resolved →
      governingEntry ledger.entries resolved.eventSequence ≠ some entry →
      ∃ error, selectApplicableGrantV3 ledger resolved request = .error error) ∧
    (resolvePolicyAtV3 ledger resolved.eventSequence = .ok resolved →
      ∃ i entry, GovernsAt ledger.entries i entry resolved.eventSequence ∧
        ((∃ decision, selectApplicableGrantV3 ledger resolved request = .ok decision ∧
            decision.decisionType = .selected) ↔
          isToken request.scopeId = true ∧
            ∃! grant, grant ∈ entry.policy.grants ∧ Covers grant request resolved.eventSequence) ∧
        ∀ decision, selectApplicableGrantV3 ledger resolved request = .ok decision →
          decision.decisionType = .selected →
          ∃ grant ∈ entry.policy.grants, Covers grant request resolved.eventSequence ∧
            Reports resolved request grant decision) := by
  refine ⟨fun _ => authoritative_of_selection, refused_of_not_authoritative, ?_, ?_⟩
  · intro entry member bound superseded
    exact refused_of_not_authoritative (not_authoritative_of_superseded member bound superseded)
  · intro resolution
    obtain ⟨i, entry, governs, -, sourced⟩ := resolvePolicyAtV3_governs.mp resolution
    exact ⟨i, entry, governs, selected_iff sourced, fun _ => selected_reports sourced⟩

end CsdFoundry.Policy
