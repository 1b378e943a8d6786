import CsdFoundry.Synthesis.Groups

/-! What the reconciler makes of the entries of one sample, when the completions come back as they
were published and every completion has its attestation. -/
namespace CsdFoundry.Synthesis
namespace StreamingReconciler
variable {D : Type} [Sha256 D] [DigestText D] [DecidableEq D]
variable {reconciler : StreamingReconciler D} {how : AttemptCompletion D → Circumstances}
variable {completions attempts : List (AttemptCompletion D)}
variable {attestation : AttemptCompletion D → ReplayAttestation D}

/-- The callbacks: entries resolve to the publications they were made from, and a publication is
attested by the attestation of its completion. -/
structure Answers (reconciler : StreamingReconciler D) (how : AttemptCompletion D → Circumstances)
    (completions : List (AttemptCompletion D))
    (attestation : AttemptCompletion D → ReplayAttestation D) : Prop where
  resolves : ∀ completion ∈ completions,
    reconciler.completionResolver (entryOf reconciler.inventory how completion) =
      .ok (publicationOf reconciler.inventory completion (how completion))
  attests : ∀ completion ∈ completions, ∃ replayed,
    reconciler.replayAttestor (publicationOf reconciler.inventory completion (how completion)) =
      .ok replayed ∧
    replayed.publication = publicationOf reconciler.inventory completion (how completion) ∧
    replayed.completion = completion ∧ replayed.attestation = attestation completion

omit [DigestText D] in
theorem referenceSpec_referenceOf {inventory : ExecutionInventory D}
    {completion : AttemptCompletion D} (placed : Placed inventory completion) :
    referenceSpec inventory (referenceOf inventory completion) = .ok (specOf inventory completion) := by
  have alone : inventory.samples.filter (fun spec =>
      spec.globalOrdinal = (referenceOf inventory completion).globalOrdinal ∧
        spec.sampleKey = (referenceOf inventory completion).sampleKey) =
      [specOf inventory completion] := by
    rw [← filter_sampleKey (specOf_mem : specOf inventory completion ∈ inventory.samples)]
    refine List.filter_congr fun spec member => ?_
    by_cases key : spec.sampleKey = (specOf inventory completion).sampleKey
    · have same : spec = specOf inventory completion :=
        List.inj_on_of_nodup_map inventory.distinct member specOf_mem key
      simp [same, ordinalOf, referenceOf]
    · simp [key, referenceOf]
  rw [referenceSpec, require_bind_ok, alone]
  simp only [require_bind_ok]
  exact ⟨rfl, rfl, decide_eq_true placed.inside, rfl⟩

omit [DigestText D] in
theorem attestEntry_ok (answers : Answers reconciler how completions attestation)
    {completion : AttemptCompletion D} (member : completion ∈ completions)
    (placed : Placed reconciler.inventory completion) {evidence : SampleEvidence D}
    {sourced : SourcedShardEntry D}
    (entry : sourced.entry = entryOf reconciler.inventory how completion)
    (authority : evidence.authority = none ∨ evidence.authority =
      some ((specOf reconciler.inventory completion).sampleKey,
        (specOf reconciler.inventory completion).attemptRange)) :
    ∃ replayed, replayed.completion = completion ∧ replayed.attestation = attestation completion ∧
      reconciler.attestEntry (ordinalOf reconciler.inventory completion) evidence sourced =
        .ok ⟨some ((specOf reconciler.inventory completion).sampleKey,
          (specOf reconciler.inventory completion).attemptRange), evidence.attested ++ [replayed],
          evidence.sourceManifests ++ [sourced.sourceManifestDigest]⟩ := by
  obtain ⟨replayed, attested, publication, same, attests⟩ := answers.attests completion member
  refine ⟨replayed, same, attests, ?_⟩
  have valid : (publicationOf reconciler.inventory completion (how completion)).reference.validateAgainst
      reconciler.inventory
      (publicationOf reconciler.inventory completion (how completion)).envelope = .ok () :=
    validateAgainst_ok placed
  have spec : referenceSpec reconciler.inventory
      (publicationOf reconciler.inventory completion (how completion)).reference =
      .ok (specOf reconciler.inventory completion) := referenceSpec_referenceOf placed
  rw [attestEntry, entry, answers.resolves completion member, ok_bind]
  simp only [require_bind_ok]
  refine ⟨rfl, rfl, ?_⟩
  rw [valid, ok_bind, spec, ok_bind]
  simp only [require_bind_ok]
  refine ⟨rfl, authority, ?_⟩
  rw [attested, ok_bind]
  simp only [require_bind_ok]
  exact ⟨publication, rfl⟩

omit [DigestText D] in
/-- All entries of a sample are attested. -/
theorem attestEntries_ok (answers : Answers reconciler how completions attestation)
    (own : ∀ completion ∈ attempts, completion ∈ completions)
    (placed : ∀ completion ∈ attempts, Placed reconciler.inventory completion)
    {spec : SampleExecutionSpec D}
    (sample : ∀ completion ∈ attempts, specOf reconciler.inventory completion = spec)
    {sourced : List (SourcedShardEntry D)}
    (entries : sourced.map (·.entry) = attempts.map (entryOf reconciler.inventory how))
    {evidence : SampleEvidence D} (authority : evidence.authority = none ∨
      evidence.authority = some (spec.sampleKey, spec.attemptRange)) :
    ∃ after, sourced.foldlM (reconciler.attestEntry spec.globalOrdinal) evidence = .ok after ∧
      (after.authority = some (spec.sampleKey, spec.attemptRange) ∨
        attempts = [] ∧ after.authority = evidence.authority) ∧
      ∃ attested, after.attested = evidence.attested ++ attested ∧
        attested.map (·.completion) = attempts ∧
        attested.map (·.attestation) = attempts.map attestation := by
  induction attempts generalizing sourced evidence with
  | nil =>
      obtain rfl : sourced = [] := List.map_eq_nil_iff.mp entries
      exact ⟨evidence, rfl, .inr ⟨rfl, rfl⟩, [], (List.append_nil _).symm, rfl, rfl⟩
  | cons completion attempts ih =>
      cases sourced with
      | nil => cases entries
      | cons first sourced =>
          obtain ⟨entry, entries⟩ := List.cons.inj entries
          have same := sample completion List.mem_cons_self
          obtain ⟨replayed, completes, attests, step⟩ := attestEntry_ok answers
            (own completion List.mem_cons_self) (placed completion List.mem_cons_self) entry
            (same.symm ▸ authority)
          rw [ordinalOf, same] at step
          obtain ⟨after, run, known, attested, appended, completions', attestations⟩ := @ih
            (fun other later => own other (List.mem_cons_of_mem _ later))
            (fun other later => placed other (List.mem_cons_of_mem _ later))
            (fun other later => sample other (List.mem_cons_of_mem _ later)) sourced entries
            ⟨some (spec.sampleKey, spec.attemptRange), evidence.attested ++ [replayed],
              evidence.sourceManifests ++ [first.sourceManifestDigest]⟩ (.inr rfl)
          refine ⟨after, ?_, ?_, replayed :: attested, ?_, ?_, ?_⟩
          · rw [List.foldlM_cons, step, ok_bind, run]
          · exact .inl (known.elim id fun both => both.2)
          · rw [appended, List.append_assoc, List.singleton_append]
          · rw [List.map_cons, completes, completions']
          · rw [List.map_cons, List.map_cons, attests, attestations]

/-! ### The resolution of a sample -/

/-- What the completions of a sample come to, whoever published them. -/
def outcomeOf (attestation : AttemptCompletion D → ReplayAttestation D)
    (spec : SampleExecutionSpec D) (attempts : List (AttemptCompletion D)) :
    Except SynthesisError
      (Option (SemanticCorpusRecord D) × SampleResolutionStatus × Option Nat × D) := do
  let resolution ← resolveAttemptPrefix spec.attemptRange attempts
  semanticPart spec.globalOrdinal spec.sampleKey
    (attempts.map fun completion => (attestation completion).digest) resolution

omit [DigestText D] [DecidableEq D] in
/-- The checks of the run evidence hold of every resolution. -/
theorem semanticPart_selected {ordinal : Nat} {key : SampleKey} {digests : List D}
    {resolution : AttemptResolution D} {semantic status selected digest}
    (part : semanticPart ordinal key digests resolution = .ok (semantic, status, selected, digest)) :
    (∃ index, status = .accepted ∧ selected = some index ∧ index ≤ uint32Max) ∨
      status = .exhausted ∧ selected = none := by
  cases resolution with
  | incomplete _ _ _ _ => cases part
  | accepted replay =>
      simp only [semanticPart, SemanticCorpusRecord.check, bind_assoc, require_bind_ok] at part
      obtain ⟨-, small, -, made⟩ := part
      cases made
      exact .inl ⟨_, rfl, rfl, small⟩
  | exhausted evidence =>
      cases part
      exact .inr ⟨rfl, rfl⟩

omit [Sha256 D] [DecidableEq D] [DigestText D] in
theorem check_runEvidence {record : RunEvidenceRecord D} (ordinal : record.globalOrdinal ≤ uint32Max)
    (nonempty : record.completionDigests.length ≠ 0)
    (envelopes : record.completionEnvelopeDigests.length = record.completionDigests.length)
    (attestations : record.replayAttestationDigests.length = record.completionDigests.length)
    (selected : (∃ index, record.resolutionStatus = .accepted ∧
      record.selectedAttemptIndex = some index ∧ index ≤ uint32Max) ∨
      record.resolutionStatus = .exhausted ∧ record.selectedAttemptIndex = none) :
    record.check = .ok () := by
  rw [RunEvidenceRecord.check, require_pos ordinal, ok_bind, require_pos ⟨nonempty, envelopes⟩, ok_bind,
    require_pos attestations, ok_bind]
  rcases selected with ⟨index, accepted, chosen, small⟩ | ⟨exhausted, none⟩
  · simp only [accepted, chosen]
    exact require_pos small
  · simp only [exhausted]
    exact require_pos none

theorem resolveSample_eq (answers : Answers reconciler how completions attestation)
    {spec : SampleExecutionSpec D} (ordered : Ordered spec.attemptRange attempts)
    (own : ∀ completion ∈ attempts, completion ∈ completions)
    (placed : ∀ completion ∈ attempts, Placed reconciler.inventory completion)
    (sample : ∀ completion ∈ attempts, specOf reconciler.inventory completion = spec)
    (ordinal : spec.globalOrdinal ≤ uint32Max) {sourced : List (SourcedShardEntry D)}
    (entries : sourced.map (·.entry) = attempts.map (entryOf reconciler.inventory how))
    {semantic : Option (SemanticCorpusRecord D)} {replayed : Nat} :
    (∃ runEvidence, reconciler.resolveSample spec.globalOrdinal sourced =
        .ok (semantic, runEvidence, replayed)) ↔
      (∃ rest, outcomeOf attestation spec attempts = .ok (semantic, rest)) ∧
        replayed = attempts.length := by
  have nonempty : sourced ≠ [] := by
    rintro rfl
    exact ordered.nonempty (List.map_eq_nil_iff.mp entries.symm)
  obtain ⟨after, run, authority, attested, appended, completions', attestations⟩ :=
    @attestEntries_ok _ _ _ _ _ _ _ _ answers own placed _ sample _ entries ⟨none, [], []⟩
      (.inl rfl)
  have known : after.authority = some (spec.sampleKey, spec.attemptRange) :=
    authority.elim id fun both => absurd both.1 ordered.nonempty
  have evidence : after = ⟨some (spec.sampleKey, spec.attemptRange), attested,
      after.sourceManifests⟩ := by
    rw [← known, ← List.nil_append attested, ← appended]
  have sorted : attested.insertionSort (fun a b =>
      a.completion.attemptIndex ≤ b.completion.attemptIndex) = attested := by
    have ascending := ordered.ascending
    rw [← completions', List.pairwise_map] at ascending
    exact (ascending.imp fun less => le_of_lt less).insertionSort_eq
  have digests : attested.map (·.attestation.digest) =
      attempts.map fun completion => (attestation completion).digest := by
    have mapped := congrArg (List.map (·.digest)) attestations
    rwa [List.map_map, List.map_map] at mapped
  have length : attested.length = attempts.length := by
    rw [← completions', List.length_map]
  rw [resolveSample, outcomeOf, require_pos nonempty, ok_bind, run, ok_bind, evidence]
  simp only [sorted, completions', digests]
  cases resolveAttemptPrefix spec.attemptRange attempts with
  | error e =>
      constructor
      · rintro ⟨_, raised⟩
        cases raised
      · rintro ⟨⟨_, raised⟩, -⟩
        cases raised
  | ok resolution =>
      simp only [ok_bind]
      cases part : semanticPart spec.globalOrdinal spec.sampleKey
          (attempts.map fun completion => (attestation completion).digest) resolution with
      | error e =>
          constructor
          · rintro ⟨_, raised⟩
            cases raised
          · rintro ⟨⟨_, raised⟩, -⟩
            cases raised
      | ok parts =>
          obtain ⟨record, status, selected, digest⟩ := parts
          have some : attested.length ≠ 0 := by
            rw [length]
            exact (List.length_pos_iff.mpr ordered.nonempty).ne'
          simp only [ok_bind]
          rw [check_runEvidence ordinal (by simpa using some) (by simp) (by simp [length])
            (semanticPart_selected part), ok_bind, length]
          simp only [pure, Except.pure, Except.ok.injEq, Prod.mk.injEq]
          constructor
          · rintro ⟨_, rfl, -, rfl⟩
            exact ⟨⟨_, rfl, rfl⟩, rfl⟩
          · rintro ⟨⟨_, rfl, -⟩, rfl⟩
            exact ⟨_, rfl, rfl, rfl⟩

omit [DigestText D] in
theorem outcomeOf_ok_iff {spec : SampleExecutionSpec D} (ordered : Ordered spec.attemptRange attempts)
    (ordinal : spec.globalOrdinal ≤ uint32Max) :
    (∃ outcome, outcomeOf attestation spec attempts = .ok outcome) ↔
      CompletePrefix spec.attemptRange attempts := by
  rw [← resolveAttemptPrefix_terminal_iff ordered, outcomeOf]
  cases resolved : resolveAttemptPrefix spec.attemptRange attempts with
  | error e => exact ⟨nofun, nofun⟩
  | ok resolution =>
      cases resolution with
      | incomplete _ _ _ _ =>
          refine ⟨nofun, ?_⟩
          rintro ⟨_, ⟨⟩, ⟨⟩⟩
      | exhausted evidence => exact ⟨fun _ => ⟨_, rfl, rfl⟩, fun _ => ⟨_, rfl⟩⟩
      | accepted replay =>
          refine ⟨fun _ => ⟨_, rfl, rfl⟩, fun _ => ?_⟩
          obtain ⟨member, length⟩ := resolveAttemptPrefix_accepted ordered resolved
          have inside := ordered.inside _ member
          have bounded := spec.attemptRange.bounded
          have small : replay.acceptedAttempt.attemptIndex ≤ uint32Max := by
            rw [uint32Max]
            omega
          simp only [ok_bind, semanticPart, SemanticCorpusRecord.check, bind_assoc, require_bind_ok]
          exact ⟨_, ordinal, small, by simp [length], rfl⟩

end StreamingReconciler
end CsdFoundry.Synthesis
