import CsdFoundry.Scenarios.Invariance

/-! The least bytes of a family, which its digest is taken of. -/
namespace CsdFoundry.Scenarios
open Kernel Results
open Synthesis.Choices (HashBytes hex)

section Least
variable {spec : ScenarioSpec} {coordinates : List Coordinate}
  {best result : Option (RenderedScenario × List UInt8)} {candidates : List IdMap}

/-- What the loop returns is one of the candidates, and no candidate has fewer bytes. -/
theorem leastCandidate_ok (found : leastCandidate spec coordinates best candidates = .ok result) :
    (∀ labels ∈ candidates, ∃ next, candidate spec coordinates labels = .ok next ∧
      ∃ least ∈ result, least.2 ≤ next.2) ∧
    (∀ previous ∈ best, ∃ least ∈ result, least.2 ≤ previous.2) ∧
    ∀ least ∈ result, least ∈ best ∨
      ∃ labels ∈ candidates, candidate spec coordinates labels = .ok least := by
  induction candidates generalizing best with
  | nil =>
      cases found
      exact ⟨by simp, fun previous member => ⟨previous, member, le_refl _⟩, fun _ => .inl⟩
  | cons labels candidates ih =>
      obtain ⟨next, rendered, rest⟩ := bind_ok.mp found
      cases best with
      | none =>
          obtain ⟨all, first, origin⟩ := ih rest
          refine ⟨?_, by simp, ?_⟩
          · exact List.forall_mem_cons.mpr ⟨⟨next, rendered, first next rfl⟩, all⟩
          · intro least member
            rcases origin least member with same | ⟨labels', among, rendered'⟩
            · cases same
              exact .inr ⟨labels, List.mem_cons_self, rendered⟩
            · exact .inr ⟨labels', List.mem_cons_of_mem _ among, rendered'⟩
      | some previous =>
          obtain ⟨all, first, origin⟩ := ih rest
          obtain ⟨least, member, below⟩ := first _ rfl
          have belowBoth : least.2 ≤ next.2 ∧ least.2 ≤ previous.2 := by
            split_ifs at below with smaller
            · exact ⟨below, below.trans (le_of_lt smaller)⟩
            · exact ⟨below.trans (not_lt.mp smaller), below⟩
          refine ⟨?_, ?_, ?_⟩
          · exact List.forall_mem_cons.mpr ⟨⟨next, rendered, least, member, belowBoth.1⟩, all⟩
          · intro given same
            cases same
            exact ⟨least, member, belowBoth.2⟩
          · intro least member
            rcases origin least member with same | ⟨labels', among, rendered'⟩
            · split_ifs at same
              · cases same
                exact .inr ⟨labels, List.mem_cons_self, rendered⟩
              · exact .inl same
            · exact .inr ⟨labels', List.mem_cons_of_mem _ among, rendered'⟩

theorem leastCandidate_total (all : ∀ labels ∈ candidates, ∃ next,
    candidate spec coordinates labels = .ok next) :
    ∃ result, leastCandidate spec coordinates best candidates = .ok result := by
  induction candidates generalizing best with
  | nil => exact ⟨best, rfl⟩
  | cons labels candidates ih =>
      obtain ⟨⟨next, rendered⟩, others⟩ := List.forall_mem_cons.mp all
      cases best with
      | none =>
          obtain ⟨result, found⟩ := @ih (some next) others
          exact ⟨result, bind_ok.mpr ⟨next, rendered, found⟩⟩
      | some previous =>
          obtain ⟨result, found⟩ :=
            @ih (some (if next.2 < previous.2 then next else previous)) others
          exact ⟨result, bind_ok.mpr ⟨next, rendered, found⟩⟩

/-- The least bytes of the renderings of a scenario. -/
structure LeastBytes (spec : ScenarioSpec) (coordinates : List Coordinate) (bytes : List UInt8) :
    Prop where
  below : ∀ labels ∈ labelings (collectScenarioIds spec), ∃ next,
    candidate spec coordinates labels = .ok next ∧ bytes ≤ next.2
  attained : ∃ labels ∈ labelings (collectScenarioIds spec), ∃ shape,
    candidate spec coordinates labels = .ok (shape, bytes)

theorem candidate_bytes {labels : IdMap} {next : RenderedScenario × List UInt8}
    (rendered : candidate spec coordinates labels = .ok next) :
    renderScenario spec labels coordinates = some next.1 ∧ familyBytes next.1.json = .ok next.2 := by
  unfold candidate at rendered
  cases shape : renderScenario spec labels coordinates with
  | none =>
      rw [shape] at rendered
      cases rendered
  | some value =>
      rw [shape] at rendered
      obtain ⟨bytes, encoded, same⟩ := bind_ok.mp rendered
      cases same
      exact ⟨rfl, encoded⟩

end Least

section Digest
variable [HashBytes] [DecimalDigits] {spec spec' : ScenarioSpec} {digest : String}

/-- A family has a digest when it is within the labeling budget, and all its candidates have
bytes. The digest is taken of the least of them. -/
theorem familyDigest_ok : familyDigest spec = .ok digest ↔ ∃ coordinates bytes,
    caseCoordinates spec = .ok coordinates ∧
    (collectScenarioIds spec).labelingCount ≤ maxCanonicalLabelings ∧
    LeastBytes spec coordinates bytes ∧ digest = hex (HashBytes.sha256 bytes) := by
  constructor
  · intro derived
    obtain ⟨material, made, digested⟩ := bind_ok.mp derived
    obtain ⟨coordinates, located, made⟩ := bind_ok.mp made
    obtain ⟨candidates, listed, made⟩ := bind_ok.mp made
    obtain ⟨best, found, made⟩ := bind_ok.mp made
    unfold candidateMaps at listed
    split_ifs at listed with exceeded
    cases listed
    obtain ⟨all, -, origin⟩ := leastCandidate_ok found
    cases best with
    | none => cases made
    | some least =>
        cases made
        rcases origin least rfl with absent | ⟨labels, among, rendered⟩
        · cases absent
        · obtain ⟨bytes, encoded, digested⟩ := bind_ok.mp digested
          obtain rfl : least.2 = bytes :=
            Except.ok.inj ((candidate_bytes rendered).2.symm.trans encoded)
          refine ⟨coordinates, least.2, located, not_lt.mp exceeded, ⟨?_, ?_⟩, ?_⟩
          · intro labels among
            obtain ⟨next, rendered, _, same, below⟩ := all labels among
            cases same
            exact ⟨next, rendered, below⟩
          · exact ⟨labels, among, least.1, rendered⟩
          · exact (Except.ok.inj digested).symm
  · rintro ⟨coordinates, bytes, located, within, least, rfl⟩
    obtain ⟨result, found⟩ := @leastCandidate_total spec coordinates none _ fun labels among => by
      obtain ⟨next, rendered, -⟩ := least.below labels among
      exact ⟨next, rendered⟩
    obtain ⟨all, -, origin⟩ := leastCandidate_ok found
    obtain ⟨labels, among, shape, rendered⟩ := least.attained
    obtain ⟨next, rendered', chosen, taken, below⟩ := all labels among
    obtain rfl : (shape, bytes) = next := Except.ok.inj (rendered.symm.trans rendered')
    cases taken
    rcases origin chosen rfl with absent | ⟨labels', among', source⟩
    · cases absent
    · have above : bytes ≤ chosen.2 := by
        obtain ⟨next, again, below⟩ := least.below labels' among'
        rwa [Except.ok.inj (source.symm.trans again)]
      obtain rfl : chosen.2 = bytes := le_antisymm below above
      refine bind_ok.mpr ⟨chosen.1, ?_, ?_⟩
      · refine bind_ok.mpr ⟨coordinates, located,
          bind_ok.mpr ⟨labelings (collectScenarioIds spec), ?_, ?_⟩⟩
        · exact if_neg (not_lt.mpr within)
        · exact bind_ok.mpr ⟨some chosen, found, rfl⟩
      · exact bind_ok.mpr ⟨chosen.2, (candidate_bytes source).2, rfl⟩

omit [HashBytes] in
theorem caseCoordinates_changed {renames : Renaming} (changed : ScenarioChanged renames spec spec') :
    caseCoordinates spec' = caseCoordinates spec := by
  have same : spec'.cases.map ScenarioCase.caseId = spec.cases.map ScenarioCase.caseId := by
    have related := changed.cases
    generalize spec.cases = bodies at related
    generalize spec'.cases = bodies' at related
    induction related with
    | nil => rfl
    | cons first _ ih =>
        obtain ⟨shift, first⟩ := first
        rw [List.map_cons, List.map_cons, ih]
        cases first <;> rfl
  unfold caseCoordinates
  rw [same]

omit [HashBytes] [DecimalDigits] in
theorem labelingCount_onIds (renames : Renaming) (ids : NamespaceIds) :
    (renames.onIds ids).labelingCount = ids.labelingCount := by
  unfold NamespaceIds.labelingCount Renaming.onIds
  simp only [Finset.card_map]

omit [HashBytes] [DecimalDigits] in
theorem leastBytes_changed {renames : Renaming} (changed : ScenarioChanged renames spec spec')
    {coordinates : List Coordinate} {bytes : List UInt8} :
    LeastBytes spec coordinates bytes ↔ LeastBytes spec' coordinates bytes := by
  have same {labels labels' : IdMap} (agree : Agree renames labels labels')
      (labeling : labels' ∈ labelings (renames.onIds (collectScenarioIds spec))) :
      candidate spec' coordinates labels' = candidate spec coordinates labels := by
    unfold candidate
    rw [renderScenario_changed agree (distinct_of_labeling labeling) changed]
  have ids := collectScenarioIds_changed changed
  constructor
  · rintro ⟨below, labels, among, shape, attained⟩
    refine ⟨?_, ?_⟩
    · intro labels' labeling
      rw [ids] at labeling
      obtain ⟨labels, among, agree⟩ := labeling_of_onIds renames labeling
      rw [same agree labeling]
      exact below labels among
    · obtain ⟨labels', labeling, agree⟩ := labeling_onIds renames among
      rw [ids]
      exact ⟨labels', labeling, shape, (same agree labeling).trans attained⟩
  · rintro ⟨below, labels', labeling, shape, attained⟩
    rw [ids] at labeling below
    refine ⟨?_, ?_⟩
    · intro labels among
      obtain ⟨labels', labeling, agree⟩ := labeling_onIds renames among
      rw [← same agree labeling]
      exact below labels' labeling
    · obtain ⟨labels, among, agree⟩ := labeling_of_onIds renames labeling
      exact ⟨labels, among, shape, (same agree labeling).symm.trans attained⟩

/-- The digest of a family is the same whatever its surface. -/
theorem familyDigest_changed {renames : Renaming} (changed : ScenarioChanged renames spec spec') :
    familyDigest spec = .ok digest ↔ familyDigest spec' = .ok digest := by
  simp only [familyDigest_ok, caseCoordinates_changed changed, leastBytes_changed changed,
    collectScenarioIds_changed changed, labelingCount_onIds]

end Digest
end CsdFoundry.Scenarios
