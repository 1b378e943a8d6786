import CsdFoundry.Scenarios.Digests
import CsdFoundry.Scenarios.Splits

/-! Manifests of splits: every scenario once, whatever the order of the scenarios, and whole
families in one split. -/
namespace CsdFoundry.Scenarios
open Kernel Results
open Synthesis.Choices (HashBytes)

instance : IsTrans ScenarioSpec ScenarioIdLe := ⟨fun _ _ _ first second => le_trans first second⟩

instance : Std.Total ScenarioIdLe := ⟨fun a b => le_total a.scenarioId b.scenarioId⟩

section Compile
variable [HashBytes] [DecimalDigits] {scenarios scenarios' : List ScenarioSpec}
  {developmentFamilyDigests : Finset String} {release sourceCommit : String}
  {manifest : FamilySplitManifest}

theorem derive_ok {spec : ScenarioSpec} {identity : ScenarioFamilyIdentity}
    (derived : deriveScenarioFamilyIdentity spec = .ok identity) :
    identity.scenarioId = spec.scenarioId ∧ familyDigest spec = .ok identity.familyDigest := by
  obtain ⟨-, rest⟩ := ensure_bind.mp derived
  obtain ⟨material, made, rest⟩ := bind_ok.mp rest
  obtain ⟨digest, digested, rest⟩ := bind_ok.mp rest
  obtain ⟨-, rest⟩ := ensure_bind.mp rest
  obtain ⟨-, rest⟩ := ensure_bind.mp rest
  obtain ⟨-, rest⟩ := ensure_bind.mp rest
  obtain ⟨-, rest⟩ := ensure_bind.mp rest
  cases rest
  exact ⟨rfl, bind_ok.mpr ⟨material, made, digested⟩⟩

/-- The order in which the scenarios come does not matter. -/
theorem compile_perm (same : scenarios.Perm scenarios') :
    compileFamilySplitManifest scenarios developmentFamilyDigests release sourceCommit =
      compileFamilySplitManifest scenarios' developmentFamilyDigests release sourceCommit := by
  by_cases distinct : (scenarios.map (·.scenarioId)).Nodup
  · have sorted : scenarios.insertionSort ScenarioIdLe = scenarios'.insertionSort ScenarioIdLe := by
      apply StableSort.insertionSort_perm same
      intro a inA b inB below above
      exact List.inj_on_of_nodup_map distinct inA inB (le_antisymm below above)
    unfold compileFamilySplitManifest
    rw [sorted]
  · have refused {given : List ScenarioSpec} (perm : given.Perm scenarios) :
        compileFamilySplitManifest given developmentFamilyDigests release sourceCommit =
          .error .family := by
      have repeated : ¬ ((given.insertionSort ScenarioIdLe).map (·.scenarioId)).Nodup := by
        intro nodup
        have sorted := (List.perm_insertionSort ScenarioIdLe given).trans perm
        exact distinct ((sorted.map _).nodup_iff.mp nodup)
      unfold compileFamilySplitManifest ensure
      dsimp only
      rw [if_neg repeated]
      split_ifs <;> rfl
    rw [refused (List.Perm.refl _), refused same.symm]

/-- What a compiled manifest is made of. -/
structure Compiled (scenarios : List ScenarioSpec) (developmentFamilyDigests : Finset String)
    (manifest : FamilySplitManifest) (identities : List ScenarioFamilyIdentity) : Prop where
  derived : (scenarios.insertionSort ScenarioIdLe).map deriveScenarioFamilyIdentity =
    identities.map .ok
  distinct : (scenarios.map (·.scenarioId)).Nodup
  assignments : manifest.assignments.Perm
    ((grouped identities).map (assignmentOf developmentFamilyDigests))
  once : (manifest.assignments.flatMap (·.scenarioIds)).Nodup

omit [HashBytes] [DecimalDigits] in
theorem checkedAssignment_ok {assignment checked : FamilySplitAssignment}
    (passes : checkedAssignment assignment = .ok checked) : checked = assignment := by
  obtain ⟨-, rest⟩ := ensure_bind.mp passes
  obtain ⟨-, rest⟩ := ensure_bind.mp rest
  obtain ⟨-, rest⟩ := ensure_bind.mp rest
  obtain ⟨-, rest⟩ := ensure_bind.mp rest
  obtain ⟨-, rest⟩ := ensure_bind.mp rest
  cases rest
  rfl

omit [HashBytes] [DecimalDigits] in
theorem checkedManifest_ok {checked : FamilySplitManifest}
    (passes : checkedManifest manifest = .ok checked) :
    checked = manifest ∧ (manifest.assignments.flatMap (·.scenarioIds)).Nodup := by
  obtain ⟨-, rest⟩ := ensure_bind.mp passes
  obtain ⟨-, rest⟩ := ensure_bind.mp rest
  obtain ⟨-, rest⟩ := ensure_bind.mp rest
  obtain ⟨-, rest⟩ := ensure_bind.mp rest
  obtain ⟨-, rest⟩ := ensure_bind.mp rest
  obtain ⟨once, rest⟩ := ensure_bind.mp rest
  obtain ⟨-, rest⟩ := ensure_bind.mp rest
  cases rest
  exact ⟨rfl, once⟩

theorem compiled_of_ok (compiles : compileFamilySplitManifest scenarios developmentFamilyDigests
    release sourceCommit = .ok manifest) :
    ∃ identities, Compiled scenarios developmentFamilyDigests manifest identities := by
  obtain ⟨-, rest⟩ := ensure_bind.mp compiles
  obtain ⟨distinct, rest⟩ := ensure_bind.mp rest
  obtain ⟨identities, derived, rest⟩ := bind_ok.mp rest
  obtain ⟨-, rest⟩ := ensure_bind.mp rest
  obtain ⟨-, rest⟩ := ensure_bind.mp rest
  obtain ⟨-, rest⟩ := ensure_bind.mp rest
  obtain ⟨assignments, assigned, rest⟩ := bind_ok.mp rest
  obtain ⟨rfl, once⟩ := checkedManifest_ok rest
  have sorted := List.perm_insertionSort ScenarioIdLe scenarios
  refine ⟨identities, collect_eq_ok.mp derived, (sorted.map _).nodup_iff.mp distinct, ?_, once⟩
  have checked : ((grouped identities).map (assignmentOf developmentFamilyDigests)).map
      checkedAssignment = assignments.map .ok := by
    rw [List.map_map]
    exact collect_eq_ok.mp assigned
  rw [← results_checked (fun _ _ => checkedAssignment_ok) checked]
  exact List.perm_insertionSort DigestLe assignments

variable {identities : List ScenarioFamilyIdentity}

/-- The scenarios and their identities answer to each other. -/
theorem Compiled.identity (compiled : Compiled scenarios developmentFamilyDigests manifest identities)
    {spec : ScenarioSpec} (member : spec ∈ scenarios) :
    ∃ identity ∈ identities, deriveScenarioFamilyIdentity spec = .ok identity := by
  have among : deriveScenarioFamilyIdentity spec ∈ identities.map Except.ok := by
    rw [← compiled.derived]
    exact List.mem_map_of_mem ((List.mem_insertionSort _).mpr member)
  obtain ⟨identity, listed, derived⟩ := List.mem_map.mp among
  exact ⟨identity, listed, derived.symm⟩

theorem Compiled.scenario (compiled : Compiled scenarios developmentFamilyDigests manifest identities)
    {identity : ScenarioFamilyIdentity} (listed : identity ∈ identities) :
    ∃ spec ∈ scenarios, deriveScenarioFamilyIdentity spec = .ok identity := by
  obtain ⟨spec, member, derived⟩ := mem_of_results compiled.derived listed
  exact ⟨spec, (List.mem_insertionSort _).mp member, derived⟩

/-- An assignment lists the scenarios of its family. -/
theorem Compiled.mem_assignment
    (compiled : Compiled scenarios developmentFamilyDigests manifest identities)
    {assignment : FamilySplitAssignment} (assigned : assignment ∈ manifest.assignments)
    {scenarioId : String} : scenarioId ∈ assignment.scenarioIds ↔
      ∃ spec ∈ scenarios, spec.scenarioId = scenarioId ∧
        familyDigest spec = .ok assignment.familyDigest := by
  obtain ⟨family, grouping, rfl⟩ := List.mem_map.mp (compiled.assignments.mem_iff.mp assigned)
  obtain ⟨digest, -, rfl⟩ := List.mem_map.mp grouping
  change scenarioId ∈ List.insertionSort _ _ ↔ _
  rw [List.mem_insertionSort, List.mem_map]
  constructor
  · rintro ⟨identity, chosen, rfl⟩
    obtain ⟨listed, same⟩ := List.mem_filter.mp chosen
    obtain ⟨spec, member, derived⟩ := compiled.scenario listed
    obtain ⟨named, digested⟩ := derive_ok derived
    rw [of_decide_eq_true same] at digested
    exact ⟨spec, member, named.symm, digested⟩
  · rintro ⟨spec, member, rfl, digested⟩
    obtain ⟨identity, listed, derived⟩ := compiled.identity member
    obtain ⟨named, digested'⟩ := derive_ok derived
    have same : identity.familyDigest = digest := Except.ok.inj (digested'.symm.trans digested)
    exact ⟨identity, List.mem_filter.mpr ⟨listed, decide_eq_true same⟩, named⟩

/-- Every scenario has an assignment. -/
theorem Compiled.assigned
    (compiled : Compiled scenarios developmentFamilyDigests manifest identities)
    {spec : ScenarioSpec} (member : spec ∈ scenarios) :
    ∃ assignment ∈ manifest.assignments, spec.scenarioId ∈ assignment.scenarioIds := by
  obtain ⟨identity, listed, derived⟩ := compiled.identity member
  have family : (identity.familyDigest,
      identities.filter fun other => other.familyDigest = identity.familyDigest) ∈
      grouped identities := by
    apply List.mem_map_of_mem (f := fun digest =>
      (digest, identities.filter fun other => other.familyDigest = digest))
    rw [List.mem_eraseDups]
    exact List.mem_map_of_mem listed
  have assigned := compiled.assignments.mem_iff.mpr
    (List.mem_map_of_mem (f := assignmentOf developmentFamilyDigests) family)
  refine ⟨_, assigned, (compiled.mem_assignment assigned).mpr ⟨spec, member, rfl, ?_⟩⟩
  exact (derive_ok derived).2

/-- Every scenario is listed exactly once. -/
theorem Compiled.listed
    (compiled : Compiled scenarios developmentFamilyDigests manifest identities) :
    (manifest.assignments.flatMap (·.scenarioIds)).Perm (scenarios.map (·.scenarioId)) := by
  rw [List.perm_ext_iff_of_nodup compiled.once compiled.distinct]
  intro scenarioId
  rw [List.mem_flatMap, List.mem_map]
  constructor
  · rintro ⟨assignment, assigned, member⟩
    obtain ⟨spec, among, rfl, -⟩ := (compiled.mem_assignment assigned).mp member
    exact ⟨spec, among, rfl⟩
  · rintro ⟨spec, member, rfl⟩
    exact compiled.assigned member

/-- Scenarios of one family have one split. -/
theorem Compiled.split_eq
    (compiled : Compiled scenarios developmentFamilyDigests manifest identities)
    {assignment assignment' : FamilySplitAssignment} (assigned : assignment ∈ manifest.assignments)
    (assigned' : assignment' ∈ manifest.assignments)
    (same : assignment.familyDigest = assignment'.familyDigest) :
    assignment.split = assignment'.split := by
  obtain ⟨family, -, rfl⟩ := List.mem_map.mp (compiled.assignments.mem_iff.mp assigned)
  obtain ⟨family', -, rfl⟩ := List.mem_map.mp (compiled.assignments.mem_iff.mp assigned')
  change family.1 = family'.1 at same
  unfold assignmentOf
  dsimp only
  rw [same]

end Compile

/-- The digest of a family does not change with the surface of a scenario. A manifest lists every
scenario once, is the same in whatever order the scenarios come, and keeps scenarios that differ in
their surface out of different splits. -/
theorem familySplits_surface_invariant [HashBytes] [DecimalDigits] :
    (∀ (renames : Renaming) (spec spec' : ScenarioSpec) (digest : String),
      ScenarioChanged renames spec spec' →
      (familyDigest spec = .ok digest ↔ familyDigest spec' = .ok digest)) ∧
    ∀ (scenarios : List ScenarioSpec) (developmentFamilyDigests : Finset String)
      (release sourceCommit : String),
      (∀ scenarios' : List ScenarioSpec, scenarios.Perm scenarios' →
        compileFamilySplitManifest scenarios developmentFamilyDigests release sourceCommit =
          compileFamilySplitManifest scenarios' developmentFamilyDigests release sourceCommit) ∧
      ∀ manifest : FamilySplitManifest, compileFamilySplitManifest scenarios
          developmentFamilyDigests release sourceCommit = .ok manifest →
        (manifest.assignments.flatMap (·.scenarioIds)).Perm (scenarios.map (·.scenarioId)) ∧
        ∀ spec ∈ scenarios, ∀ spec' ∈ scenarios, ∀ renames : Renaming,
          ScenarioChanged renames spec spec' →
          ∀ assignment ∈ manifest.assignments, ∀ assignment' ∈ manifest.assignments,
            spec.scenarioId ∈ assignment.scenarioIds →
            spec'.scenarioId ∈ assignment'.scenarioIds → assignment.split = assignment'.split := by
  refine ⟨fun renames spec spec' digest => familyDigest_changed, ?_⟩
  intro scenarios developmentFamilyDigests release sourceCommit
  refine ⟨fun scenarios' => compile_perm, ?_⟩
  intro manifest compiles
  obtain ⟨identities, compiled⟩ := compiled_of_ok compiles
  refine ⟨compiled.listed, ?_⟩
  intro spec member spec' member' renames changed assignment assigned assignment' assigned' listed
    listed'
  apply compiled.split_eq assigned assigned'
  obtain ⟨other, among, named, digested⟩ := (compiled.mem_assignment assigned).mp listed
  obtain ⟨other', among', named', digested'⟩ := (compiled.mem_assignment assigned').mp listed'
  obtain rfl := List.inj_on_of_nodup_map compiled.distinct among member named
  obtain rfl := List.inj_on_of_nodup_map compiled.distinct among' member' named'
  exact Except.ok.inj (((familyDigest_changed changed).mp digested).symm.trans digested')

end CsdFoundry.Scenarios
