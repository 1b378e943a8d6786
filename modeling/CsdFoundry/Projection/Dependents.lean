import Mathlib.Logic.Relation
import CsdFoundry.Assumptions.DependencyValidation
import CsdFoundry.Projection.Impact

/-! The worklists behind the impact receipts: the entities that depend on a trigger, directly or
not, are those from which the trigger can be reached. -/
namespace CsdFoundry.Projection
open Registry Storage Prog
open Relation (TransGen)
open Evidence (EvidenceUnit)
open Assumptions (Assumption)

/-! ### The rounds over a graph -/

/-- An entity of the graph depends directly on another, which need not be one of the graph. -/
def Depends (graph : List (String × List String)) (dependent dependency : String) : Prop :=
  ∃ dependencies, (dependent, dependencies) ∈ graph ∧ dependency ∈ dependencies

/-- The entities that a round adds. -/
def nextFrontier (graph : List (String × List String)) (affected frontier : List String) :
    List String :=
  (graph.filter fun state => state.1 ∉ affected ∧
    ∃ dependency ∈ state.2, dependency ∈ frontier).map (·.1)

/-- `while frontier:`, as far as the fuel goes. -/
def dependentsLoop (graph : List (String × List String)) :
    Nat → List String → List String → Option (List String)
  | _, affected, [] => some affected
  | 0, _, _ :: _ => none
  | fuel + 1, affected, frontier =>
      let next := nextFrontier graph affected frontier
      dependentsLoop graph fuel (affected ++ next) next

variable {graph : List (String × List String)} {affected frontier : List String}
  {id dependency trigger : String} {rounds : Nat}

theorem affectedFrom_succ : affectedFrom graph (rounds + 1) affected frontier =
    affectedFrom graph rounds (affected ++ nextFrontier graph affected frontier)
      (nextFrontier graph affected frontier) := rfl

theorem mem_nextFrontier : id ∈ nextFrontier graph affected frontier ↔
    id ∉ affected ∧ ∃ dependency ∈ frontier, Depends graph id dependency := by
  simp only [nextFrontier, List.mem_map, List.mem_filter, decide_eq_true_eq]
  constructor
  · rintro ⟨⟨other, dependencies⟩, ⟨member, fresh, dependency, listed, among⟩, rfl⟩
    exact ⟨fresh, dependency, among, dependencies, member, listed⟩
  · rintro ⟨fresh, dependency, among, dependencies, member, listed⟩
    exact ⟨(id, dependencies), ⟨member, fresh, dependency, listed, among⟩, rfl⟩

theorem nextFrontier_nil : nextFrontier graph affected [] = [] :=
  List.eq_nil_iff_forall_not_mem.mpr fun _ member => by simp [mem_nextFrontier] at member

theorem affectedFrom_nil : affectedFrom graph rounds affected [] = affected := by
  induction rounds generalizing affected with
  | zero => rfl
  | succ rounds ih => rw [affectedFrom_succ, nextFrontier_nil, List.append_nil, ih]

/-- The entries that no round has added yet. -/
def unaffected (graph : List (String × List String)) (affected : List String) : Nat :=
  graph.countP fun state => state.1 ∉ affected

/-- A round that adds anything leaves fewer entries. -/
theorem unaffected_lt (added : nextFrontier graph affected frontier ≠ []) :
    unaffected graph (affected ++ nextFrontier graph affected frontier) < unaffected graph affected := by
  obtain ⟨id, member⟩ := List.exists_mem_of_ne_nil _ added
  obtain ⟨fresh, -, -, dependencies, listed, -⟩ := mem_nextFrontier.mp member
  unfold unaffected
  rw [List.countP_eq_length_filter, List.countP_eq_length_filter]
  have sub : (graph.filter fun state => state.1 ∉ affected ++ nextFrontier graph affected frontier) =
      (graph.filter fun state => state.1 ∉ affected).filter
        (fun state => state.1 ∉ nextFrontier graph affected frontier) := by
    rw [List.filter_filter]
    congr 1
    funext state
    simp [not_or, Bool.and_comm]
  rw [sub]
  refine List.length_filter_lt_length_iff_exists.mpr ⟨(id, dependencies), ?_, by simpa using member⟩
  simpa using ⟨listed, fresh⟩

/-- What the rounds keep: the affected entities reach the trigger, and an entity that depends on one
of them, or on the trigger, is affected already or will be in the next round. -/
structure Spreads (graph : List (String × List String)) (trigger : String)
    (affected frontier : List String) : Prop where
  reaches : ∀ id ∈ affected, TransGen (Depends graph) id trigger
  front : ∀ id ∈ frontier, id = trigger ∨ id ∈ affected
  closed : ∀ id dependency, Depends graph id dependency →
    dependency = trigger ∨ dependency ∈ affected → id ∈ affected ∨ dependency ∈ frontier

theorem Spreads.initial (graph : List (String × List String)) (trigger : String) :
    Spreads graph trigger [] [trigger] := by
  refine ⟨nofun, by simp, ?_⟩
  rintro id dependency - (rfl | none)
  · exact .inr List.mem_cons_self
  · cases none

theorem Spreads.next (spreads : Spreads graph trigger affected frontier) :
    Spreads graph trigger (affected ++ nextFrontier graph affected frontier)
      (nextFrontier graph affected frontier) := by
  refine ⟨?_, fun id member => .inr (List.mem_append_right _ member), ?_⟩
  · intro id member
    rcases List.mem_append.mp member with old | new
    · exact spreads.reaches id old
    · obtain ⟨-, dependency, among, depends⟩ := mem_nextFrontier.mp new
      rcases spreads.front dependency among with rfl | earlier
      · exact .single depends
      · exact .head depends (spreads.reaches dependency earlier)
  · intro id dependency depends below
    have known : dependency = trigger ∨ dependency ∈ affected →
        id ∈ affected ++ nextFrontier graph affected frontier := by
      intro known
      by_cases old : id ∈ affected
      · exact List.mem_append_left _ old
      · have among := (spreads.closed id dependency depends known).resolve_left old
        exact List.mem_append_right _ (mem_nextFrontier.mpr ⟨old, dependency, among, depends⟩)
    rcases below with rfl | member
    · exact .inl (known (.inl rfl))
    · rcases List.mem_append.mp member with old | new
      · exact .inl (known (.inr old))
      · exact .inr new

/-- When no round is left to do, the affected entities are all that reach the trigger. -/
theorem Spreads.complete (spreads : Spreads graph trigger affected []) :
    id ∈ affected ↔ TransGen (Depends graph) id trigger := by
  refine ⟨spreads.reaches id, fun reaches => ?_⟩
  have one : ∀ {id dependency}, Depends graph id dependency →
      dependency = trigger ∨ dependency ∈ affected → id ∈ affected := fun depends known =>
    (spreads.closed _ _ depends known).resolve_right nofun
  induction reaches using TransGen.head_induction_on with
  | single depends => exact one depends (.inl rfl)
  | head depends _ ih => exact one depends (.inr ih)

/-- With a round for each entry the rounds come to their end, and the loop stops there. -/
theorem Spreads.run (spreads : Spreads graph trigger affected frontier)
    (enough : unaffected graph affected ≤ rounds) :
    (∀ id, id ∈ affectedFrom graph rounds affected frontier ↔
      TransGen (Depends graph) id trigger) ∧
    dependentsLoop graph (rounds + 1) affected frontier =
      some (affectedFrom graph rounds affected frontier) := by
  induction rounds generalizing affected frontier with
  | zero =>
      have settled : nextFrontier graph affected frontier = [] := by
        by_contra added
        have fewer := unaffected_lt added
        omega
      have spread := spreads.next
      rw [settled, List.append_nil] at spread
      refine ⟨fun id => spread.complete, ?_⟩
      cases frontier with
      | nil => rfl
      | cons => simp [dependentsLoop, settled, affectedFrom]
  | succ rounds ih =>
      cases frontier with
      | nil =>
          rw [affectedFrom_nil]
          exact ⟨fun id => spreads.complete, rfl⟩
      | cons first frontier =>
          rw [affectedFrom_succ]
          have rest : unaffected graph (affected ++ nextFrontier graph affected (first :: frontier)) ≤
              rounds ∨ nextFrontier graph affected (first :: frontier) = [] := by
            by_cases settled : nextFrontier graph affected (first :: frontier) = []
            · exact .inr settled
            · have fewer := unaffected_lt settled
              exact .inl (by omega)
          rcases rest with enough | settled
          · exact ih spreads.next enough
          · have spread := spreads.next
            rw [settled, List.append_nil] at spread ⊢
            refine ⟨fun id => by rw [affectedFrom_nil]; exact spread.complete, ?_⟩
            simp [dependentsLoop, settled, affectedFrom_nil]

theorem unaffected_le : unaffected graph [] ≤ graph.length := List.countP_le_length

/-- The identifiers are in order, each once, and are those of the entities other than the trigger
that depend on it, directly or not. -/
structure ExactDependents (graph : List (String × List String)) (trigger : String)
    (ids : List String) : Prop where
  ascending : ids.Pairwise (· < ·)
  exact : ∀ id, id ∈ ids ↔ id ≠ trigger ∧ TransGen (Depends graph) id trigger

/-- The loop ends on every graph, with the rounds that the receipts count. -/
theorem affectedFrom_loop (graph : List (String × List String)) (trigger : String) :
    (∀ id, id ∈ affectedFrom graph graph.length [] [trigger] ↔
      TransGen (Depends graph) id trigger) ∧
    dependentsLoop graph (graph.length + 1) [] [trigger] =
      some (affectedFrom graph graph.length [] [trigger]) :=
  (Spreads.initial graph trigger).run unaffected_le

theorem sortedSet_ascending (ids : Finset String) : (sortedSet ids).Pairwise (· < ·) := by
  have ordered : (sortedSet ids).Pairwise (· ≤ ·) := by
    obtain ⟨values, distinct⟩ := ids
    induction values using Quotient.inductionOn with
    | h values => exact List.pairwise_insertionSort _ values
  have distinct : (sortedSet ids).Nodup := by
    rw [← Multiset.coe_nodup, coe_sortedSet]
    exact ids.nodup
  exact ordered.imp₂ (fun _ _ le ne => lt_of_le_of_ne le ne) distinct

/-- Left out, the trigger is not one of its dependents. -/
theorem exactDependents_erase (graph : List (String × List String)) (trigger : String) :
    ExactDependents graph trigger (sortedSet
      ((affectedFrom graph graph.length [] [trigger]).toFinset.erase trigger)) := by
  refine ⟨sortedSet_ascending _, fun id => ?_⟩
  rw [mem_sortedSet, Finset.mem_erase, List.mem_toFinset, (affectedFrom_loop graph trigger).1]

/-- Kept, it is one of them where it lies on a cycle. -/
theorem exactDependents_iff (graph : List (String × List String)) (trigger : String) :
    ExactDependents graph trigger (sortedSet
      (affectedFrom graph graph.length [] [trigger]).toFinset) ↔
      ¬ TransGen (Depends graph) trigger trigger := by
  have member : ∀ id, id ∈ sortedSet (affectedFrom graph graph.length [] [trigger]).toFinset ↔
      TransGen (Depends graph) id trigger := fun id => by
    rw [mem_sortedSet, List.mem_toFinset, (affectedFrom_loop graph trigger).1]
  constructor
  · intro exact cyclic
    exact ((exact.exact trigger).mp ((member trigger).mpr cyclic)).1 rfl
  · intro acyclic
    refine ⟨sortedSet_ascending _, fun id => ?_⟩
    rw [member]
    constructor
    · intro reaches
      refine ⟨?_, reaches⟩
      rintro rfl
      exact acyclic reaches
    · exact And.right

/-! ### The dependents that a registry shows -/

variable {D : Type} [LinearOrder D] [DigestText D] [Sha256 D] {s t : RegistryStore D}

/-- The direct dependencies of the current projections. -/
def evidenceGraph (states : List (EvidenceUnit D)) : List (String × List String) :=
  states.map fun state => (state.evidenceId, state.dependencyIds)

def assumptionGraph (states : List (Assumption D)) : List (String × List String) :=
  states.map fun state => (state.assumptionId, state.assumptionDependencyIds)

theorem exec_affectedIds {type : RegistryType} {states : List (State D type)}
    {dependencyIds : State D type → List String} (read : (projections type).exec s = (.ok states, t)) :
    (affectedIds type dependencyIds trigger).exec s = (.ok (affectedFrom
      (states.map fun state => (state.entityId, dependencyIds state)) states.length []
        [trigger]).toFinset, t) := by
  unfold affectedIds
  rw [exec_bind_ok _ read]
  rfl

theorem exec_assumptionDependentIds {states : List (Assumption D)}
    (read : (projections .assumption).exec s = (.ok states, t)) :
    (assumptionDependentIds trigger).exec s = (.ok (sortedSet ((affectedFrom
      (assumptionGraph states) (assumptionGraph states).length [] [trigger]).toFinset.erase
        trigger)), t) := by
  have affected : (affectedIds .assumption Assumption.assumptionDependencyIds trigger :
      RegistryM D _).exec s = _ := exec_affectedIds read
  unfold assumptionDependentIds
  rw [exec_bind_ok _ affected,
    show (assumptionGraph states).length = states.length from List.length_map ..]
  rfl

theorem exec_evidenceDependentIds {states : List (EvidenceUnit D)}
    (read : (projections .evidenceUnit).exec s = (.ok states, t)) :
    (evidenceDependentIds trigger).exec s = (.ok (sortedSet (affectedFrom
      (evidenceGraph states) (evidenceGraph states).length [] [trigger]).toFinset), t) := by
  have affected : (affectedIds .evidenceUnit EvidenceUnit.dependencyIds trigger :
      RegistryM D _).exec s = _ := exec_affectedIds read
  unfold evidenceDependentIds
  rw [exec_bind_ok _ affected,
    show (evidenceGraph states).length = states.length from List.length_map ..]
  rfl

/-- On every graph the worklists end. That of assumptions returns the dependents of the trigger;
that of evidence does unless the trigger depends on itself through others. -/
theorem dependents_exact_iff :
    (∀ (graph : List (String × List String)) (trigger : String),
      dependentsLoop graph (graph.length + 1) [] [trigger] =
        some (affectedFrom graph graph.length [] [trigger]) ∧
      ExactDependents graph trigger (sortedSet
        ((affectedFrom graph graph.length [] [trigger]).toFinset.erase trigger)) ∧
      (ExactDependents graph trigger (sortedSet
        (affectedFrom graph graph.length [] [trigger]).toFinset) ↔
          ¬ TransGen (Depends graph) trigger trigger)) ∧
    (∀ (s t : RegistryStore D) (states : List (Assumption D)) (trigger : String),
      (projections .assumption).exec s = (.ok states, t) → ∃ ids,
        (assumptionDependentIds trigger).exec s = (.ok ids, t) ∧
        ExactDependents (assumptionGraph states) trigger ids) ∧
    ∀ (s t : RegistryStore D) (states : List (EvidenceUnit D)) (trigger : String),
      (projections .evidenceUnit).exec s = (.ok states, t) → ∃ ids,
        (evidenceDependentIds trigger).exec s = (.ok ids, t) ∧
        (ExactDependents (evidenceGraph states) trigger ids ↔
          ¬ TransGen (Depends (evidenceGraph states)) trigger trigger) := by
  refine ⟨fun graph trigger => ⟨(affectedFrom_loop graph trigger).2,
    exactDependents_erase graph trigger, exactDependents_iff graph trigger⟩, ?_, ?_⟩
  · intro s t states trigger read
    exact ⟨_, exec_assumptionDependentIds read, exactDependents_erase _ _⟩
  · intro s t states trigger read
    exact ⟨_, exec_evidenceDependentIds read, exactDependents_iff _ _⟩

/-! Two units that depend on one another, and two assumptions that do. -/
section Sample

def sampleUnit (evidenceId : String) (named : Temporal.schemaToken evidenceId = true)
    (dependency : String) : RegistryEvent (List Nat) :=
  { Assumptions.sampleEvent 0 none [] with
    registryType := .evidenceUnit
    projectionPhase := .evidenceRegistry
    payloadSchemaVersion := Evidence.payloadSchemaVersion
    version := by decide
    entityId := evidenceId
    token := named
    payload := [("dependency_ids", .arr [.str dependency]), ("expires_at_sequence", .null),
      ("issued_at_sequence", .int 1), ("issuer_authority_id", .str "issuer"),
      ("limitations", .arr []), ("maximum_reuse_class", .str "D1"), ("operation", .str "REGISTER"),
      ("proposition_id", .str "p"), ("scope_ids", .arr [.str "scope"]), ("source_id", .str "source"),
      ("valid_from_sequence", .int 1)] }

def sampleCycle : RegistryStore (List Nat) :=
  ((do
    let _ ← append (sampleUnit "a" Assumptions.sampleToken_a "b")
    let _ ← append (sampleUnit "b" Assumptions.sampleToken_b "a")
    let _ ← append (Assumptions.sampleNode "a" Assumptions.sampleToken_a ["b"])
    append (Assumptions.sampleNode "b" Assumptions.sampleToken_b ["a"]) : RegistryM (List Nat) _).exec .initial).2

def sampleArcs : List (String × List String) := [("a", ["b"]), ("b", ["a"])]

set_option maxRecDepth 100000 in
theorem sampleCycle_evidence : ∃ states t,
    (projections .evidenceUnit).exec sampleCycle = (.ok states, t) ∧
      evidenceGraph states = sampleArcs := by
  have computed : (((projections .evidenceUnit).exec sampleCycle).1.map evidenceGraph).toOption =
      some sampleArcs := by decide +kernel
  generalize (projections .evidenceUnit).exec sampleCycle = outcome at computed ⊢
  obtain ⟨_ | states, t⟩ := outcome
  · cases computed
  · exact ⟨states, t, rfl, Option.some.inj computed⟩

set_option maxRecDepth 100000 in
theorem sampleCycle_assumptions : ∃ states t,
    (projections .assumption).exec sampleCycle = (.ok states, t) ∧
      assumptionGraph states = sampleArcs := by
  have computed : (((projections .assumption).exec sampleCycle).1.map assumptionGraph).toOption =
      some sampleArcs := by decide +kernel
  generalize (projections .assumption).exec sampleCycle = outcome at computed ⊢
  obtain ⟨_ | states, t⟩ := outcome
  · cases computed
  · exact ⟨states, t, rfl, Option.some.inj computed⟩

theorem sampleArcs_cycle : TransGen (Depends sampleArcs) "a" "a" :=
  .head (b := "b") ⟨["b"], by decide, by decide⟩ (.single ⟨["a"], by decide, by decide⟩)

/-- The worklist of evidence returns a trigger that depends on itself through another unit. -/
theorem evidence_dependents_cycle :
    ¬ ∀ (s t : RegistryStore (List Nat)) (states : List (EvidenceUnit (List Nat)))
      (trigger : String), (projections .evidenceUnit).exec s = (.ok states, t) → ∃ ids,
        (evidenceDependentIds trigger).exec s = (.ok ids, t) ∧
        ExactDependents (evidenceGraph states) trigger ids := by
  intro always
  obtain ⟨states, t, read, graph⟩ := sampleCycle_evidence
  obtain ⟨ids, ran, exact⟩ := always _ _ _ "a" read
  rw [exec_evidenceDependentIds read, Prod.mk.injEq, Except.ok.injEq] at ran
  obtain ⟨rfl, -⟩ := ran
  rw [exactDependents_iff, graph] at exact
  exact exact sampleArcs_cycle

/-- The assumptions of the cycle get the dependents of "a" without it, the units with it. -/
theorem dependents_exact_iff_sample :
    (∃ ids, ((assumptionDependentIds "a").exec sampleCycle).1 = .ok ids ∧
      ExactDependents sampleArcs "a" ids) ∧
    ∃ ids, ((evidenceDependentIds "a").exec sampleCycle).1 = .ok ids ∧
      ¬ ExactDependents sampleArcs "a" ids := by
  obtain ⟨-, ofAssumptions, ofEvidence⟩ := @dependents_exact_iff (List Nat) _ _ _
  constructor
  · obtain ⟨states, t, read, graph⟩ := sampleCycle_assumptions
    obtain ⟨ids, ran, exact⟩ := ofAssumptions _ _ _ "a" read
    exact ⟨ids, by rw [ran], graph ▸ exact⟩
  · obtain ⟨states, t, read, graph⟩ := sampleCycle_evidence
    obtain ⟨ids, ran, exact⟩ := ofEvidence _ _ _ "a" read
    rw [graph] at exact
    exact ⟨ids, by rw [ran], fun exactly => exact.mp exactly sampleArcs_cycle⟩

end Sample
end CsdFoundry.Projection
