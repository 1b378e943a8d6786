import CsdFoundry.Search.Replay
import CsdFoundry.Storage.Confined

/-! A depth-first search by a program that reads its graph from a store. The store may change
between any two reads, and the records that the search leaves still replay. -/
namespace CsdFoundry.Search
open Storage
variable {ν ρ σ ε : Type} [DecidableEq ν] {key : ρ → ν} {children : ρ → Option (List ν)}
  {examine : ν → Prog σ ε (Finding ν ρ)} {stack vs : List ν} {p : Progress ν ρ} {v : ν}

/-- The search ran out of fuel, or its records replay to the same end. -/
def Replayable (key : ρ → ν) (children : ρ → Option (List ν)) (stack : List ν)
    (p : Progress ν ρ) (vs : List ν) (outcome : Option (Halt ν ρ) × Progress ν ρ) : Prop :=
  outcome.1 = some .exhausted ∨ ∃ found, outcome.2.entered = p.entered ++ found ∧
    ∀ rest, Replays key children stack p vs (found ++ rest) outcome.1 outcome.2 rest

/-- The same of the visit of the first pending node: its records go before those of the rest. -/
def ReplayableVisit (key : ρ → ν) (children : ρ → Option (List ν)) (stack : List ν)
    (p : Progress ν ρ) (v : ν) (vs : List ν) (outcome : Option (Halt ν ρ) × Progress ν ρ) : Prop :=
  outcome.1 = some .exhausted ∨ ∃ found, outcome.2.entered = p.entered ++ found ∧
    (∀ halt, outcome.1 = some halt →
      ∀ rest, Replays key children stack p (v :: vs) (found ++ rest) (some halt) outcome.2 rest) ∧
    (outcome.1 = none → ∀ {records halt q left},
      Replays key children stack outcome.2 vs records halt q left →
        Replays key children stack p (v :: vs) (found ++ records) halt q left)

/-- What is below a node that is walked replays, and so does the visit of the node. -/
theorem replayableVisit_below {record : ρ} {below : List ν} {halt : Option (Halt ν ρ)}
    {q : Progress ν ρ} (fresh : Fresh true stack p v) (own : key record = v)
    (found : children record = some below)
    (inside : Replayable key children (stack ++ [v]) (p.follow.enter record) below (halt, q)) :
    ReplayableVisit key children stack p v vs
      (halt, if halt = none then q.leave v record else q) := by
  rcases inside with out | ⟨taken, entered, replays⟩
  · exact .inl out
  cases halt with
  | none =>
      refine .inr ⟨record :: taken, by simpa using entered, nofun, ?_⟩
      intro _ records halt q' left rest
      exact .finished fresh own found (replays records) rest
  | some halt =>
      refine .inr ⟨record :: taken, by simpa using entered, ?_, nofun⟩
      rintro _ ⟨⟩ rest
      exact .halted fresh own found (replays rest)

/-- The visit of one node, for sweeps of what is below it that replay. -/
theorem yields_visit
    (examined : ∀ v, (examine v).Yields fun finding =>
      ∃ record, finding = findingOf children record ∧ key record = v)
    (deeper : ∀ stack p vs, (sweepM (visitM examine true fuel stack) p vs).Yields
      (Replayable key children stack p vs)) (vs : List ν) :
    (visitM examine true (fuel + 1) stack p.follow v).Yields
      (ReplayableVisit key children stack p v vs) := by
  unfold visitM
  split_ifs with onStack known
  · refine .pure (.inr ⟨[], (List.append_nil _).symm, ?_, fun ended => by cases ended⟩)
    rintro _ ⟨⟩ rest
    exact .cycle onStack
  · exact .pure (.inr ⟨[], (List.append_nil _).symm, fun _ halted => (by cases halted),
      fun _ _ _ _ _ rest => .seen onStack known.2 rest⟩)
  · have fresh : Fresh true stack p v := ⟨onStack, known⟩
    refine .bind (examined v) ?_
    rintro _ ⟨record, rfl, own⟩
    cases found : children record with
    | none =>
        simp only [findingOf, found]
        refine .pure (.inr ⟨[record], rfl, ?_, fun ended => by cases ended⟩)
        rintro _ ⟨⟩ rest
        exact .stopped fresh own found
    | some below =>
        simp only [findingOf, found]
        refine .bind (deeper (stack ++ [v]) (p.follow.enter record) below) ?_
        rintro ⟨_ | halt, q⟩ inside
        · exact .pure (replayableVisit_below fresh own found inside)
        · exact .pure (replayableVisit_below fresh own found inside)

theorem yields_sweep
    (examined : ∀ v, (examine v).Yields fun finding =>
      ∃ record, finding = findingOf children record ∧ key record = v)
    (fuel : Nat) (stack : List ν) (p : Progress ν ρ) (vs : List ν) :
    (sweepM (visitM examine true fuel stack) p vs).Yields
      (Replayable key children stack p vs) := by
  induction fuel generalizing stack p vs with
  | zero =>
      cases vs with
      | nil => exact .pure (.inr ⟨[], (List.append_nil _).symm, fun _ => .nil⟩)
      | cons v vs => exact .pure (.inl rfl)
  | succ fuel ih =>
      induction vs generalizing p with
      | nil => exact .pure (.inr ⟨[], (List.append_nil _).symm, fun _ => .nil⟩)
      | cons v vs later =>
          refine .bind (yields_visit examined ih vs) ?_
          rintro ⟨_ | halt, q⟩ (out | ⟨found, entered, halted, onward⟩)
          · cases out
          · refine (later q).mono ?_
            rintro ⟨halt, q'⟩ (out | ⟨found', entered', replays⟩)
            · exact .inl out
            · refine .inr ⟨found ++ found', by rw [entered', entered, List.append_assoc], ?_⟩
              intro rest
              rw [List.append_assoc]
              exact onward rfl (replays rest)
          · exact .pure (.inl out)
          · exact .pure (.inr ⟨found, entered, halted halt rfl⟩)

end CsdFoundry.Search
