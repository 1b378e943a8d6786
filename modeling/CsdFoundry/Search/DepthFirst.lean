import Mathlib.Data.List.Chain
import Mathlib.Data.List.Nodup
import Mathlib.Data.List.Perm.Subperm
import Mathlib.Logic.Relation

/-! Depth-first search of graphs that are known only by examining their nodes, one effect each.
A search that does not remember the nodes it has left walks shared nodes again. -/
namespace CsdFoundry.Search
open Relation

/-- What the examination of a node yields: its record and the nodes to go on to, or the
record on which the search stops. -/
inductive Finding (ν ρ : Type) where
  | expand (record : ρ) (children : List ν)
  | stop (record : ρ)
  deriving DecidableEq

inductive Halt (ν ρ : Type) where
  | cycle (path : List ν)
  | stopped (record : ρ)
  | exhausted
  deriving DecidableEq

/-- The records in the order of discovery, the nodes that were left (the latest first), and
the number of edges followed. -/
structure Progress (ν ρ : Type) where
  entered : List ρ := []
  left : List (ν × ρ) := []
  edges : Nat := 0
  deriving DecidableEq

variable {ν ρ : Type}

namespace Progress

def follow (p : Progress ν ρ) : Progress ν ρ := { p with edges := p.edges + 1 }

def enter (p : Progress ν ρ) (record : ρ) : Progress ν ρ :=
  { p with entered := p.entered ++ [record] }

def leave (p : Progress ν ρ) (v : ν) (record : ρ) : Progress ν ρ :=
  { p with left := (v, record) :: p.left }

def done (p : Progress ν ρ) : List ν := p.left.map Prod.fst

variable {p : Progress ν ρ} {v : ν} {record : ρ}

@[simp] theorem follow_entered : p.follow.entered = p.entered := rfl
@[simp] theorem follow_left : p.follow.left = p.left := rfl
@[simp] theorem enter_entered : (p.enter record).entered = p.entered ++ [record] := rfl
@[simp] theorem enter_left : (p.enter record).left = p.left := rfl
@[simp] theorem leave_entered : (p.leave v record).entered = p.entered := rfl
@[simp] theorem leave_left : (p.leave v record).left = (v, record) :: p.left := rfl

end Progress

section Monadic
variable {m : Type → Type} [Monad m]

/-- Visit the nodes in order, until a visit halts. -/
def sweepM (step : Progress ν ρ → ν → m (Option (Halt ν ρ) × Progress ν ρ)) :
    Progress ν ρ → List ν → m (Option (Halt ν ρ) × Progress ν ρ)
  | p, [] => pure (none, p)
  | p, v :: vs => do
      match ← step p.follow v with
      | (some halt, q) => pure (some halt, q)
      | (none, q) => sweepM step q vs

/-- Visit one node below the stack, which has the root of the search first. -/
def visitM [DecidableEq ν] (examine : ν → m (Finding ν ρ)) (memo : Bool) :
    Nat → List ν → Progress ν ρ → ν → m (Option (Halt ν ρ) × Progress ν ρ)
  | 0, _, p, _ => pure (some .exhausted, p)
  | fuel + 1, stack, p, v =>
      if v ∈ stack then pure (some (.cycle (stack.dropWhile (· ≠ v) ++ [v])), p)
      else if memo = true ∧ v ∈ p.done then pure (none, p)
      else do
        match ← examine v with
        | .stop record => pure (some (.stopped record), p.enter record)
        | .expand record children => do
            match ← sweepM (visitM examine memo fuel (stack ++ [v])) (p.enter record) children with
            | (some halt, q) => pure (some halt, q)
            | (none, q) => pure (none, q.leave v record)

end Monadic

variable [DecidableEq ν]

/-- The part of the stack from the node on, closed. -/
def pathTo (stack : List ν) (v : ν) : List ν := stack.dropWhile (· ≠ v) ++ [v]

/-- The node is walked, not skipped. -/
def Fresh (memo : Bool) (stack : List ν) (p : Progress ν ρ) (v : ν) : Prop :=
  v ∉ stack ∧ ¬ (memo = true ∧ v ∈ p.done)

end CsdFoundry.Search
