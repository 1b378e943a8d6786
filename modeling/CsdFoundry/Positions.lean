import Mathlib.Data.List.Infix

/-! Positions in trees with named children. Two trees are compared by the nodes at their positions,
and their outermost differences cover all the others. -/
namespace CsdFoundry.Positions
variable {V T N N' : Type} (child : V → T → Option V) (node : V → N) (node' : V → N')

/-- The subtree at a position, if there is one. -/
def subtree : Option V → List T → Option V
  | value, [] => value
  | value, token :: position => subtree (value.bind (child · token)) position

/-- The node at a position. -/
def nodeAt (value : Option V) (position : List T) : Option N :=
  (subtree child value position).map node

def Differs (a b : Option V) (position : List T) : Prop :=
  nodeAt child node a position ≠ nodeAt child node b position

/-- Two trees differ at the position and nowhere above it. -/
def Outermost (a b : Option V) (position : List T) : Prop :=
  Differs child node a b position ∧
    ∀ above, above <+: position → Differs child node a b above → above = position

def Covered (chosen : List T → Prop) (position : List T) : Prop :=
  ∃ top, chosen top ∧ top <+: position

/-- `c` is `a` with the subtrees at the chosen positions replaced, added or removed as in `b`. -/
def Replaced (chosen : List T → Prop) (a b c : Option V) : Prop :=
  ∀ position,
    (Covered chosen position → nodeAt child node c position = nodeAt child node b position) ∧
    (¬ Covered chosen position → nodeAt child node c position = nodeAt child node a position)

variable {child node node'} {a b c : Option V} {token : T} {position : List T}

@[simp] theorem subtree_none (position : List T) : subtree child none position = none := by
  induction position with
  | nil => rfl
  | cons token position ih => exact ih

theorem differs_comm : Differs child node a b position ↔ Differs child node b a position := ne_comm

theorem outermost_comm :
    Outermost child node a b position ↔ Outermost child node b a position := by
  simp only [Outermost, differs_comm (a := a)]

theorem outermost_nil : Outermost child node a b [] ↔ a.map node ≠ b.map node := by
  constructor
  · exact fun outermost => outermost.1
  · exact fun differs => ⟨differs, fun above inside _ => List.prefix_nil.mp inside⟩

theorem outermost_cons : Outermost child node a b (token :: position) ↔
    a.map node = b.map node ∧
      Outermost child node (a.bind (child · token)) (b.bind (child · token)) position := by
  constructor
  · rintro ⟨differs, alone⟩
    refine ⟨?_, differs, ?_⟩
    · by_contra root
      cases alone [] List.nil_prefix root
    · intro above inside other
      exact (List.cons.inj (alone (token :: above) ((List.prefix_cons_inj token).mpr inside) other)).2
  · rintro ⟨root, differs, alone⟩
    refine ⟨differs, fun above inside other => ?_⟩
    cases above with
    | nil => exact absurd root other
    | cons first above =>
        obtain ⟨rfl, rest⟩ := List.cons_prefix_cons.mp inside
        rw [alone above rest other]

/-- A tree that is there on one side only differs at its root. -/
theorem outermost_alone {value : V} :
    Outermost child node (some value) none position ↔ position = [] := by
  cases position with
  | nil => simp [outermost_nil]
  | cons token position => simp [outermost_cons]

theorem not_outermost_none : ¬ Outermost child node none none position :=
  fun outermost => outermost.1 rfl

/-- What holds of a tree and of the children of every tree it holds of, holds of its subtrees. -/
theorem subtree_induction {p : V → Prop} (below : ∀ x token y, p x → child x token = some y → p y)
    {x y : V} (root : p x) (found : subtree child (some x) position = some y) : p y := by
  induction position generalizing x with
  | nil =>
      cases found
      exact root
  | cons token position ih =>
      change subtree child (child x token) position = some y at found
      cases step : child x token with
      | none => simp [step] at found
      | some z =>
          rw [step] at found
          exact ih (below x token z root step) found

theorem exists_outermost (differs : Differs child node a b position) :
    ∃ top, top <+: position ∧ Outermost child node a b top := by
  induction position generalizing a b with
  | nil => exact ⟨[], List.prefix_rfl, outermost_nil.mpr differs⟩
  | cons token position ih =>
      by_cases root : a.map node = b.map node
      · obtain ⟨top, inside, outermost⟩ := ih differs
        exact ⟨token :: top, (List.prefix_cons_inj token).mpr inside,
          outermost_cons.mpr ⟨root, outermost⟩⟩
      · exact ⟨[], List.nil_prefix, outermost_nil.mpr root⟩

/-- Outside the outermost differences the trees agree. -/
theorem agree_outside (outside : ¬ Covered (Outermost child node a b) position) :
    nodeAt child node a position = nodeAt child node b position := by
  by_contra differs
  obtain ⟨top, inside, outermost⟩ := exists_outermost differs
  exact outside ⟨top, outermost, inside⟩

theorem agree_of_none (none : ∀ position, ¬ Outermost child node a b position)
    (position : List T) : nodeAt child node a position = nodeAt child node b position := by
  apply agree_outside
  rintro ⟨top, outermost, -⟩
  exact none top outermost

theorem replaced_self : Replaced child node (Outermost child node a b) a b b :=
  fun _ => ⟨fun _ => rfl, fun outside => (agree_outside outside).symm⟩

theorem Replaced.agrees (replaced : Replaced child node (Outermost child node a b) a b c)
    (position : List T) : nodeAt child node c position = nodeAt child node b position := by
  by_cases covered : Covered (Outermost child node a b) position
  · exact (replaced position).1 covered
  · rw [(replaced position).2 covered, agree_outside covered]

section Coarser

/-- What one labelling tells apart, a finer one does. -/
theorem nodeAt_coarser (coarser : ∀ x y, node x = node y → node' x = node' y)
    (same : nodeAt child node a position = nodeAt child node b position) :
    nodeAt child node' a position = nodeAt child node' b position := by
  unfold nodeAt at same ⊢
  cases first : subtree child a position with
  | none =>
      cases second : subtree child b position with
      | none => rfl
      | some y => simp [first, second] at same
  | some x =>
      cases second : subtree child b position with
      | none => simp [first, second] at same
      | some y =>
          rw [first, second] at same
          exact congrArg some (coarser x y (Option.some.inj same))

/-- A labelling finds the outermost differences of a finer one when it misses none of them. -/
theorem outermost_coarser (coarser : ∀ x y, node x = node y → node' x = node' y)
    (kept : ∀ position, Outermost child node a b position → Differs child node' a b position) :
    Outermost child node' a b position ↔ Outermost child node a b position := by
  have finer : ∀ position, Differs child node' a b position → Differs child node a b position :=
    fun position differs same => differs (nodeAt_coarser coarser same)
  have found : ∀ position, Outermost child node a b position →
      Outermost child node' a b position :=
    fun position outermost => ⟨kept position outermost, fun above inside differs =>
      outermost.2 above inside (finer above differs)⟩
  constructor
  · intro outermost
    obtain ⟨top, inside, first⟩ := exists_outermost (finer _ outermost.1)
    obtain rfl : top = position := outermost.2 top inside (found top first).1
    exact first
  · exact found position

end Coarser
end CsdFoundry.Positions
