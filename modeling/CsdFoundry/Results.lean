import Mathlib.Data.List.Perm.Basic

/-! Lists of results: all of them are collected, or the first failure is. -/
namespace CsdFoundry.Results

/-- The results in order, or the first failure. -/
def collect : List (Except ε α) → Except ε (List α)
  | [] => .ok []
  | result :: results => do
      let value ← result
      let values ← collect results
      .ok (value :: values)

/-- A check that raises unless its condition holds. -/
def ensure (condition : Prop) [Decidable condition] (otherwise : ε) : Except ε Unit :=
  if condition then .ok () else .error otherwise

/-- Every input passes the check, or the first failure. -/
def checkAll (check : α → Except ε Unit) : List α → Except ε Unit
  | [] => .ok ()
  | input :: inputs => do
      check input
      checkAll check inputs

variable {ε α β : Type} {results : List (Except ε α)} {values : List α}

/-- A projection that ends in a value that passes a check. -/
theorem ok_some_of_join {result : Except ε (Option α)} {check : α → Bool}
    (passes : result.toOption.join.map check = some true) :
    ∃ value, result = .ok (some value) ∧ check value = true := by
  rcases result with failure | _ | value
  · cases passes
  · cases passes
  · exact ⟨value, rfl, Option.some.inj passes⟩

theorem bind_ok {first : Except ε α} {next : α → Except ε β} {b : β} :
    (first >>= next) = .ok b ↔ ∃ a, first = .ok a ∧ next a = .ok b := by
  cases first <;> simp [bind, Except.bind]

theorem ok_bind (a : α) (next : α → Except ε β) : (Except.ok a >>= next) = next a := rfl

theorem mapError_ok {result : Except ε α} {f : ε → ε'} {a : α} :
    result.mapError f = .ok a ↔ result = .ok a := by
  cases result <;> simp [Except.mapError]

theorem ensure_ok {condition : Prop} [Decidable condition] {otherwise : ε} :
    ensure condition otherwise = .ok () ↔ condition := by
  unfold ensure
  split_ifs with held <;> simp [held]

theorem ensure_bind {condition : Prop} [Decidable condition] {otherwise : ε}
    {next : Unit → Except ε β} {b : β} :
    (ensure condition otherwise >>= next) = .ok b ↔ condition ∧ next () = .ok b := by
  unfold ensure
  split_ifs with held
  · simp [bind, Except.bind, held]
  · simp [bind, Except.bind, held]

theorem collect_cons {result : Except ε α} : collect (result :: results) = .ok values ↔
    ∃ value rest, result = .ok value ∧ collect results = .ok rest ∧ values = value :: rest := by
  cases result with
  | error failure => simp [collect, bind, Except.bind]
  | ok value =>
      cases others : collect results with
      | error failure => simp [collect, bind, Except.bind, others]
      | ok rest => simp [collect, bind, Except.bind, others, eq_comm]

theorem collect_eq_ok : collect results = .ok values ↔ results = values.map .ok := by
  induction results generalizing values with
  | nil => simp [collect, eq_comm]
  | cons result results ih =>
      rw [collect_cons, eq_comm, List.map_eq_cons_iff]
      constructor
      · rintro ⟨value, rest, rfl, others, rfl⟩
        exact ⟨value, rest, rfl, rfl, (ih.mp others).symm⟩
      · rintro ⟨value, rest, rfl, rfl, others⟩
        exact ⟨value, rest, rfl, ih.mpr others.symm, rfl⟩

/-- A permutation of an image is the image of a permutation. -/
theorem image_perm {f : α → β} {images images' : List β} {values : List α}
    (same : images.Perm images') (image : images = values.map f) :
    ∃ values', images' = values'.map f ∧ values.Perm values' := by
  induction same generalizing values with
  | nil => exact ⟨[], rfl, by simpa using image.symm⟩
  | cons _ _ ih =>
      obtain ⟨value, rest, rfl, rfl, others⟩ := List.map_eq_cons_iff.mp image.symm
      obtain ⟨values', rfl, perm⟩ := ih others.symm
      exact ⟨value :: values', rfl, perm.cons value⟩
  | swap _ _ _ =>
      obtain ⟨value, rest, rfl, rfl, others⟩ := List.map_eq_cons_iff.mp image.symm
      obtain ⟨value', rest, rfl, rfl, rfl⟩ := List.map_eq_cons_iff.mp others
      exact ⟨value' :: value :: rest, rfl, .swap ..⟩
  | trans _ _ ih ih' =>
      obtain ⟨values', rfl, perm⟩ := ih image
      obtain ⟨values'', rfl, perm'⟩ := ih' rfl
      exact ⟨values'', rfl, perm.trans perm'⟩

theorem mem_of_results {f : α → Except ε β} {inputs : List α} {values : List β}
    (results : inputs.map f = values.map .ok) {value : β} (member : value ∈ values) :
    ∃ input ∈ inputs, f input = .ok value := by
  have among : Except.ok value ∈ inputs.map f := by
    rw [results]
    exact List.mem_map_of_mem member
  exact List.mem_map.mp among

/-- Checks that return what they are given. -/
theorem results_checked {check : α → Except ε α} (same : ∀ a b, check a = .ok b → b = a)
    {inputs values : List α} (results : inputs.map check = values.map .ok) : values = inputs := by
  induction inputs generalizing values with
  | nil => simpa using results.symm
  | cons input inputs ih =>
      obtain ⟨value, rest, rfl, mine, others⟩ := List.map_eq_cons_iff.mp results.symm
      rw [same input value mine.symm, ih others.symm]

/-- One input may be exchanged for another that succeeds. -/
theorem results_exchange {f : α → Except ε β} {front back : List α} {input : α} {values : List β}
    (results : (front ++ input :: back).map f = values.map .ok) :
    ∃ first value last, values = first ++ value :: last ∧ f input = .ok value ∧
      ∀ input' value', f input' = .ok value' →
        (front ++ input' :: back).map f = (first ++ value' :: last).map .ok := by
  rw [List.map_append, List.map_cons, eq_comm, List.map_eq_append_iff] at results
  obtain ⟨first, rest, rfl, front', rest'⟩ := results
  obtain ⟨value, last, rfl, mine, back'⟩ := List.map_eq_cons_iff.mp rest'
  refine ⟨first, value, last, rfl, mine.symm, ?_⟩
  intro input' value' succeeds
  rw [List.map_append, List.map_append, List.map_cons, List.map_cons, front', back', succeeds]

/-! ### First failures -/

theorem bind_failed {first : Except ε α} {next : α → Except ε β} {failure : ε}
    (failed : (first >>= next) = .error failure) :
    first = .error failure ∨ ∃ a, first = .ok a ∧ next a = .error failure := by
  cases first with
  | error other =>
      cases failed
      exact .inl rfl
  | ok a => exact .inr ⟨a, rfl, failed⟩

/-- The first failure is what is raised, once everything before it succeeds. -/
theorem collect_first {f : α → Except ε β} {front back : List α} {input : α} {failure : ε}
    (before : ∀ other ∈ front, ∃ value, f other = .ok value) (fails : f input = .error failure) :
    collect ((front ++ input :: back).map f) = .error failure := by
  induction front with
  | nil =>
      rw [List.nil_append, List.map_cons, collect, fails]
      rfl
  | cons first front ih =>
      obtain ⟨head, tail⟩ := List.forall_mem_cons.mp before
      obtain ⟨value, found⟩ := head
      rw [List.cons_append, List.map_cons, collect, found, ih tail]
      rfl

theorem first_of_collect {f : α → Except ε β} {inputs : List α} {failure : ε}
    (failed : collect (inputs.map f) = .error failure) :
    ∃ front input back, inputs = front ++ input :: back ∧
      (∀ other ∈ front, ∃ value, f other = .ok value) ∧ f input = .error failure := by
  induction inputs with
  | nil => cases failed
  | cons input inputs ih =>
      rw [List.map_cons, collect] at failed
      rcases bind_failed failed with mine | ⟨value, found, failed⟩
      · exact ⟨[], input, inputs, rfl, fun other none => absurd none List.not_mem_nil, mine⟩
      rcases bind_failed failed with others | ⟨values, -, failed⟩
      · obtain ⟨front, first, back, rfl, before, fails⟩ := ih others
        exact ⟨input :: front, first, back, rfl,
          List.forall_mem_cons.mpr ⟨⟨value, found⟩, before⟩, fails⟩
      · cases failed

theorem checkAll_eq {check : α → Except ε Unit} (inputs : List α) :
    checkAll check inputs = (collect (inputs.map check)).map fun _ => () := by
  induction inputs with
  | nil => rfl
  | cons input inputs ih =>
      rw [checkAll, ih, List.map_cons, collect]
      cases check input with
      | error failure => rfl
      | ok passed => cases collect (inputs.map check) <;> rfl

theorem checkAll_ok {check : α → Except ε Unit} {inputs : List α} :
    checkAll check inputs = .ok () ↔ ∀ input ∈ inputs, check input = .ok () := by
  induction inputs with
  | nil => simp [checkAll]
  | cons input inputs ih =>
      rw [checkAll, bind_ok, List.forall_mem_cons, ← ih]
      exact ⟨fun ⟨_, first, rest⟩ => ⟨first, rest⟩, fun ⟨first, rest⟩ => ⟨(), first, rest⟩⟩

/-- A check fails as the first input does that fails it. -/
theorem checkAll_error {check : α → Except ε Unit} {inputs : List α} {failure : ε} :
    checkAll check inputs = .error failure ↔ ∃ front input back, inputs = front ++ input :: back ∧
      (∀ other ∈ front, check other = .ok ()) ∧ check input = .error failure := by
  rw [checkAll_eq]
  constructor
  · intro failed
    cases collected : collect (inputs.map check) with
    | ok values =>
        rw [collected] at failed
        cases failed
    | error other =>
        rw [collected] at failed
        cases failed
        obtain ⟨front, input, back, split, before, fails⟩ := first_of_collect collected
        exact ⟨front, input, back, split, fun other first => (before other first).choose_spec, fails⟩
  · rintro ⟨front, input, back, rfl, before, fails⟩
    rw [collect_first (fun other first => ⟨(), before other first⟩) fails]
    rfl

/-! ### Kinds of failures -/

/-- Whatever is raised is of this kind. -/
def Raises (kind : ε → Prop) (result : Except ε α) : Prop :=
  ∀ error, result = .error error → kind error

variable {kind : ε → Prop}

theorem raises_ok (a : α) : Raises kind (.ok a : Except ε α) := nofun

theorem raises_error {error : ε} : Raises kind (.error error : Except ε α) ↔ kind error := by
  constructor
  · exact fun raises => raises error rfl
  · rintro held _ ⟨⟩
    exact held

theorem raises_bind {first : Except ε α} {next : α → Except ε β} :
    Raises kind (first >>= next) ↔
      Raises kind first ∧ ∀ a, first = .ok a → Raises kind (next a) := by
  cases first with
  | error error =>
      change Raises kind (.error error) ↔ _
      simp [raises_error]
  | ok a =>
      change Raises kind (next a) ↔ _
      simp [raises_ok]

end CsdFoundry.Results
