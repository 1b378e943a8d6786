import CsdFoundry.Storage.Quiet

/-! Programs by the updates that they use. A discipline takes one more invariant when the
updates of its programs keep it, and a change of the store is traced to the process that
made it. -/
namespace CsdFoundry.Storage

namespace Prog
variable {σ ε α β : Type} {U : (σ → σ) → Prop} {R : Except ε α → Prop}

/-- Every file operation is one of the updates `U`, and every outcome is in `R`. -/
def Within (U : (σ → σ) → Prop) (R : Except ε α → Prop) : Prog σ ε α → Prop
  | .done result => R result
  | .step update next fault => U update ∧ (∀ s, (next s).Within U R) ∧ fault.Within U R
  | .acquire next => next.Within U R
  | .release next => next.Within U R

abbrev Uses (U : (σ → σ) → Prop) (p : Prog σ ε α) : Prop := p.Within U fun _ => True

theorem Within.andThen {p : Prog σ ε α} {k : Except ε α → Prog σ ε β} {R' : Except ε β → Prop}
    (within : p.Within U R) (rest : ∀ result, R result → (k result).Within U R') :
    (p.andThen k).Within U R' := by
  induction p with
  | done result => exact rest result within
  | step update next fault ihNext ihFault =>
      obtain ⟨used, normal, failed⟩ := within
      exact ⟨used, fun s => ihNext s (normal s), ihFault failed⟩
  | acquire next ih => exact ih within
  | release next ih => exact ih within

theorem Within.imp {p : Prog σ ε α} {U' : (σ → σ) → Prop} (within : p.Within U R)
    (more : ∀ update, U update → U' update) : p.Within U' R := by
  induction p with
  | done result => exact within
  | step update next fault ihNext ihFault =>
      obtain ⟨used, normal, failed⟩ := within
      exact ⟨more update used, fun s => ihNext s (normal s), ihFault failed⟩
  | acquire next ih => exact ih within
  | release next ih => exact ih within

namespace Uses

theorem done (result : Except ε α) : (Prog.done result : Prog σ ε α).Uses U := True.intro

theorem atomically {fault : ε} {update : σ → σ} {view : σ → Except ε α} (used : U update) :
    (Prog.atomically fault update view).Uses U := ⟨used, fun _ => True.intro, True.intro⟩

theorem bind {p : Prog σ ε α} {f : α → Prog σ ε β} (uses : p.Uses U)
    (rest : ∀ a, (f a).Uses U) : (p >>= f).Uses U := by
  refine Within.andThen uses fun result _ => ?_
  cases result with
  | error e => exact done _
  | ok a => exact rest a

theorem locked {body : Prog σ ε α} (uses : body.Uses U) : (Prog.locked body).Uses U :=
  Within.andThen uses fun _ _ => True.intro

theorem of_quiet {p : Prog σ ε α} (quiet : p.Quiet) (still : U id) : p.Uses U := by
  induction p with
  | done result => exact done result
  | step update next fault ihNext ihFault =>
      obtain ⟨rfl, normal, failed⟩ := quiet
      exact ⟨still, fun s => ihNext s (normal s), ihFault failed⟩
  | acquire next => exact quiet.elim
  | release next => exact quiet.elim

/-- What the updates keep is kept by a history of calls, crashes included. -/
theorem alone {keeps : σ → Prop} (kept : ∀ update s, U update → keeps s → keeps (update s))
    {count : Nat} {state : Bool × Prog σ ε α × σ} (uses : state.2.1.Uses U)
    (holds : keeps state.2.2) : keeps (Prog.alone count state).2.2 := by
  fun_induction Prog.alone count state with
  | case1 state => exact holds
  | case2 n held update next fault s ih => exact ih (uses.2.1 s) (kept update s uses.1 holds)
  | case3 n next s ih => exact ih uses holds
  | case4 n next s ih => exact ih uses holds
  | case5 => exact holds

theorem history {keeps : σ → Prop} {calls : List (Prog σ ε α × Nat)} {s : σ}
    (kept : ∀ update s, U update → keeps s → keeps (update s))
    (uses : ∀ call ∈ calls, call.1.Uses U) (holds : keeps s) : keeps (Prog.history calls s) := by
  induction calls generalizing s with
  | nil => exact holds
  | cons call rest ih =>
      have first : keeps (call.1.crashAfter call.2 s) :=
        alone kept (uses call (by simp)) holds
      exact ih (fun other member => uses other (by simp [member])) first

end Uses

/-- No file operation changes the store. -/
abbrev Still (p : Prog σ ε α) : Prop := p.Uses (· = id)

theorem Still.exec_store {p : Prog σ ε α} (still : p.Still) : (p.exec s).2 = s := by
  induction p generalizing s with
  | done result => rfl
  | step update next fault ihNext ihFault =>
      obtain ⟨rfl, normal, -⟩ := still
      exact ihNext s (normal s)
  | acquire next ih => exact ih still
  | release next ih => exact ih still

theorem Still.same {p : Prog σ ε α} (still : p.Still) (ran : p.exec s = (result, t)) : s = t := by
  have untouched := still.exec_store (s := s)
  rw [ran] at untouched
  exact untouched.symm

/-- A converted result is one that the conversion makes. -/
theorem Within.map {p : Prog σ ε α} {f : α → β} {R' : Except ε β → Prop} (uses : p.Uses U)
    (made : ∀ result : Except ε α, R' (result.map f)) : (p.map f).Within U R' :=
  Within.andThen uses fun result _ => made result

/-- Whatever the program finds in the store, and whatever it finds there later, a value that it
returns is good. -/
abbrev Yields (p : Prog σ ε α) (good : α → Prop) : Prop :=
  p.Within (fun _ => True) fun result => ∀ a, result = .ok a → good a

namespace Yields
variable {good : α → Prop} {good' : β → Prop}

theorem pure {a : α} (met : good a) : (Pure.pure a : Prog σ ε α).Yields good := by
  rintro _ ⟨⟩
  exact met

theorem throw (e : ε) : (MonadExcept.throw e : Prog σ ε α).Yields good := nofun

theorem done {result : Except ε α} (met : ∀ a, result = .ok a → good a) :
    (Prog.done result : Prog σ ε α).Yields good := met

theorem require (condition : Prop) [Decidable condition] (otherwise : ε) :
    (Prog.require condition otherwise : Prog σ ε Unit).Yields fun _ => condition := by
  change ∀ a, (if condition then .ok () else .error otherwise : Except ε Unit) = .ok a → condition
  by_cases met : condition
  · exact fun _ _ => met
  · rw [if_neg met]
    nofun

theorem andThen {p : Prog σ ε α} {k : Except ε α → Prog σ ε β} (yields : p.Yields good)
    (rest : ∀ a, good a → (k (.ok a)).Yields good') (failed : ∀ e, (k (.error e)).Yields good') :
    (p.andThen k).Yields good' := by
  refine Within.andThen yields fun result met => ?_
  cases result with
  | error e => exact failed e
  | ok a => exact rest a (met a rfl)

theorem bind {p : Prog σ ε α} {f : α → Prog σ ε β} (yields : p.Yields good)
    (rest : ∀ a, good a → (f a).Yields good') : (p >>= f).Yields good' :=
  yields.andThen rest fun _ => nofun

theorem mono {p : Prog σ ε α} {more : α → Prop} (yields : p.Yields good)
    (imp : ∀ a, good a → more a) : p.Yields more := by
  induction p with
  | done result => exact fun a returned => imp a (yields a returned)
  | step update next fault ihNext ihFault =>
      obtain ⟨used, normal, failed⟩ := yields
      exact ⟨used, fun s => ihNext s (normal s), ihFault failed⟩
  | acquire next ih => exact ih yields
  | release next ih => exact ih yields

theorem any (p : Prog σ ε α) : p.Yields fun _ => True := by
  induction p with
  | done result => exact fun _ _ => True.intro
  | step update next fault ihNext ihFault => exact ⟨True.intro, ihNext, ihFault⟩
  | acquire next ih => exact ih
  | release next ih => exact ih

/-- The undisturbed run is one of the runs. -/
theorem exec {p : Prog σ ε α} (yields : p.Yields good) {s t : σ} {a : α}
    (ran : p.exec s = (.ok a, t)) : good a := by
  induction p generalizing s with
  | done result =>
      obtain ⟨rfl, -⟩ := Prod.mk.inj ran
      exact yields a rfl
  | step update next fault ihNext ihFault => exact ihNext s (yields.2.1 s) ran
  | acquire next ih => exact ih yields ran
  | release next ih => exact ih yields ran

end Yields
end Prog

namespace Discipline
variable {σ ε α : Type} {D : Discipline σ}

/-- The discipline with one more invariant. -/
def confined (D : Discipline σ) (extra : σ → Prop) : Discipline σ :=
  { D with inv := fun s => D.inv s ∧ extra s }

/-- What a process knows when it starts stays known to the end, and with it each of its
updates keeps the invariant that is added. -/
theorem Holds.confine {extra known : σ → Prop} {U : (σ → σ) → Prop} {locked : Bool}
    {p : Prog σ ε α} {post : Bool → Except ε α → σ → Prop}
    (stable : ∀ {s t}, D.act s t → known s → known t)
    (keeps : ∀ {update t}, U update → D.inv t → extra t → known t → D.act t (update t) →
      extra (update t))
    (uses : p.Uses U) (knows : known s) (holds : D.Holds locked p post s) :
    (D.confined extra).Holds locked p (fun l result t => post l result t ∧ known t) s := by
  have stays : ∀ {t u}, D.held t u → known t → known u := by
    intro t u held
    induction held with
    | refl => exact id
    | tail _ act ih => exact fun start => stable act (ih start)
  have later : ∀ {l t u}, D.env l t u → known t → known u := by
    intro l t u moves
    cases l
    · exact stays moves
    · exact stays (D.held_of_free moves)
  induction p generalizing locked s with
  | done result => exact fun t moves inv => ⟨holds t moves inv.1, later moves knows⟩
  | step update next fault ihNext ihFault =>
      obtain ⟨used, normal, failed⟩ := uses
      intro t moves inv
      obtain ⟨effect, kept, rest, before, after⟩ := holds t moves inv.1
      have now : known t := later moves knows
      have done : known (update t) := stable (effect_act effect) now
      have added : extra (update t) := keeps used inv.1 inv.2 now (effect_act effect)
      exact ⟨effect, ⟨kept, added⟩, ihNext t (normal t) done rest, ihFault failed now before,
        ihFault failed done after⟩
  | acquire next ih =>
      exact ⟨holds.1, fun t moves inv => ih uses (later moves knows) (holds.2 t moves inv.1)⟩
  | release next ih =>
      exact ⟨holds.1, fun t moves inv => ih uses (later moves knows) (holds.2 t moves inv.1)⟩

/-- Nothing is needed of a program that leaves the added invariant alone. -/
theorem Holds.confine_of_uses {extra : σ → Prop} {U : (σ → σ) → Prop} {locked : Bool}
    {p : Prog σ ε α} {post : Bool → Except ε α → σ → Prop}
    (keeps : ∀ {update t}, U update → D.inv t → extra t → D.act t (update t) → extra (update t))
    (uses : p.Uses U) (holds : D.Holds locked p post s) :
    (D.confined extra).Holds locked p post s := by
  have confined := holds.confine (fun _ _ => True.intro)
    (fun used inv kept _ => keeps used inv kept) uses True.intro
  exact confined.mono fun _ _ _ _ met => met.1

end Discipline

namespace Pool
variable {ι σ ε α : Type} [DecidableEq ι] {calls : ι → Prog σ ε α}

/-- A move of process `i`, which makes the call `p`. -/
inductive MoveBy (p : Prog σ ε α) (i : ι) (c : Pool ι σ ε α) : Pool ι σ ε α → Prop where
  | start (fresh : c.task i = none) : MoveBy p i c (c.set i (some p))
  | run (found : c.task i = some (.step update next fault)) :
      MoveBy p i c { c.set i (some (next c.store)) with store := update c.store }
  | faultBefore (found : c.task i = some (.step update next fault)) :
      MoveBy p i c (c.set i (some fault))
  | faultAfter (found : c.task i = some (.step update next fault)) :
      MoveBy p i c { c.set i (some fault) with store := update c.store }
  | acquire (found : c.task i = some (.acquire next)) (unowned : c.owner = none) :
      MoveBy p i c { c.set i (some next) with owner := some i }
  | release (found : c.task i = some (.release next)) (owned : c.owner = some i) :
      MoveBy p i c { c.set i (some next) with owner := none }
  | finish (found : c.task i = some (.done result)) : MoveBy p i c (c.set i none)
  | crash (found : c.task i = some q) :
      MoveBy p i c { c.set i none with owner := if c.owner = some i then none else c.owner }

/-- The runs in which each process makes its own call, again after it has returned or
crashed. -/
abbrev Runs (calls : ι → Prog σ ε α) : Pool ι σ ε α → Pool ι σ ε α → Prop :=
  Relation.ReflTransGen fun c c' => ∃ i, MoveBy (calls i) i c c'

theorem MoveBy.move {allowed : Prog σ ε α → Prop} {c c' : Pool ι σ ε α} (call : allowed p)
    (move : MoveBy p i c c') : Move allowed c c' := by
  cases move with
  | start fresh => exact .start i fresh call
  | run found => exact .run i found
  | faultBefore found => exact .faultBefore i found
  | faultAfter found => exact .faultAfter i found
  | acquire found unowned => exact .acquire i found unowned
  | release found owned => exact .release i found owned
  | finish found => exact .finish i found
  | crash found => exact .crash i found

theorem Runs.reaches {allowed : Prog σ ε α → Prop} {c c' : Pool ι σ ε α}
    (call : ∀ i, allowed (calls i)) (run : Runs calls c c') : Reaches allowed c c' := by
  induction run with
  | refl => exact .refl
  | tail _ move ih =>
      obtain ⟨i, move⟩ := move
      exact ih.tail (move.move (call i))

/-- A process makes moves of its own call while the others wait. -/
theorem Runs.beside (others : ι → Option (Prog σ ε α)) (i : ι) (count : Nat)
    (state : Bool × Prog σ ε α × σ) : Runs calls (Pool.beside others i state)
      (Pool.beside others i (Prog.alone count state)) :=
  beside_path i others (fun _ _ _ _ found => ⟨i, .run found⟩)
    (fun _ _ found unowned => ⟨i, .acquire found unowned⟩)
    (fun _ _ found owned => ⟨i, .release found owned⟩) count state

/-- The turn passes to another process that has been waiting. -/
theorem beside_comm {others : ι → Option (Prog σ ε α)} {i j : ι} (different : i ≠ j)
    (waiting stopped : Prog σ ε α) (s : σ) :
    beside (Function.update others j (some waiting)) i (false, stopped, s) =
      beside (Function.update others i (some stopped)) j (false, waiting, s) := by
  have tasks := Function.update_comm different (some stopped) (some waiting) others
  simp [beside, tasks]

/-- A process that has begun its call is overtaken by another one, and then goes on. -/
theorem Runs.overtaken {i j : ι} (different : i ≠ j) {waiting stopped : Prog σ ε α} {r s t : σ}
    {before : Nat} (began : Prog.alone before (false, calls i, r) = (false, waiting, s))
    {between : Nat} (ran : Prog.alone between (false, calls j, s) = (false, stopped, t))
    (after : Nat) : Runs calls (Pool.idle r)
      (Pool.beside (Function.update (fun _ => none) j (some stopped)) i
        (Prog.alone after (false, waiting, t))) := by
  have starts : ∀ (c : Pool ι σ ε α) k, c.task k = none →
      Runs calls c (c.set k (some (calls k))) := fun c k fresh => .single ⟨k, .start fresh⟩
  have begins := starts (Pool.idle r) i rfl
  have first : Runs calls _ _ :=
    Runs.beside (fun _ => none) i before (false, calls i, r)
  rw [began] at first
  have enters := starts (Pool.beside (fun _ => none) i (false, waiting, s)) j
    (by simp [Pool.beside, different.symm])
  have second : Runs calls _ _ :=
    Runs.beside (Function.update (fun _ => none) i (some waiting)) j between (false, calls j, s)
  rw [ran, beside_comm different.symm waiting stopped t] at second
  have third : Runs calls _ _ :=
    Runs.beside (Function.update (fun _ => none) j (some stopped)) i after (false, waiting, t)
  exact begins.trans (first.trans (enters.trans (second.trans third)))

/-- Every move is one of some process, where there is a call to make. -/
theorem Move.moveBy {allowed : Prog σ ε α → Prop} {c c' : Pool ι σ ε α}
    (move : Move allowed c c') (call : allowed p) : ∃ i q, allowed q ∧ MoveBy q i c c' := by
  cases move with
  | start i fresh call' => exact ⟨i, _, call', .start fresh⟩
  | run i found => exact ⟨i, p, call, .run found⟩
  | faultBefore i found => exact ⟨i, p, call, .faultBefore found⟩
  | faultAfter i found => exact ⟨i, p, call, .faultAfter found⟩
  | acquire i found unowned => exact ⟨i, p, call, .acquire found unowned⟩
  | release i found owned => exact ⟨i, p, call, .release found owned⟩
  | finish i found => exact ⟨i, p, call, .finish found⟩
  | crash i found => exact ⟨i, p, call, .crash found⟩

/-- What a process still has to do stays within what its call may do. -/
def Keeping (U : ι → (σ → σ) → Prop) (R : ι → Except ε α → Prop) (c : Pool ι σ ε α) : Prop :=
  ∀ i p, c.task i = some p → p.Within (U i) (R i)

variable {U : ι → (σ → σ) → Prop} {R : ι → Except ε α → Prop} {c c' : Pool ι σ ε α}

omit [DecidableEq ι] in
theorem Keeping.idle (s : σ) : Keeping U R (Pool.idle s) := fun i p found => by
  simp [Pool.idle] at found

theorem Keeping.set (keeping : Keeping U R c) {task : Option (Prog σ ε α)}
    (within : ∀ p, task = some p → p.Within (U i) (R i)) : Keeping U R (c.set i task) := by
  intro j p found
  by_cases same : j = i
  · subst same
    simp only [Pool.set, Function.update_self] at found
    exact within p found
  · simp only [Pool.set, Function.update_of_ne same] at found
    exact keeping j p found

theorem MoveBy.keeping (call : p.Within (U i) (R i)) (move : MoveBy p i c c')
    (keeping : Keeping U R c) : Keeping U R c' := by
  have next : ∀ q, c'.task = (c.set i (some q)).task → q.Within (U i) (R i) →
      Keeping U R c' := by
    intro q tasks within j r found
    rw [tasks] at found
    exact keeping.set (by rintro _ ⟨⟩; exact within) j r found
  have gone : c'.task = (c.set i none).task → Keeping U R c' := by
    intro tasks j r found
    rw [tasks] at found
    exact keeping.set (by rintro _ ⟨⟩) j r found
  cases move with
  | start fresh => exact next p rfl call
  | run found => exact next _ rfl ((keeping i _ found).2.1 c.store)
  | faultBefore found => exact next _ rfl (keeping i _ found).2.2
  | faultAfter found => exact next _ rfl (keeping i _ found).2.2
  | acquire found unowned =>
      have within := keeping i _ found
      exact next _ rfl within
  | release found owned =>
      have within := keeping i _ found
      exact next _ rfl within
  | finish found => exact gone rfl
  | crash found => exact gone rfl

theorem Runs.keeping (within : ∀ i, (calls i).Within (U i) (R i)) (run : Runs calls c c')
    (keeping : Keeping U R c) : Keeping U R c' := by
  induction run with
  | refl => exact keeping
  | tail _ move ih =>
      obtain ⟨i, move⟩ := move
      exact move.keeping (within i) ih

/-- A move leaves the store alone, or makes an update of the process that moves. -/
theorem MoveBy.updates (keeping : Keeping U R c) (move : MoveBy p i c c') :
    c'.store = c.store ∨ ∃ update, U i update ∧ c'.store = update c.store := by
  cases move with
  | run found => exact .inr ⟨_, (keeping i _ found).1, rfl⟩
  | faultAfter found => exact .inr ⟨_, (keeping i _ found).1, rfl⟩
  | start | faultBefore | acquire | release | finish | crash => exact .inl rfl

omit [DecidableEq ι] in
/-- The outcome of a process is one that its call can have. -/
theorem Keeping.outcome (keeping : Keeping U R c) (found : c.task i = some (.done result)) :
    R i result := keeping i _ found

end Pool
end CsdFoundry.Storage
