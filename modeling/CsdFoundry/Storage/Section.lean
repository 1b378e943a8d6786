import CsdFoundry.Storage.Confined

/-! Critical sections: what a process may still do before it next takes the lock or gives it
back. While an alarm is raised in the store, the holder of the lock keeps to safe updates,
provided that nobody enters or raises the alarm at the wrong moment. -/
namespace CsdFoundry.Storage

namespace Prog
variable {σ ε α β : Type} {U V calm : (σ → σ) → Prop}

/-- Every file operation up to the next one on the lock is one of the updates `U`. -/
def Section (U : (σ → σ) → Prop) : Prog σ ε α → Prop
  | .done _ => True
  | .step update next fault => U update ∧ (∀ s, (next s).Section U) ∧ fault.Section U
  | .acquire _ => True
  | .release _ => True

/-- Once an update is not `calm`, the updates `U` are all that follows in its section. -/
def Settles (calm U : (σ → σ) → Prop) : Prog σ ε α → Prop
  | .done _ => True
  | .step update next fault =>
      (calm update ∨ (∀ s, (next s).Section U) ∧ fault.Section U) ∧
        (∀ s, (next s).Settles calm U) ∧ fault.Settles calm U
  | .acquire next => next.Settles calm U
  | .release next => next.Settles calm U

namespace Section

theorem andThen {p : Prog σ ε α} {k : Except ε α → Prog σ ε β} (first : p.Section U)
    (rest : ∀ result, (k result).Section U) : (p.andThen k).Section U := by
  induction p with
  | done result => exact rest result
  | step update next fault ihNext ihFault =>
      obtain ⟨used, normal, failed⟩ := first
      exact ⟨used, fun s => ihNext s (normal s), ihFault failed⟩
  | acquire next => trivial
  | release next => trivial

theorem bind {p : Prog σ ε α} {f : α → Prog σ ε β} (first : p.Section U)
    (rest : ∀ a, (f a).Section U) : (p >>= f).Section U := by
  refine first.andThen fun result => ?_
  cases result with
  | error e => trivial
  | ok a => exact rest a

theorem tryCatch {p : Prog σ ε α} {handler : ε → Prog σ ε α} (first : p.Section U)
    (handled : ∀ e, (handler e).Section U) : (tryCatch p handler).Section U := by
  refine first.andThen fun result => ?_
  cases result with
  | error e => exact handled e
  | ok a => trivial

theorem map {p : Prog σ ε α} (f : α → β) (first : p.Section U) : (p.map f).Section U :=
  first.andThen fun _ => True.intro

theorem of_uses {p : Prog σ ε α} (uses : p.Uses U) : p.Section U := by
  induction p with
  | done result => trivial
  | step update next fault ihNext ihFault =>
      obtain ⟨used, normal, failed⟩ := uses
      exact ⟨used, fun s => ihNext s (normal s), ihFault failed⟩
  | acquire next => trivial
  | release next => trivial

theorem imp {p : Prog σ ε α} (first : p.Section U) (more : ∀ update, U update → V update) :
    p.Section V := by
  induction p with
  | done result => trivial
  | step update next fault ihNext ihFault =>
      obtain ⟨used, normal, failed⟩ := first
      exact ⟨more update used, fun s => ihNext s (normal s), ihFault failed⟩
  | acquire next => trivial
  | release next => trivial

end Section

namespace Settles

theorem andThen {p : Prog σ ε α} {k : Except ε α → Prog σ ε β} (first : p.Settles calm U)
    (rest : ∀ result, (k result).Settles calm U) (after : ∀ result, (k result).Section U) :
    (p.andThen k).Settles calm U := by
  induction p with
  | done result => exact rest result
  | step update next fault ihNext ihFault =>
      obtain ⟨settled, normal, failed⟩ := first
      refine ⟨?_, fun s => ihNext s (normal s), ihFault failed⟩
      rcases settled with still | ⟨normally, faulty⟩
      · exact .inl still
      · exact .inr ⟨fun s => (normally s).andThen after, faulty.andThen after⟩
  | acquire next ih => exact ih first
  | release next ih => exact ih first

theorem bind {p : Prog σ ε α} {f : α → Prog σ ε β} (first : p.Settles calm U)
    (rest : ∀ a, (f a).Settles calm U) (after : ∀ a, (f a).Section U) :
    (p >>= f).Settles calm U := by
  refine first.andThen (fun result => ?_) fun result => ?_
  · cases result with
    | error e => trivial
    | ok a => exact rest a
  · cases result with
    | error e => trivial
    | ok a => exact after a

/-- After calm updates nothing is asked of the rest of the section. -/
theorem andThen_of_calm {p : Prog σ ε α} {k : Except ε α → Prog σ ε β} (uses : p.Uses calm)
    (rest : ∀ result, (k result).Settles calm U) : (p.andThen k).Settles calm U := by
  induction p with
  | done result => exact rest result
  | step update next fault ihNext ihFault =>
      obtain ⟨used, normal, failed⟩ := uses
      exact ⟨.inl used, fun s => ihNext s (normal s), ihFault failed⟩
  | acquire next ih => exact ih uses
  | release next ih => exact ih uses

theorem bind_of_calm {p : Prog σ ε α} {f : α → Prog σ ε β} (uses : p.Uses calm)
    (rest : ∀ a, (f a).Settles calm U) : (p >>= f).Settles calm U := by
  refine andThen_of_calm uses fun result => ?_
  cases result with
  | error e => trivial
  | ok a => exact rest a

theorem of_calm {p : Prog σ ε α} (uses : p.Uses calm) : p.Settles calm U := by
  induction p with
  | done result => trivial
  | step update next fault ihNext ihFault =>
      obtain ⟨used, normal, failed⟩ := uses
      exact ⟨.inl used, fun s => ihNext s (normal s), ihFault failed⟩
  | acquire next ih => exact ih uses
  | release next ih => exact ih uses

theorem tryCatch {p : Prog σ ε α} {handler : ε → Prog σ ε α} (first : p.Settles calm U)
    (handled : ∀ e, (handler e).Settles calm U) (after : ∀ e, (handler e).Section U) :
    (tryCatch p handler).Settles calm U := by
  refine first.andThen (fun result => ?_) fun result => ?_
  · cases result with
    | error e => exact handled e
    | ok a => trivial
  · cases result with
    | error e => exact after e
    | ok a => trivial

theorem map {p : Prog σ ε α} (f : α → β) (first : p.Settles calm U) :
    (p.map f).Settles calm U :=
  first.andThen (fun _ => True.intro) fun _ => True.intro

theorem locked {body : Prog σ ε α} (first : body.Settles calm U) :
    (Prog.locked body).Settles calm U :=
  first.andThen (fun _ => True.intro) fun _ => True.intro

theorem imp {p : Prog σ ε α} (first : p.Settles calm U) (more : ∀ update, U update → V update) :
    p.Settles calm V := by
  induction p with
  | done result => trivial
  | step update next fault ihNext ihFault =>
      obtain ⟨settled, normal, failed⟩ := first
      refine ⟨?_, fun s => ihNext s (normal s), ihFault failed⟩
      rcases settled with still | ⟨normally, faulty⟩
      · exact .inl still
      · exact .inr ⟨fun s => (normally s).imp more, faulty.imp more⟩
  | acquire next ih => exact ih first
  | release next ih => exact ih first

end Settles
end Prog

namespace Pool
variable {ι σ ε α : Type} [DecidableEq ι] {U calm : (σ → σ) → Prop} {alarm : σ → Prop}
  {c c' : Pool ι σ ε α}

/-- Every process settles once its updates are not calm any more. -/
def Settled (calm U : (σ → σ) → Prop) (c : Pool ι σ ε α) : Prop :=
  ∀ i p, c.task i = some p → p.Settles calm U

/-- While the alarm is raised the holder of the lock makes the updates `U` alone. -/
def Guarded (alarm : σ → Prop) (U : (σ → σ) → Prop) (c : Pool ι σ ε α) : Prop :=
  alarm c.store → ∀ i p, c.owner = some i → c.task i = some p → p.Section U

omit [DecidableEq ι] in
theorem Settled.idle (s : σ) : Settled calm U (Pool.idle s : Pool ι σ ε α) := fun i p found => by
  simp [Pool.idle] at found

omit [DecidableEq ι] in
theorem Guarded.idle (s : σ) : Guarded alarm U (Pool.idle s : Pool ι σ ε α) :=
  fun _ i p owned => by simp [Pool.idle] at owned

theorem Settled.set (settled : Settled calm U c) {task : Option (Prog σ ε α)}
    (settles : ∀ p, task = some p → p.Settles calm U) : Settled calm U (c.set i task) := by
  intro j p found
  by_cases same : j = i
  · subst same
    simp only [Pool.set, Function.update_self] at found
    exact settles p found
  · simp only [Pool.set, Function.update_of_ne same] at found
    exact settled j p found

theorem MoveBy.settled (call : p.Settles calm U) (move : MoveBy p i c c')
    (settled : Settled calm U c) : Settled calm U c' := by
  have next : ∀ q, c'.task = (c.set i (some q)).task → q.Settles calm U → Settled calm U c' := by
    intro q tasks settles j r found
    rw [tasks] at found
    exact settled.set (by rintro _ ⟨⟩; exact settles) j r found
  have gone : c'.task = (c.set i none).task → Settled calm U c' := by
    intro tasks j r found
    rw [tasks] at found
    exact settled.set (by rintro _ ⟨⟩) j r found
  cases move with
  | start fresh => exact next p rfl call
  | run found => exact next _ rfl ((settled i _ found).2.1 c.store)
  | faultBefore found => exact next _ rfl (settled i _ found).2.2
  | faultAfter found => exact next _ rfl (settled i _ found).2.2
  | acquire found unowned =>
      have settles := settled i _ found
      exact next _ rfl settles
  | release found owned =>
      have settles := settled i _ found
      exact next _ rfl settles
  | finish found => exact gone rfl
  | crash found => exact gone rfl

/-- A process with another task, and perhaps one owner less. -/
theorem Guarded.set (guarded : Guarded alarm U c) {owner : Option ι}
    {task : Option (Prog σ ε α)} (owners : ∀ j, owner = some j → c.owner = some j)
    (safe : ∀ q, task = some q → c.owner = some i → alarm c.store → q.Section U) :
    Guarded alarm U { c.set i task with owner := owner } := by
  intro alarmed j q owns foundQ
  by_cases same : j = i
  · subst same
    simp only [Pool.set, Function.update_self] at foundQ
    exact safe q foundQ (owners j owns) alarmed
  · simp only [Pool.set, Function.update_of_ne same] at foundQ
    exact guarded alarmed j q (owners j owns) foundQ

/-- An update of process `i` that raises the alarm finds no other process in an unsafe section,
and is followed by safe updates itself. -/
theorem Guarded.update {update : σ → σ} {next : σ → Prog σ ε α} {fault after : Prog σ ε α}
    (guarded : Guarded alarm U c) (found : c.task i = some (.step update next fault))
    (silent : ∀ s, calm update → alarm (update s) → alarm s)
    (settles : (Prog.step update next fault).Settles calm U)
    (residual : (Prog.step update next fault).Section U → after.Section U)
    (normally : (∀ s, (next s).Section U) ∧ fault.Section U → after.Section U)
    (raising : ¬ alarm c.store → alarm (update c.store) →
      ∀ j q, c.owner = some j → j ≠ i → c.task j = some q → q.Section U) :
    Guarded alarm U { c.set i (some after) with store := update c.store } := by
  intro alarmed j q owned foundQ
  by_cases same : j = i
  · subst same
    simp only [Pool.set, Function.update_self, Option.some.injEq] at foundQ
    subst foundQ
    by_cases before : alarm c.store
    · exact residual (guarded before j _ owned found)
    · rcases settles.1 with still | safe
      · exact absurd (silent c.store still alarmed) before
      · exact normally safe
  · simp only [Pool.set, Function.update_of_ne same] at foundQ
    by_cases before : alarm c.store
    · exact guarded before j q owned foundQ
    · exact raising before alarmed j q owned same foundQ

/-- The step lemma. The alarm is silent in calm updates, nobody enters an unsafe section while
it is raised, and nobody raises it while another process is inside one. -/
theorem MoveBy.guarded (move : MoveBy p i c c') (guarded : Guarded alarm U c)
    (owned : ∀ j, c.owner = some j → c.task j ≠ none) (settled : Settled calm U c)
    (silent : ∀ update s, calm update → alarm (update s) → alarm s)
    (entering : ∀ next, c.task i = some (.acquire next) → c'.owner = some i → alarm c.store →
      next.Section U)
    (raising : ¬ alarm c.store → alarm c'.store →
      ∀ j q, c.owner = some j → j ≠ i → c.task j = some q → q.Section U) :
    Guarded alarm U c' := by
  cases move with
  | start fresh =>
      exact guarded.set (fun _ owns => owns) fun _ _ mine => absurd fresh (owned i mine)
  | run found =>
      exact guarded.update found (fun s => silent _ s) (settled i _ found) (fun safe => safe.2.1 _)
        (fun safe => safe.1 _) raising
  | faultAfter found =>
      exact guarded.update found (fun s => silent _ s) (settled i _ found) (fun safe => safe.2.2)
        (fun safe => safe.2) raising
  | faultBefore found =>
      refine guarded.set (fun _ owns => owns) ?_
      rintro _ ⟨⟩ mine alarmed
      exact (guarded alarmed i _ mine found).2.2
  | acquire found unowned =>
      rintro alarmed j q ⟨⟩ foundQ
      simp only [Pool.set, Function.update_self, Option.some.injEq] at foundQ
      subst foundQ
      exact entering _ found rfl alarmed
  | release found owns =>
      rintro alarmed j q ⟨⟩
  | finish found => exact guarded.set (fun _ owns => owns) (by rintro _ ⟨⟩)
  | crash found =>
      refine guarded.set (fun j owns => ?_) (by rintro _ ⟨⟩)
      split at owns
      · cases owns
      · exact owns

/-- While the alarm is raised a move of the holder is safe. -/
theorem Guarded.updates (guarded : Guarded alarm U c) (alarmed : alarm c.store)
    (owned : c.owner = some i) (move : MoveBy p i c c') :
    c'.store = c.store ∨ ∃ update, U update ∧ c'.store = update c.store := by
  cases move with
  | run found | faultAfter found => exact .inr ⟨_, (guarded alarmed i _ owned found).1, rfl⟩
  | start | faultBefore | acquire | release | finish | crash => exact .inl rfl

/-- A move has an effect that its process is entitled to. -/
theorem MoveBy.effect {D : Discipline σ} {post : α → σ → Prop} (sound : Discipline.Sound D post c)
    (move : MoveBy p i c c') : D.effect (decide (c.owner = some i)) c.store c'.store := by
  cases move with
  | run found | faultAfter found =>
      exact (sound.tasks i _ found c.store (D.env_refl _ _) sound.valid).1
  | start | faultBefore | acquire | release | finish | crash => exact D.effect_refl _ _

end Pool
end CsdFoundry.Storage
