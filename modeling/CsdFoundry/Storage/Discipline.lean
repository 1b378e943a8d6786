import CsdFoundry.Storage.Program

/-! Assume-guarantee reasoning for pools of storage programs. A discipline fixes
the invariant of the store, the effects an operation may have outside the lock and
the effects it may have under it. Programs are checked one at a time. -/
namespace CsdFoundry.Storage

/-- `act` is the effect of a single operation, `free` that of one made without the lock. -/
structure Discipline (σ : Type) where
  inv : σ → Prop
  free : σ → σ → Prop
  act : σ → σ → Prop
  free_refl : ∀ s, free s s
  free_trans : ∀ {s t u}, free s t → free t u → free s u
  act_of_free : ∀ {s t}, free s t → act s t

namespace Discipline
variable {σ ε α β ι : Type} (D : Discipline σ)

/-- The effect of any number of operations. -/
def held : σ → σ → Prop := Relation.ReflTransGen D.act

theorem act_refl (s : σ) : D.act s s := D.act_of_free (D.free_refl s)

theorem held_refl (s : σ) : D.held s s := .refl

theorem held_trans (first : D.held s t) (second : D.held t u) : D.held s u := first.trans second

theorem held_of_act (act : D.act s t) : D.held s t := .single act

theorem held_of_free (free : D.free s t) : D.held s t := D.held_of_act (D.act_of_free free)

/-- What one operation of a process does, by whether it holds the lock. -/
def effect (locked : Bool) (s t : σ) : Prop := if locked then D.act s t else D.free s t

/-- What the other processes do meanwhile: nobody else holds a lock that is held. -/
def env (locked : Bool) (s t : σ) : Prop := if locked then D.free s t else D.held s t

theorem env_refl (locked : Bool) (s : σ) : D.env locked s s := by
  cases locked
  · exact D.held_refl s
  · exact D.free_refl s

theorem effect_refl (locked : Bool) (s : σ) : D.effect locked s s := by
  cases locked
  · exact D.free_refl s
  · exact D.act_refl s

theorem effect_of_free {locked : Bool} (free : D.free s t) : D.effect locked s t := by
  cases locked
  · exact free
  · exact D.act_of_free free

theorem env_of_free {locked : Bool} (free : D.free s t) : D.env locked s t := by
  cases locked
  · exact D.held_of_free free
  · exact free

theorem env_trans {locked : Bool} (first : D.env locked s t) (second : D.env locked t u) :
    D.env locked s u := by
  cases locked
  · exact D.held_trans first second
  · exact D.free_trans first second

/-- The program keeps the discipline from here on, whatever the others do, and
every outcome meets `post`. Faults are covered before and after their effect. -/
def Holds : Bool → Prog σ ε α → (Bool → Except ε α → σ → Prop) → σ → Prop
  | locked, .done result, post, s =>
      ∀ t, D.env locked s t → D.inv t → post locked result t
  | locked, .step update next fault, post, s =>
      ∀ t, D.env locked s t → D.inv t →
        D.effect locked t (update t) ∧ D.inv (update t) ∧
        Holds locked (next t) post (update t) ∧
        Holds locked fault post t ∧ Holds locked fault post (update t)
  | locked, .acquire next, post, s =>
      locked = false ∧ ∀ t, D.env locked s t → D.inv t → Holds true next post t
  | locked, .release next, post, s =>
      locked = true ∧ ∀ t, D.env locked s t → D.inv t → Holds false next post t

variable {D}

/-- Assertions about a suspended program survive interference. -/
theorem Holds.stable {locked : Bool} {p : Prog σ ε α}
    {post : Bool → Except ε α → σ → Prop}
    (holds : D.Holds locked p post s) (moves : D.env locked s t) : D.Holds locked p post t := by
  cases p with
  | done result => exact fun u later => holds u (D.env_trans moves later)
  | step update next fault => exact fun u later => holds u (D.env_trans moves later)
  | acquire next => exact ⟨holds.1, fun u later => holds.2 u (D.env_trans moves later)⟩
  | release next => exact ⟨holds.1, fun u later => holds.2 u (D.env_trans moves later)⟩

theorem Holds.andThen {locked : Bool} {p : Prog σ ε α} {k : Except ε α → Prog σ ε β}
    {post : Bool → Except ε β → σ → Prop} (valid : D.inv s)
    (holds : D.Holds locked p (fun l r t => D.Holds l (k r) post t) s) :
    D.Holds locked (p.andThen k) post s := by
  induction p generalizing locked s with
  | done result => exact holds s (D.env_refl locked s) valid
  | step update next fault ihNext ihFault =>
      intro t moves inv
      obtain ⟨effect, kept, rest, before, after⟩ := holds t moves inv
      exact ⟨effect, kept, ihNext t kept rest, ihFault inv before, ihFault kept after⟩
  | acquire next ih => exact ⟨holds.1, fun t moves inv => ih inv (holds.2 t moves inv)⟩
  | release next ih => exact ⟨holds.1, fun t moves inv => ih inv (holds.2 t moves inv)⟩

theorem Holds.mono {locked : Bool} {p : Prog σ ε α} {post post' : Bool → Except ε α → σ → Prop}
    (weaker : ∀ l r t, D.inv t → post l r t → post' l r t)
    (holds : D.Holds locked p post s) : D.Holds locked p post' s := by
  induction p generalizing locked s with
  | done result => exact fun t moves inv => weaker locked result t inv (holds t moves inv)
  | step update next fault ihNext ihFault =>
      intro t moves inv
      obtain ⟨effect, kept, rest, before, after⟩ := holds t moves inv
      exact ⟨effect, kept, ihNext t rest, ihFault before, ihFault after⟩
  | acquire next ih => exact ⟨holds.1, fun t moves inv => ih (holds.2 t moves inv)⟩
  | release next ih => exact ⟨holds.1, fun t moves inv => ih (holds.2 t moves inv)⟩

/-- The program returns with the lock as it was, and normal results meet `normal`. -/
def After (locked : Bool) (normal : α → σ → Prop) : Bool → Except ε α → σ → Prop :=
  fun l result t => l = locked ∧ ∀ a, result = .ok a → normal a t

theorem Holds.result {locked : Bool} {result : Except ε α} {normal : α → σ → Prop}
    (met : ∀ a t, result = .ok a → D.env locked s t → D.inv t → normal a t) :
    D.Holds locked (.done result) (After locked normal) s := fun t moves inv =>
  ⟨rfl, fun a returned => met a t returned moves inv⟩

theorem Holds.pure {locked : Bool} {a : α} {normal : α → σ → Prop}
    (met : ∀ t, D.env locked s t → D.inv t → normal a t) :
    D.Holds locked (pure a : Prog σ ε α) (After locked normal) s := by
  refine Holds.result ?_
  rintro _ t ⟨⟩ moves inv
  exact met t moves inv

theorem Holds.throw {locked : Bool} {e : ε} {normal : α → σ → Prop} :
    D.Holds locked (throw e : Prog σ ε α) (After locked normal) s := by
  refine Holds.result ?_
  rintro _ t ⟨⟩

theorem Holds.require {locked : Bool} {condition : Prop} [Decidable condition] {otherwise : ε}
    {normal : Unit → σ → Prop}
    (met : ∀ t, condition → D.env locked s t → D.inv t → normal () t) :
    D.Holds locked (Prog.require condition otherwise) (After locked normal) s := by
  refine Holds.result ?_
  intro _ t passed moves inv
  split at passed
  · exact met t ‹_› moves inv
  · cases passed

/-- Sequencing: an exception skips the rest. -/
theorem Holds.bind {locked : Bool} {p : Prog σ ε α} {f : α → Prog σ ε β}
    {normal : β → σ → Prop} (valid : D.inv s)
    (holds : D.Holds locked p
      (After locked (fun a t => D.Holds locked (f a) (After locked normal) t)) s) :
    D.Holds locked (p >>= f) (After locked normal) s := by
  refine Holds.andThen valid (holds.mono ?_)
  rintro l (e | a) t inv ⟨rfl, later⟩
  · exact Holds.throw
  · exact later a rfl

theorem Holds.weaken {locked : Bool} {p : Prog σ ε α} {normal normal' : α → σ → Prop}
    (holds : D.Holds locked p (After locked normal) s)
    (weaker : ∀ a t, D.inv t → normal a t → normal' a t) :
    D.Holds locked p (After locked normal') s :=
  holds.mono (fun _ _ t inv after =>
    ⟨after.1, fun a returned => weaker a t inv (after.2 a returned)⟩)

/-- Sequencing after a program whose outcome is known already. -/
theorem Holds.seq {locked : Bool} {p : Prog σ ε α} {f : α → Prog σ ε β}
    {before : α → σ → Prop} {normal : β → σ → Prop} (valid : D.inv s)
    (holds : D.Holds locked p (After locked before) s)
    (rest : ∀ a t, D.inv t → before a t → D.Holds locked (f a) (After locked normal) t) :
    D.Holds locked (p >>= f) (After locked normal) s :=
  .bind valid (holds.weaken rest)

/-- An exception may come from any point of the body, so the handler starts anywhere. -/
theorem Holds.tryCatch {locked : Bool} {p : Prog σ ε α} {handler : ε → Prog σ ε α}
    {normal : α → σ → Prop} (valid : D.inv s)
    (body : D.Holds locked p (After locked (fun a t =>
      ∀ u, D.env locked t u → D.inv u → normal a u)) s)
    (handled : ∀ e t, D.inv t → D.Holds locked (handler e) (After locked normal) t) :
    D.Holds locked (tryCatch p handler) (After locked normal) s := by
  refine Holds.andThen valid (body.mono ?_)
  rintro l (e | a) t inv ⟨rfl, later⟩
  · exact handled e t inv
  · exact Holds.pure (fun u moves invU => later a rfl u moves invU)

theorem Holds.atomically {locked : Bool} {fault : ε} {update : σ → σ} {view : σ → Except ε α}
    {normal : α → σ → Prop}
    (keeps : ∀ t, D.env locked s t → D.inv t → D.effect locked t (update t) ∧ D.inv (update t))
    (met : ∀ a t u, D.env locked s t → D.inv t → view t = .ok a → D.env locked (update t) u →
      D.inv u → normal a u) :
    D.Holds locked (Prog.atomically fault update view) (After locked normal) s := by
  intro t moves inv
  obtain ⟨effect, kept⟩ := keeps t moves inv
  exact ⟨effect, kept, Holds.result (fun a u seen later invU => met a t u moves inv seen later invU),
    Holds.throw, Holds.throw⟩

theorem Holds.write {locked : Bool} {fault : ε} {update : σ → σ} {normal : Unit → σ → Prop}
    (keeps : ∀ t, D.env locked s t → D.inv t → D.effect locked t (update t) ∧ D.inv (update t))
    (met : ∀ t u, D.env locked s t → D.inv t → D.env locked (update t) u → D.inv u →
      normal () u) :
    D.Holds locked (Prog.write fault update) (After locked normal) s :=
  Holds.atomically keeps (fun _ t u moves inv _ later invU => met t u moves inv later invU)

/-- A read is of some earlier store: what it saw may have been overtaken. -/
theorem Holds.read {locked : Bool} {fault : ε} {view : σ → Except ε α} {normal : α → σ → Prop}
    (met : ∀ a t u, D.env locked s t → D.inv t → view t = .ok a → D.env locked t u → D.inv u →
      normal a u) :
    D.Holds locked (Prog.read fault view) (After locked normal) s :=
  Holds.atomically (fun t _ inv => ⟨D.effect_refl locked t, inv⟩) met

/-- The body runs against unlocked interference only; its outcome, an exception included,
is seen after the lock is free again. -/
theorem Holds.locked_result {body : Prog σ ε α} {post : Except ε α → σ → Prop}
    (holds : ∀ t, D.held s t → D.inv t → D.Holds true body
      (fun l result u => l = true ∧ ∀ v, D.held u v → D.inv v → post result v) t) :
    D.Holds false (Prog.locked body) (fun l result t => l = false ∧ post result t) s := by
  refine ⟨rfl, fun t moves inv => ?_⟩
  refine Holds.andThen inv ((holds t moves inv).mono ?_)
  rintro l result u invU ⟨rfl, later⟩
  refine ⟨rfl, fun v moved invV w moves' invW => ⟨rfl, ?_⟩⟩
  exact later w (D.held_trans (D.held_of_free moved) moves') invW

theorem Holds.locked {body : Prog σ ε α} {normal : α → σ → Prop}
    (holds : ∀ t, D.held s t → D.inv t → D.Holds true body
      (After true (fun a u => ∀ v, D.held u v → D.inv v → normal a v)) t) :
    D.Holds false (Prog.locked body) (After false normal) s :=
  Holds.locked_result fun t moves inv => (holds t moves inv).mono fun _ _ _ _ after =>
    ⟨after.1, fun v moved invV a returned => after.2 a returned v moved invV⟩

theorem Holds.map {locked : Bool} {p : Prog σ ε α} {f : α → β} {normal : β → σ → Prop}
    (valid : D.inv s)
    (holds : D.Holds locked p
      (After locked (fun a t => ∀ u, D.env locked t u → D.inv u → normal (f a) u)) s) :
    D.Holds locked (p.map f) (After locked normal) s := by
  refine Holds.andThen valid (holds.mono ?_)
  rintro l (e | a) t inv ⟨rfl, later⟩
  · exact Holds.throw
  · exact Holds.pure (fun u moves invU => later a rfl u moves invU)

theorem Holds.trivial {locked : Bool} {p : Prog σ ε α} {normal : α → σ → Prop}
    (holds : D.Holds locked p (After locked normal) s) :
    D.Holds locked p (After locked (fun _ _ => True)) s :=
  holds.weaken (fun _ _ _ _ => True.intro)

/-- A result that is thrown away. -/
theorem Holds.discard {locked : Bool} {p : Prog σ ε α} {normal : α → σ → Prop} (valid : D.inv s)
    (holds : D.Holds locked p (After locked normal) s) :
    D.Holds locked p.discard (After locked (fun _ _ => True)) s :=
  Holds.map valid (holds.weaken (fun _ _ _ _ _ _ _ => True.intro))

/-- A reported outcome meets what the program guarantees of it. -/
theorem Holds.report {p : Prog σ ε α} {f : Except ε α → β} {post : Except ε α → σ → Prop}
    {normal : β → σ → Prop} (valid : D.inv s)
    (holds : D.Holds false p (fun l result t => l = false ∧ post result t) s)
    (stable : ∀ result t u, post result t → D.held t u → D.inv u → normal (f result) u) :
    D.Holds false (p.report f) (After false normal) s := by
  refine Holds.andThen valid (holds.mono ?_)
  rintro l result t inv ⟨rfl, met⟩
  refine Holds.result ?_
  rintro _ u ⟨⟩ moves invU
  exact stable result t u met moves invU

end Discipline

namespace Discipline
variable {σ ε α ι : Type} [DecidableEq ι] {D : Discipline σ}
  {calls : Prog σ ε α → Prop} {post : α → σ → Prop}

/-- No process returns with the lock in its hands. -/
structure Sound (D : Discipline σ) (post : α → σ → Prop) (c : Pool ι σ ε α) : Prop where
  valid : D.inv c.store
  owned : ∀ i, c.owner = some i → c.task i ≠ none
  tasks : ∀ i p, c.task i = some p →
    D.Holds (decide (c.owner = some i)) p (After false post) c.store

theorem sound_idle {s : σ} (valid : D.inv s) :
    Sound D post (Pool.idle s : Pool ι σ ε α) :=
  ⟨valid, fun i h => by simp [Pool.idle] at h, fun i p h => by simp [Pool.idle] at h⟩

/-- The effect of one process is within what every other process tolerates. -/
theorem effect_env {owner : Option ι} {i j : ι} (different : j ≠ i)
    (effect : D.effect (decide (owner = some i)) s t) : D.env (decide (owner = some j)) s t := by
  by_cases mine : owner = some i
  · have moved : D.act s t := by simpa [Discipline.effect, mine] using effect
    simpa [env, mine, Ne.symm different] using D.held_of_act moved
  · simp only [Discipline.effect, mine, decide_false] at effect
    by_cases theirs : owner = some j
    · simpa [env, theirs] using effect
    · simpa [env, theirs] using D.held_of_free effect

theorem effect_act {locked : Bool} (effect : D.effect locked s t) : D.act s t := by
  cases locked
  · exact D.act_of_free effect
  · exact effect

/-- Replace the running process after an effect it is entitled to. -/
theorem Sound.update {c : Pool ι σ ε α} (sound : Sound D post c) (i : ι) {store : σ}
    (running : c.task i ≠ none) (valid : D.inv store)
    (effect : D.effect (decide (c.owner = some i)) c.store store)
    (holds : D.Holds (decide (c.owner = some i)) p (After false post) store) :
    Sound D post { c.set i (some p) with store := store } := by
  refine ⟨valid, ?_, ?_⟩
  · intro j owned
    by_cases same : j = i
    · simp [Pool.set, same]
    · simpa [Pool.set, same] using sound.owned j owned
  · intro j q found
    by_cases same : j = i
    · subst same
      simp only [Pool.set, Function.update_self, Option.some.injEq] at found
      subst found
      exact holds
    · simp only [Pool.set, Function.update_of_ne same] at found
      exact (sound.tasks j q found).stable (effect_env same effect)

theorem move_sound (checked : ∀ p, calls p → ∀ s, D.inv s → D.Holds false p (After false post) s)
    {c c' : Pool ι σ ε α} (move : Pool.Move calls c c') (sound : Sound D post c) :
    Sound D post c' ∧ D.act c.store c'.store := by
  cases move with
  | @start p i fresh allowed =>
      have unowned : ¬ c.owner = some i := fun owned => sound.owned i owned fresh
      refine ⟨⟨sound.valid, ?_, ?_⟩, D.act_refl _⟩
      · intro j owned
        have different : j ≠ i := by
          rintro rfl
          exact unowned owned
        simpa [Pool.set, different] using sound.owned j owned
      · intro j q found
        by_cases same : j = i
        · subst same
          simp only [Pool.set, Function.update_self, Option.some.injEq] at found
          subst found
          simpa [Pool.set, unowned] using checked _ allowed _ sound.valid
        · simp only [Pool.set, Function.update_of_ne same] at found
          exact sound.tasks j q found
  | run i found =>
      obtain ⟨effect, kept, rest, -⟩ := sound.tasks i _ found c.store (D.env_refl _ _) sound.valid
      exact ⟨sound.update i (by simp [found]) kept effect rest, effect_act effect⟩
  | faultBefore i found =>
      obtain ⟨-, -, -, before, -⟩ := sound.tasks i _ found c.store (D.env_refl _ _) sound.valid
      have still := D.effect_refl (decide (c.owner = some i)) c.store
      exact ⟨sound.update i (by simp [found]) sound.valid still before, D.act_refl _⟩
  | faultAfter i found =>
      obtain ⟨effect, kept, -, -, after⟩ :=
        sound.tasks i _ found c.store (D.env_refl _ _) sound.valid
      exact ⟨sound.update i (by simp [found]) kept effect after, effect_act effect⟩
  | acquire i found unowned =>
      have mine := sound.tasks i _ found
      refine ⟨⟨sound.valid, ?_, ?_⟩, D.act_refl _⟩
      · rintro j ⟨⟩
        simp [Pool.set]
      · intro j q foundQ
        by_cases same : j = i
        · subst same
          simp only [Pool.set, Function.update_self, Option.some.injEq] at foundQ
          subst foundQ
          simpa [Pool.set] using mine.2 c.store (D.env_refl _ _) sound.valid
        · simp only [Pool.set, Function.update_of_ne same] at foundQ
          have theirs := sound.tasks j q foundQ
          simpa [Pool.set, unowned, Ne.symm same] using theirs
  | release i found owned =>
      have mine := sound.tasks i _ found
      refine ⟨⟨sound.valid, fun j h => by simp at h, ?_⟩, D.act_refl _⟩
      intro j q foundQ
      by_cases same : j = i
      · subst same
        simp only [Pool.set, Function.update_self, Option.some.injEq] at foundQ
        subst foundQ
        simpa [Pool.set] using mine.2 c.store (D.env_refl _ _) sound.valid
      · simp only [Pool.set, Function.update_of_ne same] at foundQ
        have theirs := sound.tasks j q foundQ
        simpa [Pool.set, owned, Ne.symm same] using theirs
  | finish i found =>
      have mine := (sound.tasks i _ found c.store (D.env_refl _ _) sound.valid).1
      have unowned : ¬ c.owner = some i := by simpa using mine
      refine ⟨⟨sound.valid, ?_, ?_⟩, D.act_refl _⟩
      · intro j owned
        have different : j ≠ i := by
          rintro rfl
          exact unowned owned
        simpa [Pool.set, different] using sound.owned j owned
      · intro j q foundQ
        by_cases same : j = i
        · simp [Pool.set, same] at foundQ
        · simp only [Pool.set, Function.update_of_ne same] at foundQ
          exact sound.tasks j q foundQ
  | crash i found =>
      refine ⟨⟨sound.valid, ?_, ?_⟩, D.act_refl _⟩
      · intro j owned
        by_cases mine : c.owner = some i
        · simp [mine] at owned
        · simp only [mine, if_false] at owned
          have different : j ≠ i := by
            rintro rfl
            exact mine owned
          simpa [Pool.set, different] using sound.owned j owned
      · intro j q foundQ
        by_cases same : j = i
        · simp [Pool.set, same] at foundQ
        · simp only [Pool.set, Function.update_of_ne same] at foundQ
          have theirs := sound.tasks j q foundQ
          by_cases mine : c.owner = some i
          · simpa [Pool.set, mine, Ne.symm same] using theirs
          · simpa [Pool.set, mine] using theirs

/-- Every interleaving keeps the invariant, and its moves are single acts. -/
theorem reaches_sound (checked : ∀ p, calls p → ∀ s, D.inv s → D.Holds false p (After false post) s)
    {c c' : Pool ι σ ε α} (run : Pool.Reaches calls c c') (sound : Sound D post c) :
    Sound D post c' ∧ D.held c.store c'.store := by
  induction run with
  | refl => exact ⟨sound, D.held_refl _⟩
  | tail _ move ih =>
      obtain ⟨before, moved⟩ := ih
      obtain ⟨after, step⟩ := move_sound checked move before
      exact ⟨after, moved.tail step⟩

/-- A returned task has met its postcondition, and still does. -/
theorem Sound.returned {c : Pool ι σ ε α} (sound : Sound D post c)
    (found : c.task i = some (.done (.ok a))) : post a c.store :=
  (sound.tasks i _ found c.store (D.env_refl _ _) sound.valid).2 a rfl

/-- The undisturbed run of a checked program is a run of the pool. -/
theorem Holds.alone {held : Bool} {p : Prog σ ε α} {goal : Bool → Except ε α → σ → Prop}
    (holds : D.Holds held p goal s) (valid : D.inv s) :
    ∃ count lock, Prog.alone count (held, p, s) = (lock, .done (p.exec s).1, (p.exec s).2) ∧
      goal lock (p.exec s).1 (p.exec s).2 ∧ D.inv (p.exec s).2 ∧ D.held s (p.exec s).2 := by
  induction p generalizing held s with
  | done result =>
      exact ⟨0, held, rfl, holds s (D.env_refl _ _) valid, valid, D.held_refl s⟩
  | step update next fault ihNext ihFault =>
      obtain ⟨effect, kept, rest, -⟩ := holds s (D.env_refl _ _) valid
      obtain ⟨count, lock, run, met, inv, moved⟩ := ihNext s rest kept
      refine ⟨count + 1, lock, ?_, met, inv, .head (effect_act effect) moved⟩
      cases held <;> exact run
  | acquire next ih =>
      obtain ⟨rfl, rest⟩ := holds
      obtain ⟨count, lock, run, met⟩ := ih (rest s (D.env_refl _ _) valid) valid
      exact ⟨count + 1, lock, run, met⟩
  | release next ih =>
      obtain ⟨rfl, rest⟩ := holds
      obtain ⟨count, lock, run, met⟩ := ih (rest s (D.env_refl _ _) valid) valid
      exact ⟨count + 1, lock, run, met⟩

/-- So whatever a call does undisturbed, the pool can do. -/
theorem exec_reaches (checked : ∀ p, calls p → ∀ s, D.inv s → D.Holds false p (After false post) s)
    (i : ι) (call : calls p) (valid : D.inv s) :
    Pool.Reaches calls (Pool.idle s : Pool ι σ ε α) (Pool.idle (p.exec s).2) := by
  obtain ⟨count, lock, run, -⟩ := (checked p call s valid).alone valid
  have same : p.crashAfter count s = (p.exec s).2 := by rw [Prog.crashAfter, run]
  exact same ▸ Pool.crashAfter_reaches i call count s

end Discipline
end CsdFoundry.Storage
