import CsdFoundry.Storage.Program

/-! Rely and guarantee for processes that play different parts. A process makes only its own
calls, one after the other; what it may do to the store, and what it may rely on, depends on who
it is. The results that calls return are kept in a log, so that they can be compared later. -/
namespace CsdFoundry.Storage

/-- The runs of a pool in which every process makes its own calls, with the results that were
returned. -/
inductive Traced {ι σ ε α : Type} [DecidableEq ι] (calls : ι → Prog σ ε α → Prop)
    (start : Pool ι σ ε α) : List (ι × Except ε α) → Pool ι σ ε α → Prop where
  | begin : Traced calls start [] start
  | call (i : ι) (run : Traced calls start log c) (fresh : c.task i = none) (allowed : calls i p) :
      Traced calls start log (c.set i (some p))
  | move (run : Traced calls start log c) (move : Pool.Move (fun _ => False) c c') :
      Traced calls start log c'
  | returned (i : ι) (run : Traced calls start log c) (found : c.task i = some (.done result)) :
      Traced calls start (log ++ [(i, result)]) (c.set i none)

/-- A call that runs alone until it returns. -/
theorem Traced.completes [DecidableEq ι] {calls : ι → Prog σ ε α → Prop} {start : Pool ι σ ε α}
    {i : ι} {p : Prog σ ε α} (run : Traced calls start log (Pool.idle s)) (allowed : calls i p)
    (count : Nat) (ends : Prog.alone count (false, p, s) = (false, .done result, t)) :
    Traced calls start (log ++ [(i, result)]) (Pool.idle t) := by
  have called : Traced calls start log (Pool.lone i (false, p, s)) := run.call i rfl allowed
  have reaches := @Pool.alone_reaches _ _ _ _ _ (fun _ => False) i count (false, p, s)
  rw [ends] at reaches
  have moved : ∀ {c}, Pool.Reaches (fun _ => False) (Pool.lone i (false, p, s)) c →
      Traced calls start log c := by
    intro c moves
    induction moves with
    | refl => exact called
    | tail _ move ih => exact ih.move move
  have stopped : (Pool.lone i (false, .done result, t)).set i none = Pool.idle t := by
    simp [Pool.lone, Pool.set, Pool.idle]
  rw [← stopped]
  exact (moved reaches).returned i (by simp [Pool.lone])

/-- The invariant of the store, what one operation of each process may do to it, and what a
returned result says about every later store. -/
structure Roles (ι σ ε α : Type) where
  inv : σ → Prop
  does : ι → σ → σ → Prop
  told : ι → Except ε α → σ → Prop
  told_others : ∀ {i j result s t}, j ≠ i → inv s → does j s t → told i result s → told i result t

namespace Roles
variable {ι σ ε α β γ : Type} (R : Roles ι σ ε α)

/-- What the other processes do meanwhile. -/
def rely (i : ι) : σ → σ → Prop := Relation.ReflTransGen fun s t => ∃ j, j ≠ i ∧ R.does j s t

theorem rely_refl (i : ι) (s : σ) : R.rely i s s := .refl

theorem rely_trans {i : ι} (first : R.rely i s t) (second : R.rely i t u) : R.rely i s u :=
  first.trans second

theorem rely_keeps {i : ι} (fact : σ → Prop)
    (keeps : ∀ {j s t}, j ≠ i → R.does j s t → fact s → fact t)
    (moves : R.rely i s t) (start : fact s) : fact t := by
  induction moves with
  | refl => exact start
  | tail _ step ih =>
      obtain ⟨j, different, does⟩ := step
      exact keeps different does ih

/-- Everything that process was told still holds. -/
def Kept (log : List (ι × Except ε α)) (i : ι) (s : σ) : Prop :=
  ∀ result, (i, result) ∈ log → R.told i result s

/-- The program does only what its process may do, keeps what the process knows, and every
outcome meets `post`. Programs with a lock are out of scope. -/
def Holds (knows : σ → Prop) (i : ι) : Prog σ ε β → (Except ε β → σ → Prop) → σ → Prop
  | .done result, post, s => ∀ t, R.rely i s t → R.inv t → knows t → post result t
  | .step update next fault, post, s => ∀ t, R.rely i s t → R.inv t → knows t →
      R.does i t (update t) ∧ R.inv (update t) ∧ knows (update t) ∧
      Holds knows i (next t) post (update t) ∧ Holds knows i fault post t ∧
      Holds knows i fault post (update t)
  | .acquire _, _, _ => False
  | .release _, _, _ => False

variable {R} {knows : σ → Prop} {i : ι}

theorem Holds.stable {p : Prog σ ε β} {post : Except ε β → σ → Prop}
    (holds : R.Holds knows i p post s) (moves : R.rely i s t) : R.Holds knows i p post t := by
  cases p with
  | done result => exact fun u later => holds u (R.rely_trans moves later)
  | step update next fault => exact fun u later => holds u (R.rely_trans moves later)
  | acquire next => exact holds
  | release next => exact holds

theorem Holds.andThen {p : Prog σ ε β} {k : Except ε β → Prog σ ε γ}
    {post : Except ε γ → σ → Prop} (valid : R.inv s) (known : knows s)
    (holds : R.Holds knows i p (fun result t => R.Holds knows i (k result) post t) s) :
    R.Holds knows i (p.andThen k) post s := by
  induction p generalizing s with
  | done result => exact holds s (R.rely_refl i s) valid known
  | step update next fault ihNext ihFault =>
      intro t moves inv known
      obtain ⟨does, inv', known', rest, before, after⟩ := holds t moves inv known
      exact ⟨does, inv', known', ihNext t inv' known' rest, ihFault inv known before,
        ihFault inv' known' after⟩
  | acquire next ih => exact holds
  | release next ih => exact holds

theorem Holds.mono {p : Prog σ ε β} {post post' : Except ε β → σ → Prop}
    (weaker : ∀ result t, R.inv t → knows t → post result t → post' result t)
    (holds : R.Holds knows i p post s) : R.Holds knows i p post' s := by
  induction p generalizing s with
  | done result => exact fun t moves inv kept => weaker result t inv kept (holds t moves inv kept)
  | step update next fault ihNext ihFault =>
      intro t moves inv kept
      obtain ⟨does, inv', kept', rest, before, after⟩ := holds t moves inv kept
      exact ⟨does, inv', kept', ihNext t rest, ihFault before, ihFault after⟩
  | acquire next ih => exact holds
  | release next ih => exact holds

/-- Normal results meet `normal`. -/
def Normally (normal : β → σ → Prop) : Except ε β → σ → Prop :=
  fun result t => ∀ b, result = .ok b → normal b t

theorem Holds.result {result : Except ε β} {normal : β → σ → Prop}
    (met : ∀ b t, result = .ok b → R.rely i s t → R.inv t → knows t → normal b t) :
    R.Holds knows i (.done result) (Normally normal) s :=
  fun t moves inv kept b returned => met b t returned moves inv kept

theorem Holds.pure {b : β} {normal : β → σ → Prop}
    (met : ∀ t, R.rely i s t → R.inv t → normal b t) :
    R.Holds knows i (pure b : Prog σ ε β) (Normally normal) s := by
  refine Holds.result ?_
  rintro _ t ⟨⟩ moves inv -
  exact met t moves inv

theorem Holds.throw {e : ε} {normal : β → σ → Prop} :
    R.Holds knows i (throw e : Prog σ ε β) (Normally normal) s := by
  refine Holds.result ?_
  rintro _ t ⟨⟩

theorem Holds.bind {p : Prog σ ε β} {f : β → Prog σ ε γ} {normal : γ → σ → Prop}
    (valid : R.inv s) (known : knows s)
    (holds : R.Holds knows i p
      (Normally fun b t => R.inv t → knows t → R.Holds knows i (f b) (Normally normal) t) s) :
    R.Holds knows i (p >>= f) (Normally normal) s := by
  refine Holds.andThen valid known (holds.mono ?_)
  rintro (e | b) t inv known later
  · exact Holds.throw
  · exact later b rfl inv known

/-- Sequencing after a program whose outcome is known already. -/
theorem Holds.seq {p : Prog σ ε β} {f : β → Prog σ ε γ} {before : β → σ → Prop}
    {normal : γ → σ → Prop} (valid : R.inv s) (known : knows s)
    (holds : R.Holds knows i p (Normally before) s)
    (rest : ∀ b t, R.inv t → knows t → before b t →
      R.Holds knows i (f b) (Normally normal) t) :
    R.Holds knows i (p >>= f) (Normally normal) s :=
  .bind valid known (holds.mono fun _ t _ _ after b returned inv known =>
    rest b t inv known (after b returned))

theorem Holds.require {condition : Prop} [Decidable condition] {otherwise : ε}
    {normal : Unit → σ → Prop}
    (met : ∀ t, condition → R.rely i s t → R.inv t → normal () t) :
    R.Holds knows i (Prog.require condition otherwise) (Normally normal) s := by
  refine Holds.result ?_
  intro _ t passed moves inv _
  split at passed
  · exact met t ‹_› moves inv
  · cases passed

theorem Holds.atomically {fault : ε} {update : σ → σ} {view : σ → Except ε β}
    {normal : β → σ → Prop}
    (may : ∀ t, R.rely i s t → R.inv t → knows t →
      R.does i t (update t) ∧ R.inv (update t) ∧ knows (update t))
    (met : ∀ b t u, R.rely i s t → R.inv t → knows t → view t = .ok b →
      R.rely i (update t) u → R.inv u → normal b u) :
    R.Holds knows i (Prog.atomically fault update view) (Normally normal) s := by
  intro t moves inv kept
  obtain ⟨does, inv', kept'⟩ := may t moves inv kept
  exact ⟨does, inv', kept',
    Holds.result fun b u seen later invU _ => met b t u moves inv kept seen later invU,
    Holds.throw, Holds.throw⟩

/-- A process may read whenever it may leave the store alone. -/
theorem Holds.read {fault : ε} {view : σ → Except ε β} {normal : β → σ → Prop}
    (idle : ∀ t, R.does i t t)
    (met : ∀ b t u, R.rely i s t → R.inv t → knows t → view t = .ok b → R.rely i t u →
      R.inv u → normal b u) :
    R.Holds knows i (Prog.read fault view) (Normally normal) s :=
  Holds.atomically (fun t _ inv kept => ⟨idle t, inv, kept⟩) met

theorem Holds.map {p : Prog σ ε β} {f : β → γ} {post : Except ε γ → σ → Prop}
    (valid : R.inv s) (known : knows s)
    (holds : R.Holds knows i p (fun result t =>
      ∀ u, R.rely i t u → R.inv u → knows u → post (result.map f) u) s) :
    R.Holds knows i (p.map f) post s :=
  Holds.andThen valid known holds

/-- A fact that no step may destroy is remembered along a program. -/
theorem Holds.remember {p : Prog σ ε β} {post : Except ε β → σ → Prop} {fact : σ → Prop}
    (stable : ∀ {t u}, R.rely i t u → fact t → fact u) (start : fact s)
    (holds : R.Holds (fun t => knows t ∧ fact t) i p post s) :
    R.Holds knows i p (fun result t => post result t ∧ fact t) s := by
  induction p generalizing s with
  | done result =>
      intro t moves inv known
      exact ⟨holds t moves inv ⟨known, stable moves start⟩, stable moves start⟩
  | step update next fault ihNext ihFault =>
      intro t moves inv known
      obtain ⟨does, inv', ⟨known', fact'⟩, rest, before, after⟩ :=
        holds t moves inv ⟨known, stable moves start⟩
      exact ⟨does, inv', known', ihNext t fact' rest, ihFault (stable moves start) before,
        ihFault fact' after⟩
  | acquire next ih => exact holds
  | release next ih => exact holds

/-! ### Runs -/

/-- What holds of a pool and of the results returned so far. -/
structure Sound [DecidableEq ι] (R : Roles ι σ ε α) (log : List (ι × Except ε α))
    (c : Pool ι σ ε α) : Prop where
  valid : R.inv c.store
  told : ∀ i result, (i, result) ∈ log → R.told i result c.store
  tasks : ∀ i p, c.task i = some p → R.Holds (R.Kept log i) i p (R.told i) c.store

variable [DecidableEq ι] {log : List (ι × Except ε α)} {calls : ι → Prog σ ε α → Prop} {c c' : Pool ι σ ε α}

theorem sound_idle {s : σ} (valid : R.inv s) : R.Sound [] (Pool.idle s : Pool ι σ ε α) :=
  ⟨valid, fun _ _ h => absurd h List.not_mem_nil, fun i p h => by simp [Pool.idle] at h⟩

theorem Sound.kept (sound : R.Sound log c) (i : ι) : R.Kept log i c.store :=
  fun result => sound.told i result

/-- Replace the running process after something it may do. -/
theorem Sound.update {p : Prog σ ε α} (sound : R.Sound log c) (i : ι) {store : σ}
    (valid : R.inv store) (moved : store = c.store ∨ R.does i c.store store)
    (kept : R.Kept log i store) (holds : R.Holds (R.Kept log i) i p (R.told i) store) :
    R.Sound log { c.set i (some p) with store := store } := by
  refine ⟨valid, ?_, ?_⟩
  · intro j result member
    by_cases same : j = i
    · subst same
      exact kept result member
    · rcases moved with rfl | does
      · exact sound.told j result member
      · exact R.told_others (Ne.symm same) sound.valid does (sound.told j result member)
  · intro j q found
    by_cases same : j = i
    · subst same
      simp only [Pool.set, Function.update_self, Option.some.injEq] at found
      subst found
      exact holds
    · simp only [Pool.set, Function.update_of_ne same] at found
      rcases moved with rfl | does
      · exact sound.tasks j q found
      · exact (sound.tasks j q found).stable (.single ⟨i, Ne.symm same, does⟩)

theorem Sound.forget (sound : R.Sound log c) (i : ι) (owner : Option ι) :
    R.Sound log { c.set i none with owner := owner } := by
  refine ⟨sound.valid, sound.told, ?_⟩
  intro j q found
  by_cases same : j = i
  · simp [Pool.set, same] at found
  · simp only [Pool.set, Function.update_of_ne same] at found
    exact sound.tasks j q found

theorem Sound.move (sound : R.Sound log c) (move : Pool.Move (fun _ => False) c c') :
    R.Sound log c' ∧ (c'.store = c.store ∨ ∃ i, R.does i c.store c'.store) := by
  cases move with
  | start i fresh allowed => cases allowed
  | run i found =>
      obtain ⟨does, inv, kept, rest, -⟩ :=
        sound.tasks i _ found c.store (R.rely_refl i _) sound.valid (sound.kept i)
      exact ⟨sound.update i inv (.inr does) kept rest, .inr ⟨i, does⟩⟩
  | faultBefore i found =>
      obtain ⟨-, -, -, -, before, -⟩ :=
        sound.tasks i _ found c.store (R.rely_refl i _) sound.valid (sound.kept i)
      exact ⟨sound.update i sound.valid (.inl rfl) (sound.kept i) before, .inl rfl⟩
  | faultAfter i found =>
      obtain ⟨does, inv, kept, -, -, after⟩ :=
        sound.tasks i _ found c.store (R.rely_refl i _) sound.valid (sound.kept i)
      exact ⟨sound.update i inv (.inr does) kept after, .inr ⟨i, does⟩⟩
  | acquire i found unowned => exact absurd (sound.tasks i _ found) id
  | release i found owned => exact absurd (sound.tasks i _ found) id
  | finish i found => exact ⟨sound.forget i c.owner, .inl rfl⟩
  | crash i found => exact ⟨sound.forget i _, .inl rfl⟩

/-- A returned result is told from then on. -/
theorem Sound.returned (sound : R.Sound log c) (found : c.task i = some (.done result)) :
    R.Sound (log ++ [(i, result)]) (c.set i none) := by
  refine ⟨sound.valid, ?_, ?_⟩
  · intro j other member
    rcases List.mem_append.mp member with old | new
    · exact sound.told j other old
    · cases List.mem_singleton.mp new
      exact sound.tasks i _ found c.store (R.rely_refl i _) sound.valid (sound.kept i)
  · intro j q running
    by_cases same : j = i
    · simp [Pool.set, same] at running
    · simp only [Pool.set, Function.update_of_ne same] at running
      have told : R.Kept (log ++ [(i, result)]) j = R.Kept log j := by
        funext t
        simp [Kept, same]
      rw [told]
      exact sound.tasks j q running

/-- Every run keeps the invariant and what was told; its moves are what the processes may do. -/
theorem Traced.sound {start : Pool ι σ ε α} {before : List (ι × Except ε α)}
    (checked : ∀ i p, calls i p → ∀ log s, R.inv s → R.Kept log i s →
      R.Holds (R.Kept log i) i p (R.told i) s)
    (run : Traced calls start log c) (sound : R.Sound before start) :
    R.Sound (before ++ log) c ∧
      Relation.ReflTransGen (fun s t => ∃ i, R.does i s t) start.store c.store := by
  induction run with
  | begin => exact ⟨by rwa [List.append_nil], .refl⟩
  | @call log c p i run fresh allowed ih =>
      obtain ⟨sound, moved⟩ := ih
      exact ⟨sound.update i sound.valid (.inl rfl) (sound.kept i)
        (checked i p allowed _ _ sound.valid (sound.kept i)), moved⟩
  | @move log c c' run move ih =>
      obtain ⟨sound, moved⟩ := ih
      obtain ⟨sound', same | does⟩ := sound.move move
      · exact ⟨sound', same ▸ moved⟩
      · exact ⟨sound', moved.tail does⟩
  | @returned log c result i run found ih =>
      obtain ⟨sound, moved⟩ := ih
      rw [← List.append_assoc]
      exact ⟨sound.returned found, moved⟩

end Roles
end CsdFoundry.Storage
