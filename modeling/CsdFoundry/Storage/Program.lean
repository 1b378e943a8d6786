import Mathlib.Logic.Function.Basic
import Mathlib.Logic.Relation

/-! Programs over a shared durable store, and the pool of processes that run them.
An operation of the file system is indivisible; a process may crash or meet an
I/O error between any two of them. Nothing here names a particular store. -/
namespace CsdFoundry.Storage

/-- `step update next fault` is one file operation: it applies `update` and hands
`next` the store it found. When the operating system reports an error instead,
the process continues with `fault`, whether or not the update took effect. -/
inductive Prog (σ ε α : Type) where
  | done (result : Except ε α)
  | step (update : σ → σ) (next : σ → Prog σ ε α) (fault : Prog σ ε α)
  | acquire (next : Prog σ ε α)
  | release (next : Prog σ ε α)

namespace Prog
variable {σ ε α β : Type}

/-- Continue with the outcome of the first program, an exception included. -/
def andThen : Prog σ ε α → (Except ε α → Prog σ ε β) → Prog σ ε β
  | .done result, k => k result
  | .step update next fault, k => .step update (fun s => (next s).andThen k) (fault.andThen k)
  | .acquire next, k => .acquire (next.andThen k)
  | .release next, k => .release (next.andThen k)

def onOk (f : α → Prog σ ε β) : Except ε α → Prog σ ε β
  | .ok a => f a
  | .error e => .done (.error e)

def onError (f : ε → Prog σ ε α) : Except ε α → Prog σ ε α
  | .ok a => .done (.ok a)
  | .error e => f e

instance : Monad (Prog σ ε) where
  pure a := .done (.ok a)
  bind p f := p.andThen (onOk f)

instance : MonadExceptOf ε (Prog σ ε) where
  throw e := .done (.error e)
  tryCatch p handler := p.andThen (onError handler)

/-- One file operation whose result is `view` of the store it found. -/
def atomically (fault : ε) (update : σ → σ) (view : σ → Except ε α) : Prog σ ε α :=
  .step update (fun s => .done (view s)) (.done (.error fault))

def read (fault : ε) (view : σ → Except ε α) : Prog σ ε α :=
  atomically fault id view

def write (fault : ε) (update : σ → σ) : Prog σ ε Unit :=
  atomically fault update (fun _ => .ok ())

/-- A check that raises when it fails. -/
def require (condition : Prop) [Decidable condition] (otherwise : ε) : Prog σ ε Unit :=
  .done (if condition then .ok () else .error otherwise)

/-- Convert the result of a program. -/
def map (f : α → β) (p : Prog σ ε α) : Prog σ ε β :=
  p.andThen (fun result => .done (result.map f))

/-- Run for the effect. -/
def discard (p : Prog σ ε α) : Prog σ ε Unit := p.map (fun _ => ())

/-- Return the outcome as a value, an exception included. -/
def report (f : Except ε α → β) (p : Prog σ ε α) : Prog σ ε β :=
  p.andThen (fun result => .done (.ok (f result)))

/-- The `with lock:` statement, which also releases when its body raises. -/
def locked (body : Prog σ ε α) : Prog σ ε α :=
  .acquire (body.andThen (fun result => .release (.done result)))

/-- The undisturbed run: no crash, no fault and no other process. -/
def exec : Prog σ ε α → σ → Except ε α × σ
  | .done result, s => (result, s)
  | .step update next _, s => (next s).exec (update s)
  | .acquire next, s => next.exec s
  | .release next, s => next.exec s

theorem bind_def (p : Prog σ ε α) (f : α → Prog σ ε β) : (p >>= f) = p.andThen (onOk f) := rfl

theorem exec_andThen (p : Prog σ ε α) (k : Except ε α → Prog σ ε β) (s : σ) :
    (p.andThen k).exec s = (k (p.exec s).1).exec (p.exec s).2 := by
  induction p generalizing s with
  | done result => rfl
  | step update next fault ihNext ihFault => exact ihNext s (update s)
  | acquire next ih => exact ih s
  | release next ih => exact ih s

@[simp] theorem exec_done (result : Except ε α) (s : σ) :
    (Prog.done result : Prog σ ε α).exec s = (result, s) := rfl

@[simp] theorem exec_pure (a : α) (s : σ) : (pure a : Prog σ ε α).exec s = (.ok a, s) := rfl

@[simp] theorem exec_throw (e : ε) (s : σ) : (throw e : Prog σ ε α).exec s = (.error e, s) := rfl

@[simp] theorem exec_atomically (fault : ε) (update : σ → σ) (view : σ → Except ε α) (s : σ) :
    (atomically fault update view).exec s = (view s, update s) := rfl

@[simp] theorem exec_read (fault : ε) (view : σ → Except ε α) (s : σ) :
    (read fault view).exec s = (view s, s) := rfl

@[simp] theorem exec_write (fault : ε) (update : σ → σ) (s : σ) :
    (write fault update).exec s = (.ok (), update s) := rfl

theorem exec_require_ok {condition : Prop} [Decidable condition] (met : condition)
    (otherwise : ε) (s : σ) :
    (require condition otherwise : Prog σ ε Unit).exec s = (.ok (), s) := by
  rw [require, if_pos met, exec_done]

theorem exec_require_error {condition : Prop} [Decidable condition] (failed : ¬ condition)
    (otherwise : ε) (s : σ) :
    (require condition otherwise : Prog σ ε Unit).exec s = (.error otherwise, s) := by
  rw [require, if_neg failed, exec_done]

/-- A check that was passed. -/
theorem exec_require_iff {condition : Prop} [Decidable condition] {otherwise : ε} {u : Unit} :
    (require condition otherwise : Prog σ ε Unit).exec s = (.ok u, t) ↔ condition ∧ s = t := by
  by_cases met : condition
  · rw [exec_require_ok met]
    simp [met]
  · rw [exec_require_error met]
    simp [met]

@[simp] theorem exec_map (f : α → β) (p : Prog σ ε α) (s : σ) :
    (p.map f).exec s = ((p.exec s).1.map f, (p.exec s).2) := by
  simp only [map, exec_andThen, exec]

@[simp] theorem exec_discard (p : Prog σ ε α) (s : σ) :
    p.discard.exec s = ((p.exec s).1.map (fun _ => ()), (p.exec s).2) := exec_map _ p s

@[simp] theorem exec_locked (body : Prog σ ε α) (s : σ) : (locked body).exec s = body.exec s := by
  simp only [locked, exec, exec_andThen]

theorem exec_bind (p : Prog σ ε α) (f : α → Prog σ ε β) (s : σ) :
    (p >>= f).exec s = match p.exec s with
      | (.ok a, t) => (f a).exec t
      | (.error e, t) => (.error e, t) := by
  rw [bind_def, exec_andThen]
  rcases p.exec s with ⟨_ | _, t⟩ <;> rfl

theorem exec_bind_ok {p : Prog σ ε α} (f : α → Prog σ ε β) (h : p.exec s = (.ok a, t)) :
    (p >>= f).exec s = (f a).exec t := by
  rw [exec_bind, h]

theorem exec_bind_error {p : Prog σ ε α} (f : α → Prog σ ε β) (h : p.exec s = (.error e, t)) :
    (p >>= f).exec s = (.error e, t) := by
  rw [exec_bind, h]

/-- Inversion of a sequential run that ends normally. -/
theorem exec_bind_ok_iff {p : Prog σ ε α} {f : α → Prog σ ε β} :
    (p >>= f).exec s = (.ok b, u) ↔ ∃ a t, p.exec s = (.ok a, t) ∧ (f a).exec t = (.ok b, u) := by
  rw [exec_bind]
  rcases p.exec s with ⟨_ | a, t⟩
  · simp
  · constructor
    · exact fun h => ⟨a, t, rfl, h⟩
    · rintro ⟨_, _, ⟨⟩, h⟩
      exact h

theorem exec_tryCatch (p : Prog σ ε α) (handler : ε → Prog σ ε α) (s : σ) :
    (tryCatch p handler).exec s = match p.exec s with
      | (.ok a, t) => (.ok a, t)
      | (.error e, t) => (handler e).exec t := by
  change (p.andThen (onError handler)).exec s = _
  rw [exec_andThen]
  rcases p.exec s with ⟨_ | _, t⟩ <;> rfl

/-- `count` moves of a process that runs alone, with the lock it holds. -/
def alone : Nat → Bool × Prog σ ε α × σ → Bool × Prog σ ε α × σ
  | 0, state => state
  | n + 1, (held, .step update next _, s) => alone n (held, next s, update s)
  | n + 1, (false, .acquire next, s) => alone n (true, next, s)
  | n + 1, (true, .release next, s) => alone n (false, next, s)
  | _ + 1, state => state

/-- The store a process leaves behind when it crashes after `count` moves. -/
def crashAfter (p : Prog σ ε α) (count : Nat) (s : σ) : σ :=
  (alone count (false, p, s)).2.2

/-- Calls made one after the other, each run for a number of moves and then
abandoned. A call that needs no more moves has completed. -/
def history (calls : List (Prog σ ε α × Nat)) (s : σ) : σ :=
  calls.foldl (fun s call => call.1.crashAfter call.2 s) s

end Prog

/-- The processes of one host. At most one of them holds the advisory lock. -/
structure Pool (ι σ ε α : Type) where
  store : σ
  owner : Option ι
  task : ι → Option (Prog σ ε α)

namespace Pool
variable {ι σ ε α : Type} [DecidableEq ι]

def idle (s : σ) : Pool ι σ ε α := ⟨s, none, fun _ => none⟩

def set (c : Pool ι σ ε α) (i : ι) (p : Option (Prog σ ε α)) : Pool ι σ ε α :=
  { c with task := Function.update c.task i p }

/-- The interleavings. `calls` are the programs a process may start. A crash
forgets the process and its lock, and nothing else. -/
inductive Move (calls : Prog σ ε α → Prop) (c : Pool ι σ ε α) : Pool ι σ ε α → Prop where
  | start (i : ι) (fresh : c.task i = none) (allowed : calls p) : Move calls c (c.set i (some p))
  | run (i : ι) (found : c.task i = some (.step update next fault)) :
      Move calls c { c.set i (some (next c.store)) with store := update c.store }
  | faultBefore (i : ι) (found : c.task i = some (.step update next fault)) :
      Move calls c (c.set i (some fault))
  | faultAfter (i : ι) (found : c.task i = some (.step update next fault)) :
      Move calls c { c.set i (some fault) with store := update c.store }
  | acquire (i : ι) (found : c.task i = some (.acquire next)) (unowned : c.owner = none) :
      Move calls c { c.set i (some next) with owner := some i }
  | release (i : ι) (found : c.task i = some (.release next)) (owned : c.owner = some i) :
      Move calls c { c.set i (some next) with owner := none }
  | finish (i : ι) (found : c.task i = some (.done result)) : Move calls c (c.set i none)
  | crash (i : ι) (found : c.task i = some p) :
      Move calls c { c.set i none with owner := if c.owner = some i then none else c.owner }

abbrev Reaches (calls : Prog σ ε α → Prop) : Pool ι σ ε α → Pool ι σ ε α → Prop :=
  Relation.ReflTransGen (Move calls)

/-- A lone process, its lock and its store as a pool. -/
def lone (i : ι) (state : Bool × Prog σ ε α × σ) : Pool ι σ ε α :=
  ⟨state.2.2, if state.1 then some i else none,
    Function.update (fun _ => none) i (some state.2.1)⟩

/-- A process with its lock and its store, in the company of others. -/
def beside (others : ι → Option (Prog σ ε α)) (i : ι) (state : Bool × Prog σ ε α × σ) :
    Pool ι σ ε α :=
  ⟨state.2.2, if state.1 then some i else none, Function.update others i (some state.2.1)⟩

/-- The moves of one process, while the others wait. -/
theorem beside_path {R : Pool ι σ ε α → Pool ι σ ε α → Prop} (i : ι)
    (others : ι → Option (Prog σ ε α))
    (run : ∀ (c : Pool ι σ ε α) {update next fault}, c.task i = some (.step update next fault) →
      R c { c.set i (some (next c.store)) with store := update c.store })
    (acquire : ∀ (c : Pool ι σ ε α) {next}, c.task i = some (.acquire next) → c.owner = none →
      R c { c.set i (some next) with owner := some i })
    (release : ∀ (c : Pool ι σ ε α) {next}, c.task i = some (.release next) →
      c.owner = some i → R c { c.set i (some next) with owner := none })
    (count : Nat) (state : Bool × Prog σ ε α × σ) : Relation.ReflTransGen R
      (beside others i state) (beside others i (Prog.alone count state)) := by
  fun_induction Prog.alone count state with
  | case1 state => exact .refl
  | case2 n held update next fault s ih =>
      have found : (beside others i (held, .step update next fault, s)).task i =
          some (.step update next fault) := by simp [beside]
      have move := run _ found
      exact .head (by simpa [beside, set] using move) ih
  | case3 n next s ih =>
      have found : (beside others i (false, .acquire next, s)).task i = some (.acquire next) := by
        simp [beside]
      have move := acquire _ found rfl
      exact .head (by simpa [beside, set] using move) ih
  | case4 n next s ih =>
      have found : (beside others i (true, .release next, s)).task i = some (.release next) := by
        simp [beside]
      have move := release _ found rfl
      exact .head (by simpa [beside, set] using move) ih
  | case5 => exact .refl

theorem alone_reaches {calls : Prog σ ε α → Prop} (i : ι) (count : Nat)
    (state : Bool × Prog σ ε α × σ) :
    Reaches calls (lone i state) (lone i (Prog.alone count state)) :=
  beside_path i (fun _ => none) (fun _ _ _ _ => .run i) (fun _ _ => .acquire i)
    (fun _ _ => .release i) count state

theorem crashAfter_reaches {calls : Prog σ ε α → Prop} (i : ι) (call : calls p) (count : Nat)
    (s : σ) : Reaches calls (idle s : Pool ι σ ε α) (idle (p.crashAfter count s)) := by
  have started : Move calls (idle s : Pool ι σ ε α) (lone i (false, p, s)) :=
    .start i rfl call
  refine .head started ((alone_reaches i count (false, p, s)).tail ?_)
  have found : (lone i (Prog.alone count (false, p, s))).task i =
      some (Prog.alone count (false, p, s)).2.1 := by simp [lone]
  have move : Move calls _ _ := .crash i found
  cases owned : (Prog.alone count (false, p, s)).1 <;>
    simpa [lone, set, idle, owned, Prog.crashAfter] using move

/-- Sequential histories with crashes are among the runs of the pool. -/
theorem history_reaches {calls : Prog σ ε α → Prop} (i : ι) {trace : List (Prog σ ε α × Nat)}
    (allowed : ∀ call ∈ trace, calls call.1) (s : σ) :
    Reaches calls (idle s : Pool ι σ ε α) (idle (Prog.history trace s)) := by
  induction trace generalizing s with
  | nil => exact .refl
  | cons call rest ih =>
      have first := crashAfter_reaches i (allowed call (by simp)) call.2 s
      exact first.trans (ih (fun c member => allowed c (by simp [member])) _)

end Pool
end CsdFoundry.Storage
