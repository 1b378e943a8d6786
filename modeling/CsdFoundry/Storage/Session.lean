import CsdFoundry.Storage.Roles

/-! One process that makes its calls one after the other. Any operation of a call may fault and
any call may be abandoned; a guarantee says what a single operation may do to the store. -/
namespace CsdFoundry.Storage
open Roles (Normally)
variable {σ ε α β : Type}

namespace Prog

/-- One operation of a program, which runs or faults. -/
inductive Passes : Prog σ ε α → σ → Prog σ ε α → σ → Prop where
  | run : Passes (.step update next fault) s (next s) (update s)
  | faultBefore : Passes (.step update next fault) s fault s
  | faultAfter : Passes (.step update next fault) s fault (update s)
  | acquire : Passes (.acquire next) s next s
  | release : Passes (.release next) s next s

/-- Every operation stays within the guarantee, and every outcome meets `post`, whatever faults. -/
def Keeps (G : σ → σ → Prop) : Prog σ ε α → (Except ε α → σ → Prop) → σ → Prop
  | .done result, post, s => post result s
  | .step update next fault, post, s => G s (update s) ∧ (next s).Keeps G post (update s) ∧
      fault.Keeps G post s ∧ fault.Keeps G post (update s)
  | .acquire next, post, s => next.Keeps G post s
  | .release next, post, s => next.Keeps G post s

namespace Keeps
variable {G : σ → σ → Prop} {post post' : Except ε α → σ → Prop} {s : σ}

theorem andThen {p : Prog σ ε α} {k : Except ε α → Prog σ ε β} {post : Except ε β → σ → Prop}
    (keeps : p.Keeps G (fun result t => (k result).Keeps G post t) s) :
    (p.andThen k).Keeps G post s := by
  induction p generalizing s with
  | done result => exact keeps
  | step update next fault ihNext ihFault =>
      obtain ⟨guarantee, normal, before, after⟩ := keeps
      exact ⟨guarantee, ihNext s normal, ihFault before, ihFault after⟩
  | acquire next ih => exact ih keeps
  | release next ih => exact ih keeps

theorem mono {p : Prog σ ε α} (keeps : p.Keeps G post s)
    (weaker : ∀ result t, post result t → post' result t) : p.Keeps G post' s := by
  induction p generalizing s with
  | done result => exact weaker result s keeps
  | step update next fault ihNext ihFault =>
      obtain ⟨guarantee, normal, before, after⟩ := keeps
      exact ⟨guarantee, ihNext s normal, ihFault before, ihFault after⟩
  | acquire next ih => exact ih keeps
  | release next ih => exact ih keeps

/-- The outcome lies within the guarantee of the start. -/
theorem reached {p : Prog σ ε α} (still : ∀ s, G s s)
    (chained : ∀ {s t u}, G s t → G t u → G s u) (keeps : p.Keeps G post s) :
    p.Keeps G (fun result t => G s t ∧ post result t) s := by
  induction p generalizing s with
  | done result => exact ⟨still s, keeps⟩
  | step update next fault ihNext ihFault =>
      obtain ⟨guarantee, normal, before, after⟩ := keeps
      have onwards : ∀ (result : Except ε α) t, G (update s) t ∧ post result t →
          G s t ∧ post result t := fun _ _ met => ⟨chained guarantee met.1, met.2⟩
      exact ⟨guarantee, (ihNext s normal).mono onwards, ihFault before,
        (ihFault after).mono onwards⟩
  | acquire next ih => exact ih keeps
  | release next ih => exact ih keeps

/-- The undisturbed run meets what every run meets. -/
theorem exec {p : Prog σ ε α} (keeps : p.Keeps G post s) : post (p.exec s).1 (p.exec s).2 := by
  induction p generalizing s with
  | done result => exact keeps
  | step update next fault ihNext ihFault => exact ihNext s keeps.2.1
  | acquire next ih => exact ih keeps
  | release next ih => exact ih keeps

theorem bind {p : Prog σ ε α} {f : α → Prog σ ε β} {normal : β → σ → Prop}
    (keeps : p.Keeps G (Normally fun a t => (f a).Keeps G (Normally normal) t) s) :
    (p >>= f).Keeps G (Normally normal) s := by
  refine andThen (keeps.mono fun result t met => ?_)
  cases result with
  | ok a => exact met a rfl
  | error e => exact nofun

/-- The first program keeps a fact whatever its outcome, and the second starts from there. -/
theorem bind_always {p : Prog σ ε α} {f : α → Prog σ ε β} {post : Except ε β → σ → Prop}
    {fact : σ → Prop} (keeps : p.Keeps G (fun _ t => fact t) s)
    (rest : ∀ a t, fact t → (f a).Keeps G post t) (failed : ∀ e t, fact t → post (.error e) t) :
    (p >>= f).Keeps G post s := by
  refine andThen (keeps.mono fun result t met => ?_)
  cases result with
  | ok a => exact rest a t met
  | error e => exact failed e t met

/-- A handler runs from the state that the exception left. -/
theorem tryCatch {p : Prog σ ε α} {handler : ε → Prog σ ε α} {normal : α → σ → Prop}
    (keeps : p.Keeps G (fun result t => (∀ a, result = .ok a → normal a t) ∧
      ∀ e, result = .error e → (handler e).Keeps G (Normally normal) t) s) :
    (MonadExcept.tryCatch p handler : Prog σ ε α).Keeps G (Normally normal) s := by
  refine andThen (k := onError handler) (keeps.mono fun result t met => ?_)
  cases result with
  | ok a =>
      rintro _ ⟨⟩
      exact met.1 a rfl
  | error e => exact met.2 e rfl

theorem locked {body : Prog σ ε α} (keeps : body.Keeps G post s) :
    (Prog.locked body).Keeps G post s :=
  andThen (p := body) (keeps.mono fun _ _ met => met)

theorem atomically {fault : ε} {update : σ → σ} {view : σ → Except ε α} (guarantee : G s (update s))
    (normal : post (view s) (update s)) (before : post (.error fault) s)
    (after : post (.error fault) (update s)) : (Prog.atomically fault update view).Keeps G post s :=
  ⟨guarantee, normal, before, after⟩

/-- An operation after which only its normal result matters. -/
theorem operation {fault : ε} {update : σ → σ} {view : σ → Except ε α} {normal : α → σ → Prop}
    (guarantee : G s (update s)) (met : ∀ a, view s = .ok a → normal a (update s)) :
    (Prog.atomically fault update view).Keeps G (Normally normal) s :=
  atomically guarantee met nofun nofun

/-- An operation that keeps a fact, whatever its outcome. -/
theorem always {fault : ε} {update : σ → σ} {view : σ → Except ε α} {fact : σ → Prop}
    (guarantee : G s (update s)) (before : fact s) (after : fact (update s)) :
    (Prog.atomically fault update view).Keeps G (fun _ t => fact t) s :=
  atomically guarantee after before after

theorem discard {p : Prog σ ε α} {fact : σ → Prop} (keeps : p.Keeps G (Normally fun _ => fact) s) :
    p.discard.Keeps G (Normally fun _ => fact) s := by
  refine andThen (p := p) (keeps.mono fun result t met => ?_)
  cases result with
  | ok a => exact fun _ _ => met a rfl
  | error e => exact nofun

theorem pure {a : α} {normal : α → σ → Prop} (met : normal a s) :
    (Pure.pure a : Prog σ ε α).Keeps G (Normally normal) s := by
  rintro _ ⟨⟩
  exact met

theorem throw {e : ε} {normal : α → σ → Prop} :
    (MonadExcept.throw e : Prog σ ε α).Keeps G (Normally normal) s := nofun

end Keeps

/-- A program that changes nothing keeps any guarantee that allows as much. -/
def Idle (p : Prog σ ε α) : Prop := ∀ s, p.Keeps Eq (fun _ t => t = s) s

theorem Idle.keeps {p : Prog σ ε α} {G : σ → σ → Prop} {post : Except ε α → σ → Prop}
    (idle : p.Idle) (still : ∀ s, G s s) (met : ∀ result, post result s) : p.Keeps G post s := by
  have general : ∀ (p : Prog σ ε α) t, p.Keeps Eq (fun _ t => t = s) t → t = s →
      p.Keeps G post t := by
    intro p
    induction p with
    | done result =>
        rintro t - rfl
        exact met result
    | step update next fault ihNext ihFault =>
        rintro t ⟨same, normal, before, after⟩ rfl
        exact ⟨same ▸ still _, ihNext t _ normal same.symm, ihFault t before rfl,
          ihFault _ after same.symm⟩
    | acquire next ih => exact fun t keeps start => ih t keeps start
    | release next ih => exact fun t keeps start => ih t keeps start
  exact general p s (idle s) rfl

namespace Idle

theorem exec {p : Prog σ ε α} (idle : p.Idle) (s : σ) : (p.exec s).2 = s := (idle s).exec

theorem done (result : Except ε α) : (Prog.done result : Prog σ ε α).Idle := fun _ => rfl

theorem read {fault : ε} {view : σ → Except ε α} : (Prog.read fault view).Idle :=
  fun _ => ⟨rfl, rfl, rfl, rfl⟩

theorem andThen {p : Prog σ ε α} {k : Except ε α → Prog σ ε β} (idle : p.Idle)
    (rest : ∀ result, (k result).Idle) : (p.andThen k).Idle := by
  intro s
  refine Keeps.andThen ((idle s).mono fun result t same => ?_)
  subst same
  exact rest result _

theorem bind {p : Prog σ ε α} {f : α → Prog σ ε β} (idle : p.Idle) (rest : ∀ a, (f a).Idle) :
    (p >>= f).Idle := by
  refine andThen idle fun result => ?_
  cases result with
  | ok a => exact rest a
  | error e => exact done _

theorem tryCatch {p : Prog σ ε α} {handler : ε → Prog σ ε α} (idle : p.Idle)
    (rest : ∀ e, (handler e).Idle) : (MonadExcept.tryCatch p handler : Prog σ ε α).Idle := by
  refine andThen (k := onError handler) idle fun result => ?_
  cases result with
  | ok a => exact done _
  | error e => exact rest e

end Idle
end Prog

/-- The states of one process, with the call that it is in. -/
inductive Session (calls : σ → Prog σ ε α → Prop) (start : σ) : Option (Prog σ ε α) → σ → Prop where
  | begin : Session calls start none start
  | call (earlier : Session calls start none s) (made : calls s p) : Session calls start (some p) s
  | move (earlier : Session calls start (some p) s) (passes : p.Passes s q t) :
      Session calls start (some q) t
  | leave (earlier : Session calls start (some p) s) : Session calls start none s

variable {calls : σ → Prog σ ε α → Prop} {start s t : σ}

theorem Prog.Passes.keeps {G : σ → σ → Prop} {post : Except ε α → σ → Prop} {p q : Prog σ ε α}
    (still : ∀ s, G s s) (passes : p.Passes s q t) (keeps : p.Keeps G post s) :
    G s t ∧ q.Keeps G post t := by
  cases passes with
  | run => exact ⟨keeps.1, keeps.2.1⟩
  | faultBefore => exact ⟨still s, keeps.2.2.1⟩
  | faultAfter => exact ⟨keeps.1, keeps.2.2.2⟩
  | acquire => exact ⟨still s, keeps⟩
  | release => exact ⟨still s, keeps⟩

/-- An invariant that the guarantee keeps and from which every call keeps the guarantee. -/
theorem Session.invariant (G : σ → σ → Prop) (inv : σ → Prop) {post : Except ε α → σ → Prop}
    (still : ∀ s, G s s) (stable : ∀ s t, inv s → G s t → inv t)
    (checked : ∀ s p, inv s → calls s p → p.Keeps G post s) (starts : inv start)
    (session : Session calls start task s) : inv s ∧ ∀ p, task = some p → p.Keeps G post s := by
  induction session with
  | begin => exact ⟨starts, nofun⟩
  | call earlier made ih =>
      refine ⟨ih.1, ?_⟩
      rintro _ ⟨⟩
      exact checked _ _ ih.1 made
  | move earlier passes ih =>
      obtain ⟨guarantee, keeps⟩ := passes.keeps still (ih.2 _ rfl)
      refine ⟨stable _ _ ih.1 guarantee, ?_⟩
      rintro _ ⟨⟩
      exact keeps
  | leave earlier ih => exact ⟨ih.1, nofun⟩

/-- A read that does not fail. -/
theorem Prog.exec_ask {ask : σ → α} {f : α → Prog σ ε β} (fault : ε) (s : σ) :
    (Prog.read fault (fun s => .ok (ask s)) >>= f).exec s = (f (ask s)).exec s := rfl

/-- The undisturbed run of a call. -/
theorem Session.exec {p : Prog σ ε α} (session : Session calls start (some p) s) :
    Session calls start (some (.done (p.exec s).1)) (p.exec s).2 := by
  induction p generalizing s with
  | done result => exact session
  | step update next fault ihNext ihFault => exact ihNext s (session.move .run)
  | acquire next ih => exact ih (session.move .acquire)
  | release next ih => exact ih (session.move .release)

end CsdFoundry.Storage
