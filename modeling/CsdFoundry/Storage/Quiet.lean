import CsdFoundry.Storage.Discipline

/-! Programs that only read. They keep every discipline and leave the store alone; where
what they read is settled, so is what they return. -/
namespace CsdFoundry.Storage
namespace Prog
variable {σ ε α β : Type} {s : σ}

/-- No file operation changes the store, and the lock is left as it is. -/
def Quiet : Prog σ ε α → Prop
  | .done _ => True
  | .step update next fault => update = id ∧ (∀ s, (next s).Quiet) ∧ fault.Quiet
  | .acquire _ => False
  | .release _ => False

namespace Quiet

theorem done (result : Except ε α) : (Prog.done result : Prog σ ε α).Quiet := True.intro

theorem pure (a : α) : (Pure.pure a : Prog σ ε α).Quiet := True.intro

theorem throw (e : ε) : (MonadExcept.throw e : Prog σ ε α).Quiet := True.intro

theorem require (condition : Prop) [Decidable condition] (otherwise : ε) :
    (Prog.require condition otherwise : Prog σ ε Unit).Quiet := True.intro

theorem read (fault : ε) (view : σ → Except ε α) : (Prog.read fault view).Quiet :=
  ⟨rfl, fun _ => True.intro, True.intro⟩

theorem andThen {p : Prog σ ε α} {k : Except ε α → Prog σ ε β} (quiet : p.Quiet)
    (rest : ∀ result, (k result).Quiet) : (p.andThen k).Quiet := by
  induction p with
  | done result => exact rest result
  | step update next fault ihNext ihFault =>
      obtain ⟨still, normal, failed⟩ := quiet
      exact ⟨still, fun s => ihNext s (normal s), ihFault failed⟩
  | acquire next => exact quiet.elim
  | release next => exact quiet.elim

theorem bind {p : Prog σ ε α} {f : α → Prog σ ε β} (quiet : p.Quiet)
    (rest : ∀ a, (f a).Quiet) : (p >>= f).Quiet := by
  apply quiet.andThen
  intro result
  cases result with
  | error e => exact done _
  | ok a => exact rest a

theorem exec_store {p : Prog σ ε α} (quiet : p.Quiet) : (p.exec s).2 = s := by
  induction p generalizing s with
  | done result => rfl
  | step update next fault ihNext ihFault =>
      obtain ⟨rfl, normal, -⟩ := quiet
      exact ihNext s (normal s)
  | acquire next => exact quiet.elim
  | release next => exact quiet.elim

end Quiet

/-- The undisturbed program raises and leaves no trace, or ends well. -/
def Decides (p : Prog σ ε α) (s : σ) (good : α → σ → Prop) : Prop :=
  (∃ e, p.exec s = (.error e, s)) ∨ ∃ a t, p.exec s = (.ok a, t) ∧ good a t

namespace Decides
variable {p : Prog σ ε α} {f : α → Prog σ ε β} {good : β → σ → Prop}

theorem returns {b : β} {q : Prog σ ε β} {t : σ} (ran : q.exec s = (.ok b, t)) (met : good b t) :
    q.Decides s good := .inr ⟨b, t, ran, met⟩

theorem raises {q : Prog σ ε β} (failed : q.exec s = (.error e, s)) : q.Decides s good :=
  .inl ⟨e, failed⟩

/-- What comes before the first write may raise. -/
theorem bind (quiet : p.Quiet) (rest : ∀ a, p.exec s = (.ok a, s) → (f a).Decides s good) :
    (p >>= f).Decides s good := by
  have still : (p.exec s).2 = s := quiet.exec_store
  cases ran : (p.exec s).1 with
  | error e => exact raises (exec_bind_error f (Prod.ext ran still))
  | ok a =>
      have ends : p.exec s = (.ok a, s) := Prod.ext ran still
      rw [Decides, exec_bind_ok f ends]
      exact rest a ends

theorem weaken {q : Prog σ ε β} {good' : β → σ → Prop} (decides : q.Decides s good)
    (weaker : ∀ b t, q.exec s = (.ok b, t) → good b t → good' b t) : q.Decides s good' :=
  decides.imp_right fun ⟨b, t, ran, met⟩ => ⟨b, t, ran, weaker b t ran met⟩

theorem ok {q : Prog σ ε β} {b : β} {t : σ} (decides : q.Decides s good)
    (ran : q.exec s = (.ok b, t)) : good b t := by
  rcases decides with ⟨e, failed⟩ | ⟨b', t', ran', met⟩
  · rw [failed] at ran
    cases ran
  · rw [ran'] at ran
    cases ran
    exact met

theorem error {q : Prog σ ε β} {t : σ} (decides : q.Decides s good)
    (failed : q.exec s = (.error e, t)) : t = s := by
  rcases decides with ⟨e', failed'⟩ | ⟨b, u, ran, -⟩
  · rw [failed'] at failed
    cases failed
    rfl
  · rw [ran] at failed
    cases failed

end Decides
end Prog

namespace Discipline
variable {σ ε α β : Type} {D : Discipline σ} {s t : σ} {locked : Bool}

/-- Reading leaves behind what the others did. -/
theorem Holds.quiet_env {p : Prog σ ε α} (quiet : p.Quiet) (moves : D.env locked s t) :
    D.Holds locked p (After locked fun _ u => D.env locked s u) t := by
  induction p generalizing t with
  | done result => exact .result (fun _ u _ later _ => D.env_trans moves later)
  | step update next fault ihNext ihFault =>
      obtain ⟨rfl, normal, failed⟩ := quiet
      intro u later inv
      have before := D.env_trans moves later
      exact ⟨D.effect_refl locked u, inv, ihNext u (normal u) before, ihFault failed before,
        ihFault failed before⟩
  | acquire next => exact quiet.elim
  | release next => exact quiet.elim

theorem Holds.quiet {p : Prog σ ε α} (quiet : p.Quiet) :
    D.Holds locked p (After locked fun _ _ => True) s :=
  (Holds.quiet_env quiet (D.env_refl locked s)).trivial

/-- Reading under the lock. -/
theorem Holds.locked_quiet {p : Prog σ ε α} (quiet : p.Quiet) :
    D.Holds false (Prog.locked p) (After false fun _ _ => True) s :=
  .locked fun t _ _ => (Holds.quiet quiet : D.Holds true p _ t).weaken
    (fun _ _ _ _ _ _ _ => True.intro)

/-- Whatever the others do meanwhile, the program returns `a` unless a file operation
fails, and what it leaves behind is what they did. -/
def Answers (D : Discipline σ) (locked : Bool) (p : Prog σ ε α) (fault : ε) (a : α) (s : σ) :
    Prop :=
  D.Holds locked p (fun l result t => l = locked ∧ D.env locked s t ∧
    (result = .ok a ∨ result = .error fault)) s

namespace Answers
variable {p : Prog σ ε α} {f : α → Prog σ ε β} {fault : ε} {a : α} {b : β}

theorem pure : D.Answers locked (pure a : Prog σ ε α) fault a s :=
  fun _ moves _ => ⟨rfl, moves, .inl rfl⟩

theorem done {result : Except ε α} (ok : result = .ok a) :
    D.Answers locked (.done result) fault a s := fun _ moves _ => ⟨rfl, moves, .inl ok⟩

theorem require {condition : Prop} [Decidable condition] {otherwise : ε} (met : condition) :
    D.Answers locked (Prog.require condition otherwise) fault () s := .done (if_pos met)

theorem read {view : σ → Except ε α}
    (seen : ∀ t, D.env locked s t → D.inv t → view t = .ok a) :
    D.Answers locked (Prog.read fault view) fault a s := by
  intro t moves inv
  have failed : D.Holds locked (.done (.error fault) : Prog σ ε α) (fun l result u =>
      l = locked ∧ D.env locked s u ∧ (result = .ok a ∨ result = .error fault)) t :=
    fun u later _ => ⟨rfl, D.env_trans moves later, .inr rfl⟩
  refine ⟨D.effect_refl locked t, inv, fun u later _ => ?_, failed, failed⟩
  exact ⟨rfl, D.env_trans moves later, .inl (seen t moves inv)⟩

theorem bind (valid : D.inv s) (first : D.Answers locked p fault a s)
    (rest : ∀ t, D.env locked s t → D.inv t → D.Answers locked (f a) fault b t) :
    D.Answers locked (p >>= f) fault b s := by
  refine Holds.andThen valid (first.mono ?_)
  rintro l result t inv ⟨rfl, moves, rfl | rfl⟩
  · refine (rest t moves inv).mono ?_
    exact fun _ _ u _ met => ⟨met.1, D.env_trans moves met.2.1, met.2.2⟩
  · exact fun u later _ => ⟨rfl, D.env_trans moves later, .inr rfl⟩

/-- The answer is known where the program is used. -/
theorem after {normal : α → σ → Prop} (answers : D.Answers locked p fault a s)
    (met : ∀ t, D.env locked s t → D.inv t → normal a t) :
    D.Holds locked p (After locked normal) s := by
  refine Holds.mono ?_ answers
  rintro l result t inv ⟨rfl, moves, rfl | rfl⟩
  · exact ⟨rfl, by rintro _ ⟨⟩; exact met t moves inv⟩
  · exact ⟨rfl, by rintro _ ⟨⟩⟩

end Answers

end Discipline
end CsdFoundry.Storage
