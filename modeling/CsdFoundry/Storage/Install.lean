import CsdFoundry.Storage.Discipline

/-! No-replace installation, and the growth of immutable files that it gives. -/
namespace CsdFoundry.Storage

/-- Everything stored stays stored. -/
def Grows (f g : κ → Option β) : Prop := ∀ key value, f key = some value → g key = some value

namespace Grows

theorem refl (f : κ → Option β) : Grows f f := fun _ _ h => h

theorem trans {f g h : κ → Option β} (first : Grows f g) (second : Grows g h) : Grows f h :=
  fun key value found => second key value (first key value found)

theorem update [DecidableEq κ] {f : κ → Option β} {key : κ} (fresh : f key = none) (value : β) :
    Grows f (Function.update f key (some value)) := by
  intro key' value' found
  have different : key' ≠ key := by
    rintro rfl
    simp [fresh] at found
  simpa [different] using found

end Grows

namespace Prog
variable {σ ε β : Type} [DecidableEq β]

/-- Write a temporary, link it to the final path, and compare when the path is taken. -/
def install (fault clash : ε) (find : σ → Option β) (put : σ → σ) (payload : β) :
    Prog σ ε Unit :=
  atomically fault (fun s => if find s = none then put s else s) (fun s => match find s with
    | none => .ok ()
    | some stored => if stored = payload then .ok () else .error clash)

theorem exec_install (fault clash : ε) (find : σ → Option β) (put : σ → σ) (payload : β) (s : σ) :
    (install fault clash find put payload).exec s = match find s with
      | none => (.ok (), put s)
      | some stored => (if stored = payload then .ok () else .error clash, s) := by
  rw [install, exec_atomically]
  cases find s <;> simp

theorem exec_install_present {fault clash : ε} {find : σ → Option β} {put : σ → σ}
    {payload : β} {s : σ} (present : find s = some payload) :
    (install fault clash find put payload).exec s = (.ok (), s) := by
  rw [exec_install, present]
  simp

theorem exec_install_fresh {fault clash : ε} {find : σ → Option β} {put : σ → σ}
    {payload : β} {s : σ} (fresh : find s = none) :
    (install fault clash find put payload).exec s = (.ok (), put s) := by
  rw [exec_install, fresh]

end Prog

namespace Discipline
variable {σ ε β : Type} [DecidableEq β] {D : Discipline σ}

/-- An installation that anyone may make at any time. Once it has succeeded the payload
is in place for good. -/
theorem Holds.install {locked : Bool} {fault clash : ε} {find : σ → Option β} {put : σ → σ}
    {payload : β} {normal : Unit → σ → Prop}
    (placed : ∀ t, find (put t) = some payload)
    (kept : ∀ t u, D.env locked t u → find t = some payload → find u = some payload)
    (fresh : ∀ t, D.env locked s t → D.inv t → find t = none → D.free t (put t) ∧ D.inv (put t))
    (met : ∀ u, D.env locked s u → D.inv u → find u = some payload → normal () u) :
    D.Holds locked (Prog.install fault clash find put payload) (After locked normal) s := by
  refine Holds.atomically ?_ ?_
  · intro t moves inv
    by_cases taken : find t = none
    · have grown := fresh t moves inv taken
      simpa only [taken, if_true] using And.intro (D.effect_of_free grown.1) grown.2
    · simpa only [taken, if_false] using ⟨D.effect_refl locked t, inv⟩
  · intro _ t u moves inv seen later invU
    cases stored : find t with
    | none =>
        simp only [stored, if_true] at later
        have grown := fresh t moves inv stored
        have before := D.env_trans moves (D.env_of_free grown.1)
        exact met u (D.env_trans before later) invU (kept _ u later (placed t))
    | some value =>
        simp only [stored, reduceCtorEq, if_false] at later seen
        split at seen
        · rename_i same
          subst same
          exact met u (D.env_trans moves later) invU (kept _ u later stored)
        · cases seen

end Discipline
end CsdFoundry.Storage
