import CsdFoundry.Registry.Acceptance

/-! Lists of events that are appended one after the other: when they fit, what the store is after
them, and that only the heads of their registry matter. -/
namespace CsdFoundry.Registry
open Storage RegistryStore Prog
variable {D : Type} [LinearOrder D] [DigestText D] [Sha256 D] {s t : RegistryStore D}
  {type : RegistryType} {entityId : String} {event : RegistryEvent D}
  {events more items : List (RegistryEvent D)}

def appendAll : List (RegistryEvent D) → RegistryM D Unit
  | [] => pure ()
  | event :: events => do
      let _ ← append event
      appendAll events

/-- The event takes the place that the head of its entity leaves open. -/
structure Fits (s : RegistryStore D) (event : RegistryEvent D) : Prop where
  sequence : event.entitySequence = s.lastSequence event.registryType event.entityId + 1
  previous : event.previousEntityEventDigest = s.lastDigest event.registryType event.entityId

/-- Each event fits after the ones before it. -/
def Fit : List (RegistryEvent D) → RegistryStore D → Prop
  | [], _ => True
  | event :: events, s => Fits s event ∧ Fit events (committed event s)

/-- The store after the events. -/
def appended (events : List (RegistryEvent D)) (s : RegistryStore D) : RegistryStore D :=
  events.foldl (fun s event => committed event s) s

/-! ### One event -/

theorem Fits.valid (valid : s.Valid) (fits : Fits s event) : (committed event s).Valid := by
  obtain ⟨-, inv, appends⟩ := committed_appends valid fits.sequence fits.previous
  exact appends.valid inv

/-- The head of the entity cites another event: that one stands at an earlier place. -/
theorem Fits.fresh (valid : s.Valid) (fits : Fits s event) (head : RegistryEntityHead D)
    (last : s.headAt event.registryType event.entityId = some head) :
    head.eventDigest ≠ event.digest := by
  intro same
  obtain ⟨items, chain⟩ := valid.chain event.registryType event.entityId
  obtain ⟨ending, -, found, position⟩ := chain.head_event last
  have named := valid.named _ _ (eventOf_iff.mp found).1
  obtain rfl := RegistryEvent.digest_inj (named.trans same)
  have next := fits.sequence
  simp only [lastSequence, last, Option.map_some, Option.getD_some] at next
  omega

theorem exec_append_fits (valid : s.Valid) (fits : Fits s event)
    (accepted : verifyEvent event = .ok ()) :
    (append event).exec s = (.ok ⟨event, event.head, true, "APPENDED"⟩, committed event s) :=
  exec_append_next valid accepted fits.sequence fits.previous (fits.fresh valid)

/-- An event that fits is appended, or it is not an event of a registry. -/
theorem append_fits_ok (valid : s.Valid) (fits : Fits s event)
    (ran : (append event).exec s = (.ok result, t)) :
    verifyEvent event = .ok () ∧ t = committed event s := by
  cases checked : verifyEvent event with
  | error e =>
      unfold append at ran
      rw [exec_bind_error (e := e) (t := s) _ (by rw [exec_lift, checked])] at ran
      cases ran
  | ok =>
      rw [exec_append_fits valid fits checked] at ran
      exact ⟨rfl, (Prod.mk.inj ran).2.symm⟩

theorem committed_chain_other (valid : s.Valid) (fits : Fits s event)
    (other : ¬(type = event.registryType ∧ entityId = event.entityId))
    (chain : s.Chain type entityId items) : (committed event s).Chain type entityId items := by
  obtain ⟨free, -, appends⟩ := committed_appends valid fits.sequence fits.previous
  exact appends.chain_other other (chain.grown free.grown (headAt_of_heads free.heads))

/-! ### A list of events -/

theorem Fit.append : Fit (events ++ more) s ↔ Fit events s ∧ Fit more (appended events s) := by
  induction events generalizing s with
  | nil => simp [Fit, appended]
  | cons event events ih =>
      rw [List.cons_append, Fit, Fit, ih, and_assoc]
      rfl

theorem Fit.valid (valid : s.Valid) (fit : Fit events s) : (appended events s).Valid := by
  induction events generalizing s with
  | nil => exact valid
  | cons event events ih => exact ih (fit.1.valid valid) fit.2

theorem exec_appendAll (valid : s.Valid) (fit : Fit events s)
    (accepted : ∀ event ∈ events, verifyEvent event = .ok ()) :
    (appendAll events).exec s = (.ok (), appended events s) := by
  induction events generalizing s with
  | nil => rfl
  | cons event events ih =>
      unfold appendAll
      rw [exec_bind_ok _ (exec_append_fits valid fit.1 (accepted event (by simp)))]
      exact ih (fit.1.valid valid) fit.2 fun other member => accepted other (by simp [member])

theorem appendAll_fit_ok (valid : s.Valid) (fit : Fit events s)
    (ran : (appendAll events).exec s = (.ok (), t)) :
    t = appended events s ∧ ∀ event ∈ events, verifyEvent event = .ok () := by
  induction events generalizing s with
  | nil =>
      obtain ⟨-, rfl⟩ := Prod.mk.inj ran
      exact ⟨rfl, List.forall_mem_nil _⟩
  | cons event events ih =>
      obtain ⟨result, u, first, rest⟩ := exec_bind_ok_iff.mp ran
      obtain ⟨accepted, rfl⟩ := append_fits_ok valid fit.1 first
      obtain ⟨same, others⟩ := ih (fit.1.valid valid) fit.2 rest
      exact ⟨same, List.forall_mem_cons.mpr ⟨accepted, others⟩⟩

/-- Each history is extended by the events of its entity. -/
theorem Fit.chain (valid : s.Valid) (fit : Fit events s)
    (typed : ∀ event ∈ events, event.registryType = type) (chain : s.Chain type entityId items) :
    (appended events s).Chain type entityId
      (items ++ events.filter (fun event => event.entityId = entityId)) := by
  induction events generalizing s items with
  | nil => simpa [appended] using chain
  | cons event events ih =>
      have rest {later : List (RegistryEvent D)}
          (known : (committed event s).Chain type entityId later) :=
        ih (fit.1.valid valid) fit.2 (fun other member => typed other (by simp [member])) known
      by_cases own : event.entityId = entityId
      · subst own
        obtain rfl : event.registryType = type := typed event (by simp)
        have longer := rest (committed_chain valid fit.1.sequence fit.1.previous chain)
        simpa [appended, List.append_assoc] using longer
      · have other : ¬(type = event.registryType ∧ entityId = event.entityId) :=
          fun same => own same.2.symm
        have longer := rest (committed_chain_other valid fit.1 other chain)
        simpa [appended, own] using longer

/-! ### Stores with the same heads of a registry -/

/-- The heads of the registry are the same. -/
def Alike (type : RegistryType) (s t : RegistryStore D) : Prop :=
  ∀ entityId, s.headAt type entityId = t.headAt type entityId

theorem Alike.fits (alike : Alike event.registryType s t) (fits : Fits s event) : Fits t event := by
  constructor
  · rw [fits.sequence, lastSequence, lastSequence, alike]
  · rw [fits.previous, lastDigest, lastDigest, alike]

theorem Alike.committed (alike : Alike type s t) :
    Alike type (committed event s) (committed event t) := by
  intro entityId
  by_cases own : type = event.registryType ∧ entityId = event.entityId
  · obtain ⟨rfl, rfl⟩ := own
    exact (headAt_replaceHead_self event.head).trans (headAt_replaceHead_self event.head).symm
  · rw [committed_other own, committed_other own, alike]

/-- What fits one store fits every other that has the same heads, with the same effect. -/
theorem Alike.fit (alike : Alike type s t) (typed : ∀ event ∈ events, event.registryType = type)
    (fit : Fit events s) : Fit events t ∧ Alike type (appended events s) (appended events t) := by
  induction events generalizing s t with
  | nil => exact ⟨True.intro, alike⟩
  | cons event events ih =>
      obtain rfl : event.registryType = type := typed event (by simp)
      obtain ⟨rest, after⟩ := ih alike.committed (fun other member => typed other (by simp [member]))
        fit.2
      exact ⟨⟨alike.fits fit.1, rest⟩, after⟩

end CsdFoundry.Registry
