import CsdFoundry.Storage.Quiet
import CsdFoundry.Registry.Invariant

/-! What the operations do when they run undisturbed on a valid registry store. -/
namespace CsdFoundry.Registry
open Storage RegistryStore Prog
variable {D : Type} [LinearOrder D] [DigestText D] [Sha256 D] {s : RegistryStore D}
  {registryType : RegistryType} {entityId : String} {event : RegistryEvent D}
  {head : RegistryEntityHead D} {items : List (RegistryEvent D)}

omit [LinearOrder D] [Sha256 D] in
@[simp] theorem exec_lift (result : Except RegistryError α) :
    (lift result : RegistryM D α).exec s = (result, s) := rfl

omit [LinearOrder D] [Sha256 D] in
theorem exec_lift_iff {result : Except RegistryError α} :
    (lift result : RegistryM D α).exec s = (.ok a, t) ↔ result = .ok a ∧ s = t := by
  simp

theorem exec_getEvent (named : ∀ digest event, s.objects digest = some event →
    event.digest = digest) (digest : D) :
    (getEvent digest).exec s = (.ok (s.objects digest), s) := by
  unfold getEvent
  rw [exec_read]
  cases found : s.objects digest with
  | none => rfl
  | some event => simp [named digest event found]

theorem RegistryStore.Valid.headAt_iff (valid : s.Valid) :
    s.headAt registryType entityId = some head ↔
      head.registryType = registryType ∧ head.entityId = entityId ∧
      ∃ file, Keyed.find HeadFile.path s.heads (registryType, headName registryType entityId) =
        some file ∧ file.head = head := by
  unfold headAt
  rw [Option.map_eq_some_iff]
  constructor
  · rintro ⟨file, found, rfl⟩
    have placed := valid.placed file (Keyed.mem_of_find found)
    rw [Keyed.key_of_find found] at placed
    obtain ⟨types, names⟩ := Prod.mk.inj placed
    obtain ⟨-, ids⟩ := headName_inj names
    exact ⟨types.symm, ids.symm, file, found, rfl⟩
  · rintro ⟨-, -, file, found, same⟩
    exact ⟨file, found, same⟩

theorem exec_readHead (valid : s.Valid) (named : entityId ≠ "") :
    (readHead registryType entityId).exec s = (.ok (s.headAt registryType entityId), s) := by
  unfold readHead
  rw [exec_bind_ok _ (exec_require_ok named _ s), exec_read]
  cases found : Keyed.find HeadFile.path s.heads (registryType, headName registryType entityId) with
  | none => simp [headAt, found]
  | some file =>
      have last : s.headAt registryType entityId = some file.head := by simp [headAt, found]
      obtain ⟨types, ids, -⟩ := valid.headAt_iff.mp last
      simp [last, types, ids]

namespace RegistryStore

/-- The store after an installation, which is idempotent. -/
def filed (event : RegistryEvent D) (s : RegistryStore D) : RegistryStore D :=
  if s.objects event.digest = none then s.fileObject event else s

@[simp] theorem filed_heads : (s.filed event).heads = s.heads := by
  unfold filed
  split <;> rfl

theorem Valid.filed_object (valid : s.Valid) :
    (s.filed event).objects event.digest = some event := by
  unfold filed
  cases found : s.objects event.digest with
  | none => simp [fileObject]
  | some stored =>
      have same := RegistryEvent.digest_inj (valid.named _ _ found)
      simp [found, same]

theorem Valid.fileObject_free (valid : s.Valid) (fresh : s.objects event.digest = none) :
    Free s (s.fileObject event) ∧ (s.fileObject event).Valid := by
  have free : Free s (s.fileObject event) := ⟨Grows.update fresh _, rfl⟩
  refine ⟨free, free.valid valid ?_⟩
  intro digest stored found
  change Function.update s.objects event.digest (some event) digest = some stored at found
  by_cases here : digest = event.digest
  · subst here
    simp only [Function.update_self, Option.some.injEq] at found
    rw [found]
  · rw [Function.update_of_ne here] at found
    exact valid.named digest stored found

theorem Valid.filed_free (valid : s.Valid) : Free s (s.filed event) ∧ (s.filed event).Valid := by
  unfold filed
  split
  · exact valid.fileObject_free ‹_›
  · exact ⟨.refl s, valid⟩

end RegistryStore

/-- `_install` never meets other bytes: the path is the digest. -/
theorem exec_install (valid : s.Valid) :
    (install event).exec s = (.ok (), s.filed event) := by
  unfold install filed
  cases found : s.objects event.digest with
  | none =>
      rw [exec_bind_ok (a := none) (t := s) _ (by rw [exec_read, found])]
      exact exec_install_fresh found
  | some stored =>
      have same := RegistryEvent.digest_inj (valid.named _ _ found)
      rw [exec_bind_ok (a := some stored) (t := s) _ (by rw [exec_read, found])]
      simp [exec_require_ok same]

theorem exec_chainEvent (valid : s.Valid) {seen : List D} (fresh : digest ∉ seen)
    (found : s.eventOf registryType entityId digest = some event) :
    (chainEvent registryType entityId seen digest).exec s = (.ok event, s) := by
  obtain ⟨stored, mine⟩ := eventOf_iff.mp found
  unfold chainEvent
  rw [exec_bind_ok _ (exec_require_ok fresh _ s), exec_bind_ok _ (exec_getEvent valid.named digest),
    stored]
  exact exec_bind_ok _ (exec_require_ok mine _ s)

/-- The walk finds exactly the linked history. The digests that it has seen are those of
later events. -/
theorem exec_chainFrom (valid : s.Valid)
    (linked : Linked (s.eventOf registryType entityId) (·.entitySequence)
      (·.previousEntityEventDigest) n key items) (seen : List D)
    (later : ∀ digest ∈ seen, ∀ event, s.objects digest = some event → n < event.entitySequence) :
    (chainFrom registryType entityId n seen key).exec s = (.ok items, s) := by
  induction linked generalizing seen with
  | genesis => rfl
  | @next digest event n items found position rest ih =>
      have stored := (eventOf_iff.mp found).1
      have fresh : digest ∉ seen := by
        intro member
        have above := later digest member event stored
        omega
      have rest' := ih (digest :: seen) (by
        intro other member event' stored'
        rcases List.mem_cons.mp member with rfl | old
        · obtain rfl := Option.some.inj (stored.symm.trans stored')
          omega
        · have above := later other old event' stored'
          omega)
      unfold chainFrom
      rw [exec_bind_ok _ (exec_chainEvent valid fresh found),
        exec_bind_ok _ (exec_require_ok position _ s), exec_bind_ok _ rest']
      rfl

theorem exec_chainOf (valid : s.Valid) {head : Option (RegistryEntityHead D)}
    (chain : s.HeadChain registryType entityId head items) :
    (chainOf registryType entityId head).exec s = (.ok items, s) := by
  cases head with
  | none =>
      cases chain
      rfl
  | some head => exact exec_chainFrom valid chain [] (by simp)

theorem getEvent_ok {found : Option (RegistryEvent D)}
    (ran : (getEvent digest).exec s = (.ok found, t)) : s.objects digest = found ∧ s = t := by
  obtain ⟨read, rfl⟩ := Prod.mk.inj ran
  refine ⟨?_, rfl⟩
  cases stored : s.objects digest with
  | none => simpa [stored] using read
  | some event =>
      by_cases named : event.digest = digest
      · simpa [stored, named] using read
      · simp [stored, named] at read

theorem chainEvent_ok {seen : List D}
    (ran : (chainEvent registryType entityId seen digest).exec s = (.ok event, t)) :
    s.eventOf registryType entityId digest = some event ∧ s = t := by
  unfold chainEvent at ran
  obtain ⟨_, u, unseen, rest⟩ := exec_bind_ok_iff.mp ran
  obtain ⟨-, rfl⟩ := exec_require_iff.mp unseen
  obtain ⟨found, v, read, rest⟩ := exec_bind_ok_iff.mp rest
  obtain ⟨stored, rfl⟩ := getEvent_ok read
  cases found with
  | none => cases rest
  | some object =>
      have rest := exec_bind_ok_iff.mp rest
      obtain ⟨_, w, mine, last⟩ := rest
      obtain ⟨of_entity, rfl⟩ := exec_require_iff.mp mine
      cases last
      exact ⟨eventOf_iff.mpr ⟨stored, of_entity⟩, rfl⟩

/-- A walk that ends has found the linked history. -/
theorem chainFrom_ok {seen : List D} {key : Option D}
    (ran : (chainFrom registryType entityId n seen key).exec s = (.ok items, t)) :
    Linked (s.eventOf registryType entityId) (·.entitySequence) (·.previousEntityEventDigest) n key
      items ∧ s = t := by
  induction n generalizing seen key items t with
  | zero =>
      cases key with
      | none =>
          cases ran
          exact ⟨.genesis, rfl⟩
      | some digest =>
          obtain ⟨_, _, _, failed⟩ := exec_bind_ok_iff.mp ran
          cases failed
  | succ n ih =>
      cases key with
      | none => cases ran
      | some digest =>
          obtain ⟨event, u, first, rest⟩ := exec_bind_ok_iff.mp ran
          obtain ⟨found, rfl⟩ := chainEvent_ok first
          obtain ⟨_, v, placed, rest⟩ := exec_bind_ok_iff.mp rest
          obtain ⟨position, rfl⟩ := exec_require_iff.mp placed
          obtain ⟨below, w, walked, last⟩ := exec_bind_ok_iff.mp rest
          obtain ⟨linked, rfl⟩ := ih walked
          cases last
          exact ⟨.next found position linked, rfl⟩

theorem chainOf_ok {head : Option (RegistryEntityHead D)}
    (ran : (chainOf registryType entityId head).exec s = (.ok items, t)) :
    s.HeadChain registryType entityId head items ∧ s = t := by
  cases head with
  | none =>
      cases ran
      exact ⟨.genesis, rfl⟩
  | some head => exact chainFrom_ok ran

theorem exec_reconstructEntityUnlocked (valid : s.Valid) (named : entityId ≠ "")
    (chain : s.Chain registryType entityId items) :
    (reconstructEntityUnlocked registryType entityId).exec s = (.ok items, s) := by
  unfold reconstructEntityUnlocked
  rw [exec_bind_ok _ (exec_readHead valid named)]
  exact exec_chainOf valid chain

theorem exec_entityHead (valid : s.Valid) (named : entityId ≠ "") :
    (entityHead registryType entityId).exec s = (.ok (s.headAt registryType entityId), s) := by
  unfold entityHead
  rw [exec_bind_ok _ (exec_require_ok named _ s), exec_locked]
  exact exec_readHead valid named

theorem exec_reconstructEntity (valid : s.Valid) (named : entityId ≠ "")
    (chain : s.Chain registryType entityId items) :
    (reconstructEntity registryType entityId).exec s = (.ok items, s) := by
  unfold reconstructEntity
  rw [exec_bind_ok _ (exec_entityHead valid named)]
  exact exec_chainOf valid chain

/-- What `append` does under the lock. -/
theorem exec_appendLocked (valid : s.Valid) :
    (appendLocked event).exec s =
      match s.headAt event.registryType event.entityId with
      | some current =>
          if current.eventDigest = event.digest then
            if current.entitySequence = event.entitySequence then
              (.ok ⟨event, current, false, "IDEMPOTENT_APPEND"⟩, s)
            else (.error (.conflict "REGISTRY_IDEMPOTENT_SEQUENCE_MISMATCH" none), s)
          else (advance event (current.entitySequence + 1) (some current.eventDigest)).exec s
      | none => (advance event 1 none).exec s := by
  unfold appendLocked
  rw [exec_bind_ok _ (exec_readHead valid (named_of_token event.token))]
  cases s.headAt event.registryType event.entityId with
  | none => rfl
  | some current =>
      by_cases same : current.eventDigest = event.digest
      · simp only [same, if_true]
        by_cases equal : current.entitySequence = event.entitySequence
        · rw [if_pos equal, exec_bind_ok _ (exec_require_ok equal _ s), exec_pure]
        · rw [if_neg equal, exec_bind_error _ (exec_require_error equal _ s)]
      · simp only [same, if_false]

theorem exec_advance (expectedSequence : Nat) (expectedPrevious : Option D) :
    (advance event expectedSequence expectedPrevious).exec s =
      if event.entitySequence = expectedSequence then
        if event.previousEntityEventDigest = expectedPrevious then
          (.ok ⟨event, event.head, true, "APPENDED"⟩, s.replaceHead event.head)
        else (.error (.conflict "REGISTRY_PREDECESSOR_CONFLICT" none), s)
      else (.error (.conflict "REGISTRY_SEQUENCE_CONFLICT"
        (some ("expected " ++ toString expectedSequence ++
          ", observed " ++ toString event.entitySequence))), s) := by
  unfold advance
  by_cases position : event.entitySequence = expectedSequence
  · rw [if_pos position, exec_bind_ok _ (exec_require_ok position _ s)]
    by_cases previous : event.previousEntityEventDigest = expectedPrevious
    · rw [if_pos previous, exec_bind_ok _ (exec_require_ok previous _ s),
        exec_bind_ok _ (exec_write _ _ s), exec_pure]
    · rw [if_neg previous, exec_bind_error _ (exec_require_error previous _ s)]
  · rw [if_neg position, exec_bind_error _ (exec_require_error position _ s)]

/-- The locked part of `append` moves the head exactly when it reports an application. -/
theorem exec_appendLocked_cases (valid : s.Valid) :
    (∃ e, (appendLocked event).exec s = (.error e, s)) ∨
    (∃ current, s.headAt event.registryType event.entityId = some current ∧
      current.eventDigest = event.digest ∧
      (appendLocked event).exec s = (.ok ⟨event, current, false, "IDEMPOTENT_APPEND"⟩, s)) ∨
    (event.entitySequence = s.lastSequence event.registryType event.entityId + 1 ∧
      event.previousEntityEventDigest = s.lastDigest event.registryType event.entityId ∧
      (appendLocked event).exec s =
        (.ok ⟨event, event.head, true, "APPENDED"⟩, s.replaceHead event.head)) := by
  rw [exec_appendLocked valid]
  unfold lastSequence lastDigest
  cases last : s.headAt event.registryType event.entityId with
  | none =>
      simp only [exec_advance]
      split
      · split
        · exact .inr (.inr ⟨‹_›, ‹_›, rfl⟩)
        · exact .inl ⟨_, rfl⟩
      · exact .inl ⟨_, rfl⟩
  | some current =>
      simp only [exec_advance]
      split
      · split
        · exact .inr (.inl ⟨current, rfl, ‹_›, rfl⟩)
        · exact .inl ⟨_, rfl⟩
      · split
        · split
          · exact .inr (.inr ⟨‹_›, ‹_›, rfl⟩)
          · exact .inl ⟨_, rfl⟩
        · exact .inl ⟨_, rfl⟩

end CsdFoundry.Registry
