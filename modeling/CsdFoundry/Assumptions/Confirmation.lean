import Mathlib.Data.List.Induction
import CsdFoundry.Assumptions.History

/-! Whose authority a CONFIRMED assumption records: `_confirm` sets it, and
`_resolve_challenges` leaves it as it is. -/
namespace CsdFoundry.Assumptions
open Registry
variable {D : Type} [DecidableEq D] [DigestText D] [Sha256 D]

/-- What one accepted event does to the confirming authority. -/
structure Attributes (before : Assumption D) (event : RegistryEvent D)
    (after : Assumption D) : Prop where
  confirmation : Operates event "CONFIRM" → ∃ authority,
    event.payload.get "confirming_authority_id" = .str authority ∧
      after.confirmingAuthorityId = some authority
  other : ¬ Operates event "CONFIRM" →
    after.confirmingAuthorityId = before.confirmingAuthorityId
  resolver : Operates event "RESOLVE_CHALLENGES" → ∃ authority,
    event.payload.get "resolver_authority_id" = .str authority

variable {events : List (RegistryEvent D)} {event : RegistryEvent D}
  {a b before after : Assumption D} {name : String}

theorem Attributes.of_confirm (operation : Operates event "CONFIRM")
    (accepted : confirm before event = .ok after) : Attributes before event after := by
  simp only [confirm, except_bind_ok, check_ok] at accepted
  obtain ⟨-, -, -, -, -, -, authority, named, -, -, changed⟩ := accepted
  obtain ⟨-, rfl⟩ := create_ok.mp changed
  exact ⟨fun _ => ⟨authority, requiredToken_ok named, rfl⟩, fun other => absurd operation other,
    fun resolves => absurd (operation.unique resolves) (by decide)⟩

theorem Attributes.of_resolution (operation : Operates event "RESOLVE_CHALLENGES")
    (accepted : resolveChallenges before event = .ok after) : Attributes before event after := by
  simp only [resolveChallenges, except_bind_ok, check_ok] at accepted
  obtain ⟨-, -, -, -, -, -, outcome, -, -, -, resolver, named, -, -, -, -, ids, -, -, -,
    replacement, -, changed⟩ := accepted
  obtain ⟨-, rfl⟩ := create_ok.mp changed
  exact ⟨fun confirms => absurd (operation.unique confirms) (by decide), fun _ => rfl,
    fun _ => ⟨resolver, requiredToken_ok named⟩⟩

/-- An operation of any other name, which changes the state without naming an authority. -/
theorem Attributes.of_advance {change : Change D} (operation : Operates event name)
    (confirms : name ≠ "CONFIRM") (resolves : name ≠ "RESOLVE_CHALLENGES")
    (changed : advance before event change = .ok after)
    (silent : change.confirmingAuthorityId = none) : Attributes before event after := by
  obtain ⟨-, rfl⟩ := create_ok.mp changed
  refine ⟨fun operates => absurd (operation.unique operates) confirms, fun _ => ?_,
    fun operates => absurd (operation.unique operates) resolves⟩
  show change.confirmingAuthorityId.or before.confirmingAuthorityId = _
  rw [silent, Option.none_or]

theorem operate_attributes (operation : Operates event name)
    (accepted : operate name before event = .ok after) : Attributes before event after := by
  unfold operate at accepted
  split at accepted
  case h_1 => cases accepted
  case h_2 =>
      simp only [admitAssumption, except_bind_ok, check_ok] at accepted
      obtain ⟨-, -, -, -, authority, -, -, -, changed⟩ := accepted
      exact .of_advance operation (by decide) (by decide) changed rfl
  case h_3 => exact .of_confirm operation accepted
  case h_4 =>
      simp only [challenge, except_bind_ok, check_ok] at accepted
      obtain ⟨-, -, -, -, id, -, -, -, authority, -, reason, -, receipt, -, -, -, changed⟩ :=
        accepted
      exact .of_advance operation (by decide) (by decide) changed rfl
  case h_5 => exact .of_resolution operation accepted
  case h_6 =>
      simp only [reject, except_bind_ok, check_ok] at accepted
      obtain ⟨-, -, -, -, -, -, -, -, -, -, changed⟩ := accepted
      exact .of_advance operation (by decide) (by decide) changed rfl
  case h_7 =>
      simp only [expire, except_bind_ok, check_ok] at accepted
      obtain ⟨-, -, -, -, -, -, -, -, dated⟩ := accepted
      cases declared : before.expiresAtSequence with
      | none =>
          rw [declared] at dated
          cases dated
      | some expires =>
          rw [declared] at dated
          obtain ⟨-, -, changed⟩ := except_bind_ok.mp dated
          exact .of_advance operation (by decide) (by decide) changed rfl
  case h_8 =>
      simp only [supersede, except_bind_ok, check_ok] at accepted
      obtain ⟨-, -, -, -, replacement, -, -, -, -, -, -, -, -, -, changed⟩ := accepted
      exact .of_advance operation (by decide) (by decide) changed rfl
  case h_9 => cases accepted

theorem reduceAssumption_attributes (accepted : reduceAssumption (some before) event = .ok after) :
    Attributes before event after := by
  simp only [reduceAssumption, except_bind_ok, check_ok] at accepted
  obtain ⟨-, -, operation, operates, -, -, -, -, operated⟩ := accepted
  exact operate_attributes (requiredToken_ok operates) operated

theorem reduceAssumption_unconfirmed (accepted : reduceAssumption none event = .ok after) :
    after.confirmingAuthorityId = none := by
  simp only [reduceAssumption, except_bind_ok, check_ok] at accepted
  obtain ⟨-, -, -, -, -, -, -, -, proposed⟩ := accepted
  simp only [propose, except_bind_ok, check_ok, create_ok] at proposed
  obtain ⟨-, -, -, -, -, -, -, -, -, -, -, -, -, -, -, -, -, -, -, -, -, -, -, -, -, -, -, -, -,
    rfl⟩ := proposed
  rfl

/-- An accepted history, from its last event: the proposal, or one more event. -/
theorem project_concat (accepted : projectAssumptionHistory (events ++ [event]) = .ok (some a)) :
    (events = [] ∧ reduceAssumption none event = .ok a) ∨
      ∃ b, projectAssumptionHistory events = .ok (some b) ∧
        reduceAssumption (some b) event = .ok a := by
  obtain ⟨middle, first, second⟩ := projectFrom_append.mp accepted
  obtain ⟨next, reduced, rest⟩ := except_bind_ok.mp second
  obtain rfl := Option.some.inj (Except.ok.inj rest)
  rcases project_some first with ⟨empty, rfl⟩ | ⟨b, rfl, -⟩
  · exact .inl ⟨empty, reduced⟩
  · exact .inr ⟨b, first, reduced⟩

/-- The events of the history, less the last, are accepted too. -/
theorem project_induction {motive : List (RegistryEvent D) → Assumption D → Prop}
    (proposal : ∀ event a, reduceAssumption none event = .ok a →
      projectAssumptionHistory [event] = .ok (some a) → motive [event] a)
    (next : ∀ events event b a, projectAssumptionHistory events = .ok (some b) →
      reduceAssumption (some b) event = .ok a →
      projectAssumptionHistory (events ++ [event]) = .ok (some a) → motive events b →
      motive (events ++ [event]) a)
    (accepted : projectAssumptionHistory events = .ok (some a)) : motive events a := by
  induction events using List.reverseRecOn generalizing a with
  | nil => cases Except.ok.inj accepted
  | append_singleton events event ih =>
      rcases project_concat accepted with ⟨rfl, reduced⟩ | ⟨b, earlier, reduced⟩
      · exact proposal event a reduced accepted
      · exact next events event b a earlier reduced accepted (ih earlier)

/-- The events end with the assumption in CONFIRMED. -/
def StandsConfirmed (events : List (RegistryEvent D)) : Prop :=
  ∃ a, projectAssumptionHistory events = .ok (some a) ∧ a.standing = .confirmed

/-- This event of the history put the assumption in CONFIRMED, where it has stood since. -/
def PutInConfirmed (events : List (RegistryEvent D)) (event : RegistryEvent D) : Prop :=
  ∃ earlier later, events = earlier ++ event :: later ∧ ¬ StandsConfirmed earlier ∧
    ∀ since, since <+: later → StandsConfirmed (earlier ++ event :: since)

/-- The confirmer of a CONFIRM event, or the resolver of a CONFIRM resolution. -/
def Authorises (event : RegistryEvent D) (authority : String) : Prop :=
  (Operates event "CONFIRM" ∧
    event.payload.get "confirming_authority_id" = .str authority) ∨
  (Operates event "RESOLVE_CHALLENGES" ∧
    event.payload.get "resolution_outcome" = .str "CONFIRM" ∧
    event.payload.get "resolver_authority_id" = .str authority)

/-- The confirmer that the last CONFIRM event of a history names. -/
def lastConfirmer (events : List (RegistryEvent D)) : Option String :=
  events.foldl (fun confirmer event =>
    match event.payload.get "operation", event.payload.get "confirming_authority_id" with
    | .str "CONFIRM", .str authority => some authority
    | _, _ => confirmer) none

omit [DecidableEq D] [Sha256 D] in
theorem lastConfirmer_confirmation (operation : Operates event "CONFIRM")
    (named : event.payload.get "confirming_authority_id" = .str authority) :
    lastConfirmer (events ++ [event]) = some authority := by
  unfold Operates at operation
  simp [lastConfirmer, operation, named]

omit [DecidableEq D] [Sha256 D] in
theorem lastConfirmer_other (other : ¬ Operates event "CONFIRM") :
    lastConfirmer (events ++ [event]) = lastConfirmer events := by
  simp only [lastConfirmer, List.foldl_append, List.foldl_cons, List.foldl_nil]
  split
  · rename_i operation named
    exact absurd operation other
  · rfl

/-- The confirming authority is the last confirmer, whatever else has happened. -/
theorem project_lastConfirmer (accepted : projectAssumptionHistory events = .ok (some a)) :
    a.confirmingAuthorityId = lastConfirmer events := by
  refine project_induction (motive := fun events a => a.confirmingAuthorityId = lastConfirmer events)
    ?_ ?_ accepted
  · intro event a reduced _
    have proposes := (reduceAssumption_none_ok reduced).operation
    have other : ¬ Operates event "CONFIRM" := fun operates =>
      absurd (proposes.unique operates) (by decide)
    rw [reduceAssumption_unconfirmed reduced, ← List.nil_append [event],
      lastConfirmer_other other]
    rfl
  · intro events event b a _ reduced _ ih
    have attributes := reduceAssumption_attributes reduced
    by_cases operation : Operates event "CONFIRM"
    · obtain ⟨authority, named, recorded⟩ := attributes.confirmation operation
      rw [recorded, lastConfirmer_confirmation operation named]
    · rw [attributes.other operation, ih, lastConfirmer_other operation]

/-- An event that keeps the assumption in CONFIRMED leaves the one that put it there. -/
theorem PutInConfirmed.concat {put : RegistryEvent D} (was : PutInConfirmed events put)
    (stands : StandsConfirmed (events ++ [event])) : PutInConfirmed (events ++ [event]) put := by
  obtain ⟨earlier, later, rfl, outside, since⟩ := was
  refine ⟨earlier, later ++ [event], by simp, outside, fun part start => ?_⟩
  rcases List.prefix_concat_iff.mp start with rfl | shorter
  · simpa using stands
  · exact since part shorter

theorem PutInConfirmed.unique {other : RegistryEvent D} (first : PutInConfirmed events event)
    (second : PutInConfirmed events other) : event = other := by
  obtain ⟨earlier, later, rfl, outside, since⟩ := first
  obtain ⟨earlier', later', split, outside', since'⟩ := second
  rcases List.append_eq_append_iff.mp split with ⟨between, rfl, tail⟩ | ⟨between, rfl, tail⟩
  · cases between with
    | nil => exact (List.cons.inj tail).1
    | cons head between =>
        obtain ⟨rfl, rfl⟩ := List.cons.inj tail
        exact absurd (since between (List.prefix_append _ _)) outside'
  · cases between with
    | nil => exact (List.cons.inj tail).1.symm
    | cons head between =>
        obtain ⟨rfl, rfl⟩ := List.cons.inj tail
        exact absurd (since' between (List.prefix_append _ _)) outside

/-- One event more: CONFIRMED is kept from before, or the event confirms. -/
theorem Reduces.confirms (reduces : Reduces b event a) (attributes : Attributes b event a)
    (confirmed : a.standing = .confirmed) (was : b.standing ≠ .confirmed) :
    ∃ authority, Authorises event authority ∧
      (Operates event "CONFIRM" → a.confirmingAuthorityId = some authority) := by
  have transition := reduces.transition
  rw [confirmed] at transition
  rcases transition.confirms was with ⟨operation, -⟩ | ⟨operation, outcome, -⟩
  · obtain ⟨authority, named, recorded⟩ := attributes.confirmation operation
    exact ⟨authority, .inl ⟨operation, named⟩, fun _ => recorded⟩
  · obtain ⟨authority, named⟩ := attributes.resolver operation
    exact ⟨authority, .inr ⟨operation, outcome, named⟩,
      fun confirms => absurd (operation.unique confirms) (by decide)⟩

omit [DecidableEq D] in
/-- In CONFIRMED, no CONFIRM event is accepted. -/
theorem Transition.unconfirming {standing : Standing} {challenges : List (AssumptionChallenge D)}
    (transition : Transition b event standing challenges) (was : b.standing = .confirmed) :
    ¬ Operates event "CONFIRM" := by
  intro operates
  cases transition with
  | admission operation => exact absurd (operation.unique operates) (by decide)
  | confirmation operation admitted =>
      rw [was] at admitted
      cases admitted
  | challenge opens => exact absurd (opens.operation.unique operates) (by decide)
  | resolution operation => exact absurd (operation.unique operates) (by decide)
  | closing operation =>
      rcases operation with rejects | expires | supersedes
      · exact absurd (rejects.unique operates) (by decide)
      · exact absurd (expires.unique operates) (by decide)
      · exact absurd (supersedes.unique operates) (by decide)

/-- A CONFIRMED assumption was put there by one event, whose authority it records if that is a
CONFIRM event. -/
theorem project_put (accepted : projectAssumptionHistory events = .ok (some a))
    (confirmed : a.standing = .confirmed) :
    ∃ put authority, PutInConfirmed events put ∧ Authorises put authority ∧
      (Operates put "CONFIRM" → a.confirmingAuthorityId = some authority) := by
  revert confirmed
  refine project_induction (motive := fun events a => a.standing = .confirmed →
    ∃ put authority, PutInConfirmed events put ∧ Authorises put authority ∧
      (Operates put "CONFIRM" → a.confirmingAuthorityId = some authority)) ?_ ?_ accepted
  · intro event a reduced _ confirmed
    rw [(reduceAssumption_none_ok reduced).standing] at confirmed
    cases confirmed
  · intro events event b a earlier reduced whole ih confirmed
    have reduces := reduceAssumption_some_ok reduced
    have attributes := reduceAssumption_attributes reduced
    by_cases was : b.standing = .confirmed
    · obtain ⟨put, authority, entered, authorises, recorded⟩ := ih was
      refine ⟨put, authority, entered.concat ⟨a, whole, confirmed⟩, authorises, fun operates => ?_⟩
      rw [attributes.other (reduces.transition.unconfirming was)]
      exact recorded operates
    · obtain ⟨authority, authorises, recorded⟩ := reduces.confirms attributes confirmed was
      have outside : ¬ StandsConfirmed events := by
        rintro ⟨b', projected, standing⟩
        rw [earlier] at projected
        cases projected
        exact was standing
      refine ⟨event, authority, ⟨events, [], rfl, outside, fun since start => ?_⟩, authorises,
        recorded⟩
      rw [List.prefix_nil.mp start]
      exact ⟨a, whole, confirmed⟩

/-- In CONFIRMED, the recorded authority is there, and is that of the event that put the
assumption in CONFIRMED. -/
def Attributed (events : List (RegistryEvent D)) (a : Assumption D) : Prop :=
  a.standing = .confirmed → ∃ put authority, PutInConfirmed events put ∧
    Authorises put authority ∧ a.confirmingAuthorityId = some authority

/-- A resolution that puts the assumption in CONFIRMED has for its resolver the last confirmer. -/
def Resolved (events : List (RegistryEvent D)) : Prop :=
  ∀ put, PutInConfirmed events put → Operates put "RESOLVE_CHALLENGES" →
    ∃ authority, put.payload.get "resolver_authority_id" = .str authority ∧
      lastConfirmer events = some authority

/-- The recorded authority is that of the last CONFIRM event. It is the authority of the event
that put the assumption in CONFIRMED where that is a CONFIRM event, and where it is a resolution
by the last confirmer. -/
theorem confirmation_provenance (accepted : projectAssumptionHistory events = .ok (some a)) :
    a.confirmingAuthorityId = lastConfirmer events ∧
    (a.standing = .confirmed → ∃ put authority, PutInConfirmed events put ∧
      (∀ other, PutInConfirmed events other → other = put) ∧ Authorises put authority ∧
      (Operates put "CONFIRM" → a.confirmingAuthorityId = some authority)) ∧
    (Attributed events a ↔ Resolved events) := by
  have confirmer := project_lastConfirmer accepted
  refine ⟨confirmer, ?_, ?_, ?_⟩
  · intro confirmed
    obtain ⟨put, authority, entered, authorises, recorded⟩ := project_put accepted confirmed
    exact ⟨put, authority, entered, fun other also => also.unique entered, authorises, recorded⟩
  · intro attributed put entered resolves
    obtain ⟨earlier, later, rfl, outside, since⟩ := entered
    obtain ⟨a', projected, confirmed⟩ := since later (List.prefix_refl later)
    rw [accepted] at projected
    cases projected
    obtain ⟨other, authority, also, authorises, recorded⟩ := attributed confirmed
    have same : other = put := also.unique ⟨earlier, later, rfl, outside, since⟩
    subst same
    rcases authorises with ⟨confirms, -⟩ | ⟨-, -, named⟩
    · exact absurd (resolves.unique confirms) (by decide)
    · exact ⟨authority, named, confirmer.symm.trans recorded⟩
  · intro resolved confirmed
    obtain ⟨put, authority, entered, authorises, recorded⟩ := project_put accepted confirmed
    refine ⟨put, authority, entered, authorises, ?_⟩
    rcases authorises with ⟨confirms, -⟩ | ⟨resolves, -, named⟩
    · exact recorded confirms
    · obtain ⟨resolver, given, last⟩ := resolved put entered resolves
      obtain rfl := Json.str.inj (named.symm.trans given)
      exact confirmer.trans last

/-! A confirmation by resolution, of an assumption that no CONFIRM event has confirmed. -/
section Sample

set_option maxRecDepth 100000 in
theorem sampleHistory_unconfirmed : ∃ a, projectAssumptionHistory sampleHistory = .ok (some a) ∧
    a.standing = .confirmed ∧ a.confirmingAuthorityId = none := by
  have summary : (projectAssumptionHistory sampleHistory).toOption.join.map (fun a =>
      decide (a.standing = .confirmed ∧ a.confirmingAuthorityId = none)) = some true := by
    decide +kernel
  obtain ⟨a, projected, passes⟩ := Results.ok_some_of_join summary
  exact ⟨a, projected, of_decide_eq_true passes⟩

theorem confirmation_unrecorded : ∃ a, projectAssumptionHistory sampleHistory = .ok (some a) ∧
    a.standing = .confirmed ∧ a.confirmingAuthorityId = none ∧ ¬ Attributed sampleHistory a := by
  obtain ⟨a, projected, confirmed, unrecorded⟩ := sampleHistory_unconfirmed
  refine ⟨a, projected, confirmed, unrecorded, fun attributed => ?_⟩
  obtain ⟨put, authority, -, -, recorded⟩ := attributed confirmed
  rw [unrecorded] at recorded
  cases recorded

theorem confirmation_provenance_sample :
    ∃ a, projectAssumptionHistory sampleHistory = .ok (some a) ∧
      lastConfirmer sampleHistory = none ∧
      ∃ put authority, PutInConfirmed sampleHistory put ∧ Authorises put authority := by
  obtain ⟨a, projected, confirmed, unrecorded⟩ := sampleHistory_unconfirmed
  obtain ⟨last, provenance, -⟩ := confirmation_provenance projected
  obtain ⟨put, authority, entered, -, authorises, -⟩ := provenance confirmed
  exact ⟨a, projected, last.symm.trans unrecorded, put, authority, entered, authorises⟩

end Sample
end CsdFoundry.Assumptions
