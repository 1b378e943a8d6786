import CsdFoundry.Kernel.Convergence

/-! Events that do not look at each other: changed dependencies, reassessment requests, and at
most one required profile and one heartbeat. They are accepted in every order or in none. -/
namespace CsdFoundry.Kernel

namespace CsdEvent

def independent : CsdEvent → Bool
  | .dependencyChange _ | .requestReassessment _ | .profileChange _ | .recordHeartbeat _ => true
  | _ => false

def requires : CsdEvent → Bool
  | .profileChange _ => true
  | _ => false

/-- The request that an event files, which `requestFromEvent` dates at the current time. -/
def request (time : Int) : CsdEvent → Option ReassessmentRequest
  | .requestReassessment event => some {
      requestId := event.requestId
      reason := event.reason
      requestedAt := time
      dueAt := event.dueAt }
  | .profileChange event => event.request time
  | _ => none

/-- The profile that is required after the event. -/
def profile (required : Option String × Option Int) : CsdEvent → Option String × Option Int
  | .profileChange event => (some event.profileId, some event.profileVersion)
  | _ => required

/-- The heartbeat after the event. -/
def heartbeat (recorded : Option HeartbeatState) : CsdEvent → Option HeartbeatState
  | .recordHeartbeat event =>
      (event.interval.or (recorded.map HeartbeatState.interval)).map fun interval =>
        ⟨interval, event.atTime, event.atTime + interval⟩
  | _ => recorded

/-- What the kernel checks of an event, but for the identity of its request. -/
def Permitted (state : ControlState) : CsdEvent → Prop
  | .dependencyChange _ => True
  | .requestReassessment event =>
      event.authority = "I3" ∧ event.requestId ≠ "" ∧ state.logicalTime ≤ event.dueAt
  | .profileChange event =>
      event.authority = "I3" ∧ ¬ (event.profileId = "" ∨ event.profileVersion ≤ 0) ∧
        ¬ (state.requiredProfileId = some event.profileId ∧
          state.requiredProfileVersion.any (event.profileVersion ≤ ·) = true) ∧
        event.requestId.isNone = event.requestDueAt.isNone ∧
        ∀ request ∈ event.request state.logicalTime,
          request.requestId ≠ "" ∧ state.logicalTime ≤ request.dueAt
  | .recordHeartbeat event =>
      event.authority = "I3" ∧ event.atTime = state.logicalTime ∧
        ∃ interval, heartbeatInterval state event = some interval ∧ 0 < interval
  | _ => False

/-- The identity of the request is not taken. -/
def Fresh (state : ControlState) (event : CsdEvent) : Prop :=
  ∀ request ∈ event.request state.logicalTime, request.requestId ∉ state.requestIds

end CsdEvent

variable {state next final : ControlState} {event other : CsdEvent} {events : List CsdEvent}

/-! ### One event -/

theorem requestFromEvent_accepted {event : RequestReassessment}
    (authority : event.authority = "I3") (identified : event.requestId ≠ "")
    (due : time ≤ event.dueAt) : requestFromEvent event time = .ok {
      requestId := event.requestId
      reason := event.reason
      requestedAt := time
      dueAt := event.dueAt } := by
  rw [requestFromEvent, if_neg (not_not.mpr authority), if_neg identified,
    if_neg (Int.not_lt.mpr due)]

theorem request_accepted_iff {event : RequestReassessment} :
    (∃ next trace, applyRequestReassessment state event = .ok (next, trace)) ↔
      (CsdEvent.requestReassessment event).Permitted state ∧
        (CsdEvent.requestReassessment event).Fresh state := by
  constructor
  · rintro ⟨next, trace, accepted⟩
    obtain ⟨fresh, request, created, -⟩ := applyRequestReassessment_ok accepted
    obtain ⟨authority, identified, due, -⟩ := requestFromEvent_ok created
    refine ⟨⟨authority, identified, due⟩, ?_⟩
    rintro request ⟨⟩
    exact fresh
  · rintro ⟨⟨authority, identified, due⟩, fresh⟩
    rw [applyRequestReassessment, if_neg (fresh _ rfl),
      requestFromEvent_accepted authority identified due]
    exact ⟨_, _, rfl⟩

theorem profileRequests_accepted_iff {event : ProfileChange} (authority : event.authority = "I3") :
    (∃ requests, profileRequests state event = .ok requests) ↔
      (∀ request ∈ event.request state.logicalTime,
        request.requestId ≠ "" ∧ state.logicalTime ≤ request.dueAt) ∧
      (CsdEvent.profileChange event).Fresh state := by
  simp only [profileRequests, CsdEvent.Fresh, CsdEvent.request, ProfileChange.request]
  split
  · case h_1 requestId dueAt named dated =>
      simp only [Option.mem_some_iff, forall_eq']
      constructor
      · rintro ⟨requests, extended⟩
        split at extended
        · cases extended
        · case isFalse fresh =>
            cases created : requestFromEvent
                ⟨requestId, "required profile changed", dueAt, event.authority⟩
                state.logicalTime with
            | error e => rw [created] at extended; cases extended
            | ok request =>
                obtain ⟨-, identified, due, -⟩ := requestFromEvent_ok created
                exact ⟨⟨identified, due⟩, fresh⟩
      · rintro ⟨⟨identified, due⟩, fresh⟩
        rw [if_neg fresh, requestFromEvent_accepted authority identified due]
        exact ⟨_, rfl⟩
  · simp

theorem profile_accepted_iff {event : ProfileChange} :
    (∃ next trace, applyProfileChange state event = .ok (next, trace)) ↔
      (CsdEvent.profileChange event).Permitted state ∧
        (CsdEvent.profileChange event).Fresh state := by
  constructor
  · rintro ⟨next, trace, accepted⟩
    simp only [applyProfileChange] at accepted
    split at accepted
    · cases accepted
    split at accepted
    · cases accepted
    split at accepted
    · cases accepted
    split at accepted
    · cases accepted
    · case isFalse authority identified advancing paired =>
        cases extended : profileRequests state event with
        | error e => simp [extended] at accepted; cases accepted
        | ok requests =>
            obtain ⟨timely, fresh⟩ :=
              (profileRequests_accepted_iff (not_not.mp authority)).mp ⟨requests, extended⟩
            exact ⟨⟨not_not.mp authority, identified, advancing, not_not.mp paired, timely⟩, fresh⟩
  · rintro ⟨⟨authority, identified, advancing, paired, timely⟩, fresh⟩
    obtain ⟨requests, extended⟩ := (profileRequests_accepted_iff authority).mpr ⟨timely, fresh⟩
    rw [applyProfileChange, if_neg (not_not.mpr authority), if_neg identified, if_neg advancing,
      if_neg (not_not.mpr paired), extended]
    exact ⟨_, _, rfl⟩

theorem heartbeat_accepted_iff {event : RecordHeartbeat} :
    (∃ next trace, applyRecordHeartbeat state event = .ok (next, trace)) ↔
      (CsdEvent.recordHeartbeat event).Permitted state := by
  constructor
  · rintro ⟨next, trace, accepted⟩
    obtain ⟨authority, now, interval, chosen, positive, -⟩ := applyRecordHeartbeat_ok accepted
    exact ⟨authority, now, interval, chosen, positive⟩
  · rintro ⟨authority, now, interval, chosen, positive⟩
    rw [applyRecordHeartbeat, if_neg (not_not.mpr authority), if_neg (not_not.mpr now), chosen]
    simp only [if_neg (Int.not_le.mpr positive)]
    exact ⟨_, _, rfl⟩

/-- An independent event is accepted if it is permitted and its request is new. -/
theorem accepted_iff (independent : event.independent = true) :
    (∃ next trace, applyEvent state event = .ok (next, trace)) ↔
      event.Permitted state ∧ event.Fresh state := by
  cases event with
  | dependencyChange event =>
      refine iff_of_true ⟨_, _, rfl⟩ ⟨trivial, ?_⟩
      rintro request ⟨⟩
  | requestReassessment event => exact request_accepted_iff
  | profileChange event => exact profile_accepted_iff
  | recordHeartbeat event =>
      refine heartbeat_accepted_iff.trans (and_iff_left ?_).symm
      rintro request ⟨⟩
  | _ => cases independent

/-- The parts of the state that are no evidence and no claims. -/
structure Registers (state : ControlState) (event : CsdEvent) (next : ControlState) : Prop where
  logicalTime : next.logicalTime = state.logicalTime
  requests : next.reassessmentRequests =
    state.reassessmentRequests ++ (event.request state.logicalTime).toList
  profile : (next.requiredProfileId, next.requiredProfileVersion) =
    event.profile (state.requiredProfileId, state.requiredProfileVersion)
  heartbeat : next.heartbeat = event.heartbeat state.heartbeat

theorem applyEvent_registers (independent : event.independent = true)
    (accepted : applyEvent state event = .ok (next, trace)) : Registers state event next := by
  cases event with
  | dependencyChange event =>
      cases accepted
      exact ⟨rfl, (List.append_nil _).symm, rfl, rfl⟩
  | requestReassessment event =>
      obtain ⟨-, request, created, rfl⟩ := applyRequestReassessment_ok accepted
      obtain ⟨-, -, -, rfl⟩ := requestFromEvent_ok created
      exact ⟨rfl, rfl, rfl, rfl⟩
  | profileChange event =>
      obtain ⟨-, rfl⟩ := applyProfileChange_ok accepted
      exact ⟨rfl, rfl, rfl, rfl⟩
  | recordHeartbeat event =>
      obtain ⟨-, -, interval, chosen, -, rfl⟩ := applyRecordHeartbeat_ok accepted
      refine ⟨rfl, (List.append_nil _).symm, rfl, ?_⟩
      rw [heartbeatInterval] at chosen
      simp [CsdEvent.heartbeat, chosen]
  | _ => cases independent

/-! ### Sequences of events -/

def requestsOf (time : Int) (events : List CsdEvent) : List ReassessmentRequest :=
  events.filterMap (CsdEvent.request time)

/-- At most one event of a kind. -/
def AtMostOne (kind : CsdEvent → Bool) (events : List CsdEvent) : Prop := events.countP kind ≤ 1

theorem AtMostOne.tail {kind : CsdEvent → Bool} (once : AtMostOne kind (event :: events)) :
    AtMostOne kind events := by
  rw [AtMostOne, List.countP_cons] at once
  rw [AtMostOne]
  omega

theorem AtMostOne.head {kind : CsdEvent → Bool} (once : AtMostOne kind (event :: events))
    (first : kind event = true) : ∀ other ∈ events, kind other = false := by
  rw [AtMostOne, List.countP_cons, if_pos first] at once
  have none_left : events.countP kind = 0 := by omega
  intro other member
  exact Bool.eq_false_iff.mpr (List.countP_eq_zero.mp none_left other member)

/-- Two events of the kind are the same event. -/
theorem AtMostOne.same {kind : CsdEvent → Bool} (once : AtMostOne kind events)
    (first : event ∈ events) (second : other ∈ events) (kinds : kind event = true)
    (kinds' : kind other = true) : event = other := by
  rw [AtMostOne, List.countP_eq_length_filter] at once
  obtain ⟨sole, filtered⟩ := List.length_eq_one_iff.mp (once.antisymm
    (List.length_pos_of_mem (List.mem_filter.mpr ⟨first, kinds⟩)))
  have one := filtered ▸ List.mem_filter.mpr ⟨first, kinds⟩
  have two := filtered ▸ List.mem_filter.mpr ⟨second, kinds'⟩
  rw [List.mem_singleton.mp one, List.mem_singleton.mp two]

/-- Every kind that a later event of the same kind could look at occurs once at most. -/
structure Independent (events : List CsdEvent) : Prop where
  kinds : ∀ event ∈ events, event.independent = true
  profile : AtMostOne CsdEvent.requires events
  heartbeat : AtMostOne CsdEvent.beats events

theorem Independent.tail (independent : Independent (event :: events)) : Independent events :=
  ⟨fun other member => independent.kinds other (List.mem_cons_of_mem _ member),
    independent.profile.tail, independent.heartbeat.tail⟩

theorem Independent.perm {events' : List CsdEvent} (independent : Independent events)
    (perm : events.Perm events') : Independent events' :=
  ⟨fun other member => independent.kinds other (perm.mem_iff.mpr member),
    (perm.countP_eq _).symm.trans_le independent.profile,
    (perm.countP_eq _).symm.trans_le independent.heartbeat⟩

/-- What a later event may do does not depend on an independent event before it. -/
theorem permitted_kept (registers : Registers state event next)
    (profile : event.requires = true → other.requires = false)
    (heartbeat : event.beats = true → other.beats = false) :
    other.Permitted next ↔ other.Permitted state := by
  cases other with
  | profileChange later =>
      have same : (next.requiredProfileId, next.requiredProfileVersion) =
          (state.requiredProfileId, state.requiredProfileVersion) := by
        rw [registers.profile]
        cases event with
        | profileChange event => cases profile rfl
        | _ => rfl
      rw [Prod.mk.injEq] at same
      simp only [CsdEvent.Permitted, same.1, same.2, registers.logicalTime]
  | recordHeartbeat later =>
      have same : next.heartbeat = state.heartbeat := by
        rw [registers.heartbeat]
        cases event with
        | recordHeartbeat event => cases heartbeat rfl
        | _ => rfl
      simp only [CsdEvent.Permitted, heartbeatInterval, same, registers.logicalTime]
  | _ => simp only [CsdEvent.Permitted, registers.logicalTime]

theorem requestsOf_cons : requestsOf time (event :: events) =
    (event.request time).toList ++ requestsOf time events := by
  rw [requestsOf, List.filterMap_cons]
  cases event.request time <;> rfl

/-- The identity of the request is new if no two requests share theirs afterwards. -/
theorem fresh_iff (distinct : (state.reassessmentRequests.map ReassessmentRequest.requestId).Nodup) :
    event.Fresh state ↔ ((state.reassessmentRequests ++
      (event.request state.logicalTime).toList).map ReassessmentRequest.requestId).Nodup := by
  rw [CsdEvent.Fresh]
  cases event.request state.logicalTime with
  | none => simpa using distinct
  | some request =>
      rw [List.map_append, List.nodup_append]
      simp [ControlState.requestIds, Keyed.mem_keys, distinct]

theorem accepted_iff_all (independent : Independent events)
    (distinct : (state.reassessmentRequests.map ReassessmentRequest.requestId).Nodup) :
    (∃ final, applyEvents state events = .ok final) ↔
      (∀ event ∈ events, event.Permitted state) ∧
        ((state.reassessmentRequests ++ requestsOf state.logicalTime events).map
          ReassessmentRequest.requestId).Nodup := by
  induction events generalizing state with
  | nil =>
      refine iff_of_true ⟨state, rfl⟩ ⟨fun event member => absurd member List.not_mem_nil, ?_⟩
      rwa [requestsOf, List.filterMap_nil, List.append_nil]
  | cons event events ih =>
      have known := independent.kinds event List.mem_cons_self
      rw [requestsOf_cons, ← List.append_assoc, List.forall_mem_cons]
      by_cases accepts : ∃ next trace, applyEvent state event = .ok (next, trace)
      · obtain ⟨permitted, fresh⟩ := (accepted_iff known).mp accepts
        obtain ⟨next, trace, accepted⟩ := accepts
        have registers := applyEvent_registers known accepted
        have rest := @ih next independent.tail
          (registers.requests ▸ (fresh_iff distinct).mp fresh)
        rw [registers.requests, registers.logicalTime] at rest
        have kept : (∀ other ∈ events, other.Permitted next) ↔
            ∀ other ∈ events, other.Permitted state :=
          forall₂_congr fun other member => permitted_kept registers
            (fun first => independent.profile.head first other member)
            (fun first => independent.heartbeat.head first other member)
        rw [and_iff_right permitted, ← kept, ← rest, applyEvents, accepted]
        rfl
      · refine iff_of_false ?_ ?_
        · rintro ⟨final, applied⟩
          obtain ⟨next, trace, accepted, -⟩ := applyEvents_cons.mp applied
          exact accepts ⟨next, trace, accepted⟩
        · rintro ⟨⟨permitted, -⟩, unique⟩
          rw [List.map_append] at unique
          exact accepts ((accepted_iff known).mpr
            ⟨permitted, (fresh_iff distinct).mpr (List.nodup_append.mp unique).1⟩)

/-- What independent events leave, outside of evidence and claims. -/
structure Registered (state : ControlState) (events : List CsdEvent) (final : ControlState) :
    Prop where
  logicalTime : final.logicalTime = state.logicalTime
  requests : final.reassessmentRequests =
    state.reassessmentRequests ++ requestsOf state.logicalTime events
  profile : (final.requiredProfileId, final.requiredProfileVersion) =
    events.foldl CsdEvent.profile (state.requiredProfileId, state.requiredProfileVersion)
  heartbeat : final.heartbeat = events.foldl CsdEvent.heartbeat state.heartbeat

theorem applyEvents_registered (kinds : ∀ event ∈ events, event.independent = true)
    (applied : applyEvents state events = .ok final) : Registered state events final := by
  induction events generalizing state with
  | nil =>
      cases applied
      exact ⟨rfl, (List.append_nil _).symm, rfl, rfl⟩
  | cons event events ih =>
      obtain ⟨next, trace, accepted, rest⟩ := applyEvents_cons.mp applied
      have first := applyEvent_registers (kinds event List.mem_cons_self) accepted
      have last := ih (fun other member => kinds other (List.mem_cons_of_mem _ member)) rest
      refine ⟨last.logicalTime.trans first.logicalTime, ?_, ?_, ?_⟩
      · rw [last.requests, first.requests, first.logicalTime, requestsOf_cons, List.append_assoc]
      · rw [last.profile, first.profile, List.foldl_cons]
      · rw [last.heartbeat, first.heartbeat, List.foldl_cons]

theorem profile_commutes (sole : AtMostOne CsdEvent.requires events) (first : event ∈ events)
    (second : other ∈ events) (required : Option String × Option Int) :
    other.profile (event.profile required) = event.profile (other.profile required) := by
  by_cases kind : event.requires = true ∧ other.requires = true
  · rw [sole.same first second kind.1 kind.2]
  · cases event <;> cases other <;> first | rfl | exact absurd ⟨rfl, rfl⟩ kind

theorem heartbeat_commutes (sole : AtMostOne CsdEvent.beats events) (first : event ∈ events)
    (second : other ∈ events) (recorded : Option HeartbeatState) :
    other.heartbeat (event.heartbeat recorded) = event.heartbeat (other.heartbeat recorded) := by
  by_cases kind : event.beats = true ∧ other.beats = true
  · rw [sole.same first second kind.1 kind.2]
  · cases event <;> cases other <;> first | rfl | exact absurd ⟨rfl, rfl⟩ kind

/-- An item is withdrawn as a whole, whichever of its dependencies changes first. -/
theorem status_commutes (independent : event.independent = true)
    (independent' : other.independent = true) (item : Evidence) :
    (item.withStatus (event.status item)).withStatus
        (other.status (item.withStatus (event.status item))) =
      (item.withStatus (other.status item)).withStatus
        (event.status (item.withStatus (other.status item))) := by
  cases event with
  | dependencyChange change =>
      cases other with
      | dependencyChange change' =>
          simp only [CsdEvent.status, dependencyStatus, Evidence.affectedBy, Evidence.isCurrent]
          by_cases first : change.dependencyId ∈ item.dependencies <;>
            by_cases second : change'.dependencyId ∈ item.dependencies <;>
            by_cases current : item.status = .current <;> simp [first, second, current]
      | _ => first | rfl | cases independent'
  | _ => cases other <;> first | rfl | cases independent

/-- Independent events are accepted in every order or in none, and every order leaves the same
state but for the history and the order of the requests. -/
theorem independent_events_converge {events' : List CsdEvent} (valid : ValidState state)
    (independent : Independent events) (perm : events.Perm events') :
    ((∃ final, applyEvents state events = .ok final) ↔
      ∃ final, applyEvents state events' = .ok final) ∧
    ∀ final final', applyEvents state events = .ok final →
      applyEvents state events' = .ok final' →
      { final with
        history := final'.history
        reassessmentRequests := final'.reassessmentRequests } = final' ∧
      final.reassessmentRequests.Perm final'.reassessmentRequests := by
  have independent' := independent.perm perm
  have requests : (requestsOf state.logicalTime events).Perm
      (requestsOf state.logicalTime events') := perm.filterMap _
  have distinct := valid.temporal.distinct
  constructor
  · rw [accepted_iff_all independent distinct, accepted_iff_all independent' distinct,
      ((requests.append_left state.reassessmentRequests).map _).nodup_iff]
    exact and_congr_left fun _ => forall_congr' fun event => by rw [perm.mem_iff]
  intro final final' applied applied'
  have weakens : ∀ {list : List CsdEvent}, Independent list →
      ∀ event ∈ list, event.weakens = true := by
    intro list kinds event member
    have kind := kinds.kinds event member
    cases event <;> first | rfl | cases kind
  have still : ∀ {list : List CsdEvent}, Independent list →
      ∀ event ∈ list, event.ticks = false := by
    intro list kinds event member
    have kind := kinds.kinds event member
    cases event <;> first | rfl | cases kind
  have left := applyEvents_left valid.coherent (weakens independent)
    (.inr (still independent)) applied
  have left' := applyEvents_left valid.coherent (weakens independent')
    (.inr (still independent')) applied'
  have registered := applyEvents_registered independent.kinds applied
  have registered' := applyEvents_registered independent'.kinds applied'
  have evidence : final.evidence = final'.evidence := by
    rw [left.evidence, left'.evidence]
    refine List.map_congr_left fun item _ => perm.foldl_eq' ?_ item
    exact fun event member other member' item => status_commutes
      (independent.kinds event member) (independent.kinds other member') item
  have claims : final.claims = final'.claims := by
    rw [left.claims, left'.claims]
    simp only [perm.all_eq, perm.any_eq]
  have profile : (final.requiredProfileId, final.requiredProfileVersion) =
      (final'.requiredProfileId, final'.requiredProfileVersion) := by
    rw [registered.profile, registered'.profile]
    exact perm.foldl_eq' (fun event member other member' required =>
      profile_commutes independent.profile member member' required) _
  have heartbeat : final.heartbeat = final'.heartbeat := by
    rw [registered.heartbeat, registered'.heartbeat]
    exact perm.foldl_eq' (fun event member other member' recorded =>
      heartbeat_commutes independent.heartbeat member member' recorded) _
  rw [Prod.mk.injEq] at profile
  constructor
  · exact eq_but_history (left.controlId.trans left'.controlId.symm)
      (left.obligation.trans left'.obligation.symm) evidence (left.bases.trans left'.bases.symm)
      claims (registered.logicalTime.trans registered'.logicalTime.symm) profile.1 profile.2
      heartbeat
  · rw [registered.requests, registered'.requests]
    exact requests.append_left _

section Sample

def sampleIndependent : List CsdEvent :=
  [.dependencyChange ⟨"library", none⟩, .requestReassessment ⟨"first", "review", 3, "I3"⟩,
    .profileChange ⟨"profile", 1, "I3", some "second", some 4⟩, .recordHeartbeat ⟨0, some 5, "I3"⟩]

theorem independent_events_sample :
    (∃ final, applyEvents sampleCurrent sampleIndependent = .ok final) ∧
      ((∃ final, applyEvents sampleCurrent sampleIndependent = .ok final) ↔
        ∃ final, applyEvents sampleCurrent sampleIndependent.reverse = .ok final) := by
  have valid : ValidState sampleCurrent := validStates.mp (by decide +kernel)
  have independent : Independent sampleIndependent :=
    ⟨by decide, by unfold AtMostOne; decide, by unfold AtMostOne; decide⟩
  exact ⟨⟨_, rfl⟩,
    (independent_events_converge valid independent (List.reverse_perm _).symm).1⟩

end Sample
end CsdFoundry.Kernel
