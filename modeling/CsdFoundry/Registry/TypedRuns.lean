import CsdFoundry.Registry.Typed

/-! Every interleaving of calls to `apply` over one store: the stored histories stay
reducible, and a call extends the history of its own entity by its event, or no history. -/
namespace CsdFoundry.Registry
open Storage RegistryStore
open Storage.Discipline (After)
variable {D : Type} [LinearOrder D] [DigestText D] [Sha256 D]
  {s t u : RegistryStore D} {type : RegistryType} {entityId : String}
  {event : RegistryEvent D} {items found later : List (RegistryEvent D)} {locked : Bool}

/-- Programs that leave the heads alone keep the histories reducible. -/
theorem holds_keeping {α : Type} {p : RegistryM D α}
    {post : Bool → Except RegistryError α → RegistryStore D → Prop} (uses : p.Uses KeepsHeads)
    (holds : discipline.Holds locked p post s) : typedDiscipline.Holds locked p post s :=
  holds.confine_of_uses
    (fun used valid reducible act => reducible.keeps_heads valid act.grown (used _)) uses

theorem uses_current : (current type entityId : RegistryM D _).Uses KeepsHeads :=
  keepsHeads_of_still (.bind still_reconstructEntity fun _ => .done _)

/-- The update leaves the heads alone, or it appends an event of the right type. -/
def Extends (type : RegistryType) (event : RegistryEvent D)
    (update : RegistryStore D → RegistryStore D) : Prop :=
  KeepsHeads update ∨ event.registryType = type ∧ update = replaceHead event.head

/-- An event of another type is not appended: the reducer does not accept it. -/
theorem uses_apply (type : RegistryType) (event : RegistryEvent D) :
    (apply type event).Uses (Extends type event) := by
  have reads : ∀ {α : Type} {p : RegistryM D α}, p.Uses KeepsHeads → p.Uses (Extends type event) :=
    fun uses => uses.imp fun _ => .inl
  refine .bind (reads (keepsHeads_of_still still_entityHead)) fun head => ?_
  split
  · refine .bind (reads uses_current) fun state => ?_
    cases state with
    | none => exact .done _
    | some state => exact .done _
  · refine .bind (reads uses_current) fun previous => ?_
    cases reduced : reduce type previous event with
    | error code => exact .done _
    | ok next =>
        have typed := (reduce_ok reduced).registryType
        have appends : (append event).Uses (Extends type event) :=
          (uses_append event).imp fun _ used => used.imp_right fun moves => ⟨typed, moves⟩
        exact .bind (.done _) fun _ => .bind appends fun _ => .done _

/-- A projection of how a history began, from the time of the call on. -/
def CurrentRead (type : RegistryType) (entityId : String) (items : List (RegistryEvent D))
    (state : Option (State D type)) (t : RegistryStore D) : Prop :=
  ∃ found later, project type found = .ok state ∧ items <+: found ∧ t.Chain type entityId later ∧
    found <+: later

theorem holds_current (valid : s.Valid) (reducible : Reducible s) (named : entityId ≠ "")
    (chain : s.Chain type entityId items) :
    typedDiscipline.Holds false (current type entityId)
      (After false (CurrentRead type entityId items)) s := by
  have history := holds_keeping (keepsHeads_of_still still_reconstructEntity) (holds_history valid named chain)
  refine .andThen ⟨valid, reducible⟩ (history.mono ?_)
  rintro l result t - ⟨rfl, rfl | ⟨found, later, rfl, begun, chain', ends⟩⟩
  · exact .throw
  · refine .result fun state u projected moves _ => ?_
    obtain ⟨longer, chain'', extends_⟩ := held_chain moves chain'
    exact ⟨found, longer, Results.mapError_ok.mp projected, begun, chain'', ends.trans extends_⟩

/-- What a call to `apply` hands back. -/
structure ApplyAnswer (D : Type) [DigestText D] where
  registryType : RegistryType
  event : RegistryEvent D
  state : State D registryType

/-- The state is the projection of a beginning of the history that contains the event. -/
def ApplyAnswer.Meets (answer : ApplyAnswer D) (s : RegistryStore D) : Prop :=
  ∃ items found, s.Chain answer.registryType answer.event.entityId items ∧ found <+: items ∧
    answer.event ∈ found ∧ project answer.registryType found = .ok (some answer.state)

theorem ApplyAnswer.Meets.held {answer : ApplyAnswer D} (meets : answer.Meets s)
    (held : discipline.held s t) : answer.Meets t := by
  obtain ⟨items, found, chain, begins, member, projected⟩ := meets
  obtain ⟨later, chain', extends_⟩ := held_chain held chain
  exact ⟨later, found, chain', begins.trans extends_, member, projected⟩

/-- A head that cites the event was read: the event is in the history. -/
theorem HeadRead.holding {head : Option (RegistryEntityHead D)} (valid : s.Valid)
    (read : HeadRead type event.entityId items (.ok head) s)
    (cites : head.map (·.eventDigest) = some event.digest) :
    ∃ later, s.Chain type event.entityId later ∧ event ∈ later := by
  rcases read with failed | ⟨_, found, later, ⟨⟩, chain, -, longer, begins⟩
  · cases failed
  · obtain ⟨head, rfl, same⟩ := Option.map_eq_some_iff.mp cites
    obtain ⟨ending, last, stored⟩ := Linked.getLast chain
    have named := valid.named _ _ (eventOf_iff.mp stored).1
    obtain rfl := RegistryEvent.digest_inj (named.trans same)
    exact ⟨later, longer, begins.subset (List.mem_of_getLast? last)⟩

/-- What an accepted reduction prepares. -/
theorem prepared_of_reduce {previous : Option (State D type)} {projected : State D type}
    (valid : s.Valid) (chain : s.Chain type event.entityId later) (begins : found <+: later)
    (accepted : project type found = .ok previous)
    (reduced : reduce type previous event = .ok projected) :
    Prepared type event found projected s := by
  have succeeds := reduce_ok reduced
  obtain ⟨sequence, digest⟩ := project_last accepted
  have successor := succeeds.successor
  have predecessor := succeeds.predecessor
  rw [sequence] at successor
  rw [digest] at predecessor
  have projects := project_concat.mpr ⟨previous, projected, accepted, reduced, rfl⟩
  obtain ⟨n, key, linked⟩ := Linked.of_prefix chain begins
  cases linked with
  | genesis =>
      refine ⟨succeeds.registryType, ⟨0, successor, ?_⟩, projects⟩
      rw [predecessor]
      exact .genesis
  | @next key last n before stored position rest =>
      have named := valid.named _ _ (eventOf_iff.mp stored).1
      refine ⟨succeeds.registryType, ⟨n + 1, ?_, ?_⟩, projects⟩
      · simpa [position] using successor
      · have cited : event.previousEntityEventDigest = some key := by simpa [named] using predecessor
        rw [cited]
        exact .next stored position rest

/-- The append of an event that was reduced keeps the histories reducible. When it returns,
the event follows the history that it was reduced from. -/
theorem holds_append_typed {projected : State D type} (valid : s.Valid)
    (prepared : Prepared type event found projected s) :
    typedDiscipline.Holds false (append event)
      (After false fun _ => ApplyAnswer.Meets ⟨type, event, projected⟩) s := by
  have confined : typedDiscipline.Holds false (append event) (fun l result t =>
      After false (fun _ => Holding event) l result t ∧ Prepared type event found projected t) s := by
    refine (holds_append valid).confine (fun act known => known.grown act.grown) ?_
      (uses_append event) prepared
    intro update t used valid reducible known act
    rcases used with keeps | rfl
    · exact reducible.keeps_heads valid act.grown (keeps t)
    · exact known.append valid reducible (appends_of_act act)
  refine confined.mono fun l result t _ met => ⟨met.1.1, fun a returned => ?_⟩
  obtain ⟨items, chain, member⟩ := met.1.2 a returned
  have known := met.2
  rw [known.registryType] at chain
  exact ⟨items, found ++ [event], chain, known.begins chain member, by simp, known.accepted⟩

theorem holds_apply (valid : s.Valid) (reducible : Reducible s) :
    typedDiscipline.Holds false (apply type event)
      (After false fun state => ApplyAnswer.Meets ⟨type, event, state⟩) s := by
  have named : event.entityId ≠ "" := named_of_token event.token
  obtain ⟨items, chain⟩ := valid.chain type event.entityId
  refine .andThen ⟨valid, reducible⟩
    ((holds_keeping (keepsHeads_of_still still_entityHead) (holds_head valid named chain)).mono ?_)
  rintro l (e | head) t ⟨validT, reducibleT⟩ ⟨rfl, read⟩
  · exact .throw
  obtain ⟨items', chain'⟩ := validT.chain type event.entityId
  change typedDiscipline.Holds false (if _ then _ else _) _ t
  split
  · rename_i cites
    obtain ⟨later, longer, member⟩ := read.holding validT cites
    refine .seq ⟨validT, reducibleT⟩ (holds_current validT reducibleT named longer) ?_
    rintro (_ | state) u _ ⟨found, latest, projected, begun, chain, ends⟩
    · exact .throw
    · have meets : ApplyAnswer.Meets ⟨type, event, state⟩ u :=
        ⟨latest, found, chain, ends, begun.subset member, projected⟩
      exact .pure fun v moves _ => meets.held moves
  · refine .seq ⟨validT, reducibleT⟩ (holds_current validT reducibleT named chain') ?_
    rintro previous u ⟨validU, reducibleU⟩ ⟨found, latest, projected, -, chain, ends⟩
    refine .bind ⟨validU, reducibleU⟩ (.result fun next v reduced moves inv => ?_)
    have prepared := prepared_of_reduce validU chain ends projected (Results.mapError_ok.mp reduced)
    have still : Prepared type event found next v := prepared.grown (held_grown moves)
    refine .seq inv (holds_append_typed inv.1 still) fun _ w _ meets => ?_
    exact .pure fun x moves _ => meets.held moves

/-- The arguments of a call to `apply`. -/
structure ApplyCall (D : Type) [DigestText D] where
  registryType : RegistryType
  event : RegistryEvent D

/-- The call, with its arguments beside the state that it returns. -/
def ApplyCall.run (call : ApplyCall D) : RegistryM D (ApplyAnswer D) :=
  (apply call.registryType call.event).map (⟨call.registryType, call.event, ·⟩)

theorem ApplyCall.holds (call : ApplyCall D) (valid : s.Valid) (reducible : Reducible s) :
    typedDiscipline.Holds false call.run (After false ApplyAnswer.Meets) s :=
  .map ⟨valid, reducible⟩ ((holds_apply valid reducible).weaken
    fun _ _ _ meets _ moves _ => meets.held moves)

/-- The answer repeats the arguments. -/
def ApplyCall.Answers (call : ApplyCall D) (result : Except RegistryError (ApplyAnswer D)) : Prop :=
  ∀ answer, result = .ok answer →
    answer.registryType = call.registryType ∧ answer.event = call.event

theorem ApplyCall.within (call : ApplyCall D) :
    call.run.Within (Extends call.registryType call.event) call.Answers :=
  .map (uses_apply _ _) fun result answer returned => by
    cases result with
    | error e => cases returned
    | ok state =>
        cases returned
        exact ⟨rfl, rfl⟩

variable {ι : Type} [DecidableEq ι]

abbrev ApplyPool (ι D : Type) [DigestText D] : Type :=
  Pool ι (RegistryStore D) RegistryError (ApplyAnswer D)

abbrev ApplyRuns (calls : ι → ApplyCall D) : ApplyPool ι D → ApplyPool ι D → Prop :=
  Pool.Runs fun i => (calls i).run

variable {calls : ι → ApplyCall D} {c c' : ApplyPool ι D}

theorem apply_checked (p : RegistryM D (ApplyAnswer D)) (call : ∃ call : ApplyCall D, p = call.run)
    (s : RegistryStore D) (inv : typedDiscipline.inv s) :
    typedDiscipline.Holds false p (After false ApplyAnswer.Meets) s := by
  obtain ⟨call, rfl⟩ := call
  exact call.holds inv.1 inv.2

theorem apply_sound (run : ApplyRuns calls (.idle .initial) c) :
    Discipline.Sound typedDiscipline ApplyAnswer.Meets c :=
  (Discipline.reaches_sound apply_checked (run.reaches fun i => ⟨calls i, rfl⟩)
    (Discipline.sound_idle ⟨initial_valid, initial_reducible⟩)).1

theorem apply_later (run : ApplyRuns calls (.idle .initial) c) (later : ApplyRuns calls c c') :
    discipline.held c.store c'.store :=
  (Discipline.reaches_sound apply_checked (later.reaches fun i => ⟨calls i, rfl⟩)
    (apply_sound run)).2

theorem apply_keeping (run : ApplyRuns calls (.idle .initial) c) :
    Pool.Keeping (fun i => Extends (calls i).registryType (calls i).event)
      (fun i => (calls i).Answers) c :=
  Pool.Runs.keeping (fun i => (calls i).within) run (Pool.Keeping.idle _)

/-- One move of a call: no head changes, or the event of the call is appended. -/
theorem apply_move (run : ApplyRuns calls (.idle .initial) c)
    (move : Pool.MoveBy (calls i).run i c c') : c'.store.heads = c.store.heads ∨
      (calls i).event.registryType = (calls i).registryType ∧
        Appends c.store c'.store (calls i).event := by
  have act : Act c.store c'.store :=
    (Discipline.move_sound apply_checked (move.move ⟨calls i, rfl⟩) (apply_sound run)).2
  rcases move.updates (apply_keeping run) with still | ⟨update, keeps | ⟨typed, rfl⟩, result⟩
  · exact .inl (by rw [still])
  · exact .inl (by rw [result, keeps])
  · rw [result] at act ⊢
    exact .inr ⟨typed, appends_of_act act⟩

/-- An event is appended at a place that its history does not have yet. -/
theorem RegistryStore.Appends.fresh (appends : Appends s t event)
    (chain : s.Chain event.registryType event.entityId items) : event ∉ items := by
  intro member
  obtain ⟨-, -, m, -, position, below, -⟩ := Linked.of_mem chain member
  have next := appends.sequence
  omega

/-- The call that moves extends the history of its own entity by its own event, which was not
in it; every other entity keeps its head. -/
structure ExtendsOwn (call : ApplyCall D) (s t : RegistryStore D) : Prop where
  history : ∃ items, s.Chain call.registryType call.event.entityId items ∧ call.event ∉ items ∧
    t.Chain call.registryType call.event.entityId (items ++ [call.event])
  others : ∀ type entityId, ¬(type = call.registryType ∧ entityId = call.event.entityId) →
    t.headAt type entityId = s.headAt type entityId

theorem extendsOwn_of_appends {call : ApplyCall D} (valid : s.Valid)
    (typed : call.event.registryType = call.registryType) (appends : Appends s t call.event) :
    ExtendsOwn call s t := by
  constructor
  · obtain ⟨items, chain⟩ := valid.chain call.event.registryType call.event.entityId
    have fresh := appends.fresh chain
    have longer := appends.chain chain
    rw [typed] at chain longer
    exact ⟨items, chain, fresh, longer⟩
  · intro type entityId other
    rw [← typed] at other
    rw [appends.result]
    exact headAt_replaceHead_other _ other

/-- Over every interleaving of calls to `apply`, with crashes and I/O errors anywhere: every
history is linked and accepted by its reducer; a move of a call changes no head, or extends the
history of the call's own entity by the call's own event; histories only grow; and a state that
is returned is the projection of a beginning of the history, with the event in it. -/
theorem typed_registries_reducible (run : ApplyRuns calls (.idle .initial) c) :
    (∀ type entityId, entityId ≠ "" → ∃ items state,
      (reconstructEntity type entityId).exec c.store = (.ok items, c.store) ∧
      c.store.Chain type entityId items ∧ WellLinked c.store type entityId items ∧
      project type items = .ok state) ∧
    (∀ i c', Pool.MoveBy (calls i).run i c c' →
      c'.store.heads = c.store.heads ∨ ExtendsOwn (calls i) c.store c'.store) ∧
    (∀ c', ApplyRuns calls c c' → ∀ type entityId items, c.store.Chain type entityId items →
      ∃ later, c'.store.Chain type entityId later ∧ items <+: later) ∧
    ∀ i answer, c.task i = some (.done (.ok answer)) →
      answer.registryType = (calls i).registryType ∧ answer.event = (calls i).event ∧
        answer.Meets c.store := by
  obtain ⟨valid, reducible⟩ := (apply_sound run).valid
  refine ⟨?_, ?_, ?_, ?_⟩
  · intro type entityId named
    obtain ⟨items, chain⟩ := valid.chain type entityId
    obtain ⟨state, projected⟩ := reducible type entityId items chain
    exact ⟨items, state, exec_reconstructEntity valid named chain, chain, chain.wellLinked valid,
      projected⟩
  · intro i c' move
    rcases apply_move run move with same | ⟨typed, appends⟩
    · exact .inl same
    · exact .inr (extendsOwn_of_appends valid typed appends)
  · exact fun c' later type entityId items chain => held_chain (apply_later run later) chain
  · intro i answer found
    obtain ⟨type, event⟩ := (apply_keeping run).outcome found answer rfl
    exact ⟨type, event, (apply_sound run).returned found⟩

/-! One writer proposes an assumption while another one, which has already looked for its head,
is about to admit it. -/
section Sample

def sampleApplies : Bool → ApplyCall (List Nat)
  | false => ⟨.assumption, Assumptions.sampleEvent 0 none (Assumptions.sampleProposal [])⟩
  | true => ⟨.assumption, Assumptions.sampleEvent 1
      (some (Assumptions.sampleEvent 0 none (Assumptions.sampleProposal [])).digest)
      [("admission_receipt_digest", .str "sha256:admission"),
        ("admitting_authority_id", .str "admitting"), ("operation", .str "ADMIT")]⟩

abbrev Turn : Type :=
  Bool × RegistryM (List Nat) (ApplyAnswer (List Nat)) × RegistryStore (List Nat)

/-- The second writer reads its head, the first one runs to its end, the second one goes on. -/
def firstTurn : Turn := Prog.alone 3 (false, (sampleApplies true).run, .initial)

def secondTurn : Turn := Prog.alone 100 (false, (sampleApplies false).run, firstTurn.2.2)

def thirdTurn : Turn := Prog.alone 100 (false, firstTurn.2.1, secondTurn.2.2)

/-- What the writer has returned in its turn. -/
def Turn.answer : Turn → Option (ApplyAnswer (List Nat))
  | (false, .done (.ok answer), _) => some answer
  | _ => none

theorem Turn.unlocked {turn : Turn} (free : turn.1 = false) :
    turn = (false, turn.2.1, turn.2.2) := by
  rcases turn with ⟨_, p, s⟩
  cases free
  rfl

theorem Turn.ended {turn : Turn} (returned : turn.answer.isSome = true) :
    ∃ answer, turn = (false, .done (.ok answer), turn.2.2) := by
  rcases turn with ⟨held, p, s⟩
  cases held with
  | true => cases returned
  | false =>
      cases p with
      | done result =>
          cases result with
          | error e => cases returned
          | ok answer => exact ⟨answer, rfl⟩
      | step | acquire | release => cases returned

set_option maxRecDepth 100000 in
theorem thirdTurn_ended : firstTurn.1 = false ∧ secondTurn.answer.isSome = true ∧
    thirdTurn.answer.isSome = true ∧ thirdTurn.2.2.lastSequence .assumption "a" = 2 := by
  decide +kernel

/-- The admission began before the proposal and extends the history that it left. -/
theorem typed_registries_reducible_sample :
    ∃ (c : ApplyPool Bool (List Nat)) (proposed admitted : ApplyAnswer (List Nat)),
      c.task false = some (.done (.ok proposed)) ∧ c.task true = some (.done (.ok admitted)) ∧
      c.store.lastSequence .assumption "a" = 2 ∧ proposed.Meets c.store ∧
      admitted.Meets c.store := by
  obtain ⟨began, ran, went, placed⟩ := thirdTurn_ended
  obtain ⟨proposed, proposes⟩ := Turn.ended ran
  obtain ⟨admitted, admits⟩ := Turn.ended went
  have first : Prog.alone 3 (false, (sampleApplies true).run, .initial) =
      (false, firstTurn.2.1, firstTurn.2.2) := Turn.unlocked began
  have second : Prog.alone 100 (false, (sampleApplies false).run, firstTurn.2.2) =
      (false, .done (.ok proposed), secondTurn.2.2) := proposes
  have third : Prog.alone 100 (false, firstTurn.2.1, secondTurn.2.2) =
      (false, .done (.ok admitted), thirdTurn.2.2) := admits
  have reached : ApplyRuns sampleApplies (.idle .initial) _ :=
    Pool.Runs.overtaken (by decide : true ≠ false) first second 100
  rw [third] at reached
  generalize thirdTurn.2.2 = s at placed reached
  obtain ⟨-, -, -, answers⟩ := typed_registries_reducible reached
  have others : (Pool.beside (Function.update (fun _ => none) false (some (.done (.ok proposed))))
      true (false, .done (.ok admitted), s) : ApplyPool Bool (List Nat)).task false =
      some (.done (.ok proposed)) := by simp [Pool.beside]
  have own : (Pool.beside (Function.update (fun _ => none) false (some (.done (.ok proposed))))
      true (false, .done (.ok admitted), s) : ApplyPool Bool (List Nat)).task true =
      some (.done (.ok admitted)) := by simp [Pool.beside]
  exact ⟨_, proposed, admitted, others, own, placed, (answers false proposed others).2.2,
    (answers true admitted own).2.2⟩

end Sample
end CsdFoundry.Registry
