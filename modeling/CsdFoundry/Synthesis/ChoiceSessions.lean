import CsdFoundry.Synthesis.ChoiceBytes
import CsdFoundry.Synthesis.ChoiceSizes

/-! Sessions over whole runs: the choices that fit a session, in any order, and the ledger that
they freeze to. -/
namespace CsdFoundry.Synthesis.Choices
open Admission Admission.Value Encoding Results

/-- A choice that succeeded, with the bytes of its path and its record. -/
structure Entry where
  choice : Choice
  key : List UInt8
  record : ChoiceRecord

section Steps
variable [HashBytes] {inputs : SessionInputs} {session session' : ChoiceSession}
  {entries entries' : List Entry} {entry : Entry}

/-- What an entry has by itself. -/
structure Drawn (inputs : SessionInputs) (entry : Entry) : Prop where
  bytes : entry.choice.path.bytes = .ok entry.key
  attempt : entry.choice.path.attemptKey = inputs.attemptKey
  declared : isDeclared inputs.allowedNamespacePrefix entry.choice.path = true
  produced : produce inputs.seed inputs.generationNamespace entry.choice = .ok entry.record

/-- The entries that one session takes. -/
structure Fits (inputs : SessionInputs) (entries : List Entry) : Prop where
  drawn : ∀ entry ∈ entries, Drawn inputs entry
  distinct : (entries.map (·.key)).Nodup
  count : entries.length ≤ inputs.budget.maximumChoicesPerAttempt
  bytes : entries ≠ [] → ∃ size ≤ inputs.budget.maximumCanonicalLedgerBytes,
    Measured inputs (entries.map (·.record)) size

theorem Fits.perm (fits : Fits inputs entries) (same : entries.Perm entries') :
    Fits inputs entries' := by
  refine ⟨?_, (same.map _).nodup_iff.mp fits.distinct, ?_, ?_⟩
  · intro entry member
    exact fits.drawn entry (same.mem_iff.mpr member)
  · rw [← same.length_eq]
    exact fits.count
  · intro nonempty
    have some : entries ≠ [] := by
      rintro rfl
      exact nonempty same.nil_eq.symm
    obtain ⟨size, within, measured⟩ := fits.bytes some
    exact ⟨size, within, measured.perm (same.map _)⟩

/-- What a session takes, it takes step by step. -/
theorem Fits.of_append (fits : Fits inputs (entries ++ entries')) : Fits inputs entries := by
  refine ⟨?_, ?_, ?_, ?_⟩
  · intro entry member
    exact fits.drawn entry (List.mem_append_left _ member)
  · have distinct := fits.distinct
    rw [List.map_append] at distinct
    exact distinct.of_append_left
  · have count := fits.count
    rw [List.length_append] at count
    omega
  · intro nonempty
    obtain ⟨size, within, measured⟩ := fits.bytes (List.append_ne_nil_of_left_ne_nil nonempty _)
    rw [List.map_append] at measured
    obtain ⟨smaller, fewer, less⟩ := measured.of_append
    exact ⟨smaller, less.trans within, fewer⟩

/-- The open session that has taken the entries. -/
def sessionOf (entries : List Entry) : ChoiceSession :=
  ⟨.open', (entries.map (·.key)).reverse, entries.map (·.record)⟩

omit [HashBytes] in
theorem sessionOf_snoc (entries : List Entry) (entry : Entry) : sessionOf (entries ++ [entry]) =
    ⟨.open', entry.key :: (sessionOf entries).reservedPaths,
      (sessionOf entries).records ++ [entry.record]⟩ := by
  simp [sessionOf]

omit [HashBytes] in
theorem mem_reservedPaths {key : List UInt8} :
    key ∈ (sessionOf entries).reservedPaths ↔ key ∈ entries.map (·.key) := List.mem_reverse

omit [HashBytes] in
/-- `_require_open_path` passes the paths that are new and allowed. -/
theorem requireOpenPath_ok {path : ChoicePath} {key : List UInt8} :
    requireOpenPath inputs session path = .ok key ↔ session.state = .open' ∧
      path.bytes = .ok key ∧ path.attemptKey = inputs.attemptKey ∧
      isDeclared inputs.allowedNamespacePrefix path = true ∧ key ∉ session.reservedPaths := by
  unfold requireOpenPath
  rw [require_bind, bind_ok]
  refine and_congr_right fun _ => ?_
  constructor
  · rintro ⟨bytes, encoded, checks⟩
    obtain ⟨attempt, checks⟩ := require_bind.mp checks
    obtain ⟨declared, checks⟩ := require_bind.mp checks
    obtain ⟨fresh, checks⟩ := require_bind.mp checks
    cases checks
    exact ⟨encoded, attempt, declared, fresh⟩
  · rintro ⟨encoded, attempt, declared, fresh⟩
    refine ⟨key, encoded, require_bind.mpr ⟨attempt, require_bind.mpr ⟨declared, ?_⟩⟩⟩
    exact require_bind.mpr ⟨fresh, rfl⟩

theorem preflightChoiceCount_ok {u : Unit} : preflightChoiceCount inputs session = .ok u ↔
    session.records.length + 1 ≤ inputs.budget.maximumChoicesPerAttempt := by
  unfold preflightChoiceCount
  dsimp only
  split_ifs with exceeded
  · constructor
    · intro passes
      obtain ⟨size, -, failed⟩ := bind_ok.mp passes
      cases failed
    · intro within
      omega
  · exact ⟨fun _ => by omega, fun _ => rfl⟩

theorem commit_ok {record : ChoiceRecord} : commit inputs session record = .ok session' ↔
    (∃ size ≤ inputs.budget.maximumCanonicalLedgerBytes,
      Measured inputs (session.records ++ [record]) size) ∧
    session' = { session with records := session.records ++ [record] } := by
  unfold commit
  rw [bind_ok]
  constructor
  · rintro ⟨size, measured, checks⟩
    obtain ⟨within, checks⟩ := require_bind.mp checks
    cases checks
    exact ⟨⟨size, within, ledgerBytesFor_ok.mp measured⟩, rfl⟩
  · rintro ⟨⟨size, within, measured⟩, rfl⟩
    exact ⟨size, ledgerBytesFor_ok.mpr measured, require_bind.mpr ⟨within, rfl⟩⟩

section Attempt
variable {path : ChoicePath} {make : Except ChoiceFailure ChoiceRecord} {record : ChoiceRecord}

/-- The part of a choice after its path is reserved. -/
theorem attempt_ok : (do
      preflightChoiceCount inputs session
      let record ← make
      let committed ← commit inputs session record
      Except.ok (committed, record)) = .ok (session', record) ↔
    session.records.length + 1 ≤ inputs.budget.maximumChoicesPerAttempt ∧ make = .ok record ∧
      commit inputs session record = .ok session' := by
  rw [bind_ok]
  constructor
  · rintro ⟨u, within, rest⟩
    obtain ⟨drawn, made, rest⟩ := bind_ok.mp rest
    obtain ⟨committed, stored, same⟩ := bind_ok.mp rest
    cases same
    exact ⟨preflightChoiceCount_ok.mp within, made, stored⟩
  · rintro ⟨within, made, stored⟩
    refine ⟨(), preflightChoiceCount_ok.mpr within, bind_ok.mpr ⟨record, made, ?_⟩⟩
    exact bind_ok.mpr ⟨session', stored, rfl⟩

/-- What a choice that succeeds has checked, and the session it leaves. -/
theorem choose_ok : choose inputs session path make = (session', .ok record) ↔
    ∃ key, requireOpenPath inputs session path = .ok key ∧
      session.records.length + 1 ≤ inputs.budget.maximumChoicesPerAttempt ∧ make = .ok record ∧
      (∃ size ≤ inputs.budget.maximumCanonicalLedgerBytes,
        Measured inputs (session.records ++ [record]) size) ∧
      session' = ⟨session.state, key :: session.reservedPaths, session.records ++ [record]⟩ := by
  unfold choose
  cases reserved : requireOpenPath inputs session path with
  | error failure => simp
  | ok key =>
      have attempt := @attempt_ok _ inputs
        { session with reservedPaths := key :: session.reservedPaths } session' make record
      rw [commit_ok] at attempt
      dsimp only at attempt ⊢
      constructor
      · intro chosen
        split at chosen
        · cases chosen
        · rename_i committed drawn succeeded
          cases chosen
          obtain ⟨within, made, measured, rfl⟩ := attempt.mp succeeded
          exact ⟨key, rfl, within, made, measured, rfl⟩
      · rintro ⟨_, ⟨⟩, within, made, measured, rfl⟩
        rw [attempt.mpr ⟨within, made, measured, rfl⟩]

omit [HashBytes] in
theorem poisonIfOpen_closed : (poisonIfOpen session).state ≠ .open' := by
  unfold poisonIfOpen
  split_ifs with isOpen
  · intro same
    cases same
  · exact isOpen

/-- A choice that fails leaves no open session. -/
theorem choose_error {failure : ChoiceFailure}
    (failed : choose inputs session path make = (session', .error failure)) :
    session'.state ≠ .open' := by
  unfold choose at failed
  split at failed
  · cases failed
    exact poisonIfOpen_closed
  · dsimp only at failed
    split at failed
    · cases failed
      exact poisonIfOpen_closed
    · cases failed

end Attempt

variable {choice : Choice} {answer : Answer}

omit [HashBytes] in
theorem answered_ok {result : ChoiceSession × Except ChoiceFailure ChoiceRecord} :
    answered result = (session', .ok answer) ↔
      ∃ record, result = (session', .ok record) ∧ answer = record.answer := by
  obtain ⟨session, outcome⟩ := result
  cases outcome with
  | error failure => simp [answered, Except.map]
  | ok record => simp [answered, Except.map, eq_comm]

/-- An entry that fits is taken. -/
theorem perform_entry (fits : Fits inputs (entries ++ [entry])) :
    perform inputs (sessionOf entries) (.choice entry.choice) =
      (sessionOf (entries ++ [entry]), .ok entry.record.answer) := by
  have drawn := fits.drawn entry (by simp)
  have distinct := fits.distinct
  have count := fits.count
  obtain ⟨size, within, measured⟩ := fits.bytes (by simp)
  rw [List.map_append, List.nodup_append] at distinct
  rw [List.length_append] at count
  rw [List.map_append] at measured
  rw [perform_choice, answered_ok]
  refine ⟨entry.record, choose_ok.mpr ⟨entry.key, ?_, ?_, drawn.produced, ?_, ?_⟩, rfl⟩
  · refine requireOpenPath_ok.mpr ⟨rfl, drawn.bytes, drawn.attempt, drawn.declared, ?_⟩
    rw [mem_reservedPaths]
    intro taken
    exact distinct.2.2 _ taken _ (by simp) rfl
  · change (entries.map (·.record)).length + 1 ≤ _
    rw [List.length_map]
    exact count
  · exact ⟨size, within, measured⟩
  · rw [sessionOf_snoc]
    rfl

/-- A choice that succeeds brings an entry that fits. -/
theorem entry_of_perform (fits : Fits inputs entries)
    (performed : perform inputs (sessionOf entries) (.choice choice) = (session', .ok answer)) :
    ∃ entry, entry.choice = choice ∧ Fits inputs (entries ++ [entry]) ∧
      session' = sessionOf (entries ++ [entry]) ∧ answer = entry.record.answer := by
  rw [perform_choice, answered_ok] at performed
  obtain ⟨record, chosen, rfl⟩ := performed
  obtain ⟨key, passes, within, produced, ⟨size, small, measured⟩, rfl⟩ := choose_ok.mp chosen
  obtain ⟨-, bytes, attempt, declared, fresh⟩ := requireOpenPath_ok.mp passes
  rw [mem_reservedPaths] at fresh
  refine ⟨⟨choice, key, record⟩, rfl, ⟨?_, ?_, ?_, ?_⟩, ?_, rfl⟩
  · intro entry member
    rcases List.mem_append.mp member with before | last
    · exact fits.drawn entry before
    · obtain rfl := List.mem_singleton.mp last
      exact ⟨bytes, attempt, declared, produced⟩
  · rw [List.map_append]
    apply List.Nodup.append fits.distinct (List.nodup_singleton _)
    intro other before last
    obtain rfl := List.mem_singleton.mp last
    exact fresh before
  · change (entries.map (·.record)).length + 1 ≤ _ at within
    rw [List.length_map] at within
    rw [List.length_append]
    exact within
  · intro _
    rw [List.map_append]
    exact ⟨size, small, measured⟩
  · rw [sessionOf_snoc]
    rfl

/-- A choice that fails, and a freeze, leave no open session. -/
theorem closed_of_choice {failure : ChoiceFailure}
    (failed : (perform inputs session (.choice choice)).2 = .error failure) :
    (perform inputs session (.choice choice)).1.state ≠ .open' := by
  rw [perform_choice] at failed ⊢
  cases chosen : choose inputs session choice.path
      (produce inputs.seed inputs.generationNamespace choice) with
  | mk after outcome =>
      rw [chosen] at failed
      cases outcome with
      | error failure => exact choose_error chosen
      | ok record => cases failed

theorem closed_of_freeze : (session.freeze inputs).1.state ≠ .open' := by
  unfold ChoiceSession.freeze
  split_ifs with isOpen
  · exact isOpen
  · cases frozenLedger inputs session with
    | error failure => exact poisonIfOpen_closed
    | ok ledger =>
        intro same
        cases same

/-- A session that is not open stays so, and answers nothing. -/
theorem perform_closed (closed : session.state ≠ .open') (operation : Operation) :
    (perform inputs session operation).1.state ≠ .open' ∧
      ∃ failure, (perform inputs session operation).2 = .error failure := by
  cases operation with
  | freeze =>
      refine ⟨closed_of_freeze, .session, ?_⟩
      change (session.freeze inputs).2 = _
      rw [ChoiceSession.freeze, if_pos closed]
  | choice choice =>
      have refused : ∃ failure, (perform inputs session (.choice choice)).2 = .error failure := by
        cases performed : perform inputs session (.choice choice) with
        | mk after outcome =>
            cases outcome with
            | error failure => exact ⟨failure, rfl⟩
            | ok answer =>
                rw [perform_choice, answered_ok] at performed
                obtain ⟨record, chosen, -⟩ := performed
                obtain ⟨key, passes, -⟩ := choose_ok.mp chosen
                exact absurd (requireOpenPath_ok.mp passes).1 closed
      obtain ⟨failure, failed⟩ := refused
      exact ⟨closed_of_choice failed, failure, failed⟩

end Steps

section Runs
variable [HashBytes] {inputs : SessionInputs} {session : ChoiceSession}
  {entries more : List Entry} {operations : List Operation}

/-- The entries of a session that takes them all are taken in their order. -/
theorem run_entries (fits : Fits inputs (entries ++ more)) (rest : List Operation) :
    run inputs (sessionOf entries) (more.map (fun entry => .choice entry.choice) ++ rest) =
      ((run inputs (sessionOf (entries ++ more)) rest).1,
        more.map (fun entry => .ok entry.record.answer) ++
          (run inputs (sessionOf (entries ++ more)) rest).2) := by
  induction more generalizing entries with
  | nil => rw [List.map_nil, List.map_nil, List.nil_append, List.nil_append, List.append_nil]
  | cons entry more ih =>
      have split : entries ++ entry :: more = entries ++ [entry] ++ more := by simp
      rw [split] at fits ⊢
      rw [List.map_cons, List.cons_append, run, perform_entry fits.of_append, ih fits]
      rfl

theorem run_closed (closed : session.state ≠ .open') {outcome : Except ChoiceFailure Answer}
    (among : outcome ∈ (run inputs session operations).2) : ∃ failure, outcome = .error failure := by
  induction operations generalizing session with
  | nil => cases among
  | cons operation operations ih =>
      obtain ⟨still, failure, failed⟩ := perform_closed closed operation
      rcases List.mem_cons.mp among with rfl | later
      · exact ⟨failure, failed⟩
      · exact ih still later

/-- After a failure there are failures only. -/
theorem run_failed {i j : Nat} {failure : ChoiceFailure} {outcome : Except ChoiceFailure Answer}
    (failed : (run inputs session operations).2[i]? = some (.error failure)) (later : i ≤ j)
    (found : (run inputs session operations).2[j]? = some outcome) :
    ∃ failure, outcome = .error failure := by
  induction operations generalizing session i j with
  | nil => cases found
  | cons operation operations ih =>
      rw [run] at failed found
      cases i with
      | zero =>
          have first : (perform inputs session operation).2 = .error failure := Option.some.inj failed
          have closed : (perform inputs session operation).1.state ≠ .open' := by
            cases operation with
            | choice choice => exact closed_of_choice first
            | freeze => exact closed_of_freeze
          cases j with
          | zero => exact ⟨failure, (Option.some.inj found).symm.trans first⟩
          | succ j => exact run_closed closed (List.mem_of_getElem? found)
      | succ i =>
          cases j with
          | zero => omega
          | succ j => exact ih failed (by omega) found

theorem freeze_ok {ledger : ChoiceLedger} (isOpen : session.state = .open') :
    (session.freeze inputs).2 = .ok (.ledger ledger) ↔ frozenLedger inputs session = .ok ledger := by
  unfold ChoiceSession.freeze
  rw [if_neg (not_not.mpr isOpen)]
  cases frozenLedger inputs session <;> simp

/-- A ledger comes of choices that were all taken, and of the first freeze after them. -/
theorem ledger_outcome {k : Nat} {ledger : ChoiceLedger} (fits : Fits inputs entries)
    (found : (run inputs (sessionOf entries) operations).2[k]? = some (.ok (.ledger ledger))) :
    ∃ more rest, operations = more.map (fun entry => Operation.choice entry.choice) ++
        .freeze :: rest ∧ more.length = k ∧ Fits inputs (entries ++ more) ∧
      frozenLedger inputs (sessionOf (entries ++ more)) = .ok ledger := by
  induction operations generalizing entries k with
  | nil => cases found
  | cons operation operations ih =>
      rw [run] at found
      cases operation with
      | freeze =>
          cases k with
          | zero =>
              have frozen := (freeze_ok rfl).mp (Option.some.inj found)
              refine ⟨[], operations, rfl, rfl, ?_, ?_⟩
              · rwa [List.append_nil]
              · rwa [List.append_nil]
          | succ k =>
              obtain ⟨failure, failed⟩ := run_closed closed_of_freeze (List.mem_of_getElem? found)
              cases failed
      | choice choice =>
          cases performed : perform inputs (sessionOf entries) (.choice choice) with
          | mk after outcome =>
              rw [performed] at found
              cases outcome with
              | error failure =>
                  cases k with
                  | zero => cases found
                  | succ k =>
                      have closed : after.state ≠ .open' := by
                        have left := @closed_of_choice _ inputs (sessionOf entries) choice failure
                        rw [performed] at left
                        exact left rfl
                      obtain ⟨failure, failed⟩ := run_closed closed (List.mem_of_getElem? found)
                      cases failed
              | ok answer =>
                  obtain ⟨entry, rfl, fits, rfl, rfl⟩ := entry_of_perform fits performed
                  cases k with
                  | zero =>
                      have ledgerAnswer := Except.ok.inj (Option.some.inj found)
                      cases recorded : entry.record <;> rw [recorded] at ledgerAnswer <;>
                        cases ledgerAnswer
                  | succ k =>
                      obtain ⟨more, rest, rfl, rfl, taken, frozen⟩ := ih fits found
                      rw [List.append_assoc] at taken frozen
                      exact ⟨entry :: more, rest, rfl, rfl, taken, frozen⟩

end Runs

section Frozen
variable [HashBytes] {inputs : SessionInputs} {entries entries' : List Entry} {ledger : ChoiceLedger}

/-- The frozen ledger holds the records that were taken, within the budget. -/
theorem frozenLedger_ok (frozen : frozenLedger inputs (sessionOf entries) = .ok ledger) :
    ∃ ordered bytes, sortedRecords (entries.map (·.record)) = .ok ordered ∧
      ledger = ledgerOf inputs ordered ∧ checkedLedger ledger = .ok ledger ∧
      ledger.canonicalBytes = .ok bytes ∧
      bytes.length ≤ inputs.budget.maximumCanonicalLedgerBytes := by
  obtain ⟨ordered, sorted, rest⟩ := bind_ok.mp frozen
  obtain ⟨checked, passes, rest⟩ := bind_ok.mp rest
  obtain ⟨bytes, encoded, rest⟩ := bind_ok.mp rest
  obtain ⟨within, rest⟩ := require_bind.mp rest
  cases rest
  obtain rfl := checkedLedger_ok passes
  exact ⟨ordered, bytes, sorted, rfl, passes, encoded, within⟩

theorem Fits.recordBytes (fits : Fits inputs entries) :
    (entries.map (·.record)).map (fun record => record.path.bytes) =
      (entries.map (·.key)).map .ok := by
  rw [List.map_map, List.map_map]
  apply List.map_congr_left
  intro entry member
  have drawn := fits.drawn entry member
  change entry.record.path.bytes = .ok entry.key
  rw [← entry.record.path_choice, (produce_ok drawn.produced).choice, drawn.bytes]

/-- The frozen ledger does not depend on the order of the choices. -/
theorem frozenLedger_perm (fits : Fits inputs entries) (same : entries.Perm entries')
    (frozen : frozenLedger inputs (sessionOf entries) = .ok ledger) :
    frozenLedger inputs (sessionOf entries') = .ok ledger := by
  obtain ⟨ordered, sorted, rest⟩ := bind_ok.mp frozen
  have exchanged := sortedRecords_exchange (same.map _) sorted fits.recordBytes fits.distinct
  exact bind_ok.mpr ⟨ordered, exchanged, rest⟩

/-- What the constructor of the ledger checks holds of the records of a session. -/
theorem Fits.checked (fits : Fits inputs entries) (some : entries ≠ [])
    {session : ChoiceSession} (opened : openSession inputs = .ok session)
    {ordered : List ChoiceRecord} (sorted : sortedRecords (entries.map (·.record)) = .ok ordered) :
    checkedLedger (ledgerOf inputs ordered) = .ok (ledgerOf inputs ordered) := by
  obtain ⟨producer, rest⟩ := require_bind.mp opened
  obtain ⟨allowed, -⟩ := require_bind.mp rest
  obtain ⟨entry, among⟩ := List.exists_mem_of_ne_nil entries some
  have own := produce_ok (fits.drawn entry among).produced
  have records := sortedRecords_perm sorted
  obtain ⟨pairs, keyed, rfl⟩ := sortedRecords_ok.mp sorted
  obtain ⟨same, encoded⟩ := keyed_iff.mp keyed
  have perm := List.perm_insertionSort PathLe pairs
  have again : collect (((pairs.insertionSort PathLe).map (·.2)).map pathKeyed) =
      .ok (pairs.insertionSort PathLe) :=
    keyed_iff.mpr ⟨rfl, fun pair member => encoded pair (perm.mem_iff.mp member)⟩
  have bytes := fits.recordBytes
  rw [← same] at bytes
  have keys : pairs.map (·.1) = entries.map (·.key) := keys_of_keyed encoded bytes
  have distinct : ((pairs.insertionSort PathLe).map (·.1)).Nodup := by
    rw [(perm.map (·.1)).nodup_iff, keys]
    exact fits.distinct
  refine require_bind.mpr ⟨own.isCommitment, require_bind.mpr ⟨own.isDigest, require_bind.mpr
    ⟨producer, require_bind.mpr ⟨allowed, bind_ok.mpr ⟨_, again, require_bind.mpr
    ⟨List.pairwise_insertionSort PathLe pairs, require_bind.mpr ⟨distinct, require_bind.mpr
    ⟨List.all_eq_true.mpr fun record member => ?_, require_bind.mpr ⟨rfl, rfl⟩⟩⟩⟩⟩⟩⟩⟩⟩
  obtain ⟨entry, taken, rfl⟩ := List.mem_map.mp (records.mem_iff.mp member)
  have drawn := fits.drawn entry taken
  have produced := produce_ok drawn.produced
  have path : entry.record.path = entry.choice.path := by
    rw [← entry.record.path_choice, produced.choice]
  simp [ChoiceLedger.admits, ledgerOf, path, drawn.attempt, drawn.declared, produced.commitment,
    produced.digest]

/-- A session that has taken choices can be frozen. -/
theorem frozenLedger_exists (fits : Fits inputs entries) (some : entries ≠ [])
    {session : ChoiceSession} (opened : openSession inputs = .ok session) :
    ∃ ledger, frozenLedger inputs (sessionOf entries) = .ok ledger := by
  obtain ⟨size, within, measured⟩ := fits.bytes some
  obtain ⟨ordered, sorted⟩ := sortedRecords_exists.mpr measured.encodes
  have there := measured.perm (sortedRecords_perm sorted).symm
  obtain ⟨bytes, encoded, rfl⟩ := canonicalBytes_ok.mpr ⟨there.digits, there.weighs⟩
  exact ⟨_, bind_ok.mpr ⟨ordered, sorted, bind_ok.mpr ⟨_, fits.checked some opened sorted,
    bind_ok.mpr ⟨bytes, encoded, require_bind.mpr ⟨within, rfl⟩⟩⟩⟩⟩

/-- The choices of the entries, and then a freeze. -/
theorem run_freeze (fits : Fits inputs entries)
    (frozen : frozenLedger inputs (sessionOf entries) = .ok ledger) :
    (run inputs (sessionOf []) ((entries.map (·.choice)).map .choice ++ [.freeze])).2[
      entries.length]? = some (.ok (.ledger ledger)) := by
  have again := (freeze_ok rfl).mpr frozen
  have taken := congrArg Prod.snd (@run_entries _ inputs [] entries fits [.freeze])
  change (run inputs (sessionOf []) _).2 = _ ++ [(ChoiceSession.freeze inputs _).2] at taken
  rw [List.nil_append, again] at taken
  have asked : (entries.map (·.choice)).map Operation.choice =
      entries.map fun entry => Operation.choice entry.choice := List.map_map
  rw [asked, taken, List.getElem?_append_right (by rw [List.length_map]), List.length_map,
    Nat.sub_self]
  rfl

/-- A frozen ledger replays under the seed and the namespace of its session. -/
theorem replay_frozen (fits : Fits inputs entries)
    (frozen : frozenLedger inputs (sessionOf entries) = .ok ledger) :
    ∃ digest, replayChoiceLedger inputs.seed inputs.generationNamespace ledger = .ok digest := by
  obtain ⟨ordered, bytes, sorted, rfl, checked, encoded, -⟩ := frozenLedger_ok frozen
  have records (record : ChoiceRecord) (member : record ∈ ordered) :
      replayChoiceRecord inputs.seed inputs.generationNamespace record = .ok () := by
    have among := (sortedRecords_perm sorted).mem_iff.mp member
    obtain ⟨entry, taken, rfl⟩ := List.mem_map.mp among
    have digits := (jsonBytes_exists (ledgerOf inputs ordered).built).mp ⟨bytes, encoded⟩
    obtain ⟨recorded, encodes⟩ := (jsonBytes_exists entry.record.built).mpr
      ((ledger_hasDigits.mp digits).2 entry.record member)
    exact replayChoiceRecord_produced (fits.drawn entry taken).produced encodes
  have all : collect (ordered.map (replayChoiceRecord inputs.seed inputs.generationNamespace)) =
      .ok (ordered.map fun _ => ()) := by
    rw [collect_eq_ok, List.map_map]
    exact List.map_congr_left records
  refine ⟨HashBytes.sha256 bytes |> hex, ?_⟩
  refine require_bind.mpr ⟨rfl, require_bind.mpr ⟨rfl, bind_ok.mpr ⟨_, all, ?_⟩⟩⟩
  refine bind_ok.mpr ⟨_, checked, bind_ok.mpr ⟨bytes, encoded, bind_ok.mpr ⟨bytes, encoded, ?_⟩⟩⟩
  exact require_bind.mpr ⟨rfl, bind_ok.mpr ⟨bytes, encoded, rfl⟩⟩

end Frozen

/-- A session answers with a ledger only when every choice before succeeded. The ledger has their
records, within both budgets, in whatever order they were made, and it replays. -/
theorem choiceSession_allOrNothing [HashBytes] {inputs : SessionInputs} {session : ChoiceSession}
    (opened : openSession inputs = .ok session) (operations : List Operation) :
    (∀ (k : Nat) (ledger : ChoiceLedger),
      (run inputs session operations).2[k]? = some (.ok (.ledger ledger)) →
      ∃ (choices : List Choice) (records : List ChoiceRecord) (bytes : List UInt8),
        operations.take (k + 1) = choices.map .choice ++ [.freeze] ∧
        choices.map (produce inputs.seed inputs.generationNamespace) = records.map .ok ∧
        (run inputs session operations).2.take k = records.map (fun record => .ok record.answer) ∧
        ledger.records.Perm records ∧
        ledger.records.length ≤ inputs.budget.maximumChoicesPerAttempt ∧
        ledger.canonicalBytes = .ok bytes ∧
        bytes.length ≤ inputs.budget.maximumCanonicalLedgerBytes ∧
        (∀ choices' : List Choice, choices'.Perm choices →
          (run inputs session (choices'.map .choice ++ [.freeze])).2[k]? =
            some (.ok (.ledger ledger))) ∧
        ∃ digest, replayChoiceLedger inputs.seed inputs.generationNamespace ledger = .ok digest) ∧
    (∀ (i j : Nat) (failure : ChoiceFailure) (outcome : Except ChoiceFailure Answer),
      (run inputs session operations).2[i]? = some (.error failure) → i ≤ j →
      (run inputs session operations).2[j]? = some outcome → ∃ failure, outcome = .error failure) ∧
    (∀ (seed : RootSeed) (generationNamespace : GenerationNamespace) (ledger : ChoiceLedger)
      (digest : String), replayChoiceLedger seed generationNamespace ledger = .ok digest →
      ∀ record ∈ ledger.records, produce seed generationNamespace record.choice = .ok record) := by
  have start : session = sessionOf [] := by
    obtain ⟨-, rest⟩ := require_bind.mp opened
    obtain ⟨-, rest⟩ := require_bind.mp rest
    cases rest
    rfl
  subst start
  have empty : Fits inputs [] := ⟨by simp, List.nodup_nil, Nat.zero_le _, by simp⟩
  refine ⟨?_, fun i j failure outcome => run_failed, ?_⟩
  · intro k ledger found
    obtain ⟨entries, rest, rfl, rfl, fits, frozen⟩ := ledger_outcome empty found
    rw [List.nil_append] at fits frozen
    obtain ⟨ordered, bytes, sorted, same, -, encoded, within⟩ := frozenLedger_ok frozen
    have perm := sortedRecords_perm sorted
    refine ⟨entries.map (·.choice), entries.map (·.record), bytes, ?_, ?_, ?_, ?_, ?_, encoded,
      within, ?_, replay_frozen fits frozen⟩
    · rw [List.take_append, List.map_map, List.length_map,
        List.take_of_length_le (by rw [List.length_map]; omega), Nat.add_sub_cancel_left]
      rfl
    · rw [List.map_map, List.map_map]
      exact List.map_congr_left fun entry member => (fits.drawn entry member).produced
    · have taken := congrArg Prod.snd (@run_entries _ inputs [] entries fits (.freeze :: rest))
      change (run inputs (sessionOf []) _).2 = _ at taken
      rw [taken, List.take_left' (List.length_map _), List.map_map]
      rfl
    · rw [same]
      exact perm
    · rw [same]
      change ordered.length ≤ _
      rw [perm.length_eq, List.length_map]
      exact fits.count
    · intro choices' exchanged
      obtain ⟨entries', rfl, same⟩ := image_perm exchanged.symm rfl
      rw [same.length_eq]
      exact run_freeze (fits.perm same) (frozenLedger_perm fits same frozen)
  · intro seed generationNamespace ledger digest accepted
    exact (replayed_of_ok accepted).produced

section Example

theorem exampleTarget : isToken "target" = true := by decide

theorem exampleIndex : 0 ≤ maxAttemptIndex := by decide

def exampleInputs : SessionInputs where
  seed := ⟨List.replicate 32 0, List.length_replicate⟩
  generationNamespace := ⟨"0000000000000000000000000000000000000000000000000000000000000000"⟩
  attemptKey := ⟨⟨"v0.4", "target", 0, rfl, exampleTarget⟩, 0, exampleIndex⟩
  producerContractId := "producer"
  allowedNamespacePrefix := "producer"
  budget := ⟨4, 4096, by decide, by decide⟩

/-- The digests of the messages that the example hashes, by the sum of the bytes of each. -/
def exampleDigests : List (Nat × Nat) := [
  (2073, 0xdd072b3c49c862b7f944c545c87bfbf77feefe86bbef833d8eeadb75e48086ae),
  (2617, 0x32ff5ac273f28d302476c5a80ffa45739f70e586fa84614d5ff0a5ccd2b08d67),
  (3551, 0x2d3067cc0dd013666ade5d1ca053b8e4d4a7bdb20ce495ded342384e501f3240),
  (9632, 0xb0d6d0bf1219680675218e18c9e728db74cc1d9b17ada297e4bb645d71b017b5),
  (9709, 0xb94f1875bcba7ea6fe38c343fe000e2029004c1aa502d2f6c9f93157d787c35b),
  (30023, 0xfbf48f11576e5c76603bff096b2f164a9b8eeaf7017ebd774abb2eb595895f72),
  (30471, 0xf2c907ed2d20028a25f1edfa0169ec10773c42a93423270c3fb161585540abfb),
  (36745, 0xdd29fa1bf688fd07b2c1670f335edf3694d9c06d58a8ba4539587804471d8a2d),
  (37202, 0xacc78d94856fc07b443783e7bb44540ff55259219e987973516fec2d0604b21e)]

/-- SHA-256 as far as the example goes. -/
@[reducible]
def exampleHash : HashBytes where
  sha256 message := toBigEndian 32 ((exampleDigests.lookup (message.map UInt8.toNat).sum).getD 0)
  length_sha256 _ := length_toBigEndian 32 _

def examplePath (segments : List ChoiceSegment) (nonempty : segments ≠ [])
    (valid : segments.all ChoiceSegment.isValid = true) : ChoicePath :=
  ⟨exampleInputs.attemptKey, "producer.x", segments, rfl, nonempty, valid⟩

theorem exampleSize_valid : [ChoiceSegment.token "size"].all ChoiceSegment.isValid = true := by decide

theorem exampleKind_valid :
    [ChoiceSegment.token "kind", .index 0].all ChoiceSegment.isValid = true := by decide

def exampleSize : Choice :=
  .boundedInteger (examplePath [.token "size"] (List.cons_ne_nil _ _) exampleSize_valid) 6

def exampleKind : Choice :=
  .weightedChoice (examplePath [.token "kind", .index 0] (List.cons_ne_nil _ _) exampleKind_valid)
    [⟨.str "open", rfl⟩, ⟨.str "shut", rfl⟩] [1, 3]

/-- The record is drawn, and its text has at most so many characters. -/
def drawnWithin (size : Nat) (choice : Choice) : Bool :=
  match @produce exampleHash exampleInputs.seed exampleInputs.generationNamespace choice with
  | .ok record => record.json.every hasDigits && weight record.json ≤ size
  | .error _ => false

theorem drawnWithin_iff {size : Nat} {choice : Choice} : drawnWithin size choice = true ↔
    ∃ record, @produce exampleHash exampleInputs.seed exampleInputs.generationNamespace choice =
      .ok record ∧ record.json.every hasDigits = true ∧ weight record.json ≤ size := by
  unfold drawnWithin
  cases @produce exampleHash exampleInputs.seed exampleInputs.generationNamespace choice with
  | error failure => simp
  | ok record => simp

theorem exampleSize_drawn : drawnWithin 1500 exampleSize = true := by decide +kernel

/-- The other choice, the ledger without its records and the keys of both, in one evaluation. -/
theorem example_evaluates : drawnWithin 1500 exampleKind = true ∧
    weight (@ledgerOf exampleHash exampleInputs []).json ≤ 900 ∧
    (@ledgerOf exampleHash exampleInputs []).json.every hasDigits = true ∧
    exampleSize.path.bytes.toOption.isSome = true ∧ exampleKind.path.bytes.toOption.isSome = true ∧
    exampleSize.path.bytes.toOption ≠ exampleKind.path.bytes.toOption := by
  decide +kernel

theorem exampleKeys : ∃ first second, exampleSize.path.bytes = .ok first ∧
    exampleKind.path.bytes = .ok second ∧ first ≠ second := by
  obtain ⟨-, -, -, encoded, encoded', apart⟩ := example_evaluates
  cases bytes : exampleSize.path.bytes with
  | error failure => simp [bytes, Except.toOption] at encoded
  | ok first =>
      cases bytes' : exampleKind.path.bytes with
      | error failure => simp [bytes', Except.toOption] at encoded'
      | ok second =>
          refine ⟨first, second, rfl, rfl, fun same => apart ?_⟩
          rw [bytes, bytes', same]

theorem example_declared :
    isDeclared exampleInputs.allowedNamespacePrefix exampleSize.path = true ∧
      isDeclared exampleInputs.allowedNamespacePrefix exampleKind.path = true := by
  decide

/-- Both choices fit in one session. -/
theorem example_fits : ∃ entries, entries.map (·.choice) = [exampleSize, exampleKind] ∧
    @Fits exampleHash exampleInputs entries := by
  let _ := exampleHash
  obtain ⟨kindDrawn, light, whole, -⟩ := example_evaluates
  obtain ⟨first, drawn, digits, short⟩ := drawnWithin_iff.mp exampleSize_drawn
  obtain ⟨second, drawn', digits', short'⟩ := drawnWithin_iff.mp kindDrawn
  obtain ⟨key, key', bytes, bytes', apart⟩ := exampleKeys
  have encodes : ∀ record ∈ [first, second], ∃ bytes, record.path.bytes = .ok bytes := by
    simp only [List.forall_mem_cons, List.not_mem_nil, false_imp_iff, implies_true, and_true]
    rw [← first.path_choice, ← second.path_choice, (produce_ok drawn).choice,
      (produce_ok drawn').choice]
    exact ⟨⟨key, bytes⟩, key', bytes'⟩
  have all : (@ledgerOf exampleHash exampleInputs [first, second]).json.every hasDigits = true :=
    ledger_hasDigits.mpr ⟨whole, by simp [digits, digits']⟩
  have weighs : weight (@ledgerOf exampleHash exampleInputs [first, second]).json + 1 ≤ 4096 := by
    have both := @ledger_weight_cons exampleHash exampleInputs [second] first
    have one := @ledger_weight_cons exampleHash exampleInputs [] second
    omega
  refine ⟨[⟨exampleSize, key, first⟩, ⟨exampleKind, key', second⟩], rfl, ?_, ?_, (by decide : 2 ≤ 4),
    fun _ => ⟨_, weighs, encodes, all, rfl⟩⟩
  · simp only [List.forall_mem_cons, List.not_mem_nil, false_imp_iff, implies_true, and_true]
    exact ⟨⟨bytes, rfl, example_declared.1, drawn⟩, bytes', rfl, example_declared.2, drawn'⟩
  · simpa using apart

/-- A bounded integer and a weighted choice freeze to one ledger, in either order, and it replays. -/
theorem choiceSession_allOrNothing_example : ∃ ledger digest,
    (@run exampleHash exampleInputs (sessionOf [])
      [.choice exampleSize, .choice exampleKind, .freeze]).2[2]? = some (.ok (.ledger ledger)) ∧
    ledger.records.length = 2 ∧
    (@run exampleHash exampleInputs (sessionOf [])
      [.choice exampleKind, .choice exampleSize, .freeze]).2[2]? = some (.ok (.ledger ledger)) ∧
    @replayChoiceLedger exampleHash exampleInputs.seed exampleInputs.generationNamespace ledger =
      .ok digest := by
  have opened : openSession exampleInputs = .ok (sessionOf []) :=
    require_bind.mpr ⟨by decide, require_bind.mpr ⟨by decide, rfl⟩⟩
  obtain ⟨entries, made, fits⟩ := example_fits
  have two : entries.length = 2 := by
    rw [← List.length_map, made]
    rfl
  obtain ⟨ledger, frozen⟩ := @frozenLedger_exists exampleHash _ _ fits
    (by rintro rfl; cases two) _ opened
  have found := @run_freeze exampleHash _ _ _ fits frozen
  rw [made, two] at found
  obtain ⟨choices, records, bytes, taken, produced, -, perm, -, -, -, exchanged, digest, replays⟩ :=
    (@choiceSession_allOrNothing exampleHash _ _ opened _).1 2 ledger found
  have asked : [exampleSize, exampleKind].map Operation.choice = choices.map .choice :=
    List.append_cancel_right taken
  obtain rfl : [exampleSize, exampleKind] = choices :=
    List.map_injective_iff.mpr (fun _ _ same => Operation.choice.inj same) asked
  refine ⟨ledger, digest, found, ?_, exchanged [exampleKind, exampleSize] (.swap ..), replays⟩
  have lengths := congrArg List.length produced
  rw [List.length_map, List.length_map] at lengths
  rw [perm.length_eq, ← lengths]
  rfl

end Example

end CsdFoundry.Synthesis.Choices
