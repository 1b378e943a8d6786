import CsdFoundry.Policy.Store
import CsdFoundry.Storage.Session

/-! What the publisher leaves alone: the only files that a call makes, changes or removes are the
ledger, the lock and its own temporary files, as long as the sweep meets no name that it takes for
one of these. -/
namespace CsdFoundry.Policy.Store
open Storage Storage.Prog
open Storage.Roles (Normally)

/-- `.policy-ledger.`, 32 lowercase hexadecimal digits and `.tmp`, and nothing more. -/
def Managed (name : Name) : Prop :=
  ∃ hex : List Nat, hex.length = 32 ∧ hex.all isHex = true ∧ name = tempPrefix ++ hex ++ tempSuffix

theorem managed_iff {name : Name} : managed name = true ↔ Managed name := by
  simp only [managed, Bool.and_eq_true, beq_iff_eq]
  constructor
  · rintro ⟨⟨length, digits⟩, same⟩
    exact ⟨_, length, digits, same⟩
  · rintro ⟨hex, length, digits, rfl⟩
    have middle : ((tempPrefix ++ hex ++ tempSuffix).drop tempPrefix.length).take 32 = hex := by
      rw [List.append_assoc, List.drop_left, ← length, List.take_left]
    rw [middle]
    exact ⟨⟨length, digits⟩, rfl⟩

theorem managed_newTempPath (uuid : Uuid) : Managed (newTempPath uuid) :=
  ⟨uuid.hex, uuid.length, uuid.digits, rfl⟩

theorem not_managed_ledgerName : ¬ Managed ledgerName :=
  fun named => absurd (managed_iff.mpr named) (by decide)

theorem not_managed_lockName : ¬ Managed lockName :=
  fun named => absurd (managed_iff.mpr named) (by decide)

theorem matches_of_managed {name : Name} (named : Managed name) : tempNameMatches name = true := by
  rw [tempNameMatches, managed_iff.mpr named, Bool.true_or]

namespace Root
variable {root : Root} {name other : Name} {node : Node}

theorem lookup_put_ne (different : other ≠ name) :
    (root.put name node).lookup other = root.lookup other := by
  cases root with
  | directory entries => exact AList.lookup_insert_ne different
  | missing => rfl
  | notDirectory => rfl

theorem lookup_unlink_ne (different : other ≠ name) :
    (root.unlink name).lookup other = root.lookup other := by
  cases root with
  | directory entries => exact AList.lookup_erase_ne different
  | missing => rfl
  | notDirectory => rfl

@[simp] theorem lookup_unlink : (root.unlink name).lookup name = none := by
  cases root with
  | directory entries => exact AList.lookup_erase name entries
  | missing => rfl
  | notDirectory => rfl

theorem plain_put {bytes : List UInt8} :
    absentOrRegular ((root.put name (.regular bytes)).lookup name) = true := by
  cases root with
  | directory entries =>
      have found : (Root.put (.directory entries) name (.regular bytes)).lookup name =
          some (.regular bytes) := AList.lookup_insert entries
      rw [found]
      rfl
  | missing => rfl
  | notDirectory => rfl

theorem mem_names (found : root.lookup name = some node) : name ∈ root.names := by
  cases root with
  | directory entries =>
      have present : (entries.lookup name).isSome = true := by
        rw [show entries.lookup name = some node from found]
        rfl
      exact AList.mem_keys.mp (AList.lookup_isSome.mp present)
  | missing => cases found
  | notDirectory => cases found

end Root

/-- Between the two states of the directory nothing else has been made, changed or removed. -/
def Framed (before after : Root) : Prop :=
  ∀ name, after.lookup name = before.lookup name ∨ name = ledgerName ∨ name = lockName ∨
    (Managed name ∧ absentOrRegular (before.lookup name) = true ∧
      absentOrRegular (after.lookup name) = true)

theorem Framed.refl (root : Root) : Framed root root := fun _ => .inl rfl

theorem Framed.trans {r s t : Root} (first : Framed r s) (second : Framed s t) : Framed r t := by
  intro name
  rcases first name with same | ledger | lock | ⟨named, before, between⟩
  · rw [← same]
    exact second name
  · exact .inr (.inl ledger)
  · exact .inr (.inr (.inl lock))
  · rcases second name with same | ledger | lock | ⟨-, -, after⟩
    · rw [same]
      exact .inr (.inr (.inr ⟨named, before, between⟩))
    · exact .inr (.inl ledger)
    · exact .inr (.inr (.inl lock))
    · exact .inr (.inr (.inr ⟨named, before, after⟩))

/-- A change at one name that is the store's own. -/
theorem Framed.of_change {s t : Root} {name : Name}
    (rest : ∀ other, other ≠ name → t.lookup other = s.lookup other)
    (own : name = ledgerName ∨ name = lockName ∨ (Managed name ∧
      absentOrRegular (s.lookup name) = true ∧ absentOrRegular (t.lookup name) = true)) :
    Framed s t := by
  intro other
  by_cases same : other = name
  · subst same
    exact .inr own
  · exact .inl (rest other same)

/-- The sweep takes the name for a temporary file of the store, and it is none: there is a newline
after it, or it is a special file. -/
def Stray (root : Root) (name : Name) : Prop :=
  tempNameMatches name = true ∧ (root.lookup name = some .other ∨
    ¬ Managed name ∧ ∃ bytes, root.lookup name = some (.regular bytes))

def Tame (root : Root) : Prop := ∀ name, ¬ Stray root name

/-- No regular file has the name of a temporary file. -/
def NoTemp (root : Root) : Prop :=
  ∀ name bytes, Managed name → root.lookup name ≠ some (.regular bytes)

theorem Framed.tame {s t : Root} (framed : Framed s t) (tame : Tame s) : Tame t := by
  rintro name ⟨matched, stray⟩
  rcases framed name with same | rfl | rfl | ⟨named, -, plain⟩
  · rw [same] at stray
    exact tame name ⟨matched, stray⟩
  · exact absurd matched (by decide)
  · exact absurd matched (by decide)
  · rcases stray with special | ⟨unmanaged, -⟩
    · rw [special] at plain
      cases plain
    · exact unmanaged named

/-- Among what the sweep may unlink, a directory without strays has only temporary files. -/
theorem Tame.plain {s : Root} {name : Name} (tame : Tame s) (matched : tempNameMatches name = true)
    (notLink : s.lookup name ≠ some .symlink) (notDirectory : s.lookup name ≠ some .directory) :
    absentOrRegular (s.lookup name) = true ∧ (Managed name ∨ s.lookup name = none) := by
  cases found : s.lookup name with
  | none => exact ⟨rfl, .inr rfl⟩
  | some node =>
      cases node with
      | regular bytes =>
          refine ⟨rfl, .inl ?_⟩
          by_contra unmanaged
          exact tame name ⟨matched, .inr ⟨unmanaged, bytes, found⟩⟩
      | directory => exact absurd found notDirectory
      | symlink => exact absurd found notLink
      | other => exact absurd ⟨matched, .inl found⟩ (tame name)

/-! ### The operations -/

theorem idle_checkpoint (hook : FaultHook) (name : Checkpoint) : (checkpoint hook name).Idle :=
  Idle.done _

theorem idle_fsyncDirectory (fault : Raised) : (fsyncDirectory fault).Idle := Idle.read

theorem idle_require {condition : Prop} [Decidable condition] (otherwise : Raised) :
    (Prog.require condition otherwise : Op Unit).Idle := Idle.done _

theorem idle_throw (raised : Raised) : (throw raised : Op α).Idle := Idle.done _

theorem idle_exceptException {body : Op α} {handler : Raised → Op α} (idle : body.Idle)
    (rest : ∀ raised, (handler raised).Idle) : (exceptException body handler).Idle := by
  refine Idle.tryCatch idle fun raised => ?_
  cases raised with
  | exit => exact idle_throw _
  | store code detail => exact rest _
  | policy error => exact rest _
  | other code => exact rest _

/-- The directories have the same entries. -/
def Same (before after : Root) : Prop := ∀ name, after.lookup name = before.lookup name

theorem Same.framed {s t : Root} (same : Same s t) : Framed s t := fun name => .inl (same name)

theorem mkdir_keeps {G : Root → Root → Prop} (allowed : ∀ s t, Same s t → G s t) (fault : Raised)
    (s : Root) : (mkdir fault).Keeps G (Normally fun _ t => Same s t) s := by
  cases s with
  | missing =>
      have same : Same .missing (.directory ∅) := fun name => AList.lookup_empty name
      exact Keeps.operation (allowed _ _ same) fun _ _ => same
  | notDirectory =>
      have same : Same .notDirectory .notDirectory := fun _ => rfl
      exact Keeps.operation (allowed _ _ same) fun _ _ => same
  | directory entries =>
      have same : Same (.directory entries) (.directory entries) := fun _ => rfl
      exact Keeps.operation (allowed _ _ same) fun _ _ => same

/-- An operation on the lock file. -/
theorem openLock_keeps (s : Root) :
    openLock.Keeps Framed (Normally fun _ t => absentOrRegular (s.lookup lockName) = true ∧
      ∀ name, name ≠ lockName → t.lookup name = s.lookup name) s := by
  have rest : ∀ name, name ≠ lockName →
      (if s.lookup lockName = none then s.put lockName (.regular []) else s).lookup name =
        s.lookup name := by
    intro name different
    split
    · exact Root.lookup_put_ne different
    · rfl
  refine Keeps.operation (.of_change rest (.inr (.inl rfl))) fun _ opened => ⟨?_, rest⟩
  by_contra unusable
  rw [if_neg unusable] at opened
  cases opened

theorem seedLock_keeps (s : Root) :
    seedLock.Keeps Framed (Normally fun _ t => ∀ name, name ≠ lockName →
      t.lookup name = s.lookup name) s := by
  have rest : ∀ name, name ≠ lockName →
      (if s.lookup lockName = some (.regular []) then s.put lockName (.regular [0]) else s).lookup
        name = s.lookup name := by
    intro name different
    split
    · exact Root.lookup_put_ne different
    · rfl
  exact Keeps.operation (.of_change rest (.inr (.inl rfl))) fun _ _ => rest

/-- The body runs with a lock that is a regular file, and finds every other file as it was. -/
theorem locked_keeps {body : Op α} {normal : α → Root → Prop} {s : Root}
    (keeps : ∀ t, absentOrRegular (s.lookup lockName) = true →
      (∀ name, name ≠ lockName → t.lookup name = s.lookup name) →
      body.Keeps Framed (Normally normal) t) :
    (locked body).Keeps Framed (Normally normal) s := by
  refine Keeps.bind (Keeps.bind ((mkdir_keeps (fun _ _ => Same.framed) _ s).mono fun result r made _ done => ?_))
  have same := made () done
  refine Keeps.bind ((openLock_keeps r).mono fun result t opened _ done => ?_)
  obtain ⟨plain, rest⟩ := opened () done
  rw [same lockName] at plain
  refine (seedLock_keeps t).mono fun result u seeded _ done => ?_
  have others := seeded () done
  refine Keeps.bind ((idle_fsyncDirectory _).keeps Framed.refl fun result _ _ => ?_)
  refine Keeps.locked (keeps u plain fun name different => ?_)
  rw [others name different, rest name different, same name]

/-- What the publisher unlinks is its own, or is not there. -/
theorem Framed.of_unlink {s : Root} {name : Name}
    (shape : absentOrRegular (s.lookup name) = true)
    (own : Managed name ∨ s.lookup name = none) : Framed s (s.unlink name) := by
  intro other
  by_cases same : other = name
  · subst same
    rcases own with named | absent
    · refine .inr (.inr (.inr ⟨named, shape, ?_⟩))
      rw [Root.lookup_unlink]
      rfl
    · rw [absent, Root.lookup_unlink]
      exact .inl rfl
  · exact .inl (Root.lookup_unlink_ne same)

theorem unlink_keeps {s : Root} {name : Name} {missingOk : Bool} {fault : Raised}
    (shape : absentOrRegular (s.lookup name) = true) (own : Managed name ∨ s.lookup name = none) :
    (unlink name missingOk fault).Keeps Framed (Normally fun _ t => t.lookup name = none ∧
      ∀ other, other ≠ name → t.lookup other = s.lookup other) s := by
  have update : (if s.lookup name = some .directory then s else s.unlink name) = s.unlink name := by
    refine if_neg fun found => ?_
    rw [found] at shape
    cases shape
  refine Keeps.operation ?_ ?_
  · rw [update]
    exact .of_unlink shape own
  · rw [update]
    exact fun _ _ => ⟨Root.lookup_unlink, fun other => Root.lookup_unlink_ne⟩

/-- The sweep removes every regular file whose name is that of a temporary file, and it removes
only. -/
structure Swept (candidates : List Name) (s t : Root) : Prop where
  removed : ∀ name ∈ candidates, Managed name → ∀ bytes, t.lookup name ≠ some (.regular bytes)
  kept : ∀ name, t.lookup name = s.lookup name ∨ t.lookup name = none

theorem Swept.skip {rest : List Name} {s t : Root} {name : Name} (swept : Swept rest s t)
    (spared : Managed name → ∀ bytes, s.lookup name ≠ some (.regular bytes)) :
    Swept (name :: rest) s t := by
  refine ⟨fun other listed named bytes => ?_, swept.kept⟩
  rcases List.mem_cons.mp listed with rfl | later
  · rcases swept.kept other with same | gone
    · rw [same]
      exact spared named bytes
    · rw [gone]
      nofun
  · exact swept.removed other later named bytes

theorem sweep_keeps (candidates : List Name) (removedAny : Bool) {s : Root} (tame : Tame s) :
    (sweep candidates removedAny).Keeps Framed (Normally fun _ t => Swept candidates s t) s := by
  induction candidates generalizing removedAny s with
  | nil => exact Keeps.pure ⟨nofun, fun _ => .inl rfl⟩
  | cons name rest ih =>
      have skip (spared : Managed name → ∀ bytes, s.lookup name ≠ some (.regular bytes)) :
          (sweep rest removedAny).Keeps Framed (Normally fun _ t => Swept (name :: rest) s t) s :=
        (ih removedAny tame).mono fun _ _ met a done => (met a done).skip spared
      rw [sweep]
      split
      · rename_i matched
        refine Keeps.bind (Keeps.operation (.refl s) fun isSymlink found => ?_)
        obtain rfl := Except.ok.inj found
        split
        · rename_i link
          refine skip fun _ bytes regular => ?_
          rw [of_decide_eq_true link] at regular
          cases regular
        · rename_i notLink
          refine Keeps.bind (Keeps.operation (.refl s) fun isDir found => ?_)
          obtain rfl := Except.ok.inj found
          split
          · rename_i dir
            have found : s.lookup name = some .directory := of_decide_eq_true dir
            refine skip fun _ bytes regular => ?_
            rw [found] at regular
            cases regular
          · rename_i notDirectory
            obtain ⟨shape, own⟩ := tame.plain matched (by simpa using notLink)
              (by simpa using notDirectory)
            have removal : (unlink name false (cleanupFailed name)).Keeps Framed _ s :=
              (unlink_keeps shape own).reached Framed.refl Framed.trans
            refine Keeps.bind (removal.mono fun result t met a done => ?_)
            obtain ⟨framed, unlinked⟩ := met
            obtain ⟨gone, others⟩ := unlinked a done
            refine (ih true (framed.tame tame)).mono fun _ u met a done => ?_
            have swept := met a done
            have removed : Swept (name :: rest) t u := swept.skip fun _ bytes regular => by
              rw [gone] at regular
              cases regular
            refine ⟨removed.removed, fun other => ?_⟩
            by_cases same : other = name
            · subst same
              rcases removed.kept other with kept | absent
              · exact .inr (kept.trans gone)
              · exact .inr absent
            · rw [← others other same]
              exact removed.kept other
      · rename_i unmatched
        exact skip fun named => absurd (matches_of_managed named) unmatched

theorem cleanupOrphans_keeps {s : Root} (tame : Tame s) :
    cleanupOrphans.Keeps Framed (Normally fun _ t => NoTemp t ∧
      ∀ name, t.lookup name = s.lookup name ∨ t.lookup name = none) s := by
  refine Keeps.bind (Keeps.operation (.refl s) fun candidates found => ?_)
  obtain rfl := Except.ok.inj found
  refine Keeps.bind ((sweep_keeps s.names false tame).mono fun result t met removedAny done => ?_)
  have swept := met removedAny done
  have clean : NoTemp t := by
    intro name bytes named regular
    rcases swept.kept name with same | gone
    · rw [same] at regular
      exact swept.removed name (Root.mem_names regular) named bytes (same.trans regular)
    · rw [gone] at regular
      cases regular
  cases removedAny with
  | true => exact (idle_fsyncDirectory _).keeps Framed.refl fun _ _ _ => ⟨clean, swept.kept⟩
  | false => exact Keeps.pure ⟨clean, swept.kept⟩

/-! ### The write and the replacement -/

/-- The only temporary file, if there is one, is this call's own. -/
structure Own (temp : Name) (root : Root) : Prop where
  plain : absentOrRegular (root.lookup temp) = true
  only : ∀ name bytes, Managed name → root.lookup name = some (.regular bytes) → name = temp

theorem Own.of_noTemp {temp : Name} {root : Root} (clean : NoTemp root)
    (unused : root.lookup temp = none) : Own temp root :=
  ⟨by rw [unused]; rfl, fun name bytes named found => absurd found (clean name bytes named)⟩

/-- A change of the temporary file itself. -/
theorem Own.of_change {temp : Name} {s t : Root} (own : Own temp s)
    (plain : absentOrRegular (t.lookup temp) = true)
    (rest : ∀ other, other ≠ temp → t.lookup other = s.lookup other) : Own temp t := by
  refine ⟨plain, fun name bytes named found => ?_⟩
  by_contra different
  rw [rest name different] at found
  exact different (own.only name bytes named found)

theorem Own.noTemp {temp : Name} {root : Root} (own : Own temp root)
    (gone : root.lookup temp = none) : NoTemp root := by
  intro name bytes named found
  obtain rfl := own.only name bytes named found
  rw [gone] at found
  cases found

variable {temp : Name}

theorem writeTemp_keeps {s : Root} (named : Managed temp) (own : Own temp s)
    (bytes : List UInt8) : (writeTemp temp bytes).Keeps Framed (fun _ t => Own temp t) s := by
  have written : s.write temp bytes = s.put temp (.regular bytes) := if_pos own.plain
  have rest : ∀ other, other ≠ temp → (s.put temp (.regular bytes)).lookup other = s.lookup other :=
    fun other => Root.lookup_put_ne
  refine Keeps.always ?_ own ?_
  · rw [written]
    exact .of_change rest (.inr (.inr ⟨named, own.plain, Root.plain_put⟩))
  · rw [written]
    exact own.of_change Root.plain_put rest

theorem cleanupOwnTemp_keeps {s : Root} (named : Managed temp) (own : Own temp s)
    {raised : Raised} {normal : α → Root → Prop} :
    (do cleanupOwnTemp temp; throw raised : Op α).Keeps Framed (Normally normal) s :=
  Keeps.bind ((unlink_keeps own.plain (.inl named)).mono fun _ _ _ _ _ => Keeps.throw)

/-- An operation of the call that fails is cleaned up after. -/
theorem exceptException_keeps {body : Op α} {normal : α → Root → Prop} {raised : Raised} {s : Root}
    (named : Managed temp) (keeps : body.Keeps Framed (fun result t => Own temp t ∧
      ∀ a, result = .ok a → normal a t) s) :
    (exceptException body fun _ => do cleanupOwnTemp temp; throw raised).Keeps Framed
      (Normally normal) s := by
  refine Keeps.tryCatch (keeps.mono fun result t met => ⟨met.2, fun e _ => ?_⟩)
  cases e with
  | exit => exact Keeps.throw
  | store code detail => exact cleanupOwnTemp_keeps named met.1
  | policy error => exact cleanupOwnTemp_keeps named met.1
  | other code => exact cleanupOwnTemp_keeps named met.1

theorem writeAndFsyncTemp_keeps {links : Links} {hook : FaultHook} {payload : List UInt8} {s : Root}
    (named : Managed temp) (own : Own temp s) :
    (writeAndFsyncTemp links hook temp payload).Keeps Framed
      (Normally fun result t => result = temp ∧ Own temp t) s := by
  refine exceptException_keeps named ?_
  have failed : ∀ (e : Raised) (t : Root), Own temp t → Own temp t ∧
      ∀ a : Name, (Except.error e : Except Raised Name) = .ok a → a = temp ∧ Own temp t :=
    fun _ _ own => ⟨own, nofun⟩
  have still {t : Root} {p : Op Unit} (idle : p.Idle) (own : Own temp t) :
      p.Keeps Framed (fun _ t => Own temp t) t := idle.keeps Framed.refl fun _ => own
  refine Keeps.bind_always (still (idle_checkpoint _ _) own) (fun _ r own => ?_) failed
  refine Keeps.bind_always (still Idle.read own) (fun _ r own => ?_) failed
  refine Keeps.bind_always (writeTemp_keeps named own _) (fun _ r own => ?_) failed
  refine Keeps.bind_always (writeTemp_keeps named own _) (fun _ r own => ?_) failed
  refine Keeps.bind_always (still (idle_checkpoint _ _) own) (fun _ r own => ?_) failed
  refine Keeps.bind_always (writeTemp_keeps named own _) (fun _ r own => ?_) failed
  refine Keeps.bind_always (still (idle_fsyncDirectory _) own) (fun _ r own => ?_) failed
  refine Keeps.bind_always (still (idle_checkpoint _ _) own) (fun _ r own => ?_) failed
  refine ⟨own, ?_⟩
  rintro _ ⟨⟩
  exact ⟨rfl, own⟩

/-- The temporary file becomes the ledger. -/
theorem osReplace_keeps {s : Root} (named : Managed temp) (own : Own temp s) :
    (osReplace temp).Keeps Framed (fun result t => Own temp t ∧
      ∀ a, result = .ok a → NoTemp t) s := by
  have apart : temp ≠ ledgerName := by
    rintro rfl
    exact not_managed_ledgerName named
  have failed : ∀ t, Own temp t → Own temp t ∧
      ∀ a, (Except.error (.other none) : Except Raised Unit) = .ok a → NoTemp t :=
    fun _ own => ⟨own, nofun⟩
  by_cases impossible : s.lookup temp = none ∨ s.lookup ledgerName = some .directory
  · have replaced : s.replace temp = s := by
      unfold Root.replace
      split
      · rfl
      · rename_i node found
        refine if_pos (impossible.resolve_left fun absent => ?_)
        rw [absent] at found
        cases found
    refine Keeps.atomically ?_ ?_ (failed s own) ?_
    · rw [replaced]
      exact .refl s
    · rw [replaced, if_pos impossible]
      exact failed s own
    · rw [replaced]
      exact failed s own
  · obtain ⟨present, file⟩ := not_or.mp impossible
    obtain ⟨node, found⟩ := Option.ne_none_iff_exists'.mp present
    have replaced : s.replace temp = (s.unlink temp).put ledgerName node := by
      rw [Root.replace, found]
      exact if_neg file
    have gone : ((s.unlink temp).put ledgerName node).lookup temp = none := by
      rw [Root.lookup_put_ne apart, Root.lookup_unlink]
    have swapped : Own temp ((s.unlink temp).put ledgerName node) := by
      refine ⟨by rw [gone]; rfl, fun name bytes named' regular => ?_⟩
      have other : name ≠ ledgerName := by
        rintro rfl
        exact not_managed_ledgerName named'
      by_contra different
      rw [Root.lookup_put_ne other, Root.lookup_unlink_ne different] at regular
      exact different (own.only name bytes named' regular)
    refine Keeps.atomically ?_ ?_ (failed s own) ?_
    · rw [replaced]
      exact (Framed.of_unlink own.plain (.inl named)).trans
        (.of_change (fun _ => Root.lookup_put_ne) (.inl rfl))
    · rw [replaced]
      exact ⟨swapped, fun _ _ => swapped.noTemp gone⟩
    · rw [replaced]
      exact failed _ swapped

theorem replaceLedger_keeps {hook : FaultHook} {s : Root} (named : Managed temp)
    (own : Own temp s) :
    (replaceLedger hook temp).Keeps Framed (Normally fun _ t => NoTemp t) s := by
  refine exceptException_keeps named ?_
  have still : (checkpoint hook .beforeReplace).Keeps Framed (fun _ t => Own temp t) s :=
    (idle_checkpoint _ _).keeps Framed.refl fun _ => own
  exact Keeps.bind_always still (fun _ _ own => osReplace_keeps named own)
    fun _ _ own => ⟨own, nofun⟩

/-! ### The calls -/

variable {D : Type} [Sha256 D] [DigestText D] [DecidableEq D] {codec : Codec D} {links : Links}

theorem idle_reconstruct : (reconstruct codec links).Idle := by
  refine Idle.bind (Idle.bind Idle.read fun _ => ?_) fun _ => Idle.done _
  exact Idle.bind (idle_require _) fun _ => Idle.read

theorem idle_readAuthoritativeAfterCommit (hook : FaultHook) :
    (readAuthoritativeAfterCommit links hook).Idle := by
  refine Idle.bind (idle_checkpoint _ _) fun _ => idle_exceptException ?_ fun _ => idle_throw _
  exact Idle.bind (idle_checkpoint _ _) fun _ => Idle.read

theorem idle_verifyPostWrite {oldLedger updated verified : AssumptionPolicyLedgerV3 D}
    {intendedBytes : List UInt8} {result : AssumptionPolicyActivationResult D} :
    (verifyPostWrite codec oldLedger updated verified intendedBytes result).Idle := by
  refine Idle.bind (idle_require _) fun _ => Idle.bind (idle_require _) fun _ =>
    Idle.bind (idle_require _) fun _ => Idle.bind (idle_require _) fun _ =>
    Idle.bind (idle_require _) fun _ => Idle.bind (idle_require _) fun _ => ?_
  split
  · exact Idle.bind (idle_require _) fun _ => Idle.bind (idle_require _) fun _ =>
      Idle.bind (idle_require _) fun _ => Idle.bind (idle_require _) fun _ => idle_require _
  · exact idle_throw _
  · exact idle_throw _

/-- A failure after the commit point is reported, and nothing is rolled back. -/
theorem idle_uncertain {code : String} {detail : Option Name} :
    (if code = "ASSUMPTION_POLICY_PUBLICATION_OUTCOME_UNCERTAIN" then throw (.store code detail)
      else throw (outcomeUncertain (some (text code))) : Op Unit).Idle := by
  split
  · exact idle_throw _
  · exact idle_throw _

theorem idle_afterCreate (hook : FaultHook) (intendedBytes : List UInt8) :
    (afterCreate links hook intendedBytes).Idle := by
  refine idle_exceptException ?_ fun raised => ?_
  · refine Idle.bind (idle_checkpoint _ _) fun _ => Idle.bind (idle_checkpoint _ _) fun _ =>
      Idle.bind (idle_fsyncDirectory _) fun _ => ?_
    exact Idle.bind (idle_readAuthoritativeAfterCommit _) fun _ => idle_require _
  · cases raised with
    | store code detail => exact idle_uncertain
    | policy error => exact idle_throw _
    | other code => exact idle_throw _
    | exit => exact idle_throw _

theorem idle_afterCommit (hook : FaultHook) {oldLedger updated : AssumptionPolicyLedgerV3 D}
    {result : AssumptionPolicyActivationResult D} :
    (afterCommit codec links hook oldLedger updated result).Idle := by
  refine idle_exceptException ?_ fun raised => ?_
  · refine Idle.bind (idle_checkpoint _ _) fun _ => Idle.bind (idle_checkpoint _ _) fun _ =>
      Idle.bind (idle_fsyncDirectory _) fun _ => ?_
    refine Idle.bind (idle_readAuthoritativeAfterCommit _) fun _ => ?_
    exact Idle.bind (Idle.done _) fun _ => idle_verifyPostWrite
  · cases raised with
    | store code detail => exact idle_uncertain
    | policy error => exact idle_throw _
    | other code => exact idle_throw _
    | exit => exact idle_throw _

/-- What a call finds under the lock, and what it leaves. -/
theorem Tame.of_lock {s t : Root} (spared : absentOrRegular (s.lookup lockName) = true → Tame s)
    (plain : absentOrRegular (s.lookup lockName) = true)
    (rest : ∀ name, name ≠ lockName → t.lookup name = s.lookup name) : Tame t :=
  Framed.tame (.of_change rest (.inr (.inl rfl))) (spared plain)

theorem newTempPath_ne_lockName (uuid : Uuid) : newTempPath uuid ≠ lockName := by
  intro same
  exact not_managed_lockName (same ▸ managed_newTempPath uuid)

/-- The write of a payload, up to the commit point. -/
theorem publication_keeps {hook : FaultHook} {uuid : Uuid} {payload : List UInt8} {s : Root}
    {rest : Op Unit} (clean : NoTemp s) (unused : s.lookup (newTempPath uuid) = none)
    (idle : rest.Idle) :
    (do let temp ← writeAndFsyncTemp links hook (newTempPath uuid) payload
        replaceLedger hook temp
        rest : Op Unit).Keeps Framed (Normally fun _ t => NoTemp t) s := by
  have named := managed_newTempPath uuid
  refine Keeps.bind ((writeAndFsyncTemp_keeps named (.of_noTemp clean unused)).mono
    fun result t met temp done => ?_)
  obtain ⟨rfl, own⟩ := met temp done
  refine Keeps.bind ((replaceLedger_keeps named own).mono fun result u met _ done => ?_)
  exact idle.keeps Framed.refl fun _ _ _ => met _ done

/-- The sweep that starts every call. -/
theorem swept_keeps {body : Op α} {normal : α → Root → Prop} {s : Root} (tame : Tame s)
    (keeps : ∀ t, NoTemp t → (∀ name, s.lookup name = none → t.lookup name = none) →
      body.Keeps Framed (Normally normal) t) :
    (do cleanupOrphans; body : Op α).Keeps Framed (Normally normal) s := by
  refine Keeps.bind ((cleanupOrphans_keeps tame).mono fun result t met _ done => ?_)
  obtain ⟨clean, kept⟩ := met _ done
  refine keeps t clean fun name absent => ?_
  rcases kept name with same | gone
  · exact same.trans absent
  · exact gone

theorem create_keeps {hook : FaultHook} {uuid : Uuid} {s : Root}
    (spared : absentOrRegular (s.lookup lockName) = true → Tame s)
    (unused : s.lookup (newTempPath uuid) = none) :
    (create codec links hook uuid).Keeps Framed (Normally fun _ t => NoTemp t) s := by
  refine Keeps.bind (Keeps.operation (.refl s) fun _ _ => ?_)
  refine locked_keeps fun t plain rest => ?_
  have absent := (rest _ (newTempPath_ne_lockName uuid)).trans unused
  have tame := Tame.of_lock spared plain rest
  refine Keeps.bind (Keeps.bind ((mkdir_keeps (fun _ _ => Same.framed) _ t).mono fun result u made _ done => ?_))
  have same := made () done
  refine (idle_fsyncDirectory _).keeps Framed.refl fun _ _ _ => ?_
  have tame' : Tame u := same.framed.tame tame
  refine swept_keeps tame' fun v clean kept => ?_
  have gone := kept _ ((same _).trans absent)
  have initialized : (refuseInitialized codec links).Idle := by
    refine Idle.bind Idle.read fun found => ?_
    cases found with
    | true => exact Idle.bind idle_reconstruct fun _ => idle_throw _
    | false => exact Idle.done _
  refine Keeps.bind (initialized.keeps Framed.refl fun _ _ _ => ?_)
  exact publication_keeps clean gone (idle_afterCreate hook _)

theorem openStore_keeps {s : Root} (spared : absentOrRegular (s.lookup lockName) = true → Tame s) :
    (openStore codec links).Keeps Framed (Normally fun _ t => NoTemp t) s := by
  refine Keeps.bind (Keeps.operation (.refl s) fun _ _ => ?_)
  refine locked_keeps fun t plain rest => ?_
  refine swept_keeps (Tame.of_lock spared plain rest) fun u clean _ => ?_
  have still : (do let _ ← reconstruct codec links; return () : Op Unit).Idle :=
    Idle.bind idle_reconstruct fun _ => Idle.done _
  exact still.keeps Framed.refl fun _ _ _ => clean

theorem publish_keeps {hook : FaultHook} {uuid : Uuid} {s : Root}
    {candidate : AssumptionPolicyLedgerEntryV3 D} {expectedState : ExpectedPolicyLedgerStateV3 D}
    (spared : absentOrRegular (s.lookup lockName) = true → Tame s)
    (unused : s.lookup (newTempPath uuid) = none) :
    (publish codec links hook uuid candidate expectedState).Keeps Framed
      (Normally fun _ t => NoTemp t) s := by
  refine Keeps.bind (Keeps.operation (.refl s) fun _ _ => ?_)
  refine locked_keeps fun t plain rest => ?_
  have absent := (rest _ (newTempPath_ne_lockName uuid)).trans unused
  refine swept_keeps (Tame.of_lock spared plain rest) fun u clean kept => ?_
  have gone := kept _ absent
  refine Keeps.bind (idle_reconstruct.keeps Framed.refl fun _ ledger _ => ?_)
  refine Keeps.bind ((Idle.done _).keeps Framed.refl fun _ appended _ => ?_)
  obtain ⟨updated, result⟩ := appended
  have committed : (commit codec links hook uuid ledger updated result).Keeps Framed
      (Normally fun _ t => NoTemp t) u := by
    unfold commit
    split
    · exact publication_keeps clean gone (idle_afterCommit hook)
    · exact Keeps.pure clean
  exact Keeps.bind (committed.mono fun _ t met _ done => Keeps.pure (met _ done))

/-- A call that cannot take the lock changes nothing and does not return normally. -/
theorem locked_refused {body : Op α} {s : Root}
    (unusable : absentOrRegular (s.lookup lockName) = false) :
    (locked body).Keeps Same (Normally fun _ _ => False) s := by
  refine Keeps.bind (Keeps.bind ((mkdir_keeps (fun _ _ same => same) _ s).mono
    fun result r made _ done => ?_))
  have same := made () done
  rw [← same lockName] at unusable
  have present : r.lookup lockName ≠ none := by
    intro absent
    rw [absent] at unusable
    cases unusable
  have unchanged : (if r.lookup lockName = none then r.put lockName (.regular []) else r) = r :=
    if_neg present
  refine Keeps.bind (Keeps.operation ?_ fun _ opened => ?_)
  · rw [unchanged]
    exact fun _ => rfl
  · rw [if_neg (by rw [unusable]; decide)] at opened
    cases opened

/-- With a lock that can be taken, the sweep meets no stray name. -/
def Spared (root : Root) : Prop := absentOrRegular (root.lookup lockName) = true → Tame root

theorem calls_keep {s : Root} {p : Op Unit} (tame : Tame s) (made : Calls codec links s p) :
    p.Keeps Framed (Normally fun _ t => NoTemp t) s := by
  cases made with
  | create hook uuid unused => exact create_keeps (fun _ => tame) unused
  | openStore => exact openStore_keeps fun _ => tame
  | publish hook uuid unused candidate expectedState =>
      exact (publish_keeps (fun _ => tame) unused).discard

theorem calls_refused {s : Root} {p : Op Unit}
    (unusable : absentOrRegular (s.lookup lockName) = false) (made : Calls codec links s p) :
    p.Keeps Same (Normally fun _ _ => False) s := by
  cases made with
  | create hook uuid unused =>
      exact Keeps.bind (Keeps.operation (fun _ => rfl) fun _ _ => locked_refused unusable)
  | openStore =>
      exact Keeps.bind (Keeps.operation (fun _ => rfl) fun _ _ => locked_refused unusable)
  | publish hook uuid unused candidate expectedState =>
      refine Keeps.discard (Keeps.bind (Keeps.operation (fun _ => rfl) fun _ _ => ?_))
      exact (locked_refused unusable).mono fun _ _ met a done => (met a done).elim

/-- Every state that calls go through. -/
theorem session_framed {start s : Root} {task : Option (Op Unit)} (spared : Spared start)
    (session : Session (Calls codec links) start task s) :
    Framed start s ∧ ∀ u, task = some (.done (.ok u)) → NoTemp s := by
  cases usable : absentOrRegular (start.lookup lockName) with
  | true =>
      have invariant : (Framed start s ∧ Tame s) ∧
          ∀ p, task = some p → p.Keeps Framed (Normally fun _ t => NoTemp t) s :=
        session.invariant Framed (fun s => Framed start s ∧ Tame s) Framed.refl
          (fun s t inv step => ⟨inv.1.trans step, step.tame inv.2⟩)
          (fun s p inv made => calls_keep inv.2 made) ⟨.refl start, spared usable⟩
      exact ⟨invariant.1.1, fun u returned => invariant.2 _ returned u rfl⟩
  | false =>
      have invariant : Same start s ∧
          ∀ p, task = some p → p.Keeps Same (Normally fun _ _ => False) s :=
        session.invariant Same (Same start) (fun s name => rfl)
          (fun s t first second name => (second name).trans (first name))
          (fun s p same made => calls_refused (by rw [same lockName, usable]) made) fun _ => rfl
      exact ⟨invariant.1.framed, fun u returned => (invariant.2 _ returned u rfl).elim⟩

/-! ### Strays -/

theorem exec_sweep_skip {name : Name} {rest : List Name} {removedAny : Bool} {s : Root}
    (spared : tempNameMatches name = true → s.lookup name = some .symlink ∨
      s.lookup name = some .directory) :
    (sweep (name :: rest) removedAny).exec s = (sweep rest removedAny).exec s := by
  rw [sweep]
  split
  · rename_i matched
    rw [exec_ask]
    by_cases link : s.lookup name = some .symlink
    · simp [link]
    · have dir := (spared matched).resolve_left link
      simp only [link, decide_false, Bool.false_eq_true, if_false]
      rw [exec_ask]
      simp [dir]
  · rfl

theorem exec_sweep_take {name : Name} {rest : List Name} {removedAny : Bool} {s : Root}
    (matched : tempNameMatches name = true) (link : s.lookup name ≠ some .symlink)
    (dir : s.lookup name ≠ some .directory) (present : s.lookup name ≠ none) :
    (sweep (name :: rest) removedAny).exec s = (sweep rest true).exec (s.unlink name) := by
  have unlinked : (unlink name false (cleanupFailed name)).exec s = (.ok (), s.unlink name) := by
    obtain ⟨node, found⟩ := Option.ne_none_iff_exists'.mp present
    rw [unlink, exec_atomically, if_neg dir, found]
    cases node with
    | directory => exact absurd found dir
    | regular bytes => rfl
    | symlink => rfl
    | other => rfl
  rw [sweep, if_pos matched, exec_ask]
  simp only [link, decide_false, Bool.false_eq_true, if_false]
  rw [exec_ask]
  simp only [dir, decide_false, Bool.false_eq_true, if_false]
  exact exec_bind_ok _ unlinked

/-- A sweep without faults unlinks each candidate whose name matches, but for links and
directories. -/
theorem exec_sweep (candidates : List Name) (removedAny : Bool) {s : Root}
    (present : ∀ name ∈ candidates, s.lookup name ≠ none) (distinct : candidates.Nodup) :
    ∃ removed t, (sweep candidates removedAny).exec s = (.ok removed, t) ∧
      (∀ name ∈ candidates, tempNameMatches name = true → s.lookup name ≠ some .symlink →
        s.lookup name ≠ some .directory → t.lookup name = none) ∧
      ∀ name, name ∉ candidates → t.lookup name = s.lookup name := by
  induction candidates generalizing removedAny s with
  | nil => exact ⟨removedAny, s, rfl, nofun, fun _ _ => rfl⟩
  | cons name rest ih =>
      obtain ⟨new, distinct⟩ := List.nodup_cons.mp distinct
      have later : ∀ other ∈ rest, other ≠ name ∧ s.lookup other ≠ none := by
        intro other listed
        refine ⟨?_, present other (List.mem_cons_of_mem _ listed)⟩
        rintro rfl
        exact new listed
      by_cases taken : tempNameMatches name = true ∧ s.lookup name ≠ some .symlink ∧
          s.lookup name ≠ some .directory
      · obtain ⟨matched, link, dir⟩ := taken
        have unlinked : ∀ other, other ≠ name → (s.unlink name).lookup other = s.lookup other :=
          fun other => Root.lookup_unlink_ne
        obtain ⟨removed, t, ran, gone, kept⟩ := ih true (s := s.unlink name)
          (fun other listed => by
            rw [unlinked other (later other listed).1]
            exact (later other listed).2) distinct
        refine ⟨removed, t, ?_, fun other listed matched' link' dir' => ?_, fun other out => ?_⟩
        · rw [exec_sweep_take matched link dir (present name List.mem_cons_self), ran]
        · rcases List.mem_cons.mp listed with rfl | inRest
          · rw [kept other new, Root.lookup_unlink]
          · rw [← unlinked other (later other inRest).1] at link' dir'
            exact gone other inRest matched' link' dir'
        · obtain ⟨apart, out⟩ := not_or.mp fun listed => out (List.mem_cons.mpr listed)
          rw [kept other out, unlinked other apart]
      · obtain ⟨removed, t, ran, gone, kept⟩ := ih removedAny
          (fun other listed => (later other listed).2) distinct
        have skipped : (sweep (name :: rest) removedAny).exec s = (.ok removed, t) := by
          rw [exec_sweep_skip, ran]
          intro matched
          by_contra file
          exact taken ⟨matched, not_or.mp file⟩
        refine ⟨removed, t, skipped, fun other listed matched link dir => ?_, fun other out => ?_⟩
        · rcases List.mem_cons.mp listed with rfl | inRest
          · exact absurd ⟨matched, link, dir⟩ taken
          · exact gone other inRest matched link dir
        · exact kept other fun listed => out (List.mem_cons_of_mem _ listed)

theorem Root.names_spec (root : Root) :
    root.names.Nodup ∧ ∀ name ∈ root.names, root.lookup name ≠ none := by
  cases root with
  | missing => exact ⟨List.nodup_nil, nofun⟩
  | notDirectory => exact ⟨List.nodup_nil, nofun⟩
  | directory entries =>
      refine ⟨entries.keys_nodup, fun name listed absent => ?_⟩
      have absent' : entries.lookup name = none := absent
      exact AList.lookup_eq_none.mp absent' (AList.mem_keys.mpr listed)

theorem exec_cleanupOrphans (s : Root) : ∃ t, cleanupOrphans.exec s = (.ok (), t) ∧
    ∀ name, tempNameMatches name = true → s.lookup name ≠ none → s.lookup name ≠ some .symlink →
      s.lookup name ≠ some .directory → t.lookup name = none := by
  obtain ⟨distinct, present⟩ := s.names_spec
  obtain ⟨removed, t, ran, gone, -⟩ := exec_sweep s.names false present distinct
  refine ⟨t, ?_, fun name matched there link dir => ?_⟩
  · rw [cleanupOrphans, exec_ask, exec_bind_ok _ ran]
    cases removed with
    | true => rfl
    | false => rfl
  · obtain ⟨node, found⟩ := Option.ne_none_iff_exists'.mp there
    exact gone name (Root.mem_names found) matched link dir

theorem exec_openLockFileStrict {entries : Directory}
    (usable : absentOrRegular (entries.lookup lockName) = true) :
    ∃ t, openLockFileStrict.exec (.directory entries) = (.ok (), t) ∧
      ∀ name, name ≠ lockName → t.lookup name = entries.lookup name := by
  have opened : openLock.exec (.directory entries) =
      (.ok (), (openLock.exec (.directory entries)).2) := by
    rw [openLock, exec_atomically]
    exact congrArg (Prod.mk · _) (if_pos usable)
  obtain ⟨-, kept⟩ := (openLock_keeps (.directory entries)).exec () (congrArg Prod.fst opened)
  generalize (openLock.exec (.directory entries)).2 = s at opened kept
  have seeded := (seedLock_keeps s).exec () rfl
  refine ⟨(seedLock.exec s).2, ?_, fun name apart => (seeded name apart).trans (kept name apart)⟩
  have made : (mkdir (failure "ASSUMPTION_POLICY_STORE_LOCK_FAILED")).exec (.directory entries) =
      (.ok (), .directory entries) := rfl
  rw [openLockFileStrict, exec_bind_ok _ made, exec_bind_ok _ opened]
  rfl

/-- An `open` that nothing disturbs unlinks a stray. -/
theorem exec_openStore_stray {s : Root} {name : Name}
    (usable : absentOrRegular (s.lookup lockName) = true) (stray : Stray s name) :
    ((openStore codec links).exec s).2.lookup name = none := by
  obtain ⟨matched, shape⟩ := stray
  have file : s.lookup name ≠ none ∧ s.lookup name ≠ some .symlink ∧
      s.lookup name ≠ some .directory := by
    rcases shape with special | ⟨-, bytes, regular⟩
    · simp [special]
    · simp [regular]
  have apart : name ≠ lockName := by
    rintro rfl
    exact absurd matched (by decide)
  cases s with
  | missing => exact absurd rfl file.1
  | notDirectory => exact absurd rfl file.1
  | directory entries =>
      obtain ⟨t, opened, same⟩ := exec_openLockFileStrict usable
      obtain ⟨u, cleaned, gone⟩ := exec_cleanupOrphans t
      have existing : requireExistingRoot.exec (.directory entries) =
          (.ok (), .directory entries) := rfl
      have synced : (fsyncDirectory (failure "ASSUMPTION_POLICY_STORE_LOCK_FAILED")).exec t =
          (.ok (), t) := rfl
      have rest : (do let _ ← reconstruct codec links; return () : Op Unit).Idle :=
        Idle.bind idle_reconstruct fun _ => Idle.done _
      rw [openStore, exec_bind_ok _ existing, locked, exec_bind_ok _ opened,
        exec_bind_ok _ synced, exec_locked, exec_bind_ok _ cleaned, rest.exec u]
      have found := same name apart
      exact gone name matched (found ▸ file.1) (found ▸ file.2.1) (found ▸ file.2.2)

/-- Whatever faults, and wherever calls are left: the frame holds in every state, and a call that
returns leaves no temporary file, exactly when the sweep meets no stray name. -/
theorem store_frame (codec : Codec D) (links : Links) (start : Root) :
    (∀ task s, Session (Calls codec links) start task s →
      Framed start s ∧ ∀ u, task = some (.done (.ok u)) → NoTemp s) ↔ Spared start := by
  constructor
  · rintro frames usable name stray
    have session : Session (Calls codec links) start (some (openStore codec links)) start :=
      .call .begin .openStore
    obtain ⟨framed, -⟩ := frames _ _ session.exec
    have gone : ((openStore codec links).exec start).2.lookup name = none :=
      exec_openStore_stray usable stray
    obtain ⟨matched, shape⟩ := stray
    rcases framed name with same | rfl | rfl | ⟨named, plain, -⟩
    · rw [gone] at same
      rw [← same] at shape
      simp at shape
    · exact absurd matched (by decide)
    · exact absurd matched (by decide)
    · rcases shape with special | ⟨unmanaged, -⟩
      · rw [special] at plain
        cases plain
      · exact unmanaged named
  · exact fun spared task s session => session_framed spared session

/-! A file of another program, whose name ends in a newline. -/
section Sample

def strayName : Name := tempPrefix ++ List.replicate 32 48 ++ tempSuffix ++ [10]

def strayStore : Root := .directory ((∅ : Directory).insert strayName (.regular [1]))

def sampleCodec : Codec (List Nat) where
  canonicalBytes := fun _ => []
  parseLedgerV3 := fun _ => .error (failure "ASSUMPTION_POLICY_STORED_BYTES_INVALID")

def sampleLinks : Links where
  leads := fun _ _ => false
  contents := fun _ _ => none

theorem strayName_stray : Stray strayStore strayName := by
  refine ⟨by decide, .inr ⟨fun named => absurd (managed_iff.mpr named) (by decide), [1], ?_⟩⟩
  exact AList.lookup_insert _

/-- `open` removes it, though there is no ledger to open. -/
theorem store_frame_broken : ¬ Managed strayName ∧ strayStore.lookup strayName = some (.regular [1]) ∧
    ∃ task s, Session (Calls sampleCodec sampleLinks) strayStore task s ∧
      s.lookup strayName = none ∧ ¬ Framed strayStore s := by
  have unmanaged : ¬ Managed strayName := fun named => absurd (managed_iff.mpr named) (by decide)
  have found : strayStore.lookup strayName = some (.regular [1]) := AList.lookup_insert _
  have session : Session (Calls sampleCodec sampleLinks) strayStore
      (some (openStore sampleCodec sampleLinks)) strayStore := .call .begin .openStore
  have gone : ((openStore sampleCodec sampleLinks).exec strayStore).2.lookup strayName = none :=
    exec_openStore_stray rfl strayName_stray
  refine ⟨unmanaged, found, _, _, session.exec, gone, fun framed => ?_⟩
  rcases framed strayName with same | ledger | lock | ⟨named, -⟩
  · rw [gone, found] at same
    cases same
  · exact absurd ledger (by decide)
  · exact absurd lock (by decide)
  · exact unmanaged named

end Sample
end CsdFoundry.Policy.Store
