import CsdFoundry.Storage.Roles
import CsdFoundry.StableSort
import CsdFoundry.Synthesis.PublicationStore

/-! Who published an object. A claim names its owner and is never replaced, and an owner that was
told of somebody else's object does not claim it later. -/
namespace CsdFoundry.Synthesis
open Storage Storage.Roles

variable {B D : Type} [DecidableEq D] [Blob B D] {ι : Type} {owner : ι → D} {i j : ι}

inductive Answer (D : Type) where
  | claimed (kind : String) (result : PublicationResult D)
  | stored (result : PublicationResult D)
  | recovered (report : RecoveryReport)

/-- The calls of a run, under the digest it claims with. -/
inductive Calls [DecidableEq B] [DigestText D] (owner : ι → D) (i : ι) : PublicationProg B D (Answer D) → Prop where
  | claim (payload : B) (expected : D) (kind : String) :
      Calls owner i ((claimAndPublishBytes payload expected kind (owner i)).map (.claimed kind))
  | publish (payload : B) (expected : Option D) :
      Calls owner i ((publishBytes payload expected).map .stored)
  | recover : Calls owner i (recover.map .recovered)

/-- No other run claims with this digest. -/
def Alone (owner : ι → D) (i : ι) : Prop := ∀ j, owner j = owner i → j = i

/-- Objects are stored under their digest, every claim names an owner, and names of temporaries
were handed out. -/
structure WellKept (s : PublicationStore B D) : Prop where
  addressed : ∀ digest bytes, s.objects digest = some bytes → Blob.sha256 bytes = digest
  claims : ∀ kind digest bytes, s.claims kind digest = some bytes →
    ∃ o : D, bytes = Blob.claimBytes o
  handed : ∀ entry ∈ s.temporaries, entry.1.uuid < s.uuids

/-- What a run with an owner digest does to the store: it adds objects and its own claims. -/
structure Adds (agent : D) (s t : PublicationStore B D) : Prop where
  objects : ∀ {digest bytes}, s.objects digest = some bytes → t.objects digest = some bytes
  claims : ∀ {kind digest bytes}, s.claims kind digest = some bytes →
    t.claims kind digest = some bytes
  own : ∀ {kind digest bytes}, t.claims kind digest = some bytes →
    s.claims kind digest = some bytes ∨ bytes = Blob.claimBytes agent
  temporaries : ∀ {temporary bytes}, temporary.uuid < s.uuids →
    t.temporaries.lookup temporary = some bytes → s.temporaries.lookup temporary = some bytes
  uuids : s.uuids ≤ t.uuids

def Present (digest : D) (s : PublicationStore B D) : Prop := ∃ bytes, s.objects digest = some bytes

def Claimed (kind : String) (digest o : D) (s : PublicationStore B D) : Prop :=
  s.claims kind digest = some (Blob.claimBytes o)

/-- What the disposition says. -/
def Told (owner : ι → D) (i : ι) (kind : String) (result : PublicationResult D)
    (s : PublicationStore B D) : Prop :=
  Present result.digest s ∧
    (result.disposition = .published → Claimed kind result.digest (owner i) s) ∧
    (result.disposition = .existingIdentical → Alone owner i →
      ¬ Claimed kind result.digest (owner i) s)

omit [DecidableEq D] in
theorem claimBytes_injective {o o' : D}
    (same : (Blob.claimBytes o : B) = Blob.claimBytes o') : o = o' := by
  have read := congrArg (Blob.claimOwner (D := D)) same
  rw [Blob.claimOwner_claimBytes, Blob.claimOwner_claimBytes] at read
  exact Option.some.inj read

theorem Adds.refl (agent : D) (s : PublicationStore B D) : Adds agent s s :=
  ⟨id, id, .inl, fun _ h => h, le_refl _⟩

theorem Adds.present {agent digest : D} {s t : PublicationStore B D} (adds : Adds agent s t)
    (present : Present digest s) : Present digest t := by
  obtain ⟨bytes, found⟩ := present
  exact ⟨bytes, adds.objects found⟩

theorem Adds.told {kind : String} {result : PublicationResult D} {s t : PublicationStore B D}
    (adds : Adds (owner j) s t) (different : j ≠ i) (told : Told owner i kind result s) :
    Told owner i kind result t := by
  obtain ⟨present, published, existing⟩ := told
  refine ⟨adds.present present, fun h => adds.claims (published h), ?_⟩
  intro lost alone claimed
  rcases adds.own claimed with before | mine
  · exact existing lost alone before
  · exact different (alone j (claimBytes_injective mine).symm)

def roles (B : Type) [Blob B D] (owner : ι → D) :
    Roles ι (PublicationStore B D) PublicationError (Answer D) where
  inv := WellKept
  does i := Adds (owner i)
  told i result s := match result with
    | .ok (.claimed kind result) => Told owner i kind result s
    | _ => True
  told_others := by
    intro i j result s t different _ adds told
    rcases result with e | (⟨kind, result⟩ | result | report)
    · trivial
    · exact Adds.told adds different told
    · trivial
    · trivial

/-! ### What one operation does -/

omit [Blob B D] in
theorem lookup_unlink {temporary other : Temporary D} {s : PublicationStore B D}
    (found : (s.unlink other).temporaries.lookup temporary = some bytes) :
    s.temporaries.lookup temporary = some bytes :=
  StableSort.lookup_of_filter (p := fun name => decide (name ≠ other)) found

theorem unlink_adds (agent : D) (temporary : Temporary D) (s : PublicationStore B D) :
    Adds agent s (s.unlink temporary) :=
  ⟨id, id, .inl, fun _ => lookup_unlink, le_refl _⟩

theorem unlink_kept (temporary : Temporary D) {s : PublicationStore B D} (valid : WellKept s) :
    WellKept (s.unlink temporary) :=
  ⟨valid.addressed, valid.claims, fun entry member => valid.handed entry (List.mem_of_mem_filter member)⟩

/-- A temporary holds what its writer wrote, until it is removed. -/
def Holding (temporary : Temporary D) (bytes : B) (s : PublicationStore B D) : Prop :=
  temporary.uuid < s.uuids ∧ ∀ found, s.temporaries.lookup temporary = some found → found = bytes

theorem Adds.holding {agent : D} {temporary : Temporary D} {bytes : B} {s t : PublicationStore B D}
    (adds : Adds agent s t) (holding : Holding temporary bytes s) : Holding temporary bytes t :=
  ⟨holding.1.trans_le adds.uuids, fun found h => holding.2 found (adds.temporaries holding.1 h)⟩

theorem create_adds (agent : D) (claim : Bool) (digest : D) (bytes : B)
    (s : PublicationStore B D) : Adds agent s (s.create claim digest bytes) := by
  refine ⟨id, id, .inl, ?_, Nat.le_succ _⟩
  intro temporary found older present
  have different : (temporary == ⟨claim, digest, s.uuids⟩) = false := by
    rw [beq_eq_false_iff_ne]
    rintro rfl
    exact absurd older (Nat.lt_irrefl _)
  simpa only [PublicationStore.create, List.lookup_cons, different] using present

omit [DecidableEq D] in
theorem create_kept (claim : Bool) (digest : D) (bytes : B) {s : PublicationStore B D}
    (valid : WellKept s) : WellKept (s.create claim digest bytes) := by
  refine ⟨valid.addressed, valid.claims, ?_⟩
  intro entry member
  rcases List.mem_cons.mp member with rfl | older
  · exact Nat.lt_succ_self _
  · exact (valid.handed entry older).trans (Nat.lt_succ_self _)

omit [Blob B D] in
theorem create_holding (claim : Bool) (digest : D) (bytes : B) (s : PublicationStore B D) :
    Holding ⟨claim, digest, s.uuids⟩ bytes (s.create claim digest bytes) := by
  refine ⟨Nat.lt_succ_self _, ?_⟩
  intro found present
  simp only [PublicationStore.create, List.lookup_cons_self, Option.some.injEq] at present
  exact present.symm

theorem installObject_adds (agent digest : D) (bytes : B) {s : PublicationStore B D}
    (absent : s.objects digest = none) : Adds agent s (s.installObject digest bytes) := by
  refine ⟨?_, id, .inl, fun _ h => h, le_refl _⟩
  intro other found present
  by_cases same : other = digest
  · subst same
    rw [absent] at present
    cases present
  · simpa only [PublicationStore.installObject, Function.update_of_ne same] using present

theorem installObject_kept {digest : D} {bytes : B} {s : PublicationStore B D}
    (valid : WellKept s) (hashes : Blob.sha256 bytes = digest) :
    WellKept (s.installObject digest bytes) := by
  refine ⟨?_, valid.claims, valid.handed⟩
  intro other found present
  by_cases same : other = digest
  · subst same
    simp only [PublicationStore.installObject, Function.update_self, Option.some.injEq] at present
    exact present ▸ hashes
  · simp only [PublicationStore.installObject, Function.update_of_ne same] at present
    exact valid.addressed other found present

omit [Blob B D] in
theorem claims_installClaim (kind kind' : String) (digest digest' : D) (bytes : B)
    (s : PublicationStore B D) :
    (s.installClaim kind digest bytes).claims kind' digest' =
      if kind' = kind ∧ digest' = digest then some bytes else s.claims kind' digest' := by
  by_cases kinds : kind' = kind
  · subst kinds
    by_cases digests : digest' = digest
    · subst digests
      simp [PublicationStore.installClaim]
    · simp [PublicationStore.installClaim, digests]
  · simp [PublicationStore.installClaim, kinds]

theorem installClaim_adds (agent digest : D) (kind : String) {s : PublicationStore B D}
    (absent : s.claims kind digest = none) :
    Adds agent s (s.installClaim kind digest (Blob.claimBytes agent)) := by
  refine ⟨id, ?_, ?_, fun _ h => h, le_refl _⟩
  · intro kind' digest' found present
    rw [claims_installClaim, if_neg]
    · exact present
    · rintro ⟨rfl, rfl⟩
      rw [absent] at present
      cases present
  · intro kind' digest' found present
    rw [claims_installClaim] at present
    split at present
    · exact .inr (Option.some.inj present).symm
    · exact .inl present

theorem installClaim_kept {kind : String} {digest o : D} {s : PublicationStore B D}
    (valid : WellKept s) : WellKept (s.installClaim kind digest (Blob.claimBytes o)) := by
  refine ⟨valid.addressed, ?_, valid.handed⟩
  intro kind' digest' found present
  rw [claims_installClaim] at present
  split at present
  · exact ⟨o, (Option.some.inj present).symm⟩
  · exact valid.claims _ _ _ present

/-! ### What one call does -/

/-- Knowledge that new objects and temporaries leave alone. -/
def Durable (knows : PublicationStore B D → Prop) : Prop :=
  ∀ s t, (∀ digest bytes, s.objects digest = some bytes → t.objects digest = some bytes) →
    t.claims = s.claims → knows s → knows t

variable {knows : PublicationStore B D → Prop} {s : PublicationStore B D}

theorem rely_present {digest : D} {t : PublicationStore B D} (moves : (roles B owner).rely i s t)
    (present : Present digest s) : Present digest t :=
  (roles B owner).rely_keeps (Present digest) (fun _ adds => Adds.present adds) moves present

theorem rely_claimed {kind : String} {digest : D} {t : PublicationStore B D}
    (moves : (roles B owner).rely i s t) {bytes : B} (claimed : s.claims kind digest = some bytes) :
    t.claims kind digest = some bytes :=
  (roles B owner).rely_keeps (fun u => u.claims kind digest = some bytes)
    (fun _ adds => adds.claims) moves claimed

theorem createTemporary_holds (durable : Durable knows) (claim : Bool) (digest : D) (bytes : B) :
    (roles B owner).Holds knows i (createTemporary claim digest bytes)
      (Normally fun temporary t => Holding temporary bytes t) s := by
  refine Holds.atomically ?_ ?_
  · intro t moves valid known
    exact ⟨create_adds _ _ _ _ t, create_kept _ _ _ valid,
      durable t _ (fun _ _ h => h) rfl known⟩
  · rintro temporary t u moves valid known ⟨⟩ later validU
    exact (roles B owner).rely_keeps _ (fun _ adds => Adds.holding adds) later
      (create_holding claim digest bytes t)

theorem unlinkTemporary_holds (durable : Durable knows) (temporary : Temporary D)
    {fact : PublicationStore B D → Prop} (start : fact s)
    (stable : ∀ {t u}, (roles B owner).rely i t u → fact t → fact u)
    (kept : ∀ t, fact t → fact (t.unlink temporary)) :
    (roles B owner).Holds knows i (unlinkTemporary temporary) (Normally fun _ t => fact t) s := by
  refine Holds.atomically ?_ ?_
  · intro t moves valid known
    exact ⟨unlink_adds _ _ t, unlink_kept _ valid, durable t _ (fun _ _ h => h) rfl known⟩
  · intro _ t u moves valid known _ later validU
    exact stable later (kept t (stable moves start))

/-- The link finds the file absent and installs it, or finds it there. -/
theorem link_holds {find : PublicationStore B D → Option B}
    {install : B → PublicationStore B D → PublicationStore B D} {temporary : Temporary D}
    {bytes : B} {normal : Bool → PublicationStore B D → Prop} (holding : Holding temporary bytes s)
    (may : ∀ t, (roles B owner).rely i s t → WellKept t → knows t → find t = none →
      Adds (owner i) t (install bytes t) ∧ WellKept (install bytes t) ∧ knows (install bytes t))
    (fresh : ∀ t u, find t = none → (roles B owner).rely i (install bytes t) u → normal true u)
    (taken : ∀ t u, WellKept t → find t ≠ none → (roles B owner).rely i t u → normal false u) :
    (roles B owner).Holds knows i (link find install temporary) (Normally normal) s := by
  have held : ∀ t, (roles B owner).rely i s t → Holding temporary bytes t := fun t moves =>
    (roles B owner).rely_keeps _ (fun _ adds => Adds.holding adds) moves holding
  refine Holds.atomically ?_ ?_
  · intro t moves valid known
    cases found : t.temporaries.lookup temporary with
    | none => exact ⟨Adds.refl _ t, valid, known⟩
    | some written =>
        obtain rfl := (held t moves).2 written found
        by_cases absent : find t = none
        · simp only [if_pos absent]
          exact may t moves valid known absent
        · simp only [if_neg absent]
          exact ⟨Adds.refl _ t, valid, known⟩
  · intro installed t u moves valid known seen later validU
    cases found : t.temporaries.lookup temporary with
    | none => simp only [found, reduceCtorEq] at seen
    | some written =>
        obtain rfl := (held t moves).2 written found
        simp only [found, Except.ok.injEq] at seen later
        by_cases absent : find t = none
        · rw [if_pos absent] at later
          rw [← seen, decide_eq_true absent]
          exact fresh t u absent later
        · rw [if_neg absent] at later
          rw [← seen, decide_eq_false absent]
          exact taken t u valid absent later

theorem readPublicationClaimOwner_holds (valid : WellKept s) (known : knows s) (kind : String)
    (digest : D) :
    (roles B owner).Holds knows i (readPublicationClaimOwner (B := B) kind digest)
      (Normally fun o t => Claimed kind digest o t) s := by
  refine Holds.bind valid known (Holds.read (Adds.refl _) ?_)
  rintro claimed t u moves validT - ⟨⟩ later validU - -
  cases found : t.claims kind digest with
  | none => exact Holds.throw
  | some bytes =>
      obtain ⟨o, rfl⟩ := validT.claims kind digest bytes found
      simp only [Blob.claimOwner_claimBytes]
      exact Holds.pure fun v after _ => rely_claimed (later.trans after) found

theorem durableExisting_holds [DecidableEq B] (valid : WellKept s) (known : knows s) (payload : B)
    (digest : D) :
    (roles B owner).Holds knows i (durableExisting payload digest)
      (Normally fun result t => result = ⟨digest, .existingIdentical⟩ ∧ Present digest t) s := by
  refine Holds.bind valid known (Holds.read (Adds.refl _) ?_)
  rintro existing t u moves validT - ⟨⟩ later validU - knownU
  cases found : t.objects digest with
  | none => exact Holds.throw
  | some bytes =>
      refine Holds.bind validU knownU (Holds.require ?_)
      intro v hashes after validV _ knownV
      refine Holds.bind validV knownV (Holds.require ?_)
      intro w same next validW _ knownW
      exact Holds.pure fun x last _ =>
        ⟨rfl, rely_present (((later.trans after).trans next).trans last) ⟨bytes, found⟩⟩

/-- After it the object is there; an object that was there before is not published anew. -/
theorem publishObject_holds [DecidableEq B] (durable : Durable knows) (valid : WellKept s)
    (known : knows s) {payload : B} {digest : D} (hashes : Blob.sha256 payload = digest) :
    (roles B owner).Holds knows i (publishObject payload digest)
      (Normally fun result t => result.digest = digest ∧ Present digest t ∧
        (Present digest s → result.disposition = .existingIdentical)) s := by
  refine Holds.bind valid known (Holds.read (Adds.refl _) ?_)
  rintro present t u moves validT knownT ⟨⟩ later validU - knownU
  split
  · refine (durableExisting_holds validU knownU payload digest).mono ?_
    rintro _ v - - settled result rfl
    obtain ⟨rfl, there⟩ := settled result rfl
    exact ⟨rfl, there, fun _ => rfl⟩
  · rename_i absent
    have new : ¬ Present digest s := by
      intro before
      obtain ⟨bytes, found⟩ := rely_present moves before
      exact absent (by rw [found]; rfl)
    refine Holds.seq validU knownU (createTemporary_holds durable false digest payload) ?_
    intro temporary v validV knownV holding
    have linked : (roles B owner).Holds knows i
        (link (fun s => s.objects digest) (PublicationStore.installObject digest) temporary)
        (Normally fun _ w => Present digest w) v := by
      refine link_holds holding ?_ ?_ ?_
      · intro w after validW knownW missing
        exact ⟨installObject_adds _ _ _ missing, installObject_kept validW hashes,
          durable w _ (fun _ _ => (installObject_adds (owner i) _ _ missing).objects) rfl knownW⟩
      · intro w x missing after
        refine rely_present after ⟨payload, ?_⟩
        simp [PublicationStore.installObject]
      · intro w x validW there after
        obtain ⟨bytes, found⟩ := Option.ne_none_iff_exists'.mp there
        exact rely_present after ⟨bytes, found⟩
    refine Holds.seq validV knownV linked ?_
    intro installed w validW knownW there
    split
    · refine Holds.seq validW knownW (unlinkTemporary_holds durable temporary there
        (fun after => rely_present after) (fun _ => id)) ?_
      intro _ x validX knownX there
      exact Holds.pure fun y after _ => ⟨rfl, rely_present after there, fun h => absurd h new⟩
    · refine Holds.seq validW knownW (durableExisting_holds validW knownW payload digest) ?_
      rintro result x validX knownX ⟨rfl, there⟩
      refine Holds.seq validX knownX (unlinkTemporary_holds durable temporary there
        (fun after => rely_present after) (fun _ => id)) ?_
      intro _ y validY knownY there
      exact Holds.pure fun z after _ => ⟨rfl, rely_present after there, fun _ => rfl⟩

theorem publishBytes_holds [DecidableEq B] (durable : Durable knows) (valid : WellKept s)
    (known : knows s) (payload : B) (expected : Option D) :
    (roles B owner).Holds knows i (publishBytes payload expected)
      (Normally fun result t => result.digest = Blob.sha256 payload ∧ Present result.digest t ∧
        (Present (Blob.sha256 payload) s → result.disposition = .existingIdentical)) s := by
  refine Holds.bind valid known (Holds.require ?_)
  intro t _ moves validT _ knownT
  refine (publishObject_holds durable validT knownT rfl).mono ?_
  rintro _ u - - settled result rfl
  obtain ⟨same, present, existing⟩ := settled result rfl
  exact ⟨same, same ▸ present, fun h => existing (rely_present moves h)⟩

/-- Whether the claim is the run's own. -/
def Decided (kind : String) (digest o : D) (owned : Bool) (s : PublicationStore B D) : Prop :=
  ∃ o', Claimed kind digest o' s ∧ (owned = true ↔ o' = o)

/-- The run was not told of an object that somebody else published. -/
def Free (log : List (ι × Except PublicationError (Answer D))) (i : ι) (kind : String)
    (digest : D) : Prop :=
  ∀ result, (i, .ok (.claimed kind result)) ∈ log → result.digest = digest →
    result.disposition = .published

def Unowned (owner : ι → D) (i : ι) (kind : String) (digest : D) (s : PublicationStore B D) : Prop :=
  Alone owner i → ¬ Claimed kind digest (owner i) s

theorem rely_unowned {kind : String} {digest : D} {t : PublicationStore B D}
    (moves : (roles B owner).rely i s t) (unowned : Unowned owner i kind digest s) :
    Unowned owner i kind digest t := by
  refine (roles B owner).rely_keeps (Unowned owner i kind digest) ?_ moves unowned
  intro j s t different adds unowned alone claimed
  rcases adds.own claimed with before | mine
  · exact unowned alone before
  · exact different (alone j (claimBytes_injective mine).symm)

theorem rely_decided {kind : String} {digest o : D} {owned : Bool} {t : PublicationStore B D}
    (moves : (roles B owner).rely i s t) (decided : Decided kind digest o owned s) :
    Decided kind digest o owned t := by
  obtain ⟨o', claimed, same⟩ := decided
  exact ⟨o', rely_claimed moves claimed, same⟩

variable {log : List (ι × Except PublicationError (Answer D))}

theorem durable_kept : Durable ((roles B owner).Kept log i) := by
  intro s t grows same kept result member
  have told := kept result member
  rcases result with e | (⟨kind, result⟩ | result | report)
  · trivial
  · obtain ⟨⟨bytes, found⟩, rest⟩ := told
    refine ⟨⟨bytes, grows _ _ found⟩, ?_⟩
    simp only [Claimed, same] at rest ⊢
    exact rest
  · trivial
  · trivial

omit [DecidableEq D] [Blob B D] in
theorem Durable.and {fact : PublicationStore B D → Prop} (durable : Durable knows)
    (blind : ∀ s t : PublicationStore B D, t.claims = s.claims → fact s → fact t) :
    Durable fun s => knows s ∧ fact s :=
  fun s t grows same known => ⟨durable s t grows same known.1, blind s t same known.2⟩

/-- A run that may claim the object keeps what it was told. -/
theorem kept_installClaim {kind : String} {digest : D} {t : PublicationStore B D}
    (free : Free log i kind digest) (absent : t.claims kind digest = none)
    (kept : (roles B owner).Kept log i t) :
    (roles B owner).Kept log i (t.installClaim kind digest (Blob.claimBytes (owner i))) := by
  intro result member
  have told := kept result member
  rcases result with e | (⟨kind', result⟩ | result | report)
  · trivial
  · obtain ⟨present, published, existing⟩ := told
    refine ⟨present, fun h => (installClaim_adds (owner i) digest kind absent).claims (published h), ?_⟩
    intro lost alone claimed
    rw [Claimed, claims_installClaim] at claimed
    split at claimed
    · rename_i same
      obtain ⟨rfl, digests⟩ := same
      rw [free result member digests] at lost
      cases lost
    · exact existing lost alone claimed
  · trivial
  · trivial

theorem claimPublication_holds (valid : WellKept s) (kept : (roles B owner).Kept log i s)
    {kind : String} {digest : D}
    (guard : Free log i kind digest ∨ ∃ o, Claimed kind digest o s) :
    (roles B owner).Holds ((roles B owner).Kept log i) i
      (claimPublication (B := B) kind digest (owner i))
      (Normally fun owned t => Decided kind digest (owner i) owned t) s := by
  have reads : ∀ {t : PublicationStore B D}, WellKept t → (roles B owner).Kept log i t →
      (roles B owner).Holds ((roles B owner).Kept log i) i
        (readPublicationClaimOwner (B := B) kind digest)
        (Normally fun o u => Claimed kind digest o u) t :=
    fun validT keptT => readPublicationClaimOwner_holds validT keptT kind digest
  refine Holds.bind valid kept (Holds.require ?_)
  intro t _ moves validT _ keptT
  refine Holds.bind validT keptT (Holds.read (Adds.refl _) ?_)
  rintro claimed u v next validU keptU ⟨⟩ later validV - keptV
  split
  · refine Holds.seq validV keptV (reads validV keptV) ?_
    intro o w validW keptW claims
    exact Holds.pure fun x last _ => ⟨o, rely_claimed last claims, by simp⟩
  · rename_i absent
    have free : Free log i kind digest := by
      rcases guard with free | ⟨o, claims⟩
      · exact free
      · refine absurd ?_ absent
        rw [rely_claimed (moves.trans next) claims]
        rfl
    refine Holds.seq validV keptV (createTemporary_holds durable_kept true digest _) ?_
    intro temporary w validW keptW holding
    have linked : (roles B owner).Holds ((roles B owner).Kept log i) i
        (link (fun s => s.claims kind digest) (PublicationStore.installClaim kind digest) temporary)
        (Normally fun installed x => installed = true → Claimed kind digest (owner i) x) w := by
      refine link_holds holding ?_ ?_ ?_
      · intro x after validX keptX missing
        exact ⟨installClaim_adds _ _ _ missing, installClaim_kept validX,
          kept_installClaim free missing keptX⟩
      · intro x y missing after _
        refine rely_claimed after ?_
        rw [claims_installClaim, if_pos ⟨rfl, rfl⟩]
      · intro x y validX there after owned
        cases owned
    refine Holds.seq validW keptW linked ?_
    intro installed x validX keptX claims
    split
    · rename_i yes
      refine Holds.seq validX keptX (unlinkTemporary_holds durable_kept temporary (claims yes)
        (fun after => rely_claimed after) (fun _ => id)) ?_
      intro _ y validY keptY mine
      exact Holds.pure fun z last _ => ⟨owner i, rely_claimed last mine, by simp⟩
    · refine Holds.seq validX keptX (reads validX keptX) ?_
      intro o y validY keptY claims
      refine Holds.seq validY keptY (unlinkTemporary_holds durable_kept temporary claims
        (fun after => rely_claimed after) (fun _ => id)) ?_
      intro _ z validZ keptZ claims
      exact Holds.pure fun _ last _ => ⟨o, rely_claimed last claims, by simp⟩

theorem existsUnclaimed_holds (valid : WellKept s) (kept : (roles B owner).Kept log i s)
    (kind : String) (digest : D) :
    (roles B owner).Holds ((roles B owner).Kept log i) i (existsUnclaimed (B := B) kind digest)
      (Normally fun unclaimed t =>
        (unclaimed = true → Present digest t ∧ Unowned owner i kind digest t) ∧
        (unclaimed = false → Free log i kind digest ∨ ∃ o, Claimed kind digest o t)) s := by
  refine Holds.bind valid kept (Holds.read (Adds.refl _) ?_)
  rintro present t u moves validT keptT ⟨⟩ later validU - keptU
  split
  · rename_i there
    obtain ⟨bytes, found⟩ := Option.isSome_iff_exists.mp there
    refine Holds.bind validU keptU (Holds.read (Adds.refl _) ?_)
    rintro claimed v w next validV keptV ⟨⟩ after validW - keptW
    refine Holds.pure fun x last _ => ?_
    have remains : (roles B owner).rely i v x := after.trans last
    constructor
    · intro unclaimed
      have absent : v.claims kind digest = none := Option.isNone_iff_eq_none.mp unclaimed
      refine ⟨rely_present ((later.trans next).trans remains) ⟨bytes, found⟩,
        rely_unowned remains fun _ claims => ?_⟩
      rw [Claimed, absent] at claims
      cases claims
    · intro claims
      obtain ⟨found, there⟩ := Option.ne_none_iff_exists'.mp (Option.isNone_eq_false_iff.mp claims |>
        Option.isSome_iff_ne_none.mp)
      obtain ⟨o, rfl⟩ := validV.claims kind digest found there
      exact .inr ⟨o, rely_claimed remains there⟩
  · rename_i absent
    refine Holds.pure fun v after _ => ⟨nofun, fun _ => .inl ?_⟩
    -- Somebody else's object would be there.
    intro result member digests
    cases outcome : result.disposition with
    | published => rfl
    | existingIdentical =>
        obtain ⟨⟨bytes, found⟩, -⟩ := keptT _ member
        rw [digests] at found
        exact absurd (by rw [found]; rfl) absent

/-- Publishing keeps a fact about claims. -/
theorem publishBytes_remembers [DecidableEq B] (valid : WellKept s)
    (kept : (roles B owner).Kept log i s) {fact : PublicationStore B D → Prop} (start : fact s)
    (stable : ∀ {t u}, (roles B owner).rely i t u → fact t → fact u)
    (blind : ∀ t u : PublicationStore B D, u.claims = t.claims → fact t → fact u) (payload : B) :
    (roles B owner).Holds ((roles B owner).Kept log i) i
      (publishBytes payload (some (Blob.sha256 payload)))
      (fun outcome t => Normally (fun result t => result.digest = Blob.sha256 payload ∧
        Present result.digest t ∧ (Present (Blob.sha256 payload) s →
          result.disposition = .existingIdentical)) outcome t ∧ fact t) s :=
  Holds.remember stable start
    (publishBytes_holds (durable_kept.and blind) valid ⟨kept, start⟩ payload _)

theorem claimAndPublishBytes_holds [DecidableEq B] (valid : WellKept s)
    (kept : (roles B owner).Kept log i s) (payload : B) (expected : D) (kind : String) :
    (roles B owner).Holds ((roles B owner).Kept log i) i
      (claimAndPublishBytes payload expected kind (owner i))
      (Normally fun result t => Told owner i kind result t) s := by
  refine Holds.bind valid kept (Holds.require ?_)
  intro t _ moves validT _ keptT
  refine Holds.bind validT keptT (Holds.require ?_)
  intro u _ next validU _ keptU
  refine Holds.seq validU keptU (existsUnclaimed_holds validU keptU kind _) ?_
  intro unclaimed v validV keptV read
  split
  · rename_i yes
    obtain ⟨present, unowned⟩ := read.1 yes
    have blind : ∀ w x : PublicationStore B D, x.claims = w.claims →
        Unowned owner i kind (Blob.sha256 payload) w →
        Unowned owner i kind (Blob.sha256 payload) x :=
      fun w x same unowned => by simpa only [Unowned, Claimed, same] using unowned
    refine (publishBytes_remembers validV keptV unowned rely_unowned blind payload).mono ?_
    rintro _ w - - ⟨settled, unowned⟩ result rfl
    obtain ⟨digests, there, existing⟩ := settled result rfl
    refine ⟨there, ?_, ?_⟩
    · rw [existing present]
      nofun
    · intro _ alone
      rw [digests]
      exact unowned alone
  · rename_i no
    refine Holds.seq validV keptV
      (claimPublication_holds validV keptV (read.2 (Bool.eq_false_iff.mpr no))) ?_
    intro owned w validW keptW decided
    have blind : ∀ x y : PublicationStore B D, y.claims = x.claims →
        Decided kind (Blob.sha256 payload) (owner i) owned x →
        Decided kind (Blob.sha256 payload) (owner i) owned y :=
      fun x y same decided => by simpa only [Decided, Claimed, same] using decided
    refine Holds.bind validW keptW
      ((publishBytes_remembers validW keptW decided rely_decided blind payload).mono ?_)
    rintro _ x - - ⟨settled, decided⟩ result rfl validX keptX
    obtain ⟨digests, there, -⟩ := settled result rfl
    refine Holds.pure fun y last _ => ?_
    obtain ⟨o, claimed, same⟩ := rely_decided last decided
    refine ⟨rely_present last there, ?_, ?_⟩
    · cases owned with
      | true =>
          intro _
          rw [digests]
          exact same.mp rfl ▸ claimed
      | false => nofun
    · cases owned with
      | true => nofun
      | false =>
          intro _ _ mine
          rw [digests, Claimed, claimed] at mine
          exact absurd (same.mpr (claimBytes_injective (Option.some.inj mine))) (by decide)

theorem readVerified_holds [DecidableEq B] (valid : WellKept s) (known : knows s) (digest : D) :
    (roles B owner).Holds knows i (readVerified (B := B) digest) (Normally fun _ _ => True) s := by
  refine Holds.bind valid known (Holds.read (Adds.refl _) ?_)
  rintro existing t u - - - ⟨⟩ - validU - knownU
  cases t.objects digest with
  | none => exact Holds.throw
  | some payload =>
      refine Holds.bind validU knownU (Holds.require ?_)
      intro v _ _ _ _ _
      exact Holds.pure fun _ _ _ => trivial

theorem recoverTemporary_holds [DecidableEq B] (durable : Durable knows) (valid : WellKept s)
    (known : knows s) (temporary : Temporary D) (report : RecoveryReport) :
    (roles B owner).Holds knows i (recoverTemporary (B := B) temporary report)
      (Normally fun _ _ => True) s := by
  have unlinks : ∀ {t : PublicationStore B D}, WellKept t → knows t → ∀ next : RecoveryReport,
      (roles B owner).Holds knows i
        (do unlinkTemporary temporary; return next : PublicationProg B D RecoveryReport)
        (Normally fun _ _ => True) t := by
    intro t validT knownT next
    have unlinked : (roles B owner).Holds knows i (unlinkTemporary temporary)
        (Normally fun _ _ => True) t :=
      unlinkTemporary_holds durable temporary trivial (fun _ => id) (fun _ => id)
    refine Holds.seq validT knownT unlinked ?_
    exact fun _ _ _ _ _ => Holds.pure fun _ _ _ => trivial
  have looks : (roles B owner).Holds knows i
      (readDeclared (B := B) temporary) (Normally fun _ _ => True) s := by
    rw [readDeclared]
    split
    · exact Holds.pure fun _ _ _ => trivial
    · exact Holds.read (Adds.refl _) fun _ _ _ _ _ _ _ _ _ => trivial
  refine Holds.seq valid known looks ?_
  intro present t validT knownT _
  split
  · refine Holds.seq validT knownT (readVerified_holds validT knownT _) ?_
    exact fun _ u validU knownU _ => unlinks validU knownU _
  · exact unlinks validT knownT _

theorem recoverTemporaries_holds [DecidableEq B] (durable : Durable knows) (valid : WellKept s)
    (known : knows s) (temporaries : List (Temporary D)) (report : RecoveryReport) :
    (roles B owner).Holds knows i (recoverTemporaries (B := B) temporaries report)
      (Normally fun _ _ => True) s := by
  induction temporaries generalizing s report with
  | nil => exact Holds.pure fun _ _ _ => trivial
  | cons temporary rest ih =>
      refine Holds.seq valid known (recoverTemporary_holds durable valid known temporary report) ?_
      exact fun next t validT knownT _ => ih validT knownT next

variable [DecidableEq B] [DigestText D]

theorem recover_holds (durable : Durable knows) (valid : WellKept s) (known : knows s) :
    (roles B owner).Holds knows i (recover (B := B) (D := D)) (Normally fun _ _ => True) s := by
  refine Holds.bind valid known (Holds.read (Adds.refl _) ?_)
  rintro found t u - - - ⟨⟩ - validU - knownU
  exact recoverTemporaries_holds durable validU knownU _ _

theorem calls_hold {p : PublicationProg B D (Answer D)} (call : Calls owner i p)
    (valid : WellKept s) (kept : (roles B owner).Kept log i s) :
    (roles B owner).Holds ((roles B owner).Kept log i) i p ((roles B owner).told i) s := by
  cases call with
  | claim payload expected kind =>
      refine Holds.map valid kept
        ((claimAndPublishBytes_holds valid kept payload expected kind).mono ?_)
      intro outcome t _ _ told u moves _ _
      cases outcome with
      | error e => trivial
      | ok result =>
          exact (roles B owner).rely_keeps (Told owner i kind result)
            (fun different adds => Adds.told adds different) moves (told result rfl)
  | publish payload expected =>
      refine Holds.map valid kept
        ((publishBytes_holds durable_kept valid kept payload expected).mono ?_)
      intro outcome t _ _ _ u _ _ _
      cases outcome <;> trivial
  | recover =>
      refine Holds.map valid kept ((recover_holds durable_kept valid kept).mono ?_)
      intro outcome t _ _ _ u _ _ _
      cases outcome <;> trivial

omit [DecidableEq D] [DecidableEq B] [DigestText D] in
theorem initial_kept : WellKept (PublicationStore.initial : PublicationStore B D) :=
  ⟨nofun, nofun, fun _ member => absurd member List.not_mem_nil⟩

omit [DecidableEq B] [DigestText D] in
theorem objects_stay {s t : PublicationStore B D}
    (moves : Relation.ReflTransGen (fun s t => ∃ i, (roles B owner).does i s t) s t)
    {digest : D} {bytes : B} (found : s.objects digest = some bytes) :
    t.objects digest = some bytes := by
  induction moves with
  | refl => exact found
  | tail _ step ih =>
      obtain ⟨i, adds⟩ := step
      exact Adds.objects adds ih

abbrev PublicationPool (ι B D : Type) : Type :=
  Pool ι (PublicationStore B D) PublicationError (Answer D)

variable [DecidableEq ι] {c c' : PublicationPool ι B D}

/-- The claims of a store say who published: one owner for each object and kind, and a run without
a namesake is told the same every time. Objects stay as they are. -/
theorem publication_agrees (run : Traced (Calls owner) (Pool.idle .initial) log c) :
    (∀ i j kind result result', (i, .ok (.claimed kind result)) ∈ log →
      (j, .ok (.claimed kind result')) ∈ log → result.digest = result'.digest →
      result.disposition = .published → result'.disposition = .published →
      owner i = owner j) ∧
    (∀ i, Alone owner i → ∀ kind result result', (i, .ok (.claimed kind result)) ∈ log →
      (i, .ok (.claimed kind result')) ∈ log → result.digest = result'.digest →
      result.disposition = result'.disposition) ∧
    (∀ i kind result, (i, .ok (.claimed kind result)) ∈ log → ∃ bytes,
      Blob.sha256 bytes = result.digest ∧ c.store.objects result.digest = some bytes) ∧
    ∀ log' c', Traced (Calls owner) c log' c' → ∀ digest bytes,
      c.store.objects digest = some bytes → c'.store.objects digest = some bytes := by
  have checked : ∀ i p, Calls owner i p → ∀ log s, (roles B owner).inv s →
      (roles B owner).Kept log i s → (roles B owner).Holds ((roles B owner).Kept log i) i p
        ((roles B owner).told i) s :=
    fun i p call log s valid kept => calls_hold call valid kept
  have sound : (roles B owner).Sound log c :=
    (Traced.sound checked run (sound_idle initial_kept)).1
  have told : ∀ i kind result, (i, .ok (.claimed kind result)) ∈ log →
      Told owner i kind result c.store := fun i kind result member => sound.told i _ member
  refine ⟨?_, ?_, ?_, ?_⟩
  · intro i j kind result result' first second same published published'
    have mine := (told i kind result first).2.1 published
    have other := (told j kind result' second).2.1 published'
    rw [Claimed, ← same, mine] at other
    exact claimBytes_injective (Option.some.inj other)
  · intro i alone kind result result' first second same
    obtain ⟨-, mine, notMine⟩ := told i kind result first
    obtain ⟨-, mine', notMine'⟩ := told i kind result' second
    rw [← same] at mine' notMine'
    cases here : result.disposition <;> cases there : result'.disposition
    · rfl
    · exact absurd (mine here) (notMine' there alone)
    · exact absurd (mine' there) (notMine here alone)
    · rfl
  · intro i kind result member
    obtain ⟨⟨bytes, found⟩, -⟩ := told i kind result member
    exact ⟨bytes, sound.valid.addressed _ _ found, found⟩
  · intro log' c' later digest bytes found
    exact objects_stay (Traced.sound checked later sound).2 found

/-- The first run publishes; the second is told of it, also when it asks again. -/
theorem publication_agrees_sample :
    ∃ c : PublicationPool Nat (List Nat) (List Nat),
      Traced (Calls fun i => [i]) (Pool.idle .initial)
        [(1, .ok (.claimed "record" ⟨[7], .published⟩)),
          (2, .ok (.claimed "record" ⟨[7], .existingIdentical⟩)),
          (2, .ok (.claimed "record" ⟨[7], .existingIdentical⟩))] c ∧
      ∃ bytes : List Nat, Blob.sha256 bytes = [7] ∧ c.store.objects [7] = some bytes := by
  have call : ∀ i : Nat, Calls (fun i => [i]) i
      ((claimAndPublishBytes [7] [7] "record" [i]).map (.claimed "record")) :=
    fun i => Calls.claim [7] [7] "record"
  have first := (Traced.begin : Traced (Calls fun i : Nat => [i])
    (Pool.idle (PublicationStore.initial : PublicationStore (List Nat) (List Nat))) [] _).completes
    (call 1) 20 rfl
  have second := first.completes (call 2) 20 rfl
  have third := second.completes (call 2) 20 rfl
  exact ⟨_, third, (publication_agrees third).2.2.1 1 "record" _ List.mem_cons_self⟩

end CsdFoundry.Synthesis
