import CsdFoundry.Search.DepthFirst

/-! Depth-first search replayed from the records that an earlier one left: each node that is
walked takes the next record, which must be its own. A replay that meets no halt is evidence
that the records are closed, without repetition and without a cycle. -/
namespace CsdFoundry.Search
open Relation
variable {ν ρ ε : Type} [DecidableEq ν] (key : ρ → ν) (children : ρ → Option (List ν))

/-- What a record says about its node: the nodes to go on to, or that the search stops. -/
def findingOf (record : ρ) : Finding ν ρ :=
  match children record with
  | some vs => .expand record vs
  | none => .stop record

/-- Take the next record, which must be the one of the node. -/
def pop (missing mismatch : ε) (v : ν) : StateT (List ρ) (Except ε) (Finding ν ρ)
  | [] => .error missing
  | record :: records =>
      if key record = v then .ok (findingOf children record, records) else .error mismatch

/-- The replay over pending nodes. Each level takes a record, so that the number of records
bounds the depth. -/
def replay (missing mismatch : ε) (fuel : Nat) (stack : List ν) (p : Progress ν ρ) (vs : List ν)
    (records : List ρ) : Except ε ((Option (Halt ν ρ) × Progress ν ρ) × List ρ) :=
  sweepM (visitM (pop key children missing mismatch) true fuel stack) p vs records

/-- The replays that succeed, one case for each way the first pending node can go. -/
inductive Replays : List ν → Progress ν ρ → List ν → List ρ →
    Option (Halt ν ρ) → Progress ν ρ → List ρ → Prop where
  | nil : Replays stack p [] records none p records
  | cycle (onStack : v ∈ stack) :
      Replays stack p (v :: vs) records (some (.cycle (pathTo stack v))) p.follow records
  | seen (off : v ∉ stack) (known : v ∈ p.done)
      (rest : Replays stack p.follow vs records halt q left) :
      Replays stack p (v :: vs) records halt q left
  | stopped (fresh : Fresh true stack p v) (own : key record = v)
      (found : children record = none) :
      Replays stack p (v :: vs) (record :: records) (some (.stopped record))
        (p.follow.enter record) records
  | halted (fresh : Fresh true stack p v) (own : key record = v)
      (found : children record = some below)
      (inside : Replays (stack ++ [v]) (p.follow.enter record) below records (some halt) q left) :
      Replays stack p (v :: vs) (record :: records) (some halt) q left
  | finished (fresh : Fresh true stack p v) (own : key record = v)
      (found : children record = some below)
      (inside : Replays (stack ++ [v]) (p.follow.enter record) below records none q between)
      (rest : Replays stack (q.leave v record) vs between halt q' left) :
      Replays stack p (v :: vs) (record :: records) halt q' left

/-- An edge that one of the records declares. -/
def Link (records : List ρ) (v w : ν) : Prop :=
  ∃ record ∈ records, key record = v ∧ ∃ below, children record = some below ∧ w ∈ below

/-- The nodes that were left, the latest first: each is left once, and only after the nodes
that its record declares. -/
inductive Layered : List (ν × ρ) → Prop where
  | nil : Layered []
  | cons (own : key record = v) (found : children record = some below)
      (inside : ∀ w ∈ below, w ∈ layers.map Prod.fst) (fresh : v ∉ layers.map Prod.fst)
      (rest : Layered layers) : Layered ((v, record) :: layers)

variable {key children} {missing mismatch : ε} {stack vs : List ν} {p q : Progress ν ρ} {v : ν}
  {halt : Option (Halt ν ρ)} {records left : List ρ}

theorem replay_cons : replay key children missing mismatch fuel stack p (v :: vs) records =
    match visitM (pop key children missing mismatch) true fuel stack p.follow v records with
      | .error e => .error e
      | .ok ((some halt, q), left) => .ok ((some halt, q), left)
      | .ok ((none, q), left) => replay key children missing mismatch fuel stack q vs left := by
  change (visitM (pop key children missing mismatch) true fuel stack p.follow v records >>= _) = _
  rcases visitM (pop key children missing mismatch) true fuel stack p.follow v records with
    e | ⟨⟨_ | halt, q⟩, left⟩ <;> rfl

theorem visit_pop : visitM (pop key children missing mismatch) true (fuel + 1) stack p v records =
    if v ∈ stack then .ok ((some (.cycle (pathTo stack v)), p), records)
    else if true = true ∧ v ∈ p.done then .ok ((none, p), records)
    else match records with
      | [] => .error missing
      | record :: records =>
          if key record = v then
            match children record with
            | none => .ok ((some (.stopped record), p.enter record), records)
            | some below =>
                match replay key children missing mismatch fuel (stack ++ [v]) (p.enter record)
                  below records with
                | .error e => .error e
                | .ok ((some halt, q), left) => .ok ((some halt, q), left)
                | .ok ((none, q), left) => .ok ((none, q.leave v record), left)
          else .error mismatch := by
  unfold visitM
  split_ifs with onStack known
  · rfl
  · rfl
  · cases records with
    | nil => rfl
    | cons record records =>
        simp only [bind, StateT.bind, pop]
        split_ifs with own
        · simp only [Except.bind, findingOf]
          cases children record with
          | none => rfl
          | some below =>
              dsimp only
              unfold replay
              change (sweepM (visitM (pop key children missing mismatch) true fuel (stack ++ [v]))
                (p.enter record) below records >>= _) = _
              rcases sweepM (visitM (pop key children missing mismatch) true fuel (stack ++ [v]))
                (p.enter record) below records with e | ⟨⟨_ | halt, q⟩, left⟩ <;> rfl
        · rfl

/-- A node that is walked takes the record. -/
theorem replay_fresh (fresh : Fresh true stack p v) (own : key record = v) :
    replay key children missing mismatch (fuel + 1) stack p (v :: vs) (record :: records) =
      match children record with
      | none => .ok ((some (.stopped record), p.follow.enter record), records)
      | some below =>
          match replay key children missing mismatch fuel (stack ++ [v]) (p.follow.enter record)
            below records with
          | .error e => .error e
          | .ok ((some halt, q), left) => .ok ((some halt, q), left)
          | .ok ((none, q), left) =>
              replay key children missing mismatch (fuel + 1) stack (q.leave v record) vs left := by
  have unknown : ¬ (true = true ∧ v ∈ p.follow.done) := fresh.2
  rw [replay_cons, visit_pop, if_neg fresh.1, if_neg unknown]
  simp only [own, if_true]
  cases children record with
  | none => rfl
  | some below =>
      dsimp only
      rcases replay key children missing mismatch fuel (stack ++ [v]) (p.follow.enter record)
        below records with e | ⟨⟨_ | halt, q⟩, left⟩ <;> rfl

/-- A replay enters the records that it takes, in their order. -/
theorem Replays.found (replays : Replays key children stack p vs records halt q left) :
    ∃ found, records = found ++ left ∧ q.entered = p.entered ++ found := by
  induction replays with
  | nil => exact ⟨[], rfl, (List.append_nil _).symm⟩
  | cycle => exact ⟨[], rfl, (List.append_nil _).symm⟩
  | seen _ _ _ ih => exact ih
  | stopped => exact ⟨[_], rfl, rfl⟩
  | @halted _ _ _ record _ _ _ _ _ _ _ _ _ _ ih =>
      obtain ⟨found, rfl, entered⟩ := ih
      exact ⟨record :: found, rfl, by rw [entered]; simp⟩
  | @finished _ _ _ record _ _ _ _ _ _ _ _ _ _ _ _ _ ihInside ihRest =>
      obtain ⟨found, rfl, entered⟩ := ihInside
      obtain ⟨found', rfl, entered'⟩ := ihRest
      refine ⟨record :: found ++ found', by simp, ?_⟩
      rw [entered', Progress.leave_entered, entered]
      simp

theorem Replays.shrinks (replays : Replays key children stack p vs records halt q left) :
    left.length ≤ records.length := by
  obtain ⟨found, rfl, -⟩ := replays.found
  simp

/-- What replays is replayed, once there is fuel for every record. -/
theorem Replays.replay (replays : Replays key children stack p vs records halt q left)
    (enough : records.length < fuel) :
    replay key children missing mismatch fuel stack p vs records = .ok ((halt, q), left) := by
  induction replays generalizing fuel with
  | nil => rfl
  | @cycle _ _ _ _ _ onStack =>
      obtain ⟨fuel, rfl⟩ := Nat.exists_eq_succ_of_ne_zero (Nat.ne_zero_of_lt enough)
      rw [replay_cons, visit_pop, if_pos onStack]
  | seen off known rest ih =>
      obtain ⟨fuel, rfl⟩ := Nat.exists_eq_succ_of_ne_zero (Nat.ne_zero_of_lt enough)
      rw [replay_cons, visit_pop, if_neg off, if_pos ⟨rfl, known⟩]
      exact ih enough
  | stopped fresh own found =>
      obtain ⟨fuel, rfl⟩ := Nat.exists_eq_succ_of_ne_zero (Nat.ne_zero_of_lt enough)
      rw [replay_fresh fresh own, found]
  | halted fresh own found inside ih =>
      obtain ⟨fuel, rfl⟩ := Nat.exists_eq_succ_of_ne_zero (Nat.ne_zero_of_lt enough)
      simp only [replay_fresh fresh own, found, ih (Nat.lt_of_succ_lt_succ enough)]
  | finished fresh own found inside rest ihInside ihRest =>
      obtain ⟨fuel, rfl⟩ := Nat.exists_eq_succ_of_ne_zero (Nat.ne_zero_of_lt enough)
      have shorter := inside.shrinks
      simp only [replay_fresh fresh own, found, ihInside (Nat.lt_of_succ_lt_succ enough)]
      exact ihRest (by simp only [List.length_cons] at enough; omega)

/-- What is replayed with fuel for every record does replay. -/
theorem replays_of_replay (enough : records.length < fuel)
    (replayed : replay key children missing mismatch fuel stack p vs records =
      .ok ((halt, q), left)) : Replays key children stack p vs records halt q left := by
  induction fuel generalizing stack p vs records halt q left with
  | zero => omega
  | succ fuel ih =>
      induction vs generalizing p records halt q left with
      | nil =>
          cases replayed
          exact .nil
      | cons v vs rest =>
          by_cases onStack : v ∈ stack
          · rw [replay_cons, visit_pop, if_pos onStack] at replayed
            cases replayed
            exact .cycle onStack
          by_cases known : true = true ∧ v ∈ p.follow.done
          · rw [replay_cons, visit_pop, if_neg onStack, if_pos known] at replayed
            exact .seen onStack known.2 (rest enough replayed)
          cases records with
          | nil =>
              rw [replay_cons, visit_pop, if_neg onStack, if_neg known] at replayed
              cases replayed
          | cons record records =>
              by_cases own : key record = v
              · have fresh : Fresh true stack p v := ⟨onStack, known⟩
                have enough' : records.length < fuel := Nat.lt_of_succ_lt_succ enough
                rw [replay_fresh fresh own] at replayed
                cases found : children record with
                | none =>
                    rw [found] at replayed
                    cases replayed
                    exact .stopped fresh own found
                | some below =>
                    cases inner : replay key children missing mismatch fuel (stack ++ [v])
                      (p.follow.enter record) below records with
                    | error e => simp [found, inner] at replayed
                    | ok outcome =>
                        obtain ⟨⟨_ | h, between⟩, left'⟩ := outcome
                        · have inside := ih enough' inner
                          have shorter := inside.shrinks
                          simp only [found, inner] at replayed
                          exact .finished fresh own found inside
                            (rest (by simp only [List.length_cons] at enough; omega) replayed)
                        · simp only [found, inner] at replayed
                          cases replayed
                          exact .halted fresh own found (ih enough' inner)
              · rw [replay_cons, visit_pop, if_neg onStack, if_neg known] at replayed
                simp [own] at replayed

/-! ### What the records of a replay without a halt describe -/

variable {layers : List (ν × ρ)}

omit [DecidableEq ν] in
theorem Link.mono {records' : List ρ} (link : Link key children records v w)
    (more : ∀ record ∈ records, record ∈ records') : Link key children records' v w := by
  obtain ⟨record, member, own, declares⟩ := link
  exact ⟨record, more record member, own, declares⟩

namespace Layered

omit [DecidableEq ν] in
theorem keys (layered : Layered key children layers) :
    layers.map (fun layer => key layer.2) = layers.map Prod.fst := by
  induction layered with
  | nil => rfl
  | cons own _ _ _ _ ih => simp [own, ih]

omit [DecidableEq ν] in
theorem nodup (layered : Layered key children layers) : (layers.map Prod.fst).Nodup := by
  induction layered with
  | nil => exact .nil
  | cons _ _ _ fresh _ ih => exact ih.cons fresh

/-- An edge leads to a node that was left before. -/
theorem descends (layered : Layered key children layers)
    (link : Link key children (layers.map Prod.snd) v w) :
    v ∈ layers.map Prod.fst ∧ w ∈ layers.map Prod.fst ∧
      (layers.map Prod.fst).idxOf v < (layers.map Prod.fst).idxOf w := by
  induction layered with
  | nil =>
      obtain ⟨record, member, -⟩ := link
      exact absurd member List.not_mem_nil
  | @cons record u below layers own found inside fresh rest ih =>
      obtain ⟨record', member, own', below', found', listed⟩ := link
      simp only [List.map_cons, List.mem_cons]
      rcases List.mem_cons.mp member with rfl | member
      · obtain rfl : u = v := own.symm.trans own'
        obtain rfl : below = below' := Option.some.inj (found.symm.trans found')
        have among := inside w listed
        have apart : u ≠ w := fun same => fresh (same ▸ among)
        refine ⟨.inl rfl, .inr among, ?_⟩
        rw [List.idxOf_cons_self, List.idxOf_cons_ne _ apart]
        omega
      · obtain ⟨source, target, below⟩ := ih ⟨record', member, own', below', found', listed⟩
        have apart : u ≠ v := fun same => fresh (same ▸ source)
        have apart' : u ≠ w := fun same => fresh (same ▸ target)
        refine ⟨.inr source, .inr target, ?_⟩
        rw [List.idxOf_cons_ne _ apart, List.idxOf_cons_ne _ apart']
        omega

theorem acyclic (layered : Layered key children layers) :
    ¬ TransGen (Link key children (layers.map Prod.snd)) v v := by
  have ascends : ∀ {w}, TransGen (Link key children (layers.map Prod.snd)) v w →
      (layers.map Prod.fst).idxOf v < (layers.map Prod.fst).idxOf w := by
    intro w path
    induction path with
    | single link => exact (layered.descends link).2.2
    | tail _ link ih => exact ih.trans (layered.descends link).2.2
  exact fun around => lt_irrefl _ (ascends around)

end Layered

/-- What a replay without a halt keeps. -/
theorem Replays.layered (replays : Replays key children stack p vs records none q left)
    (layered : Layered key children p.left) (apart : ∀ v ∈ stack, v ∉ p.done) :
    Layered key children q.left ∧ (∀ v ∈ stack, v ∉ q.done) ∧ (∀ v ∈ p.done, v ∈ q.done) ∧
      (∀ v ∈ vs, v ∈ q.done) ∧ ∃ found, records = found ++ left ∧
        (q.left.map Prod.snd).Perm (found ++ p.left.map Prod.snd) := by
  generalize ended : (none : Option (Halt ν ρ)) = halt at replays
  induction replays with
  | nil => exact ⟨layered, apart, fun _ member => member,
      fun _ member => absurd member List.not_mem_nil, [], rfl, .refl _⟩
  | cycle => cases ended
  | seen off known rest ih =>
      obtain ⟨layered', apart', kept, below, found⟩ := ih layered apart ended
      refine ⟨layered', apart', kept, fun w member => ?_, found⟩
      rcases List.mem_cons.mp member with rfl | member
      · exact kept _ known
      · exact below w member
  | stopped => cases ended
  | halted fresh own found inside ih => cases ended
  | @finished stack p v record below records inner between vs halt q' left fresh own found inside
      rest ihInside ihRest =>
      have unknown : v ∉ p.done := fun known => fresh.2 ⟨rfl, known⟩
      obtain ⟨layered', apart', kept, listed, taken, split, perm⟩ := ihInside layered (by
        intro w member
        rcases List.mem_append.mp member with above | here
        · exact apart w above
        · obtain rfl := List.mem_singleton.mp here
          exact unknown) rfl
      have fresh' : v ∉ inner.done := apart' v (by simp)
      obtain ⟨layered'', apart'', kept', listed', taken', split', perm'⟩ := ihRest
        (.cons own found listed fresh' layered') (by
          intro w member known
          rcases List.mem_cons.mp known with rfl | known
          · exact fresh.1 member
          · exact apart' w (List.mem_append_left _ member) known) ended
      refine ⟨layered'', apart'', fun w member => kept' w (List.mem_cons_of_mem _ (kept w member)),
        ?_, record :: taken ++ taken', by rw [split, split']; simp, ?_⟩
      · intro w member
        rcases List.mem_cons.mp member with rfl | member
        · exact kept' w (List.mem_cons_self ..)
        · exact listed' w member
      · rw [Progress.leave_left, List.map_cons] at perm'
        refine perm'.trans (.trans (.append_left _ (perm.cons record)) ?_)
        simp only [Progress.enter_left, Progress.follow_left]
        rw [← List.cons_append, ← List.append_assoc]
        exact List.perm_append_comm.append_right _

theorem Replays.entered (replays : Replays key children stack p vs records halt q left)
    {record : ρ} (member : record ∈ p.entered) : record ∈ q.entered := by
  obtain ⟨found, -, grown⟩ := replays.found
  rw [grown]
  exact List.mem_append_left _ member

omit [DecidableEq ν] in
/-- A record that was there below a node is old, that of the node, or further down. -/
theorem linked_below {record r : ρ} {below : List ν} (own : key record = v)
    (found : children record = some below) (among : record ∈ records)
    (reached : r ∈ (p.follow.enter record).entered ∨
      ∃ w ∈ below, ReflTransGen (Link key children records) w (key r)) :
    r ∈ p.entered ∨ ∃ u ∈ v :: vs, ReflTransGen (Link key children records) u (key r) := by
  rcases reached with old | ⟨w, listed, path⟩
  · rcases List.mem_append.mp old with old | new
    · exact .inl old
    · obtain rfl := List.mem_singleton.mp new
      exact .inr ⟨v, List.mem_cons_self .., own ▸ .refl⟩
  · exact .inr ⟨v, List.mem_cons_self .., .head ⟨record, among, own, below, found, listed⟩ path⟩

/-- The records of a replay lead from the pending nodes to every node that it enters. -/
theorem Replays.reached {all : List ρ} {r : ρ}
    (replays : Replays key children stack p vs records halt q left)
    (within : ∀ record ∈ q.entered, record ∈ all) (member : r ∈ q.entered) :
    r ∈ p.entered ∨ ∃ v ∈ vs, ReflTransGen (Link key children all) v (key r) := by
  induction replays generalizing r with
  | nil => exact .inl member
  | cycle => exact .inl member
  | seen _ _ _ ih =>
      exact (ih within member).imp_right fun ⟨v, listed, path⟩ => ⟨v, List.mem_cons_of_mem _ listed, path⟩
  | @stopped _ _ v _ _ _ fresh own found =>
      rcases List.mem_append.mp member with old | new
      · exact .inl old
      · obtain rfl := List.mem_singleton.mp new
        exact .inr ⟨v, List.mem_cons_self .., own ▸ .refl⟩
  | halted fresh own found inside ih =>
      have among := within _ (inside.entered (List.mem_append_right _ (List.mem_singleton_self _)))
      exact linked_below own found among (ih within member)
  | finished fresh own found inside rest ihInside ihRest =>
      have kept : ∀ record ∈ _, record ∈ all := fun record old => within record (rest.entered old)
      have among := kept _ (inside.entered (List.mem_append_right _ (List.mem_singleton_self _)))
      rcases ihRest within member with old | ⟨u, listed, path⟩
      · exact linked_below own found among (ihInside kept old)
      · exact .inr ⟨u, List.mem_cons_of_mem _ listed, path⟩

/-- A replay stops at a record that leads nowhere, and otherwise only takes records that do. -/
theorem Replays.opened {r : ρ} (replays : Replays key children stack p vs records halt q left) :
    (halt = some (.stopped r) → children r = none) ∧
      (halt = none → r ∈ q.entered → r ∈ p.entered ∨ ∃ below, children r = some below) := by
  induction replays with
  | nil => exact ⟨nofun, fun _ member => .inl member⟩
  | cycle => exact ⟨nofun, nofun⟩
  | seen _ _ _ ih => exact ih
  | stopped _ _ found => exact ⟨by rintro ⟨⟩; exact found, nofun⟩
  | halted _ _ _ _ ih => exact ⟨ih.1, nofun⟩
  | @finished _ _ _ record below _ _ _ _ _ _ _ _ _ found _ _ ihInside ihRest =>
      refine ⟨ihRest.1, fun ended member => ?_⟩
      rcases ihRest.2 ended member with old | leads
      · rcases ihInside.2 rfl old with old | leads
        · rcases List.mem_append.mp old with old | new
          · exact .inl old
          · obtain rfl := List.mem_singleton.mp new
            exact .inr ⟨below, found⟩
        · exact .inr leads
      · exact .inr leads

end CsdFoundry.Search
