import CsdFoundry.Keyed
import CsdFoundry.Policy.Ledger

/-! The order of policy entries is exact: entries are accepted when they are one chain of
generations, and then as that chain. -/
namespace CsdFoundry.Policy
variable {D : Type} [Sha256 D] [DigestText D] [DecidableEq D]

/-- The commit that an entry succeeds; none for a genesis. -/
def predecessor (entry : AssumptionPolicyLedgerEntryV3 D) : Option D :=
  entry.signingPayload.predecessorCommitReceiptDigest

/-- The candidate names the policy and the commit of the head, and takes effect after it. -/
structure Follows (head candidate : AssumptionPolicyLedgerEntryV3 D) : Prop where
  policy : candidate.signingPayload.predecessorPolicyDigest = some head.policy.policyDigest
  commit : predecessor candidate = some head.commitReceiptDigest
  later : head.effectiveFromSequence < candidate.effectiveFromSequence

/-- One genesis, and every further entry after the one it names. -/
structure IsPolicyChain (entries : List (AssumptionPolicyLedgerEntryV3 D)) : Prop where
  genesis : ∃ first rest, entries = first :: rest ∧ predecessor first = none
  linked : entries.IsChain Follows

/-- What entries can have that no chain has. -/
inductive Defect (entries : List (AssumptionPolicyLedgerEntryV3 D)) : Prop where
  | rootless (nonempty : entries ≠ []) (successors : ∀ entry ∈ entries, predecessor entry ≠ none)
  /-- A second genesis, a fork or a repeated entry. -/
  | shared (repeated : ¬ (entries.map predecessor).Nodup)
  | gap (entry : AssumptionPolicyLedgerEntryV3 D) (digest : D) (member : entry ∈ entries)
      (names : predecessor entry = some digest)
      (missing : ∀ other ∈ entries, other.commitReceiptDigest ≠ digest)
  /-- A part that is detached from every genesis. -/
  | cycle (part : List (AssumptionPolicyLedgerEntryV3 D)) (nonempty : part ≠ [])
      (inside : ∀ entry ∈ part, entry ∈ entries)
      (closed : ∀ entry ∈ part, ∃ other ∈ part, predecessor entry = some other.commitReceiptDigest)
  | misplaced (head candidate : AssumptionPolicyLedgerEntryV3 D) (member : head ∈ entries)
      (among : candidate ∈ entries) (names : predecessor candidate = some head.commitReceiptDigest)
      (fails : ¬ Follows head candidate)

theorem succeeds_iff {head candidate : AssumptionPolicyLedgerEntryV3 D} :
    Succeeds head candidate ↔ Follows head candidate := by
  rw [Succeeds, validateSuccessorPositionV3, require_bind_ok, require_ok]
  constructor
  · rintro ⟨⟨policy, commit⟩, later⟩
    exact ⟨policy, commit, later⟩
  · rintro ⟨policy, commit, later⟩
    exact ⟨⟨policy, commit⟩, later⟩

/-! ### Commits name payloads -/

theorem AssumptionPolicyLedgerEntryV3.signed (entry : AssumptionPolicyLedgerEntryV3 D) :
    entry.policyCommit.signingPayloadDigest = entry.signingPayload.signingPayloadDigest := by
  obtain ⟨rule, -, checked⟩ := bind_ok.mp entry.bound
  obtain ⟨-, -, every⟩ := require_ok.mp checked
  exact every (entry.policyCommit.signingPayloadDigest, entry.signingPayload.signingPayloadDigest)
    (by simp [PolicyEnvelope.bindings])

/-- Entries of one commit take effect together. -/
theorem sequence_of_commit {a b : AssumptionPolicyLedgerEntryV3 D}
    (same : a.commitReceiptDigest = b.commitReceiptDigest) :
    a.effectiveFromSequence = b.effectiveFromSequence := by
  have commits := domainDigest_inj same
  simp only [AssumptionAuthorityPolicyCommitV3.unsignedMembers, Json.obj.injEq, List.cons.injEq,
    Prod.mk.injEq, true_and, and_true] at commits
  have payloads := digestValue_inj commits.2
  rw [a.signed, b.signed] at payloads
  have members := domainDigest_inj payloads
  simp only [AssumptionPolicySigningPayload.unsignedMembers, Json.obj.injEq, List.cons.injEq,
    Prod.mk.injEq, true_and, Json.int.injEq] at members
  exact Int.ofNat.inj members.2.2.2.2.1

/-! ### Chains -/

variable {first current : AssumptionPolicyLedgerEntryV3 D}
  {entries ordered front rest : List (AssumptionPolicyLedgerEntryV3 D)}

theorem ascending_of_linked (linked : entries.IsChain Follows) :
    entries.Pairwise fun a b => a.effectiveFromSequence < b.effectiveFromSequence := by
  have chain : (entries.map (·.effectiveFromSequence)).IsChain (· < ·) :=
    List.isChain_map_of_isChain _ (fun _ _ follows => follows.later) linked
  exact List.pairwise_map.mp (List.isChain_iff_pairwise.mp chain)

theorem exists_followed (linked : (first :: rest).IsChain Follows) :
    ∀ entry ∈ rest, ∃ head ∈ first :: rest, Follows head entry := by
  induction rest generalizing first with
  | nil => exact nofun
  | cons next rest ih =>
      obtain ⟨follows, later⟩ := List.isChain_cons_cons.mp linked
      intro entry member
      rcases List.mem_cons.mp member with rfl | member
      · exact ⟨first, List.mem_cons_self, follows⟩
      · obtain ⟨head, among, before⟩ := ih later entry member
        exact ⟨head, List.mem_cons_of_mem _ among, before⟩

namespace IsPolicyChain

theorem follows_some (chain : IsPolicyChain entries) {entry : AssumptionPolicyLedgerEntryV3 D}
    (member : entry ∈ entries) (successor : predecessor entry ≠ none) :
    ∃ head ∈ entries, Follows head entry := by
  obtain ⟨first, rest, rfl, root⟩ := chain.genesis
  rcases List.mem_cons.mp member with rfl | later
  · exact absurd root successor
  · exact exists_followed chain.linked entry later

/-- Entries of one commit are one entry, because the sequences increase. -/
theorem eq_of_commit (chain : IsPolicyChain entries) {a b : AssumptionPolicyLedgerEntryV3 D}
    (left : a ∈ entries) (right : b ∈ entries)
    (same : a.commitReceiptDigest = b.commitReceiptDigest) : a = b := by
  have ascending := ascending_of_linked chain.linked
  have distinct : (entries.map (·.effectiveFromSequence)).Nodup :=
    (List.pairwise_map.mpr ascending).imp fun less => Nat.ne_of_lt less
  exact List.inj_on_of_nodup_map distinct left right (sequence_of_commit same)

/-- The entry that another one names is the one it follows. -/
theorem follows_named (chain : IsPolicyChain entries) {head entry : AssumptionPolicyLedgerEntryV3 D}
    (among : head ∈ entries) (member : entry ∈ entries)
    (names : predecessor entry = some head.commitReceiptDigest) : Follows head entry := by
  obtain ⟨other, inside, follows⟩ := chain.follows_some member (by rw [names]; exact nofun)
  have same := Option.some.inj (follows.commit.symm.trans names)
  rwa [chain.eq_of_commit inside among same] at follows

end IsPolicyChain

/-- The entries after the first one name different commits. -/
theorem predecessors_of_linked (linked : (first :: rest).IsChain Follows) :
    (rest.map predecessor).Nodup := by
  induction rest generalizing first with
  | nil => exact List.nodup_nil
  | cons next rest ih =>
      obtain ⟨follows, later⟩ := List.isChain_cons_cons.mp linked
      rw [List.map_cons, List.nodup_cons]
      refine ⟨?_, ih later⟩
      intro repeated
      obtain ⟨entry, member, same⟩ := List.mem_map.mp repeated
      obtain ⟨head, among, before⟩ := exists_followed later entry member
      have commits := Option.some.inj (before.commit.symm.trans (same.trans follows.commit))
      have below := (List.pairwise_cons.mp (ascending_of_linked linked)).1 head among
      have equal := sequence_of_commit commits
      omega

theorem IsPolicyChain.predecessors (chain : IsPolicyChain entries) :
    (entries.map predecessor).Nodup := by
  obtain ⟨first, rest, rfl, root⟩ := chain.genesis
  rw [List.map_cons, List.nodup_cons]
  refine ⟨?_, predecessors_of_linked chain.linked⟩
  intro repeated
  obtain ⟨entry, member, same⟩ := List.mem_map.mp repeated
  obtain ⟨head, -, before⟩ := exists_followed chain.linked entry member
  rw [before.commit, root] at same
  cases same

/-- An entry has no successor but the next one. -/
theorem children_of_chain (chain : IsPolicyChain (front ++ current :: rest)) :
    children (front ++ current :: rest) current.commitReceiptDigest = rest.head?.toList := by
  obtain ⟨-, linked, -⟩ := List.isChain_append.mp chain.linked
  cases rest with
  | nil =>
      rw [List.head?_nil, Option.toList_none, children, List.filter_eq_nil_iff]
      intro entry member names
      have follows := chain.follows_named (by simp) member (of_decide_eq_true names)
      have above := follows.later
      have ascending := ascending_of_linked chain.linked
      obtain ⟨-, -, across⟩ := List.pairwise_append.mp ascending
      rcases List.mem_append.mp member with earlier | last
      · have below := across entry earlier current List.mem_cons_self
        omega
      · rw [List.mem_singleton.mp last] at above
        omega
  | cons next rest =>
      obtain ⟨follows, -⟩ := List.isChain_cons_cons.mp linked
      have member : next ∈ front ++ current :: next :: rest := by simp
      have alone := Keyed.filter_key chain.predecessors member
      rwa [follows.commit] at alone

/-! ### The walk -/

theorem commit_unvisited {visited : List D} (chain : IsPolicyChain (front ++ current :: rest))
    (seen : ∀ digest ∈ visited, ∃ entry ∈ front, entry.commitReceiptDigest = digest) :
    current.commitReceiptDigest ∉ visited := by
  intro again
  obtain ⟨entry, earlier, same⟩ := seen _ again
  obtain ⟨-, -, across⟩ := List.pairwise_append.mp (ascending_of_linked chain.linked)
  have below := across entry earlier current List.mem_cons_self
  have equal := sequence_of_commit same
  omega

/-- The walk returns what is left of a chain. -/
theorem followChain_chain {fuel : Nat} {visited : List D}
    (chain : IsPolicyChain (front ++ current :: rest)) (enough : rest.length < fuel)
    (seen : ∀ digest ∈ visited, ∃ entry ∈ front, entry.commitReceiptDigest = digest) :
    followChain (front ++ current :: rest) fuel visited current = .ok (current :: rest) := by
  induction fuel generalizing front current rest visited with
  | zero => exact absurd enough (Nat.not_lt_zero _)
  | succ fuel ih =>
      rw [followChain, require_bind_ok, children_of_chain chain]
      refine ⟨commit_unvisited chain seen, ?_⟩
      cases rest with
      | nil => rfl
      | cons next rest =>
          obtain ⟨-, linked, -⟩ := List.isChain_append.mp chain.linked
          obtain ⟨follows, -⟩ := List.isChain_cons_cons.mp linked
          have moved : front ++ current :: next :: rest = (front ++ [current]) ++ next :: rest := by
            simp
          rw [moved] at chain ⊢
          have onwards := @ih next (front ++ [current]) rest
            (current.commitReceiptDigest :: visited) chain (by rw [List.length_cons] at enough; omega) (by
              intro digest among
              rcases List.mem_cons.mp among with rfl | earlier
              · exact ⟨current, by simp, rfl⟩
              · obtain ⟨entry, member, same⟩ := seen digest earlier
                exact ⟨entry, List.mem_append_left _ member, same⟩)
          exact bind_ok.mpr ⟨(), succeeds_iff.mpr follows, bind_ok.mpr ⟨_, onwards, rfl⟩⟩

/-- The loop, stopped after a number of turns: nothing when it has not ended by then. -/
def walkTurns (entries : List (AssumptionPolicyLedgerEntryV3 D)) :
    Nat → List D → AssumptionPolicyLedgerEntryV3 D →
    Option (Except PolicyError (List (AssumptionPolicyLedgerEntryV3 D)))
  | 0, _, _ => none
  | turns + 1, visited, current =>
      if current.commitReceiptDigest ∈ visited then
        some (.error (.activation "ASSUMPTION_POLICY_LEDGER_V3_CYCLE"))
      else
        match children entries current.commitReceiptDigest with
        | [] => some (.ok [current])
        | [successor] =>
            match validateSuccessorPositionV3 current successor with
            | .error error => some (.error error)
            | .ok () =>
                (walkTurns entries turns (current.commitReceiptDigest :: visited) successor).map
                  fun result => result.map (current :: ·)
        | _ :: _ :: _ => some (.error (.activation "ASSUMPTION_POLICY_LEDGER_V3_CHAIN_FORK"))

/-- The loop ends on every graph of references: each turn visits a commit that was not visited. -/
theorem walkTurns_ends {turns : Nat} {visited : List D} (member : current ∈ entries)
    (seen : ∀ digest ∈ visited, digest ∈ entries.map (·.commitReceiptDigest))
    (distinct : visited.Nodup) (enough : entries.length < visited.length + turns) :
    walkTurns entries turns visited current = some (followChain entries turns visited current) := by
  induction turns generalizing visited current with
  | zero =>
      have bounded := (distinct.subperm seen).length_le
      rw [List.length_map] at bounded
      omega
  | succ turns ih =>
      rw [walkTurns, followChain]
      by_cases again : current.commitReceiptDigest ∈ visited
      · rw [if_pos again, require, if_neg (not_not.mpr again)]
        rfl
      · rw [if_neg again, require, if_pos again]
        cases listed : children entries current.commitReceiptDigest with
        | nil => rfl
        | cons successor others =>
            cases others with
            | cons second others => rfl
            | nil =>
                have child : successor ∈ entries :=
                  mem_children (by rw [listed]; exact List.mem_cons_self)
                have grown : ∀ digest ∈ current.commitReceiptDigest :: visited,
                    digest ∈ entries.map (·.commitReceiptDigest) := by
                  intro digest among
                  rcases List.mem_cons.mp among with rfl | earlier
                  · exact List.mem_map_of_mem member
                  · exact seen digest earlier
                have onwards := ih child grown (List.nodup_cons.mpr ⟨again, distinct⟩)
                  (by rw [List.length_cons]; omega)
                cases placed : validateSuccessorPositionV3 current successor with
                | error error => simp [placed]; rfl
                | ok checked =>
                    simp only [placed, onwards, Option.map_some]
                    cases followChain entries turns (current.commitReceiptDigest :: visited)
                      successor with
                    | error error => rfl
                    | ok path => rfl

/-! ### The order -/

theorem orderPolicyEntriesV3_chain (chain : IsPolicyChain entries) :
    orderPolicyEntriesV3 entries = .ok entries := by
  have alone : entries.filter (fun entry : AssumptionPolicyLedgerEntryV3 D =>
      entry.signingPayload.predecessorCommitReceiptDigest = none) = entries.head?.toList := by
    obtain ⟨first, rest, rfl, root⟩ := chain.genesis
    have single := Keyed.filter_key chain.predecessors
      (List.mem_cons_self : first ∈ first :: rest)
    rwa [root] at single
  obtain ⟨first, rest, rfl, -⟩ := chain.genesis
  have walked := @followChain_chain _ _ _ _ first [] rest _ [] chain
    (Nat.lt_succ_of_lt (Nat.lt_succ_self _)) nofun
  rw [orderPolicyEntriesV3, alone]
  exact bind_ok.mpr ⟨first :: rest, walked, require_bind_ok.mpr ⟨rfl, rfl⟩⟩

theorem chain_of_orderPolicyEntriesV3 (succeeded : orderPolicyEntriesV3 entries = .ok ordered)
    (nonempty : ordered ≠ []) : IsPolicyChain ordered := by
  have linked := (orderPolicyEntriesV3_spec succeeded).1.chain.imp fun _ _ => succeeds_iff.mp
  refine ⟨?_, linked⟩
  unfold orderPolicyEntriesV3 at succeeded
  split at succeeded
  · cases succeeded
    exact absurd rfl nonempty
  · rename_i entry more
    split at succeeded
    · rename_i genesis first
      obtain ⟨path, followed, succeeded⟩ := bind_ok.mp succeeded
      obtain ⟨-, same⟩ := require_bind_ok.mp succeeded
      cases same
      obtain ⟨rest, rfl, -⟩ := followChain_spec followed
      have root : genesis ∈ (entry :: more).filter fun entry : AssumptionPolicyLedgerEntryV3 D =>
          entry.signingPayload.predecessorCommitReceiptDigest = none := by
        rw [first]
        exact List.mem_cons_self
      exact ⟨genesis, rest, rfl, of_decide_eq_true (List.mem_filter.mp root).2⟩
    · cases succeeded

theorem orderPolicyEntriesV3_ok_iff : orderPolicyEntriesV3 entries = .ok ordered ↔
    ordered.Perm entries ∧ (ordered = [] ∨ IsPolicyChain ordered) := by
  constructor
  · intro succeeded
    refine ⟨(orderPolicyEntriesV3_spec succeeded).2, ?_⟩
    by_cases empty : ordered = []
    · exact .inl empty
    · exact .inr (chain_of_orderPolicyEntriesV3 succeeded empty)
  · rintro ⟨same, rfl | chain⟩
    · cases same.nil_eq
      rfl
    · rw [← orderPolicyEntriesV3_perm same]
      exact orderPolicyEntriesV3_chain chain

namespace Defect

/-- A chain has no defect, in whatever order its entries are listed. -/
theorem not_chain (defect : Defect entries) (same : ordered.Perm entries) :
    ¬ IsPolicyChain ordered := by
  intro chain
  cases defect with
  | rootless nonempty successors =>
      obtain ⟨first, rest, rfl, root⟩ := chain.genesis
      exact successors first (same.mem_iff.mp List.mem_cons_self) root
  | shared repeated => exact repeated ((same.map predecessor).nodup_iff.mp chain.predecessors)
  | gap entry digest member names missing =>
      obtain ⟨head, among, follows⟩ :=
        chain.follows_some (same.mem_iff.mpr member) (by rw [names]; exact nofun)
      exact missing head (same.mem_iff.mp among) (Option.some.inj (follows.commit.symm.trans names))
  | cycle part nonempty inside closed =>
      -- the references of the part would descend without end
      have descent : ∀ sequence, ∀ entry ∈ part, entry.effectiveFromSequence = sequence → False := by
        intro sequence
        induction sequence using Nat.strong_induction_on with
        | _ sequence ih =>
            rintro entry member rfl
            obtain ⟨other, among, names⟩ := closed entry member
            have follows := chain.follows_named (same.mem_iff.mpr (inside other among))
              (same.mem_iff.mpr (inside entry member)) names
            exact ih other.effectiveFromSequence follows.later other among rfl
      obtain ⟨entry, member⟩ := List.exists_mem_of_ne_nil part nonempty
      exact descent entry.effectiveFromSequence entry member rfl
  | misplaced head candidate member among names fails =>
      exact fails (chain.follows_named (same.mem_iff.mpr member) (same.mem_iff.mpr among) names)

theorem nonempty (defect : Defect entries) : entries ≠ [] := by
  rintro rfl
  cases defect with
  | rootless nonempty _ => exact nonempty rfl
  | shared repeated => exact repeated List.nodup_nil
  | gap _ _ member _ _ => cases member
  | cycle part nonempty inside _ =>
      obtain ⟨entry, member⟩ := List.exists_mem_of_ne_nil part nonempty
      cases inside entry member
  | misplaced _ _ member _ _ _ => cases member

end Defect

/-- Entries are ordered exactly when they are a chain, and as that chain; the walk ends. -/
theorem orderPolicyEntriesV3_exact (entries : List (AssumptionPolicyLedgerEntryV3 D)) :
    (∀ listed, listed.Perm entries → orderPolicyEntriesV3 listed = orderPolicyEntriesV3 entries) ∧
    (∀ ordered, orderPolicyEntriesV3 entries = .ok ordered ↔
      ordered.Perm entries ∧ (ordered = [] ∨ IsPolicyChain ordered)) ∧
    (Defect entries → ∃ error, orderPolicyEntriesV3 entries = .error error) ∧
    ∀ genesis ∈ entries, walkTurns entries (entries.length + 1) [] genesis =
      some (followChain entries (entries.length + 1) [] genesis) := by
  refine ⟨fun _ => orderPolicyEntriesV3_perm, fun _ => orderPolicyEntriesV3_ok_iff, ?_, ?_⟩
  · intro defect
    cases result : orderPolicyEntriesV3 entries with
    | error error => exact ⟨error, rfl⟩
    | ok ordered =>
        obtain ⟨same, rfl | chain⟩ := orderPolicyEntriesV3_ok_iff.mp result
        · exact absurd same.nil_eq.symm defect.nonempty
        · exact absurd chain (defect.not_chain same)
  · intro genesis member
    exact walkTurns_ends member nofun List.nodup_nil (by simp)

/-- No entries are ordered too, although they have no genesis. -/
theorem empty_ordered :
    orderPolicyEntriesV3 ([] : List (AssumptionPolicyLedgerEntryV3 (List Nat))) = .ok [] ∧
    ¬ IsPolicyChain ([] : List (AssumptionPolicyLedgerEntryV3 (List Nat))) := by
  refine ⟨rfl, fun chain => ?_⟩
  obtain ⟨first, rest, shape, -⟩ := chain.genesis
  cases shape

end CsdFoundry.Policy
