import CsdFoundry.Synthesis.Attempts
import Mathlib.Order.Bounds.Basic

/-! The resolution of a collection of attempts in whatever order they arrive. -/
namespace CsdFoundry.Synthesis
variable {D : Type}

/-- What a nonempty collection of attempts is refused for. -/
inductive Malformed (range : AttemptRange) (completions : List (AttemptCompletion D)) : Prop where
  | duplicate (repeated : ¬ (completions.map (·.attemptIndex)).Nodup)
  | outside (item : AttemptCompletion D) (member : item ∈ completions)
      (beyond : range.maximumAttempts ≤ item.attemptIndex)
  | foreignSample (a b : AttemptCompletion D) (left : a ∈ completions) (right : b ∈ completions)
      (differ : a.sampleKey ≠ b.sampleKey)
  | foreignNamespace (a b : AttemptCompletion D) (left : a ∈ completions) (right : b ∈ completions)
      (differ : a.generationNamespaceDigest ≠ b.generationNamespaceDigest)
  | acceptances (a b : AttemptCompletion D) (left : a ∈ completions) (right : b ∈ completions)
      (differ : a ≠ b) (first : a.isAccepted = true) (second : b.isAccepted = true)
  | afterAcceptance (a b : AttemptCompletion D) (left : a ∈ completions) (right : b ∈ completions)
      (accepted : a.isAccepted = true) (later : a.attemptIndex < b.attemptIndex)

/-- The indices are `0` to `k`, and only `k` is accepted. -/
structure AcceptedAt (completions : List (AttemptCompletion D)) (k : Nat) : Prop where
  indices : ∀ index, (∃ item ∈ completions, item.attemptIndex = index) ↔ index ≤ k
  alone : ∀ item ∈ completions, item.isAccepted = true ↔ item.attemptIndex = k

/-- Every attempt of the range is there and rejected. -/
structure AllRejected (range : AttemptRange) (completions : List (AttemptCompletion D)) :
    Prop where
  indices : ∀ index,
    (∃ item ∈ completions, item.attemptIndex = index) ↔ index < range.maximumAttempts
  rejected : ∀ item ∈ completions, ¬ item.isAccepted = true

/-- The first index that no attempt has. -/
def LeastMissing (completions : List (AttemptCompletion D)) (index : Nat) : Prop :=
  IsLeast { k | ∀ item ∈ completions, item.attemptIndex ≠ k } index

/-- The checks of `AcceptedSampleReplay.__post_init__`. -/
structure AcceptedSampleReplay.PostInit (replay : AcceptedSampleReplay D) : Prop where
  inside : replay.attemptRange.contains replay.acceptedAttempt.attemptIndex = true
  sample : replay.acceptedAttempt.sampleKey = replay.sampleKey
  samples : ∀ item ∈ replay.rejectedPrefix, item.sampleKey = replay.sampleKey
  namespaces : ∀ item ∈ replay.rejectedPrefix,
    item.generationNamespaceDigest = replay.acceptedAttempt.generationNamespaceDigest
  contained : ∀ item ∈ replay.rejectedPrefix,
    replay.attemptRange.contains item.attemptIndex = true
  lower : replay.rejectedPrefix.map (·.attemptIndex) =
    List.range replay.acceptedAttempt.attemptIndex

/-- The checks of `ExhaustionEvidence.__post_init__`. -/
structure ExhaustionEvidence.PostInit (evidence : ExhaustionEvidence D) : Prop where
  complete : evidence.rejectedAttempts.length = evidence.attemptRange.maximumAttempts
  contiguous : evidence.rejectedAttempts.map (·.1.attemptIndex) =
    List.range evidence.attemptRange.maximumAttempts
  samples : ∀ item ∈ evidence.rejectedAttempts, item.1.sampleKey = evidence.sampleKey
  namespaces : ∀ item ∈ evidence.rejectedAttempts,
    item.1.generationNamespaceDigest = evidence.generationNamespaceDigest

/-- What a resolution says of the attempts it is about. -/
inductive Resolves (range : AttemptRange) (completions : List (AttemptCompletion D)) :
    AttemptResolution D → Prop where
  | accepted (replay : AcceptedSampleReplay D) (built : replay.PostInit)
      (place : AcceptedAt completions replay.acceptedAttempt.attemptIndex)
      (member : replay.acceptedAttempt ∈ completions)
      (chosen : replay.acceptedAttempt.outcome = .accepted replay.result)
      (lower : ∀ item, item ∈ replay.rejectedPrefix ↔ item ∈ completions ∧ ¬ item.isAccepted = true) :
      Resolves range completions (.accepted replay)
  | exhausted (evidence : ExhaustionEvidence D) (built : evidence.PostInit)
      (all : AllRejected range completions)
      (same : ∀ item, (∃ rejection, (item, rejection) ∈ evidence.rejectedAttempts) ↔
        item ∈ completions) :
      Resolves range completions (.exhausted evidence)
  | incomplete (sampleKey : SampleKey) (missing : Nat) (supplied : List Nat)
      (inside : range.contains missing = true)
      (least : LeastMissing completions missing)
      (undecided : ∀ k, ¬ AcceptedAt completions k) (open' : ¬ AllRejected range completions) :
      Resolves range completions (.incomplete sampleKey range missing supplied)

/-! ### Ordered attempts -/

theorem LeastMissing.unique {completions : List (AttemptCompletion D)} {a b : Nat}
    (first : LeastMissing completions a) (second : LeastMissing completions b) : a = b :=
  IsLeast.unique first second

theorem AcceptedAt.not_allRejected {range : AttemptRange} {completions : List (AttemptCompletion D)}
    {k : Nat} (accepted : AcceptedAt completions k) : ¬ AllRejected range completions := by
  intro all
  obtain ⟨item, member, same⟩ := (accepted.indices k).mpr le_rfl
  exact all.rejected item member ((accepted.alone item member).mpr same)

/-- Ordered attempts that no other follows an accepted one. -/
structure Proper [DecidableEq D] (range : AttemptRange) (attempts : List (AttemptCompletion D)) :
    Prop extends Ordered range attempts where
  last : ∀ k item, attempts[k]? = some item → item.isAccepted = true → k + 1 = attempts.length

variable [DecidableEq D]

omit [DecidableEq D] in
theorem sortAttempts_perm (completions : List (AttemptCompletion D)) :
    (completions.insertionSort fun a b => a.attemptIndex ≤ b.attemptIndex).Perm completions :=
  List.perm_insertionSort _ completions

omit [DecidableEq D] in
theorem sortAttempts_ascending {completions : List (AttemptCompletion D)}
    (distinct : (completions.map (·.attemptIndex)).Nodup) :
    (completions.insertionSort fun a b => a.attemptIndex ≤ b.attemptIndex).Pairwise
      fun a b => a.attemptIndex < b.attemptIndex := by
  have weak := List.pairwise_insertionSort
    (fun a b : AttemptCompletion D => a.attemptIndex ≤ b.attemptIndex) completions
  have apart := ((sortAttempts_perm completions).map (·.attemptIndex)).nodup_iff.mpr distinct
  rw [List.nodup_iff_pairwise_ne, List.pairwise_map] at apart
  exact (weak.and apart).imp fun both => lt_of_le_of_ne both.1 both.2

/-- The order of arrival is lost in the sort, and attempts of one index are refused. -/
theorem resolveAttemptPrefix_perm {range : AttemptRange}
    {completions other : List (AttemptCompletion D)} (same : other.Perm completions) :
    resolveAttemptPrefix range other = resolveAttemptPrefix range completions := by
  by_cases distinct : (completions.map (·.attemptIndex)).Nodup
  · have distinct' := (same.map (·.attemptIndex)).nodup_iff.mpr distinct
    have sorted := (((sortAttempts_perm other).trans same).trans
      (sortAttempts_perm completions).symm).eq_of_pairwise
      (fun a b _ _ ab ba => absurd ab (lt_asymm ba)) (sortAttempts_ascending distinct')
      (sortAttempts_ascending distinct)
    rw [resolveAttemptPrefix, resolveAttemptPrefix, sorted]
  · have refused : ∀ attempts : List (AttemptCompletion D), attempts.Perm completions →
        resolveAttemptPrefix range attempts =
          .error (.attemptReplay "attempt completions contain duplicate indices") := by
      intro attempts perm
      have sorts := (sortAttempts_perm attempts).trans perm
      have repeated : ¬ ((attempts.insertionSort
          fun a b => a.attemptIndex ≤ b.attemptIndex).map (·.attemptIndex)).Nodup :=
        fun once => distinct ((sorts.map (·.attemptIndex)).nodup_iff.mp once)
      rw [resolveAttemptPrefix, resolveSorted]
      split
      · rename_i none
        rw [List.head?_eq_none_iff.mp none] at repeated
        exact absurd List.nodup_nil repeated
      · exact require_neg_bind repeated
    rw [refused other same, refused completions (List.Perm.refl _)]

omit [DecidableEq D] in
theorem not_malformed_iff {range : AttemptRange} {completions : List (AttemptCompletion D)} :
    ¬ Malformed range completions ↔
      (completions.map (·.attemptIndex)).Nodup ∧
      (∀ item ∈ completions, item.attemptIndex < range.maximumAttempts) ∧
      (∀ a ∈ completions, ∀ b ∈ completions, a.sampleKey = b.sampleKey) ∧
      (∀ a ∈ completions, ∀ b ∈ completions,
        a.generationNamespaceDigest = b.generationNamespaceDigest) ∧
      ∀ a ∈ completions, ∀ b ∈ completions, a.isAccepted = true →
        b.attemptIndex ≤ a.attemptIndex := by
  constructor
  · intro fine
    have distinct : (completions.map (·.attemptIndex)).Nodup :=
      not_not.mp fun repeated => fine (.duplicate repeated)
    refine ⟨distinct, ?_, ?_, ?_, ?_⟩
    · intro item member
      exact not_le.mp fun beyond => fine (.outside item member beyond)
    · intro a left b right
      exact not_not.mp fun differ => fine (.foreignSample a b left right differ)
    · intro a left b right
      exact not_not.mp fun differ => fine (.foreignNamespace a b left right differ)
    · intro a left b right accepted
      exact not_lt.mp fun later => fine (.afterAcceptance a b left right accepted later)
  · rintro ⟨distinct, inside, samples, namespaces, last⟩ malformed
    cases malformed with
    | duplicate repeated => exact repeated distinct
    | outside item member beyond => exact absurd (inside item member) (not_lt.mpr beyond)
    | foreignSample a b left right differ => exact differ (samples a left b right)
    | foreignNamespace a b left right differ => exact differ (namespaces a left b right)
    | acceptances a b left right differ first second =>
        have same := le_antisymm (last b right a left second) (last a left b right first)
        exact differ (List.inj_on_of_nodup_map distinct left right same)
    | afterAcceptance a b left right accepted later =>
        exact absurd (last a left b right accepted) (not_le.mpr later)

omit [DecidableEq D] in
theorem Malformed.perm {range : AttemptRange} {completions other : List (AttemptCompletion D)}
    (same : other.Perm completions) : Malformed range other ↔ Malformed range completions := by
  have distinct := (same.map (·.attemptIndex)).nodup_iff
  rw [← not_iff_not, not_malformed_iff, not_malformed_iff]
  simp only [same.mem_iff, distinct]

/-- The last place holds the greatest index. -/
theorem proper_iff {range : AttemptRange} {attempts : List (AttemptCompletion D)}
    (ascending : attempts.Pairwise fun a b => a.attemptIndex < b.attemptIndex) :
    Proper range attempts ↔ attempts ≠ [] ∧ ¬ Malformed range attempts := by
  have distinct : (attempts.map (·.attemptIndex)).Nodup :=
    List.pairwise_map.mpr (ascending.imp fun less => ne_of_lt less)
  rw [not_malformed_iff]
  constructor
  · intro proper
    refine ⟨proper.nonempty, distinct, proper.inside, proper.sample, proper.corpus, ?_⟩
    intro a left b right accepted
    obtain ⟨i, here⟩ := List.getElem?_of_mem left
    obtain ⟨j, there⟩ := List.getElem?_of_mem right
    have final := proper.last i a here accepted
    obtain ⟨before, rfl⟩ := List.getElem?_eq_some_iff.mp there
    obtain ⟨bound, rfl⟩ := List.getElem?_eq_some_iff.mp here
    rcases Nat.lt_or_ge j i with less | more
    · exact le_of_lt (List.pairwise_iff_getElem.mp ascending j i before bound less)
    · have same : i = j := by omega
      subst same
      exact le_rfl
  · rintro ⟨some, -, inside, samples, namespaces, last⟩
    refine ⟨⟨some, ascending, inside, samples, namespaces⟩, ?_⟩
    intro k item found accepted
    obtain ⟨bound, rfl⟩ := List.getElem?_eq_some_iff.mp found
    by_contra more
    have next : k + 1 < attempts.length := by omega
    have greater := List.pairwise_iff_getElem.mp ascending k (k + 1) bound next (Nat.lt_succ_self k)
    have least := last _ (List.getElem_mem bound) _ (List.getElem_mem next) accepted
    omega

/-! ### Missing indices -/

theorem firstMissing_spec (indices : List Nat) :
    (∀ j < firstMissing indices, indices[j]? = some j) ∧
      indices[firstMissing indices]? ≠ some (firstMissing indices) := by
  rw [firstMissing]
  generalize found : List.find? _ indices.zipIdx = result
  cases result with
  | none =>
      rw [List.find?_eq_none] at found
      refine ⟨?_, by simp⟩
      intro j inside
      have same := found (indices[j], j) (by simp [List.mem_zipIdx_iff_getElem?])
      have equal : j = indices[j] := by simpa using same
      rw [List.getElem?_eq_getElem inside]
      exact congrArg some equal.symm
  | some entry =>
      obtain ⟨differs, i, bound, rfl, before⟩ := List.find?_eq_some_iff_getElem.mp found
      simp only [List.length_zipIdx] at bound
      simp only [List.getElem_zipIdx, Nat.zero_add] at differs before ⊢
      constructor
      · intro j less
        have same := before j less
        have inside : j < indices.length := by omega
        have equal : j = indices[j] := by simpa using same
        rw [List.getElem?_eq_getElem inside]
        exact congrArg some equal.symm
      · intro same
        rw [List.getElem?_eq_getElem bound] at same
        simp [Option.some.inj same] at differs

omit [DecidableEq D] in
theorem index_ge {attempts : List (AttemptCompletion D)}
    (ascending : attempts.Pairwise fun a b => a.attemptIndex < b.attemptIndex) (k : Nat)
    (bound : k < attempts.length) : k ≤ attempts[k].attemptIndex := by
  induction k with
  | zero => exact Nat.zero_le _
  | succ k ih =>
      have before : k < attempts.length := by omega
      have step := List.pairwise_iff_getElem.mp ascending k (k + 1) before bound
        (Nat.lt_succ_self k)
      have lower := ih before
      omega

omit [DecidableEq D] in
theorem firstMissing_least {attempts : List (AttemptCompletion D)}
    (ascending : attempts.Pairwise fun a b => a.attemptIndex < b.attemptIndex) :
    LeastMissing attempts (firstMissing (attempts.map (·.attemptIndex))) := by
  obtain ⟨before, here⟩ := firstMissing_spec (attempts.map (·.attemptIndex))
  generalize firstMissing (attempts.map (·.attemptIndex)) = m at before here
  constructor
  · intro item member same
    obtain ⟨k, bound, rfl⟩ := List.getElem_of_mem member
    have lower := index_ge ascending k bound
    rcases Nat.lt_or_ge k m with less | more
    · have own := before k less
      rw [List.getElem?_map, List.getElem?_eq_getElem bound] at own
      have equal : attempts[k].attemptIndex = k := Option.some.inj own
      omega
    · have place : k = m := by omega
      subst place
      apply here
      rw [List.getElem?_map, List.getElem?_eq_getElem bound]
      exact congrArg some same
  · intro k absent
    by_contra less
    have own := before k (not_le.mp less)
    rw [List.getElem?_map, Option.map_eq_some_iff] at own
    obtain ⟨item, found, same⟩ := own
    exact absent item (List.mem_of_getElem? found) same

omit [DecidableEq D] in
/-- An index above a missing one leaves the collection undecided. -/
theorem LeastMissing.undecided {range : AttemptRange} {completions : List (AttemptCompletion D)}
    {missing : Nat} (least : LeastMissing completions missing) {item : AttemptCompletion D}
    (member : item ∈ completions) (above : missing < item.attemptIndex) :
    (∀ k, ¬ AcceptedAt completions k) ∧ ¬ AllRejected range completions := by
  constructor
  · intro k accepted
    have inside := (accepted.indices item.attemptIndex).mp ⟨item, member, rfl⟩
    obtain ⟨other, among, same⟩ := (accepted.indices missing).mpr (by omega)
    exact least.1 other among same
  · intro all
    have inside := (all.indices item.attemptIndex).mp ⟨item, member, rfl⟩
    obtain ⟨other, among, same⟩ := (all.indices missing).mpr (by omega)
    exact least.1 other among same

omit [DecidableEq D] in
theorem rejections_map {message : String} {attempts : List (AttemptCompletion D)}
    {found : List (AttemptCompletion D × AttemptRejection D)}
    (rejected : rejections message attempts = .ok found) : found.map (·.1) = attempts := by
  have each := mapM_ok_iff.mp rejected
  clear rejected
  induction each with
  | nil => rfl
  | cons first rest ih =>
      rw [List.map_cons, ih]
      split at first
      · cases first
        rfl
      · cases first

omit [DecidableEq D] in
theorem contiguous_mem {attempts : List (AttemptCompletion D)}
    (contiguous : attempts.map (·.attemptIndex) = List.range attempts.length) (index : Nat) :
    (∃ item ∈ attempts, item.attemptIndex = index) ↔ index < attempts.length := by
  rw [← List.mem_range, ← contiguous, List.mem_map]

omit [DecidableEq D] in
theorem contiguous_index {attempts : List (AttemptCompletion D)}
    (contiguous : attempts.map (·.attemptIndex) = List.range attempts.length) {k : Nat}
    {item : AttemptCompletion D} (found : attempts[k]? = some item) : item.attemptIndex = k := by
  have bound := (List.getElem?_eq_some_iff.mp found).1
  have same : (attempts.map (·.attemptIndex))[k]? = some k := by
    rw [contiguous, List.getElem?_range bound]
  rw [List.getElem?_map, found] at same
  exact Option.some.inj same

/-! ### What comes of it -/

theorem resolveChecked_gap {range : AttemptRange} {attempts : List (AttemptCompletion D)}
    (proper : Proper range attempts) {first : AttemptCompletion D}
    (head : attempts.head? = some first)
    (gap : firstMissing (attempts.map (·.attemptIndex)) < attempts.length) :
    ∃ resolution, resolveChecked range first attempts = .ok resolution ∧
      Resolves range attempts resolution := by
  have least := firstMissing_least proper.ascending
  have before := (firstMissing_spec (attempts.map (·.attemptIndex))).1
  rw [resolveChecked, List.length_map, if_pos (.inl gap)]
  have missing : (if first.attemptIndex ≠ 0 then 0 else
      firstMissing (attempts.map (·.attemptIndex))) =
      firstMissing (attempts.map (·.attemptIndex)) := by
    split
    · rename_i late
      by_contra positive
      have own := before 0 (by omega)
      rw [List.getElem?_map, ← List.head?_eq_getElem?, head] at own
      exact late (Option.some.inj own)
    · rfl
  rw [missing]
  generalize firstMissing (attempts.map (·.attemptIndex)) = m at least gap
  have member : attempts[m] ∈ attempts := List.getElem_mem gap
  have above : m < attempts[m].attemptIndex := by
    have lower := index_ge proper.ascending m gap
    have apart := least.1 _ member
    omega
  have bound := proper.inside _ member
  obtain ⟨undecided, some⟩ := LeastMissing.undecided least member above
  refine ⟨_, rfl, .incomplete _ m _ ?_ least undecided some⟩
  exact decide_eq_true (by omega)

theorem resolveChecked_rejected {range : AttemptRange} {attempts : List (AttemptCompletion D)}
    (proper : Proper range attempts) {first : AttemptCompletion D}
    (head : attempts.head? = some first)
    (contiguous : attempts.map (·.attemptIndex) = List.range attempts.length)
    (rejected : ∀ item ∈ attempts, ¬ item.isAccepted = true) :
    ∃ resolution, resolveChecked range first attempts = .ok resolution ∧
      Resolves range attempts resolution := by
  have covers := contiguous_mem contiguous
  have member : first ∈ attempts := List.mem_of_head? head
  rw [resolveChecked, if_neg ((contiguous_iff head).mpr contiguous),
    if_pos (acceptedPositions_eq_nil.mpr rejected)]
  by_cases short : attempts.length < range.maximumAttempts
  · rw [if_pos short]
    refine ⟨_, rfl, .incomplete _ _ _ (decide_eq_true short) ?_ ?_ ?_⟩
    · constructor
      · intro item among same
        have inside := (covers item.attemptIndex).mp ⟨item, among, rfl⟩
        omega
      · intro k absent
        by_contra less
        obtain ⟨item, among, same⟩ := (covers k).mpr (by omega)
        exact absent item among same
    · intro k accepted
      obtain ⟨item, among, same⟩ := (accepted.indices k).mpr le_rfl
      exact rejected item among ((accepted.alone item among).mpr same)
    · intro all
      have inside := (covers attempts.length).mp ((all.indices attempts.length).mpr short)
      omega
  · rw [if_neg short]
    obtain ⟨found, ok⟩ := rejections_ok _ rejected
    have same := rejections_map ok
    have full : attempts.length = range.maximumAttempts := by
      have last : attempts.length ≠ 0 := by simpa using proper.nonempty
      obtain ⟨item, among, final⟩ := (covers (attempts.length - 1)).mpr (by omega)
      have inside := proper.inside item among
      omega
    have pairs : ∀ item ∈ found, item.1 ∈ attempts := by
      intro item among
      rw [← same]
      exact List.mem_map_of_mem (f := Prod.fst) among
    rw [ok]
    refine ⟨_, rfl, .exhausted _ ⟨?_, ?_, ?_, ?_⟩ ⟨?_, rejected⟩ ?_⟩
    · have lengths := congrArg List.length same
      rw [List.length_map] at lengths
      exact lengths.trans full
    · have indices := congrArg (List.map (·.attemptIndex)) same
      rw [contiguous, full, List.map_map] at indices
      exact indices
    · exact fun item among => proper.sample _ (pairs item among) first member
    · exact fun item among => proper.corpus _ (pairs item among) first member
    · intro index
      rw [covers, full]
    · intro item
      rw [← same, List.mem_map]
      constructor
      · rintro ⟨rejection, among⟩
        exact ⟨_, among, rfl⟩
      · rintro ⟨⟨_, rejection⟩, among, rfl⟩
        exact ⟨rejection, among⟩

theorem resolveChecked_accepted {range : AttemptRange} {attempts : List (AttemptCompletion D)}
    (proper : Proper range attempts) {first item : AttemptCompletion D}
    (head : attempts.head? = some first)
    (contiguous : attempts.map (·.attemptIndex) = List.range attempts.length)
    (member : item ∈ attempts) (accepted : item.isAccepted = true) :
    ∃ resolution, resolveChecked range first attempts = .ok resolution ∧
      Resolves range attempts resolution := by
  have covers := contiguous_mem contiguous
  have heading : first ∈ attempts := List.mem_of_head? head
  have some : acceptedPositions attempts ≠ [] :=
    fun none => acceptedPositions_eq_nil.mp none item member accepted
  obtain ⟨k, found⟩ := List.getElem?_of_mem member
  have final := proper.last k item found accepted
  have place := contiguous_index contiguous found
  have cut : attempts = attempts.dropLast ++ [item] := by
    have last : attempts.getLast? = Option.some item := by
      rw [List.getLast?_eq_getElem?, ← found]
      congr 1
      omega
    exact (List.dropLast_append_getLast? item last).symm
  have alone : ∀ other ∈ attempts, other.isAccepted = true ↔ other.attemptIndex = k := by
    intro other among
    obtain ⟨j, there⟩ := List.getElem?_of_mem among
    have index := contiguous_index contiguous there
    constructor
    · intro accepts
      have final' := proper.last j other there accepts
      omega
    · intro same
      have equal : j = k := by omega
      subst equal
      rw [found] at there
      rw [← Option.some.inj there]
      exact accepted
  have lower : ∀ other, other ∈ attempts.dropLast ↔ other ∈ attempts ∧ ¬ other.isAccepted = true := by
    intro other
    have ascending := proper.ascending
    rw [cut, List.pairwise_append] at ascending
    constructor
    · intro among
      have inside := List.mem_of_mem_dropLast among
      refine ⟨inside, fun accepts => ?_⟩
      have less := ascending.2.2 other among item List.mem_cons_self
      have same := (alone other inside).mp accepts
      omega
    · rintro ⟨among, rejected⟩
      rw [cut, List.mem_append, List.mem_singleton] at among
      rcases among with early | rfl
      · exact early
      · exact absurd accepted rejected
  obtain ⟨others, ok⟩ := rejections_ok _ fun other among => ((lower other).mp among).2
  have inside := proper.inside item member
  have last : attempts.getLast? = Option.some item := by rw [cut, List.getLast?_append_cons]; rfl
  rw [resolveChecked, if_neg ((contiguous_iff head).mpr contiguous), if_neg some, last]
  cases outcome : item.outcome with
  | rejected rejection => simp [AttemptCompletion.isAccepted, outcome] at accepted
  | accepted result =>
      simp only [outcome]
      rw [ok]
      refine ⟨_, rfl, .accepted _ ⟨?_, ?_, ?_, ?_, ?_, ?_⟩ ⟨?_, ?_⟩ member outcome lower⟩
      · exact decide_eq_true inside
      · exact proper.sample item member first heading
      · exact fun other among => proper.sample other ((lower other).mp among).1 first heading
      · exact fun other among => proper.corpus other ((lower other).mp among).1 item member
      · intro other among
        exact decide_eq_true (proper.inside other ((lower other).mp among).1)
      · have indices := congrArg List.dropLast contiguous
        rw [← List.map_dropLast] at indices
        rw [indices, place, ← final, List.range_succ, List.dropLast_concat]
      · intro index
        rw [covers, place]
        omega
      · rw [place]
        exact alone

theorem resolveChecked_resolves {range : AttemptRange} {attempts : List (AttemptCompletion D)}
    (proper : Proper range attempts) {first : AttemptCompletion D}
    (head : attempts.head? = some first) :
    ∃ resolution, resolveChecked range first attempts = .ok resolution ∧
      Resolves range attempts resolution := by
  by_cases gap : firstMissing (attempts.map (·.attemptIndex)) < attempts.length
  · exact resolveChecked_gap proper head gap
  · rw [← List.length_map (f := (·.attemptIndex)), firstMissing_iff, List.length_map] at gap
    by_cases rejected : ∀ item ∈ attempts, ¬ item.isAccepted = true
    · exact resolveChecked_rejected proper head gap rejected
    · push Not at rejected
      obtain ⟨item, member, accepted⟩ := rejected
      exact resolveChecked_accepted proper head gap member accepted

/-- Only ordered attempts with nothing after an acceptance get past the checks. -/
theorem resolveSorted_proper {range : AttemptRange} {attempts : List (AttemptCompletion D)}
    (ascending : attempts.Pairwise fun a b => a.attemptIndex ≤ b.attemptIndex)
    {resolution : AttemptResolution D} (resolved : resolveSorted range attempts = .ok resolution) :
    Proper range attempts := by
  rw [resolveSorted] at resolved
  split at resolved
  · cases resolved
  · rename_i first head
    simp only [require_bind_ok] at resolved
    obtain ⟨distinct, inside, samples, namespaces, one, last, -⟩ := resolved
    rw [List.nodup_iff_pairwise_ne, List.pairwise_map] at distinct
    have within : ∀ item ∈ attempts, item.attemptIndex < range.maximumAttempts := by
      simpa [AttemptRange.contains] using inside
    refine ⟨⟨?_, ?_, within, ?_, ?_⟩, acceptedPositions_last_iff.mp ⟨one, last⟩⟩
    · rintro rfl
      cases head
    · exact (ascending.and distinct).imp fun both => lt_of_le_of_ne both.1 both.2
    · exact fun a left b right => (samples a left).trans (samples b right).symm
    · exact fun a left b right => (namespaces a left).trans (namespaces b right).symm

omit [DecidableEq D] in
theorem AcceptedAt.perm {completions other : List (AttemptCompletion D)}
    (same : other.Perm completions) {k : Nat} : AcceptedAt other k ↔ AcceptedAt completions k := by
  constructor
  · rintro ⟨indices, alone⟩
    exact ⟨by simpa only [same.mem_iff] using indices, by simpa only [same.mem_iff] using alone⟩
  · rintro ⟨indices, alone⟩
    exact ⟨by simpa only [same.mem_iff] using indices, by simpa only [same.mem_iff] using alone⟩

omit [DecidableEq D] in
theorem AllRejected.perm {range : AttemptRange} {completions other : List (AttemptCompletion D)}
    (same : other.Perm completions) : AllRejected range other ↔ AllRejected range completions := by
  constructor
  · rintro ⟨indices, rejected⟩
    exact ⟨by simpa only [same.mem_iff] using indices, by simpa only [same.mem_iff] using rejected⟩
  · rintro ⟨indices, rejected⟩
    exact ⟨by simpa only [same.mem_iff] using indices, by simpa only [same.mem_iff] using rejected⟩

omit [DecidableEq D] in
theorem LeastMissing.perm {completions other : List (AttemptCompletion D)}
    (same : other.Perm completions) {k : Nat} : LeastMissing other k ↔ LeastMissing completions k := by
  rw [LeastMissing, LeastMissing]
  simp only [same.mem_iff]

omit [DecidableEq D] in
theorem Resolves.perm {range : AttemptRange} {completions other : List (AttemptCompletion D)}
    (same : other.Perm completions) {resolution : AttemptResolution D}
    (resolves : Resolves range other resolution) : Resolves range completions resolution := by
  cases resolves with
  | accepted replay built place member chosen lower =>
      refine .accepted replay built ((AcceptedAt.perm same).mp place) (same.mem_iff.mp member)
        chosen ?_
      simpa only [same.mem_iff] using lower
  | exhausted evidence built all among =>
      refine .exhausted evidence built ((AllRejected.perm same).mp all) ?_
      simpa only [same.mem_iff] using among
  | incomplete sampleKey missing supplied inside least undecided some =>
      refine .incomplete sampleKey missing supplied inside ((LeastMissing.perm same).mp least) ?_ ?_
      · exact fun k accepted => undecided k ((AcceptedAt.perm same).mpr accepted)
      · exact fun all => some ((AllRejected.perm same).mpr all)

/-- A collection is refused, or resolved to what its indices say. -/
theorem resolveAttemptPrefix_cases (range : AttemptRange)
    (completions : List (AttemptCompletion D)) :
    ((completions = [] ∨ Malformed range completions) ∧
      ∃ error, resolveAttemptPrefix range completions = .error error) ∨
    ((completions ≠ [] ∧ ¬ Malformed range completions) ∧
      ∃ resolution, resolveAttemptPrefix range completions = .ok resolution ∧
        Resolves range completions resolution) := by
  have perm := sortAttempts_perm completions
  have empty : (completions.insertionSort fun a b => a.attemptIndex ≤ b.attemptIndex) = [] ↔
      completions = [] := by
    rw [← List.length_eq_zero_iff, ← List.length_eq_zero_iff, perm.length_eq]
  by_cases fine : completions ≠ [] ∧ ¬ Malformed range completions
  · right
    have ascending := sortAttempts_ascending (not_malformed_iff.mp fine.2).1
    have some : (completions.insertionSort fun a b => a.attemptIndex ≤ b.attemptIndex) ≠ [] :=
      fun none => fine.1 (empty.mp none)
    have proper : Proper range _ := (proper_iff ascending).mpr
      ⟨some, fun malformed => fine.2 ((Malformed.perm perm).mp malformed)⟩
    obtain ⟨first, head⟩ : ∃ first, List.head? _ = Option.some first :=
      Option.isSome_iff_exists.mp (List.isSome_head?.mpr some)
    obtain ⟨resolution, checked, resolves⟩ := resolveChecked_resolves proper head
    refine ⟨fine, resolution, ?_, resolves.perm perm⟩
    rw [← resolveAttemptPrefix_perm perm]
    exact (resolveAttemptPrefix_ok_iff proper.toOrdered head).mpr
      ⟨acceptedPositions_last_iff.mpr proper.last, checked⟩
  · left
    constructor
    · by_contra other
      exact fine (not_or.mp other)
    · cases resolved : resolveAttemptPrefix range completions with
      | error error => exact ⟨error, rfl⟩
      | ok resolution =>
          exfalso
          have proper := resolveSorted_proper (List.pairwise_insertionSort _ completions) resolved
          obtain ⟨some, well⟩ := (proper_iff proper.ascending).mp proper
          exact fine ⟨fun none => some (empty.mpr none),
            fun malformed => well ((Malformed.perm perm).mpr malformed)⟩

theorem resolveAttemptPrefix_error_iff {range : AttemptRange}
    {completions : List (AttemptCompletion D)} :
    (∃ error, resolveAttemptPrefix range completions = .error error) ↔
      completions = [] ∨ Malformed range completions := by
  rcases resolveAttemptPrefix_cases range completions with
    ⟨malformed, error, failed⟩ | ⟨fine, resolution, resolved, -⟩
  · exact ⟨fun _ => malformed, fun _ => ⟨error, failed⟩⟩
  · rw [resolved]
    constructor
    · rintro ⟨error, impossible⟩
      cases impossible
    · rintro (none | malformed)
      · exact absurd none fine.1
      · exact absurd malformed fine.2

theorem resolveAttemptPrefix_resolves {range : AttemptRange}
    {completions : List (AttemptCompletion D)} {resolution : AttemptResolution D}
    (resolved : resolveAttemptPrefix range completions = .ok resolution) :
    (completions ≠ [] ∧ ¬ Malformed range completions) ∧
      Resolves range completions resolution := by
  rcases resolveAttemptPrefix_cases range completions with
    ⟨-, error, failed⟩ | ⟨fine, other, same, resolves⟩
  · rw [failed] at resolved
    cases resolved
  · rw [same] at resolved
    cases resolved
    exact ⟨fine, resolves⟩

theorem resolveAttemptPrefix_accepted_iff {range : AttemptRange}
    {completions : List (AttemptCompletion D)} :
    (∃ replay, resolveAttemptPrefix range completions = .ok (.accepted replay)) ↔
      (completions ≠ [] ∧ ¬ Malformed range completions) ∧ ∃ k, AcceptedAt completions k := by
  constructor
  · rintro ⟨replay, resolved⟩
    obtain ⟨fine, resolves⟩ := resolveAttemptPrefix_resolves resolved
    cases resolves with
    | accepted _ built place => exact ⟨fine, _, place⟩
  · rintro ⟨fine, k, place⟩
    rcases resolveAttemptPrefix_cases range completions with
      ⟨none | malformed, -⟩ | ⟨-, resolution, resolved, resolves⟩
    · exact absurd none fine.1
    · exact absurd malformed fine.2
    · cases resolves with
      | accepted replay => exact ⟨replay, resolved⟩
      | exhausted evidence built all => exact absurd all place.not_allRejected
      | incomplete sampleKey missing supplied inside least undecided =>
          exact absurd place (undecided k)

theorem resolveAttemptPrefix_exhausted_iff {range : AttemptRange}
    {completions : List (AttemptCompletion D)} :
    (∃ evidence, resolveAttemptPrefix range completions = .ok (.exhausted evidence)) ↔
      (completions ≠ [] ∧ ¬ Malformed range completions) ∧ AllRejected range completions := by
  constructor
  · rintro ⟨evidence, resolved⟩
    obtain ⟨fine, resolves⟩ := resolveAttemptPrefix_resolves resolved
    cases resolves with
    | exhausted _ built all => exact ⟨fine, all⟩
  · rintro ⟨fine, all⟩
    rcases resolveAttemptPrefix_cases range completions with
      ⟨none | malformed, -⟩ | ⟨-, resolution, resolved, resolves⟩
    · exact absurd none fine.1
    · exact absurd malformed fine.2
    · cases resolves with
      | accepted replay built place => exact absurd all place.not_allRejected
      | exhausted evidence => exact ⟨evidence, resolved⟩
      | incomplete sampleKey missing supplied inside least undecided some => exact absurd all some

theorem resolveAttemptPrefix_incomplete_iff {range : AttemptRange}
    {completions : List (AttemptCompletion D)} {missing : Nat} :
    (∃ sampleKey supplied, resolveAttemptPrefix range completions =
        .ok (.incomplete sampleKey range missing supplied)) ↔
      (completions ≠ [] ∧ ¬ Malformed range completions) ∧
        (¬ ∃ k, AcceptedAt completions k) ∧ ¬ AllRejected range completions ∧
        LeastMissing completions missing := by
  constructor
  · rintro ⟨sampleKey, supplied, resolved⟩
    obtain ⟨fine, resolves⟩ := resolveAttemptPrefix_resolves resolved
    cases resolves with
    | incomplete _ _ _ inside least undecided some =>
        exact ⟨fine, fun ⟨k, place⟩ => undecided k place, some, least⟩
  · rintro ⟨fine, undecided, some, least⟩
    rcases resolveAttemptPrefix_cases range completions with
      ⟨none | malformed, -⟩ | ⟨-, resolution, resolved, resolves⟩
    · exact absurd none fine.1
    · exact absurd malformed fine.2
    · cases resolves with
      | accepted replay built place => exact absurd ⟨_, place⟩ undecided
      | exhausted evidence built all => exact absurd all some
      | incomplete sampleKey other supplied inside first =>
          rw [least.unique first]
          exact ⟨sampleKey, supplied, resolved⟩

/-- The collection alone decides the resolution. -/
theorem resolveAttemptPrefix_exact (range : AttemptRange)
    (completions : List (AttemptCompletion D)) :
    (∀ other, other.Perm completions →
      resolveAttemptPrefix range other = resolveAttemptPrefix range completions) ∧
    ((∃ error, resolveAttemptPrefix range completions = .error error) ↔
      completions = [] ∨ Malformed range completions) ∧
    ((∃ replay, resolveAttemptPrefix range completions = .ok (.accepted replay)) ↔
      (completions ≠ [] ∧ ¬ Malformed range completions) ∧ ∃ k, AcceptedAt completions k) ∧
    ((∃ evidence, resolveAttemptPrefix range completions = .ok (.exhausted evidence)) ↔
      (completions ≠ [] ∧ ¬ Malformed range completions) ∧ AllRejected range completions) ∧
    (∀ missing, (∃ sampleKey supplied, resolveAttemptPrefix range completions =
        .ok (.incomplete sampleKey range missing supplied)) ↔
      (completions ≠ [] ∧ ¬ Malformed range completions) ∧
        (¬ ∃ k, AcceptedAt completions k) ∧ ¬ AllRejected range completions ∧
        LeastMissing completions missing) ∧
    ∀ resolution, resolveAttemptPrefix range completions = .ok resolution →
      Resolves range completions resolution ∧
      ∀ replay, resolution = .accepted replay → ∀ item ∈ completions, item.isAccepted = true →
        replay.acceptedAttempt.attemptIndex ≤ item.attemptIndex := by
  refine ⟨fun other same => resolveAttemptPrefix_perm same, resolveAttemptPrefix_error_iff,
    resolveAttemptPrefix_accepted_iff, resolveAttemptPrefix_exhausted_iff,
    fun missing => resolveAttemptPrefix_incomplete_iff, ?_⟩
  intro resolution resolved
  have resolves := (resolveAttemptPrefix_resolves resolved).2
  refine ⟨resolves, ?_⟩
  rintro replay rfl item member accepted
  cases resolves with
  | accepted _ built place => exact le_of_eq ((place.alone item member).mp accepted).symm

/-- An empty collection is refused, though nothing is wrong with its attempts. -/
theorem resolveAttemptPrefix_empty :
    (∃ error, resolveAttemptPrefix (D := Nat) ⟨1, le_rfl, by decide⟩ [] = .error error) ∧
      ¬ Malformed (D := Nat) ⟨1, le_rfl, by decide⟩ [] := by
  refine ⟨⟨.attemptReplay "attempt completions must be a nonempty immutable tuple", rfl⟩, ?_⟩
  rw [not_malformed_iff]
  simp

end CsdFoundry.Synthesis
