import CsdFoundry.AlternativeModels.DifferencePaths
import CsdFoundry.Synthesis.ChoiceBytes

/-! The report of a structural difference. It is exact unless an outermost difference of the graphs
is one between the two zeros, which are equal as values and not as bytes. -/
namespace CsdFoundry.AlternativeModels
open Admission Admission.Value Encoding Positions Results
open Synthesis (sortCodes)
open Synthesis.Choices (HashBytes hex isHexDigest isHexDigest_hex jsonText jsonDict)

section Reports
variable {a b : Value} {position : List String}

theorem reported_comm {a b : Option Value} {path : String} {difference : Difference} :
    Reported a b path difference ↔ Reported b a path difference := by
  simp only [Reported, differenceAt, outermost_comm (a := a), Bool.and_comm]

theorem mem_collectDifferences_comm (renderable : Renderable a) (renderable' : Renderable b)
    {path : String} {difference : Difference} :
    difference ∈ collectDifferences a b path ↔ difference ∈ collectDifferences b a path := by
  rw [reports_of_renderable renderable b path difference renderable',
    reports_of_renderable renderable' a path difference renderable, reported_comm]

theorem uniquePaths_comm (renderable : Renderable a) (renderable' : Renderable b) :
    uniquePaths (collectDifferences a b "") = uniquePaths (collectDifferences b a "") := by
  unfold uniquePaths
  congr 1
  ext path
  simp only [List.mem_toFinset, List.mem_map, mem_collectDifferences_comm renderable renderable']

theorem uniqueFamilies_comm (renderable : Renderable a) (renderable' : Renderable b) :
    uniqueFamilies (collectDifferences a b "") = uniqueFamilies (collectDifferences b a "") := by
  unfold uniqueFamilies
  congr 1
  ext family
  simp only [List.mem_toFinset, List.mem_map, mem_collectDifferences_comm renderable renderable']

/-- The reported paths are the pointers of the outermost differences by value. -/
theorem mem_uniquePaths (renderable : Renderable a) (renderable' : Renderable b) {path : String} :
    path ∈ uniquePaths (collectDifferences a b "") ↔
      ∃ position, Outermost child valueNode (some a) (some b) position ∧ path = pointer position := by
  simp only [uniquePaths, mem_sortedSet, List.mem_toFinset, List.mem_map,
    reports_of_renderable renderable b "" _ renderable']
  constructor
  · rintro ⟨_, ⟨position, outermost, rfl⟩, rfl⟩
    exact ⟨position, outermost, rfl⟩
  · rintro ⟨position, outermost, rfl⟩
    exact ⟨_, ⟨position, outermost, rfl⟩, rfl⟩

theorem pointer_mem_uniquePaths (renderable : Renderable a) (renderable' : Renderable b) :
    pointer position ∈ uniquePaths (collectDifferences a b "") ↔
      Outermost child valueNode (some a) (some b) position := by
  rw [mem_uniquePaths renderable renderable']
  constructor
  · rintro ⟨other, outermost, same⟩
    rw [pointer_injective same]
    exact outermost
  · exact fun outermost => ⟨position, outermost, rfl⟩

theorem families_nil_iff (differences : List Difference) :
    uniqueFamilies differences = [] ↔ uniquePaths differences = [] := by
  simp only [uniqueFamilies, uniquePaths, List.eq_nil_iff_forall_not_mem, mem_sortedSet,
    List.mem_toFinset]
  cases differences with
  | nil => simp
  | cons difference differences =>
      constructor
      · exact fun none => absurd (List.mem_cons_self ..) (none difference.family)
      · exact fun none => absurd (List.mem_cons_self ..) (none difference.path)

end Reports

section Zeros
variable {a b : Value}

/-- At an outermost difference the graphs hold the two zeros. -/
def ZerosDiffer (a b : Value) : Prop :=
  ∃ position, Outermost child node (some a) (some b) position ∧
    ∃ x ∈ ["0.0", "-0.0"], ∃ y ∈ ["0.0", "-0.0"],
      nodeAt child node (some a) position = some (.leaf (.float (some x))) ∧
      nodeAt child node (some b) position = some (.leaf (.float (some y)))

theorem valueNode_congr (a b : Value) (same : node a = node b) : valueNode a = valueNode b := by
  cases a <;> cases b <;> simp_all [node, valueNode]

/-- Only the zeros are equal as values and not as they are written. -/
theorem zeros_of_equal (equal : valueNode a = valueNode b) (differ : node a ≠ node b) :
    ∃ x ∈ ["0.0", "-0.0"], ∃ y ∈ ["0.0", "-0.0"],
      a = .float (some x) ∧ b = .float (some y) := by
  cases a with
  | float x =>
      cases b with
      | float y =>
          have same : unsigned x = unsigned y := by simpa [valueNode] using equal
          have apart : x ≠ y := fun written => differ (by rw [written])
          cases x with
          | none =>
              cases y with
              | none => exact absurd rfl apart
              | some y => cases same
          | some x =>
              cases y with
              | none => cases same
              | some y =>
                  simp only [unsigned, Option.some.injEq] at same
                  refine ⟨x, ?_, y, ?_, rfl, rfl⟩
                  all_goals split_ifs at same <;> simp_all
      | _ => simp [valueNode, node] at equal
  | _ => cases b <;> simp_all [valueNode, node]

/-- The float is no zero. -/
def isNonzero : Value → Bool
  | .float (some repr) => repr ∉ ["0.0", "-0.0"]
  | _ => true

theorem not_zerosDiffer (nonzero : a.every isNonzero = true) : ¬ ZerosDiffer a b := by
  rintro ⟨position, -, x, zero, -, -, first, -⟩
  obtain ⟨value, found, same⟩ := Option.map_eq_some_iff.mp first
  have below : value.every isNonzero = true :=
    subtree_induction (fun _ _ _ all => every_child all) nonzero found
  rw [node_leaf same] at below
  exact of_decide_eq_true below zero

theorem valueNode_zero {x y : String} (zero : x ∈ ["0.0", "-0.0"]) (zero' : y ∈ ["0.0", "-0.0"]) :
    valueNode (.float (some x)) = valueNode (.float (some y)) := by
  simp only [List.mem_cons, List.not_mem_nil, or_false] at zero zero'
  rcases zero with rfl | rfl <;> rcases zero' with rfl | rfl <;> rfl

end Zeros

section Rendered

theorem renderable_jsonDict {members : List (String × Value)}
    (renderable : ∀ member ∈ members, Renderable member.2) : Renderable (jsonDict members) := by
  refine every_dict.mpr ⟨?_, ?_⟩
  · change List.all _ _ = true
    rw [List.all_map]
    exact List.all_eq_true.mpr fun _ _ => rfl
  · rw [List.forall_mem_map]
    exact renderable

theorem renderable_textList (texts : List String) : Renderable (textList texts) := by
  refine every_list.mpr ⟨rfl, ?_⟩
  rw [List.forall_mem_map]
  exact fun _ _ => rfl

theorem unsignedValue_renderable (receipt : StructuralDifferenceReceipt) :
    Renderable receipt.unsignedValue := by
  apply renderable_jsonDict
  simp only [List.forall_mem_cons]
  exact ⟨rfl, rfl, rfl, rfl, rfl, renderable_textList _, renderable_textList _, rfl, by simp⟩

theorem isSortedUnique_sortedSet [LinearOrder α] (items : Finset α) :
    isSortedUnique (sortedSet items) := by
  obtain ⟨values, distinct⟩ := items
  induction values using Quotient.inductionOn with
  | h values =>
      refine ⟨?_, ?_⟩
      · exact (List.pairwise_insertionSort (· ≤ ·) values).insertionSort_eq
      · exact (List.perm_insertionSort (· ≤ ·) values).nodup_iff.mpr distinct

theorem isSortedUnique_families (differences : List Difference) :
    isSortedUnique (uniqueFamilies differences) := isSortedUnique_sortedSet _

theorem isSortedUnique_paths (differences : List Difference) :
    isSortedUnique (uniquePaths differences) := isSortedUnique_sortedSet _

end Rendered

section Accepted

/-- Bytes that are accepted as a graph, with the members of its root. -/
structure Accepted (parseFloat : ParseFloat) (bytes : List UInt8) (members : Dict) : Prop where
  canonical : canonicalGraphBytes parseFloat bytes = .ok bytes
  loaded : loadsFloats parseFloat bytes = .ok (.dict members)

namespace Accepted
variable {parseFloat : ParseFloat} {bytes bytes' : List UInt8} {members members' : Dict}

theorem rendered (accepted : Accepted parseFloat bytes members) :
    jsonBytes (.dict members) = some bytes := by
  obtain ⟨-, value, loaded, rendered⟩ := canonicalGraphBytes_ok.mp accepted.canonical
  rw [accepted.loaded] at loaded
  cases loaded
  exact rendered

theorem renderable (accepted : Accepted parseFloat bytes members) : Renderable (.dict members) := by
  rw [← jsonBytes_isSome, accepted.rendered]
  rfl

theorem unique (accepted : Accepted parseFloat bytes members) : Unique (.dict members) :=
  loadsFloats_unique accepted.loaded

/-- The bytes are those of every graph that agrees with theirs. -/
theorem of_agree (accepted : Accepted parseFloat bytes members) {value : Value}
    (unique : Unique value) (renderable : Renderable value)
    (agree : Agree (some value) (some (.dict members))) : jsonBytes value = some bytes := by
  rw [← accepted.rendered]
  exact jsonBytes_congr
    (sortCodes_eq_of_agree unique renderable accepted.unique accepted.renderable agree)

/-- Graphs have the same bytes when they agree everywhere, and only then. -/
theorem bytes_eq_iff (accepted : Accepted parseFloat bytes members)
    (accepted' : Accepted parseFloat bytes' members') :
    bytes = bytes' ↔ Agree (some (.dict members)) (some (.dict members')) := by
  constructor
  · rintro rfl
    have same := accepted.loaded.symm.trans accepted'.loaded
    cases same
    exact fun _ => rfl
  · intro agree
    have rendered := accepted'.of_agree accepted.unique accepted.renderable agree
    rw [accepted.rendered] at rendered
    exact Option.some.inj rendered

end Accepted

end Accepted

section Receipts
variable [HashBytes] {families : List DifferenceFamily} {paths : List String}

theorem isDigest_sha256 (message : List UInt8) :
    isDigest ("sha256:" ++ hex (HashBytes.sha256 message)) = true := by
  have drop : (("sha256:" ++ hex (HashBytes.sha256 message)).toList.drop 7) =
      (hex (HashBytes.sha256 message)).toList := by
    rw [String.toList_append]
    exact List.drop_left' (by decide)
  rw [isDigest, drop, String.ofList_toList, isHexDigest_hex (HashBytes.length_sha256 message),
    Bool.and_true, List.isPrefixOf_iff_prefix, String.toList_append]
  exact List.prefix_append _ _

theorem domainDigest_exists {value : Value} (renderable : Renderable value) (domain : String) :
    ∃ digest, domainDigest domain value = .ok digest ∧ isDigest digest = true := by
  obtain ⟨bytes, rendered⟩ := Option.isSome_iff_exists.mp (jsonBytes_isSome.mpr renderable)
  refine ⟨_, ?_, isDigest_sha256 (utf8 domain.toList ++ bytes)⟩
  rw [domainDigest, rendered]

theorem computeDifferenceSetDigest_exists (families : List DifferenceFamily)
    (paths : List String) :
    ∃ digest, computeDifferenceSetDigest families paths = .ok digest ∧ isDigest digest = true := by
  apply domainDigest_exists
  apply renderable_jsonDict
  simp only [List.forall_mem_cons]
  exact ⟨renderable_textList _, renderable_textList _, by simp⟩

/-- The receipt that a call makes, but for its own digest. -/
def unsignedReceipt (primaryDigest shadowDigest declared computed : String)
    (differences : List Difference) : StructuralDifferenceReceipt :=
  ⟨primaryDigest, shadowDigest, computed, declared, uniqueFamilies differences,
    uniquePaths differences, decide (0 < (uniquePaths differences).length), ""⟩

section Detected
variable {parseFloat : ParseFloat} {primary shadow : List UInt8} {members members' : Dict}
  {primaryDigest shadowDigest declared : String} {receipt : StructuralDifferenceReceipt}

theorem compute_ok (accepted : Accepted parseFloat primary members)
    (accepted' : Accepted parseFloat shadow members') {digest : String} :
    computeStructuralDifferenceDigest parseFloat primary shadow = .ok digest ↔
      computeDifferenceSetDigest
        (uniqueFamilies (collectDifferences (.dict members) (.dict members') ""))
        (uniquePaths (collectDifferences (.dict members) (.dict members') "")) = .ok digest := by
  rw [computeStructuralDifferenceDigest, accepted.canonical, accepted'.canonical]
  change (loadRoots parseFloat primary shadow >>= _) = _ ↔ _
  rw [loadRoots, accepted.loaded, accepted'.loaded]
  rfl

theorem detect_ok (accepted : Accepted parseFloat primary members)
    (accepted' : Accepted parseFloat shadow members') :
    detectStructuralDifference parseFloat primary shadow primaryDigest shadowDigest declared =
        .ok receipt ↔
      graphDigestOf primary = primaryDigest ∧ graphDigestOf shadow = shadowDigest ∧
      ∃ computed, computeStructuralDifferenceDigest parseFloat primary shadow = .ok computed ∧
      ∃ receiptDigest, domainDigest "ALTERNATIVE_MODEL_STRUCTURAL_DIFFERENCE_RECEIPT"
          (unsignedReceipt primaryDigest shadowDigest declared computed
            (collectDifferences (.dict members) (.dict members') "")).unsignedValue =
          .ok receiptDigest ∧
        receipt = { unsignedReceipt primaryDigest shadowDigest declared computed
          (collectDifferences (.dict members) (.dict members') "") with receiptDigest } ∧
        receipt.postInit = .ok () := by
  have roots : loadRoots parseFloat primary shadow = .ok (members, members') := by
    rw [loadRoots, accepted.loaded, accepted'.loaded]
  simp only [compute_ok accepted accepted']
  rw [detectStructuralDifference, accepted.canonical, accepted'.canonical]
  simp only [ok_bind, ensure_bind, roots]
  simp only [bind_ok]
  constructor
  · rintro ⟨first, second, computed, digest, receiptDigest, own, ⟨⟩, checked, returned⟩
    cases returned
    exact ⟨first, second, computed, digest, receiptDigest, own, rfl, checked⟩
  · rintro ⟨first, second, computed, digest, receiptDigest, own, rfl, checked⟩
    exact ⟨first, second, computed, digest, receiptDigest, own, (), checked, rfl⟩

theorem postInit_ok : receipt.postInit = .ok () ↔
    isDigest receipt.primaryGraphDigest = true ∧ isDigest receipt.shadowGraphDigest = true ∧
    isDigest receipt.computedDifferenceDigest = true ∧
    isDigest receipt.declaredDifferenceDigest = true ∧ isSortedUnique receipt.differenceFamilies ∧
    ((∀ path ∈ receipt.differencePaths, path ≠ "") ∧ isSortedUnique receipt.differencePaths) ∧
    (receipt.differenceFamilies = [] ↔ receipt.differencePaths = []) ∧
    receipt.hasMaterialDifference = decide (0 < receipt.differencePaths.length) ∧
    computeDifferenceSetDigest receipt.differenceFamilies receipt.differencePaths =
      .ok receipt.computedDifferenceDigest ∧
    receipt.computedDifferenceDigest = receipt.declaredDifferenceDigest ∧
    isDigest receipt.receiptDigest = true ∧
    domainDigest "ALTERNATIVE_MODEL_STRUCTURAL_DIFFERENCE_RECEIPT" receipt.unsignedValue =
      .ok receipt.receiptDigest := by
  unfold StructuralDifferenceReceipt.postInit
  simp only [ensure_bind]
  rw [bind_ok]
  simp only [ensure_bind]
  simp only [bind_ok, ensure_ok, eq_comm (a := receipt.receiptDigest), exists_eq_right]
  refine and_congr_right fun _ => and_congr_right fun _ => and_congr_right fun _ =>
    and_congr_right fun _ => and_congr_right fun _ => and_congr_right fun _ =>
    and_congr_right fun _ => and_congr_right fun _ => ?_
  constructor
  · rintro ⟨recomputed, made, rfl, rest⟩
    exact ⟨made, rest⟩
  · rintro ⟨made, rest⟩
    exact ⟨_, made, rfl, rest⟩

omit [HashBytes] in
/-- Below the roots, which are objects, every pointer has a segment. -/
theorem uniquePaths_nonempty (accepted : Accepted parseFloat primary members)
    (accepted' : Accepted parseFloat shadow members') :
    ∀ path ∈ uniquePaths (collectDifferences (.dict members) (.dict members') ""), path ≠ "" := by
  intro path listed
  obtain ⟨position, outermost, rfl⟩ :=
    (mem_uniquePaths accepted.renderable accepted'.renderable).mp listed
  cases position with
  | nil => exact absurd (rfl : some Node.object = some Node.object) (outermost_nil.mp outermost)
  | cons token position => exact pointer_ne_empty

/-- The receipt with the declared digest that was computed passes its own checks. -/
theorem detect_computed (accepted : Accepted parseFloat primary members)
    (accepted' : Accepted parseFloat shadow members') : ∃ computed receipt,
    computeStructuralDifferenceDigest parseFloat primary shadow = .ok computed ∧
    detectStructuralDifference parseFloat primary shadow (graphDigestOf primary)
      (graphDigestOf shadow) computed = .ok receipt ∧
    receipt.computedDifferenceDigest = computed ∧
    receipt.differenceFamilies =
      uniqueFamilies (collectDifferences (.dict members) (.dict members') "") ∧
    receipt.differencePaths =
      uniquePaths (collectDifferences (.dict members) (.dict members') "") := by
  obtain ⟨computed, made, valid⟩ := computeDifferenceSetDigest_exists
    (uniqueFamilies (collectDifferences (.dict members) (.dict members') ""))
    (uniquePaths (collectDifferences (.dict members) (.dict members') ""))
  obtain ⟨receiptDigest, own, valid'⟩ := domainDigest_exists
    (unsignedValue_renderable (unsignedReceipt (graphDigestOf primary) (graphDigestOf shadow)
      computed computed (collectDifferences (.dict members) (.dict members') "")))
    "ALTERNATIVE_MODEL_STRUCTURAL_DIFFERENCE_RECEIPT"
  refine ⟨computed, _, (compute_ok accepted accepted').mpr made, (detect_ok accepted accepted').mpr
    ⟨rfl, rfl, computed, (compute_ok accepted accepted').mpr made, receiptDigest, own, rfl, ?_⟩,
    rfl, rfl, rfl⟩
  exact postInit_ok.mpr ⟨isDigest_sha256 _, isDigest_sha256 _, valid, valid,
    isSortedUnique_families _,
    ⟨uniquePaths_nonempty accepted accepted', isSortedUnique_paths _⟩, families_nil_iff _, rfl,
    made, rfl, valid', own⟩

/-- The receipt does not depend on what is supplied beside the graphs. -/
theorem detect_only (accepted : Accepted parseFloat primary members)
    (accepted' : Accepted parseFloat shadow members') {computed : String}
    (made : computeStructuralDifferenceDigest parseFloat primary shadow = .ok computed)
    (detected : detectStructuralDifference parseFloat primary shadow primaryDigest shadowDigest
      declared = .ok receipt) :
    graphDigestOf primary = primaryDigest ∧ graphDigestOf shadow = shadowDigest ∧
      declared = computed := by
  obtain ⟨first, second, found, digest, receiptDigest, own, rfl, checked⟩ :=
    (detect_ok accepted accepted').mp detected
  rw [made] at digest
  cases digest
  obtain ⟨-, -, -, -, -, -, -, -, -, agrees, -⟩ := postInit_ok.mp checked
  exact ⟨first, second, agrees.symm⟩

end Detected
end Receipts

section Exactness
variable [HashBytes] {parseFloat : ParseFloat} {primary shadow : List UInt8}
  {members members' : Dict}

/-- A receipt with the outermost differences of two graphs, and what the swapped call returns. -/
structure ExactReceipt (primary shadow : List UInt8) (a b : Value)
    (receipt swapped : StructuralDifferenceReceipt) : Prop where
  distinct : receipt.differencePaths.Nodup
  pointers : ∀ path ∈ receipt.differencePaths, ∃ position, path = pointer position
  outermost : ∀ position, pointer position ∈ receipt.differencePaths ↔
    Outermost child node (some a) (some b) position
  /-- Nothing outside the reported subtrees differs. -/
  outside : ∀ position, ¬ Covered (pointer · ∈ receipt.differencePaths) position →
    nodeAt child node (some a) position = nodeAt child node (some b) position
  /-- The shadow is the primary graph with the reported subtrees replaced, added or removed. -/
  replacement : Replaced child node (pointer · ∈ receipt.differencePaths) (some a) (some b) (some b)
  /-- Every graph that is made so has the bytes of the shadow. -/
  replaced : ∀ c, Unique c → Renderable c →
    Replaced child node (pointer · ∈ receipt.differencePaths) (some a) (some b) (some c) →
    jsonBytes c = some shadow
  empty : receipt.differencePaths = [] ↔ primary = shadow
  paths : swapped.differencePaths = receipt.differencePaths
  families : swapped.differenceFamilies = receipt.differenceFamilies
  digest : swapped.computedDifferenceDigest = receipt.computedDifferenceDigest

/-- Both calls return receipts, whichever graph comes first; no other receipt is returned, and it is
exact. -/
def Exact (parseFloat : ParseFloat) (primary shadow : List UInt8) (a b : Value) : Prop :=
  ∃ computed receipt swapped,
    computeStructuralDifferenceDigest parseFloat primary shadow = .ok computed ∧
    computeStructuralDifferenceDigest parseFloat shadow primary = .ok computed ∧
    detectStructuralDifference parseFloat primary shadow (graphDigestOf primary)
      (graphDigestOf shadow) computed = .ok receipt ∧
    detectStructuralDifference parseFloat shadow primary (graphDigestOf shadow)
      (graphDigestOf primary) computed = .ok swapped ∧
    (∀ primaryDigest shadowDigest declared other, detectStructuralDifference parseFloat primary shadow
      primaryDigest shadowDigest declared = .ok other → other = receipt) ∧
    ExactReceipt primary shadow a b receipt swapped

omit [HashBytes] in
/-- Where no zeros differ, the walk finds what is written differently. -/
theorem outermost_by_value {a b : Value} (zeros : ¬ ZerosDiffer a b) {position : List String} :
    Outermost child valueNode (some a) (some b) position ↔
      Outermost child node (some a) (some b) position := by
  apply outermost_coarser valueNode_congr
  intro position outermost same
  apply zeros
  refine ⟨position, outermost, ?_⟩
  have differ := outermost.1
  unfold Differs nodeAt at differ
  unfold nodeAt at same ⊢
  cases first : subtree child (some a) position with
  | none => cases second : subtree child (some b) position <;> simp_all
  | some x =>
      cases second : subtree child (some b) position with
      | none => simp [first, second] at same
      | some y =>
          rw [first, second] at same differ
          obtain ⟨r, zero, r', zero', rfl, rfl⟩ := zeros_of_equal (Option.some.inj same)
            fun written => differ (congrArg some written)
          exact ⟨r, zero, r', zero', rfl, rfl⟩

omit [HashBytes] in
theorem subtree_of_leaf {found : Option Value} {position : List String} {value : Value}
    (leaf : nodeAt child node found position = some (.leaf value)) :
    subtree child found position = some value := by
  obtain ⟨b, there, same⟩ := Option.map_eq_some_iff.mp leaf
  rw [there, node_leaf same]

/-- Zeros at an outermost difference are not reported. -/
theorem not_exact_of_zeros (accepted : Accepted parseFloat primary members)
    (accepted' : Accepted parseFloat shadow members')
    (zeros : ZerosDiffer (.dict members) (.dict members')) :
    ¬ Exact parseFloat primary shadow (.dict members) (.dict members') := by
  rintro ⟨computed, receipt, swapped, made, -, detected, -, only, exactly⟩
  obtain ⟨computed', receipt', made', detected', -, -, paths⟩ := detect_computed accepted accepted'
  obtain rfl : receipt' = receipt := only _ _ _ _ detected'
  obtain ⟨position, outermost, x, zero, y, zero', first, second⟩ := zeros
  have reported := (exactly.outermost position).mpr outermost
  rw [paths, pointer_mem_uniquePaths accepted.renderable accepted'.renderable] at reported
  apply reported.1
  rw [nodeAt, nodeAt, subtree_of_leaf first, subtree_of_leaf second]
  exact congrArg some (valueNode_zero zero zero')

/-- A report is exact unless the graphs hold different zeros at an outermost difference. -/
theorem structural_difference_exact (accepted : Accepted parseFloat primary members)
    (accepted' : Accepted parseFloat shadow members') :
    Exact parseFloat primary shadow (.dict members) (.dict members') ↔
      ¬ ZerosDiffer (.dict members) (.dict members') := by
  refine ⟨fun exactly zeros => not_exact_of_zeros accepted accepted' zeros exactly, fun zeros => ?_⟩
  obtain ⟨computed, receipt, made, detected, digest, families, paths⟩ :=
    detect_computed accepted accepted'
  obtain ⟨computed', swapped, made', detected', digest', families', paths'⟩ :=
    detect_computed accepted' accepted
  rw [uniqueFamilies_comm accepted'.renderable accepted.renderable] at families'
  rw [uniquePaths_comm accepted'.renderable accepted.renderable] at paths'
  have same : computed' = computed := by
    have first := (compute_ok accepted accepted').mp made
    have second := (compute_ok accepted' accepted).mp made'
    rw [uniqueFamilies_comm accepted'.renderable accepted.renderable,
      uniquePaths_comm accepted'.renderable accepted.renderable, first] at second
    exact (Except.ok.inj second).symm
  subst same
  have pointers : ∀ position, pointer position ∈ receipt.differencePaths ↔
      Outermost child node (some (.dict members)) (some (.dict members')) position := by
    intro position
    rw [paths, pointer_mem_uniquePaths accepted.renderable accepted'.renderable,
      outermost_by_value zeros]
  have chosen : (fun position => pointer position ∈ receipt.differencePaths) =
      Outermost child node (some (.dict members)) (some (.dict members')) :=
    funext fun position => propext (pointers position)
  refine ⟨computed', receipt, swapped, made, made', detected, detected', ?_, ?_⟩
  · intro primaryDigest shadowDigest declared other otherwise
    obtain ⟨rfl, rfl, rfl⟩ := detect_only accepted accepted' made otherwise
    exact Except.ok.inj (otherwise.symm.trans detected)
  · constructor
    case distinct =>
      rw [paths]
      exact (isSortedUnique_paths _).2
    case pointers =>
      intro path listed
      rw [paths, mem_uniquePaths accepted.renderable accepted'.renderable] at listed
      obtain ⟨position, -, written⟩ := listed
      exact ⟨position, written⟩
    case outermost => exact pointers
    case outside =>
      rw [chosen]
      exact fun position => agree_outside
    case replacement =>
      rw [chosen]
      exact replaced_self
    case replaced =>
      rw [chosen]
      exact fun c unique renderable made => accepted'.of_agree unique renderable made.agrees
    case empty =>
      rw [accepted.bytes_eq_iff accepted', List.eq_nil_iff_forall_not_mem, paths]
      constructor
      · intro none
        apply agree_of_none
        intro position outermost
        rw [← outermost_by_value zeros, ← pointer_mem_uniquePaths accepted.renderable
          accepted'.renderable] at outermost
        exact none _ outermost
      · intro agree path listed
        rw [mem_uniquePaths accepted.renderable accepted'.renderable] at listed
        obtain ⟨position, outermost, -⟩ := listed
        exact ((outermost_by_value zeros).mp outermost).1 (agree position)
    case paths => rw [paths, paths']
    case families => rw [families, families']
    case digest => rw [digest, digest']

end Exactness

section Sample

/-- `float` of a text that is its own `repr`. -/
def writtenFloat : ParseFloat := fun text => some (String.ofList text)

/-- The text of a graph with a path that is escaped. -/
def primaryText : List Char :=
  ['\x7b', '"', 'a', '/', 'b', '"', ':', '0', '.', '5', ',', '"', 'n', 'o', 'd', 'e', 's', '"',
    ':', '[', '1', ',', '2', ']', '\x7d']

def shadowText : List Char :=
  ['\x7b', '"', 'a', '/', 'b', '"', ':', '0', '.', '2', '5', ',', '"', 'n', 'o', 'd', 'e', 's',
    '"', ':', '[', '1', ']', '\x7d']

def primaryMembers : Dict :=
  [(.text "a/b", .float (some "0.5")), (.text "nodes", .list [.int 1, .int 2])]

def shadowMembers : Dict := [(.text "a/b", .float (some "0.25")), (.text "nodes", .list [.int 1])]

def sampleDifferences : List Difference :=
  [⟨"/a~1b", .relabeled⟩, ⟨"/nodes/1", .addedRemoved⟩]

example : collectDifferences (.dict primaryMembers) (.dict shadowMembers) "" =
    sampleDifferences := by decide +kernel

/-- One line of a graph that is read and written back. -/
theorem accepted_of_line {text : List Char} {members : Dict}
    (scanned : scanValue writtenFloat (text ++ ['\n']).length (text ++ ['\n']) =
      .ok (.dict members, ['\n']))
    (starts : skip (text ++ ['\n']) = text ++ ['\n'])
    (rendered : (sortCodes (.dict members)).dumps = some text) :
    Accepted writtenFloat (utf8 (text ++ ['\n'])) members := by
  have loaded : loadsFloats writtenFloat (utf8 (text ++ ['\n'])) = .ok (.dict members) := by
    rw [loadsFloats, decodeUtf8_utf8]
    dsimp only
    rw [starts, scanned]
    rfl
  refine ⟨canonicalGraphBytes_ok.mpr ⟨rfl, _, loaded, ?_⟩, loaded⟩
  rw [jsonBytes, rendered, Option.map_some]

theorem primary_accepted : Accepted writtenFloat (utf8 (primaryText ++ ['\n'])) primaryMembers :=
  accepted_of_line rfl rfl (by decide +kernel)

theorem shadow_accepted : Accepted writtenFloat (utf8 (shadowText ++ ['\n'])) shadowMembers :=
  accepted_of_line rfl rfl (by decide +kernel)

/-- SHA-256 of the two graphs. -/
def primarySha : List UInt8 := [
      203, 177, 129, 7, 44, 123, 186, 165, 84, 131, 9, 74, 206, 180, 138, 22,
      100, 242, 225, 197, 128, 252, 129, 88, 247, 166, 144, 34, 83, 89, 48, 49]

def shadowSha : List UInt8 := [
      106, 216, 11, 251, 12, 75, 193, 191, 218, 114, 195, 178, 189, 233, 178, 147,
      181, 34, 46, 189, 228, 75, 1, 173, 215, 85, 99, 173, 254, 81, 141, 33]

def differenceSha : List UInt8 := [
      243, 91, 197, 165, 246, 177, 182, 185, 203, 86, 54, 9, 43, 23, 165, 74,
      79, 127, 34, 130, 191, 167, 113, 159, 164, 28, 125, 46, 220, 121, 215, 44]

/-- The receipt of one order of the graphs. -/
def sampleReceipt (primary shadow : List UInt8) : StructuralDifferenceReceipt :=
  unsignedReceipt ("sha256:" ++ hex primary) ("sha256:" ++ hex shadow)
    ("sha256:" ++ hex differenceSha) ("sha256:" ++ hex differenceSha) sampleDifferences

/-- SHA-256 of what the calls on the two graphs digest. -/
@[reducible]
def graphHash : HashBytes where
  sha256 message :=
    if message = utf8 (primaryText ++ ['\n']) then primarySha
    else if message = utf8 (shadowText ++ ['\n']) then shadowSha
    else if message.length = 133 then differenceSha
    else if some message = (jsonBytes (sampleReceipt primarySha shadowSha).unsignedValue).map
        (utf8 "ALTERNATIVE_MODEL_STRUCTURAL_DIFFERENCE_RECEIPT".toList ++ ·) then [
      186, 255, 104, 50, 42, 33, 179, 82, 103, 29, 124, 95, 187, 109, 95, 85,
      202, 145, 210, 110, 163, 124, 92, 57, 144, 23, 111, 128, 95, 116, 177, 67]
    else [
      180, 21, 41, 246, 84, 5, 60, 239, 243, 11, 236, 246, 235, 248, 140, 155,
      192, 38, 141, 113, 183, 80, 119, 40, 95, 223, 75, 55, 238, 185, 216, 220]
  length_sha256 message := by split_ifs <;> rfl

theorem structural_difference_exact_sample :
    @Exact graphHash writtenFloat (utf8 (primaryText ++ ['\n'])) (utf8 (shadowText ++ ['\n']))
      (.dict primaryMembers) (.dict shadowMembers) := by
  refine (@structural_difference_exact graphHash _ _ _ _ _ primary_accepted shadow_accepted).mpr ?_
  exact not_zerosDiffer (by decide +kernel)

/-- The graph whose one member is a zero. -/
def zeroMembers (repr : String) : Dict := [(.text "a", .float (some repr))]

def zeroText : List Char := ['\x7b', '"', 'a', '"', ':', '0', '.', '0', '\x7d']

def negativeText : List Char := ['\x7b', '"', 'a', '"', ':', '-', '0', '.', '0', '\x7d']

theorem zero_accepted : Accepted writtenFloat (utf8 (zeroText ++ ['\n'])) (zeroMembers "0.0") :=
  accepted_of_line rfl rfl (by decide +kernel)

theorem negative_accepted :
    Accepted writtenFloat (utf8 (negativeText ++ ['\n'])) (zeroMembers "-0.0") :=
  accepted_of_line rfl rfl (by decide +kernel)

/-- The two zeros are accepted, they are written differently, and no difference is reported. -/
theorem structural_difference_inexact :
    Accepted writtenFloat (utf8 (zeroText ++ ['\n'])) (zeroMembers "0.0") ∧
    Accepted writtenFloat (utf8 (negativeText ++ ['\n'])) (zeroMembers "-0.0") ∧
    collectDifferences (.dict (zeroMembers "0.0")) (.dict (zeroMembers "-0.0")) "" = [] ∧
    ¬ ∃ hash : HashBytes, @Exact hash writtenFloat (utf8 (zeroText ++ ['\n']))
      (utf8 (negativeText ++ ['\n'])) (.dict (zeroMembers "0.0")) (.dict (zeroMembers "-0.0")) := by
  refine ⟨zero_accepted, negative_accepted, by decide +kernel, ?_⟩
  rintro ⟨hash, exactly⟩
  refine not_exact_of_zeros zero_accepted negative_accepted ?_ exactly
  refine ⟨["a"], outermost_cons.mpr ⟨rfl, outermost_nil.mpr ?_⟩, "0.0", by decide, "-0.0", by decide,
    rfl, rfl⟩
  intro same
  have leaves := Node.leaf.inj (Option.some.inj same)
  simp at leaves

end Sample
end CsdFoundry.AlternativeModels
