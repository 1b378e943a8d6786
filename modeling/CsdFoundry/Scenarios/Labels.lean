import CsdFoundry.Results
import CsdFoundry.Scenarios.Rendering
import CsdFoundry.Scenarios.Surface
import CsdFoundry.StableSort
import Std.Data.String.ToNat

/-! Labels are injective, and what is rendered with them depends neither on the names of the
identities nor on the order of the items. -/
namespace CsdFoundry.Scenarios
open Kernel Results

section Rendered
variable {α β : Type} {label : β → String} {render : α → Option β} {items items' : List α}
  {values : List β}

theorem mapM_eq_some : items.mapM render = some values ↔
    (∀ item ∈ items, ∃ value, render item = some value) ∧ values = items.filterMap render := by
  induction items generalizing values with
  | nil => simp [eq_comm]
  | cons item items ih =>
      rw [List.mapM_cons, Option.bind_eq_bind, Option.bind_eq_some_iff, List.forall_mem_cons]
      constructor
      · rintro ⟨first, rendered, rest⟩
        obtain ⟨others, renders, same⟩ := Option.bind_eq_some_iff.mp rest
        obtain ⟨all, rfl⟩ := ih.mp renders
        cases same
        exact ⟨⟨⟨first, rendered⟩, all⟩, by rw [List.filterMap_cons_some rendered]⟩
      · rintro ⟨⟨⟨first, rendered⟩, all⟩, rfl⟩
        refine ⟨first, rendered, Option.bind_eq_some_iff.mpr ⟨_, ih.mpr ⟨all, rfl⟩, ?_⟩⟩
        rw [List.filterMap_cons_some rendered]
        rfl

theorem renderSorted_eq_some : renderSorted label render items = some values ↔
    (∀ item ∈ items, ∃ value, render item = some value) ∧
      values = (items.filterMap render).insertionSort (LabelLe label) := by
  unfold renderSorted
  rw [Option.map_eq_some_iff]
  constructor
  · rintro ⟨rendered, renders, rfl⟩
    obtain ⟨all, rfl⟩ := mapM_eq_some.mp renders
    exact ⟨all, rfl⟩
  · rintro ⟨all, rfl⟩
    exact ⟨_, mapM_eq_some.mpr ⟨all, rfl⟩, rfl⟩

theorem renderSorted_map {γ : Type} {f : γ → α} (items : List γ) :
    renderSorted label render (items.map f) = renderSorted label (render ∘ f) items := by
  apply Option.ext
  intro values
  rw [renderSorted_eq_some, renderSorted_eq_some,
    List.forall_mem_map, List.filterMap_map]
  rfl

variable {labels : List (String × String)} {key : α → String}

/-- No two identities have one label. -/
def Distinct (labels : List (String × String)) : Prop :=
  ∀ x y l, mapped labels x = some l → mapped labels y = some l → x = y

/-- The items are labelled by their identities. -/
def Labelled (labels : List (String × String)) (key : α → String) (label : β → String)
    (render : α → Option β) : Prop :=
  ∀ item value, render item = some value → mapped labels (key item) = some (label value)

theorem Reordered.mem_iff (same : Reordered key items items') {item : α} :
    item ∈ items ↔ item ∈ items' := by
  have here := same (key item)
  constructor
  · intro member
    have among : item ∈ items.filter fun other => key other = key item := by simp [member]
    rw [here] at among
    exact List.mem_of_mem_filter among
  · intro member
    have among : item ∈ items'.filter fun other => key other = key item := by simp [member]
    rw [← here] at among
    exact List.mem_of_mem_filter among

/-- The renderings under one label are those of the items of one identity. -/
theorem filter_rendered (labelled : Labelled labels key label render) (distinct : Distinct labels)
    {x l : String} (known : mapped labels x = some l) (items : List α) :
    (items.filterMap render).filter (fun value => label value = l) =
      (items.filter fun item => key item = x).filterMap render := by
  induction items with
  | nil => rfl
  | cons item items ih =>
      cases rendered : render item with
      | none =>
          rw [List.filterMap_cons_none rendered, List.filter_cons]
          split_ifs
          · rw [List.filterMap_cons_none rendered, ih]
          · exact ih
      | some value =>
          have mine := labelled item value rendered
          rw [List.filterMap_cons_some rendered, List.filter_cons, List.filter_cons]
          have iff : label value = l ↔ key item = x := by
            constructor
            · rintro rfl
              exact distinct _ _ _ mine known
            · rintro rfl
              exact Option.some.inj (mine.symm.trans known)
          by_cases hit : key item = x
          · rw [if_pos (by simpa using iff.mpr hit), if_pos (by simpa using hit),
              List.filterMap_cons_some rendered, ih]
          · rw [if_neg (by simpa using mt iff.mp hit), if_neg (by simpa using hit), ih]

theorem labelLe_iff (a b : β) : LabelLe label a b ↔ label a ≤ label b := Iff.rfl

/-- The order of the items does not show in their sorted renderings. -/
theorem renderSorted_reordered (labelled : Labelled labels key label render)
    (distinct : Distinct labels) (same : Reordered key items items') :
    renderSorted label render items = renderSorted label render items' := by
  apply Option.ext
  intro values
  rw [renderSorted_eq_some, renderSorted_eq_some]
  simp only [same.mem_iff]
  refine and_congr_right fun renders => ?_
  have sorted : (items.filterMap render).insertionSort (LabelLe label) =
      (items'.filterMap render).insertionSort (LabelLe label) := by
    rw [StableSort.insertionSort_eq_iff labelLe_iff]
    intro l
    by_cases known : ∃ x, mapped labels x = some l
    · obtain ⟨x, known⟩ := known
      rw [filter_rendered labelled distinct known, filter_rendered labelled distinct known, same]
    · have unknown (items : List α) :
          (items.filterMap render).filter (fun value => label value = l) = [] := by
        rw [List.filter_eq_nil_iff]
        intro value member equal
        obtain ⟨item, -, rendered⟩ := List.mem_filterMap.mp member
        have mine := labelled item value rendered
        rw [of_decide_eq_true equal] at mine
        exact known ⟨_, mine⟩
      rw [unknown, unknown]
  rw [sorted]

theorem reordered_of_perm {names names' : List String} (same : names.Perm names') :
    Reordered id names names' := by
  intro k
  have filtered (names : List String) :
      names.filter (fun name => id name = k) = List.replicate (names.count k) k := by
    rw [← List.filter_beq]
    apply List.filter_congr
    intro name _
    simp [beq_eq_decide]
  rw [filtered, filtered, same.count_eq]

theorem mappedSorted_perm (distinct : Distinct labels) {names names' : List String}
    (same : names.Perm names') : mappedSorted labels names = mappedSorted labels names' :=
  renderSorted_reordered (fun _ _ known => known) distinct (reordered_of_perm same)

end Rendered

section Labels
variable {letter : String} {order : List String} {ids : NamespaceIds} {labels : IdMap}

theorem mapped_labelMap {x l : String} (known : mapped (labelMap order letter) x = some l) :
    ∃ index, order[index]? = some x ∧ l = letter ++ Nat.repr index := by
  have member := StableSort.mem_of_lookup known
  obtain ⟨entry, among, same⟩ := List.mem_map.mp member
  cases same
  exact ⟨entry.2, List.mem_zipIdx_iff_getElem?.mp among, rfl⟩

theorem labelMap_distinct (order : List String) (letter : String) :
    Distinct (labelMap order letter) := by
  intro x y l known known'
  obtain ⟨index, atX, rfl⟩ := mapped_labelMap known
  obtain ⟨index', atY, same⟩ := mapped_labelMap known'
  have indices : Nat.repr index = Nat.repr index' := by
    have characters := congrArg String.toList same
    rw [String.toList_append, String.toList_append] at characters
    exact String.toList_inj.mp (List.append_cancel_left characters)
  obtain rfl := Nat.repr_injective indices
  exact Option.some.inj (atX.symm.trans atY)

/-- The labels of renamed identities. -/
theorem mapped_renamed (f : String ↪ String) (x : String) :
    mapped (labelMap (order.map f) letter) (f x) = mapped (labelMap order letter) x := by
  unfold mapped labelMap
  rw [List.zipIdx_map, List.map_map]
  generalize order.zipIdx = entries
  induction entries with
  | nil => rfl
  | cons entry entries ih =>
      rw [List.map_cons, List.map_cons, List.lookup_cons, List.lookup_cons, ih]
      have same : (f x == f entry.1) = (x == entry.1) := by
        rw [Bool.eq_iff_iff, beq_iff_eq, beq_iff_eq, f.injective.eq_iff]
      simp only [Function.comp, Prod.map, id, same]

theorem mem_labelings : labels ∈ labelings ids ↔ ∃ evidence bases dependencies requests profiles,
    evidence.Perm (sortedSet ids.evidence) ∧ bases.Perm (sortedSet ids.bases) ∧
    dependencies.Perm (sortedSet ids.dependencies) ∧ requests.Perm (sortedSet ids.requests) ∧
    profiles.Perm (sortedSet ids.profiles) ∧ labels = ⟨labelMap evidence "E", labelMap bases "B",
      labelMap dependencies "D", labelMap requests "R", labelMap profiles "P"⟩ := by
  simp only [labelings, List.mem_flatMap, List.mem_map, List.mem_permutations]
  constructor
  · rintro ⟨evidence, first, bases, second, dependencies, third, requests, fourth, profiles, fifth,
      rfl⟩
    exact ⟨evidence, bases, dependencies, requests, profiles, first, second, third, fourth, fifth,
      rfl⟩
  · rintro ⟨evidence, bases, dependencies, requests, profiles, first, second, third, fourth, fifth,
      rfl⟩
    exact ⟨evidence, first, bases, second, dependencies, third, requests, fourth, profiles, fifth,
      rfl⟩

/-- Labels under which identities are told apart. -/
structure IdMap.Distinct (labels : IdMap) : Prop where
  evidence : Scenarios.Distinct labels.evidence
  bases : Scenarios.Distinct labels.bases
  dependencies : Scenarios.Distinct labels.dependencies
  requests : Scenarios.Distinct labels.requests
  profiles : Scenarios.Distinct labels.profiles

theorem distinct_of_labeling (labeling : labels ∈ labelings ids) : labels.Distinct := by
  obtain ⟨_, _, _, _, _, -, -, -, -, -, rfl⟩ := mem_labelings.mp labeling
  exact ⟨labelMap_distinct _ _, labelMap_distinct _ _, labelMap_distinct _ _,
    labelMap_distinct _ _, labelMap_distinct _ _⟩

/-- Labels that go along with a renaming. -/
structure Agree (renames : Renaming) (labels labels' : IdMap) : Prop where
  evidence : ∀ x, mapped labels'.evidence (renames.evidence x) = mapped labels.evidence x
  bases : ∀ x, mapped labels'.bases (renames.bases x) = mapped labels.bases x
  dependencies : ∀ x,
    mapped labels'.dependencies (renames.dependencies x) = mapped labels.dependencies x
  requests : ∀ x, mapped labels'.requests (renames.requests x) = mapped labels.requests x
  profiles : ∀ x, mapped labels'.profiles (renames.profiles x) = mapped labels.profiles x

theorem sortedSet_perm (f : String ↪ String) (set : Finset String) :
    (sortedSet (set.map f)).Perm ((sortedSet set).map f) := by
  rw [← Multiset.coe_eq_coe, coe_sortedSet, ← Multiset.map_coe, coe_sortedSet]
  rfl

variable (renames : Renaming)

/-- Every labeling of the identities goes along with one of their images. -/
theorem labeling_onIds (labeling : labels ∈ labelings ids) :
    ∃ labels' ∈ labelings (renames.onIds ids), Agree renames labels labels' := by
  obtain ⟨evidence, bases, dependencies, requests, profiles, first, second, third, fourth, fifth,
    rfl⟩ := mem_labelings.mp labeling
  refine ⟨_, mem_labelings.mpr ⟨evidence.map renames.evidence, bases.map renames.bases,
    dependencies.map renames.dependencies, requests.map renames.requests,
    profiles.map renames.profiles, ?_, ?_, ?_, ?_, ?_, rfl⟩, ?_⟩
  · exact (first.map _).trans (sortedSet_perm _ _).symm
  · exact (second.map _).trans (sortedSet_perm _ _).symm
  · exact (third.map _).trans (sortedSet_perm _ _).symm
  · exact (fourth.map _).trans (sortedSet_perm _ _).symm
  · exact (fifth.map _).trans (sortedSet_perm _ _).symm
  · exact ⟨mapped_renamed _, mapped_renamed _, mapped_renamed _, mapped_renamed _,
      mapped_renamed _⟩

theorem labeling_of_onIds {labels' : IdMap} (labeling : labels' ∈ labelings (renames.onIds ids)) :
    ∃ labels ∈ labelings ids, Agree renames labels labels' := by
  obtain ⟨_, _, _, _, _, first, second, third, fourth, fifth, rfl⟩ := mem_labelings.mp labeling
  obtain ⟨evidence, rfl, evidenceOrder⟩ := image_perm (first.trans (sortedSet_perm _ _)).symm rfl
  obtain ⟨bases, rfl, basisOrder⟩ := image_perm (second.trans (sortedSet_perm _ _)).symm rfl
  obtain ⟨dependencies, rfl, dependencyOrder⟩ := image_perm (third.trans (sortedSet_perm _ _)).symm rfl
  obtain ⟨requests, rfl, requestOrder⟩ := image_perm (fourth.trans (sortedSet_perm _ _)).symm rfl
  obtain ⟨profiles, rfl, profileOrder⟩ := image_perm (fifth.trans (sortedSet_perm _ _)).symm rfl
  refine ⟨_, mem_labelings.mpr ⟨evidence, bases, dependencies, requests, profiles,
    evidenceOrder.symm, basisOrder.symm, dependencyOrder.symm, requestOrder.symm,
    profileOrder.symm, rfl⟩, ?_⟩
  exact ⟨mapped_renamed _, mapped_renamed _, mapped_renamed _, mapped_renamed _, mapped_renamed _⟩

end Labels
end CsdFoundry.Scenarios
