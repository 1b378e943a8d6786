import CsdFoundry.Scenarios.Families
import CsdFoundry.Scenarios.Labels

/-! The digest of a family does not change with the surface of a scenario. -/
namespace CsdFoundry.Scenarios
open Kernel Results NamespaceIds

section Render
variable {renames : Renaming} {shift : Int} {labels labels' : IdMap}

theorem optionally_map {α β γ : Type} {render : β → Option γ} {render' : α → Option γ} {f : α → β}
    (same : ∀ value, render (f value) = render' value) (value : Option α) :
    optionally render (value.map f) = optionally render' value := by
  cases value with
  | none => rfl
  | some value =>
      change (render (f value)).map some = (render' value).map some
      rw [same]

/-- An offset from a shifted clock. -/
theorem offset_shift (time shift : Int) (value : Option Int) :
    (value.map (· + shift)).map (· - (time + shift)) = value.map (· - time) := by
  cases value with
  | none => rfl
  | some value =>
      change some (value + shift - (time + shift)) = some (value - time)
      rw [Int.add_sub_add_right]

theorem mappedSet_renamed {names names' : List (String × String)} {f : String ↪ String}
    (distinct : Distinct names') (agree : ∀ x, mapped names' (f x) = mapped names x)
    (set : Finset String) : mappedSet names' (set.map f) = mappedSet names set := by
  unfold mappedSet
  rw [mappedSorted_perm distinct (sortedSet_perm f set), mappedSorted, renderSorted_map]
  congr 1
  exact funext agree

/-- Items that were changed and reordered render as the given ones. -/
theorem renderSorted_changed {α β : Type} {names : List (String × String)} {key : α → String}
    {label : β → String} {render render' : α → Option β} {f : α → α} {items items' : List α}
    (labelled : Labelled names key label render') (distinct : Distinct names)
    (same : ∀ item, render' (f item) = render item)
    (reordered : Reordered key (items.map f) items') :
    renderSorted label render' items' = renderSorted label render items := by
  rw [← renderSorted_reordered labelled distinct reordered, renderSorted_map]
  congr 1
  exact funext same

theorem renderEvidence_labelled (labels : IdMap) (time : Int) :
    Labelled labels.evidence Evidence.evidenceId RenderedEvidence.evidenceId
      (renderEvidence labels time) := by
  intro item value rendered
  obtain ⟨evidenceId, known, rest⟩ := Option.bind_eq_some_iff.mp rendered
  obtain ⟨dependencies, -, rest⟩ := Option.bind_eq_some_iff.mp rest
  obtain ⟨profileId, -, rest⟩ := Option.bind_eq_some_iff.mp rest
  cases rest
  exact known

theorem renderBasis_labelled (labels : IdMap) :
    Labelled labels.bases Basis.basisId RenderedBasis.basisId (renderBasis labels) := by
  intro item value rendered
  obtain ⟨basisId, known, rest⟩ := Option.bind_eq_some_iff.mp rendered
  obtain ⟨members, -, rest⟩ := Option.bind_eq_some_iff.mp rest
  cases rest
  exact known

theorem renderRequest_labelled (labels : IdMap) (time : Int) :
    Labelled labels.requests ReassessmentRequest.requestId RenderedRequest.requestId
      (renderRequest labels time) := by
  intro item value rendered
  obtain ⟨requestId, known, rest⟩ := Option.bind_eq_some_iff.mp rendered
  cases rest
  exact known

theorem renderPair_renamed {α : Type} {names names' : List (String × String)}
    {f : String ↪ String} (agree : ∀ x, mapped names' (f x) = mapped names x)
    (pairs : List (String × α)) :
    renderSorted Prod.fst (renderPair names') (pairs.map fun pair => (f pair.1, pair.2)) =
      renderSorted Prod.fst (renderPair names) pairs := by
  rw [renderSorted_map]
  congr 1
  funext pair
  change (mapped names' (f pair.1)).map _ = (mapped names pair.1).map _
  rw [agree]

theorem optionally_rel {α β : Type} {related : α → α → Prop} {render render' : α → Option β}
    (same : ∀ a b, related a b → render' b = render a) {value value' : Option α}
    (relation : Option.Rel related value value') :
    optionally render' value' = optionally render value := by
  cases relation with
  | none => rfl
  | some relation =>
      change (render' _).map some = (render _).map some
      rw [same _ _ relation]

variable (agree : Agree renames labels labels') (distinct : labels'.Distinct)
include agree distinct

theorem renderEvidence_changed (time : Int) (item : Evidence) :
    renderEvidence labels' (time + shift) (renames.onEvidence shift item) =
      renderEvidence labels time item := by
  unfold renderEvidence Renaming.onEvidence
  dsimp only
  rw [agree.evidence, mappedSet_renamed distinct.dependencies agree.dependencies,
    optionally_map agree.profiles, offset_shift, Int.add_sub_add_right]

theorem renderBasis_changed (item : Basis) :
    renderBasis labels' (renames.onBasis item) = renderBasis labels item := by
  unfold renderBasis Renaming.onBasis
  dsimp only
  rw [agree.bases, mappedSet_renamed distinct.evidence agree.evidence]

omit distinct in
theorem renderRequest_changed (time : Int) (request : ReassessmentRequest) :
    renderRequest labels' (time + shift) (renames.onRequest shift request) =
      renderRequest labels time request := by
  unfold renderRequest Renaming.onRequest
  dsimp only
  rw [agree.requests, offset_shift, Int.add_sub_add_right, Int.add_sub_add_right]

omit agree distinct in
theorem renderHeartbeat_shift (time : Int) (heartbeat : Option HeartbeatState) :
    (heartbeat.map (shiftHeartbeat shift)).map (renderHeartbeat (time + shift)) =
      heartbeat.map (renderHeartbeat time) := by
  cases heartbeat with
  | none => rfl
  | some heartbeat => simp [renderHeartbeat, shiftHeartbeat]

omit agree distinct in
theorem outline_same {history history' : List AuditEvent} (same : SameOutline history history') :
    history'.map outline = history.map outline := by
  have outlined (history : List AuditEvent) : history.map outline =
      (history.map fun item => (item.eventType, item.details.map (·.1))).map fun item =>
        (item.1, item.2.insertionSort (· ≤ ·)) := by
    rw [List.map_map]
    rfl
  rw [outlined, outlined, same]

theorem renderState_changed {state state' : ControlState}
    (changed : StateChanged renames shift state state') :
    renderState labels' state' = renderState labels state := by
  unfold renderState
  rw [changed.logicalTime, changed.obligation, changed.sourceState, changed.assurance,
    changed.sourceBases, changed.verdictBases, changed.profileId, changed.profileVersion,
    changed.heartbeat, renderHeartbeat_shift, outline_same changed.history,
    mappedSet_renamed distinct.bases agree.bases, mappedSet_renamed distinct.bases agree.bases,
    optionally_map agree.profiles,
    renderSorted_changed (renderEvidence_labelled _ _) distinct.evidence
      (renderEvidence_changed agree distinct _) changed.evidence,
    renderSorted_changed (renderBasis_labelled _) distinct.bases
      (renderBasis_changed agree distinct) changed.bases,
    renderSorted_changed (renderRequest_labelled _ _) distinct.requests
      (renderRequest_changed agree _) changed.requests]

theorem renderEvent_changed (time : Int) {event event' : CsdEvent}
    (changed : EventChanged renames shift event event') :
    renderEvent labels' (time + shift) event' = renderEvent labels time event := by
  cases changed with
  | dependencyChange event =>
      unfold renderEvent
      dsimp only
      rw [agree.dependencies]
  | reassess event newEvidence newBases requests =>
      unfold renderEvent
      dsimp only
      rw [renderSorted_changed (renderEvidence_labelled _ _) distinct.evidence
          (renderEvidence_changed agree distinct _) newEvidence,
        renderSorted_changed (renderBasis_labelled _) distinct.bases
          (renderBasis_changed agree distinct) newBases,
        ← mappedSorted_perm distinct.requests requests, mappedSorted, renderSorted_map]
      have same : mapped labels'.requests ∘ renames.requests = mapped labels.requests :=
        funext agree.requests
      rw [same, mappedSorted]
  | retireControl event =>
      unfold renderEvent
      dsimp only
      rw [renderEvidence_changed agree distinct]
  | advanceClock event =>
      unfold renderEvent
      dsimp only
      rw [Int.add_sub_add_right]
  | profileChange event =>
      unfold renderEvent
      dsimp only
      rw [agree.profiles, optionally_map agree.requests, offset_shift]
  | requestReassessment event =>
      unfold renderEvent
      dsimp only
      rw [agree.requests, Int.add_sub_add_right]
  | recordHeartbeat event =>
      unfold renderEvent
      dsimp only
      rw [Int.add_sub_add_right]

theorem renderExpectation_changed (expected : StateExpectation) :
    renderExpectation labels' (renames.onExpectation expected) =
      renderExpectation labels expected := by
  have sets := mappedSet_renamed distinct.bases agree.bases
  unfold renderExpectation Renaming.onExpectation
  dsimp only
  rw [renderPair_renamed agree.evidence, renderPair_renamed agree.evidence,
    renderPair_renamed agree.bases, optionally_map sets, optionally_map sets]

theorem renderCase_changed {body body' : ScenarioCase}
    (changed : CaseChanged renames shift body body') :
    renderCase labels' body' = renderCase labels body := by
  cases changed with
  | transition body state changed =>
      unfold renderCase
      dsimp only
      rw [state.logicalTime, renderState_changed agree distinct state,
        renderEvent_changed agree distinct _ changed, renderExpectation_changed agree distinct,
        optionally_map (mappedSet_renamed distinct.evidence agree.evidence),
        optionally_map (mappedSet_renamed distinct.bases agree.bases)]
  | observation body changed =>
      unfold renderCase
      dsimp only
      rw [renderState_changed agree distinct changed, renderExpectation_changed agree distinct]
  | rejectedTransition body state proposed changed =>
      have events := optionally_rel (fun _ _ event =>
        renderEvent_changed agree distinct body.before.logicalTime event) changed
      unfold renderCase
      dsimp only
      rw [state.logicalTime, renderState_changed agree distinct state,
        renderState_changed agree distinct proposed, events]

theorem renderScenario_changed {spec spec' : ScenarioSpec}
    (changed : ScenarioChanged renames spec spec') (coordinates : List Coordinate) :
    renderScenario spec' labels' coordinates = renderScenario spec labels coordinates := by
  have cases' : spec'.cases.mapM (renderCase labels') = spec.cases.mapM (renderCase labels) := by
    have related := changed.cases
    generalize spec.cases = bodies at related
    generalize spec'.cases = bodies' at related
    induction related with
    | nil => rfl
    | cons first _ ih =>
        obtain ⟨shift, first⟩ := first
        rw [List.mapM_cons, List.mapM_cons, renderCase_changed agree distinct first, ih]
  unfold renderScenario
  rw [cases', changed.mode, changed.ruleIds]

end Render

section Mentions
variable {renames : Renaming} {shift : Int}

theorem NamespaceIds.ext' {ids ids' : NamespaceIds} (evidence : ids.evidence = ids'.evidence)
    (bases : ids.bases = ids'.bases) (dependencies : ids.dependencies = ids'.dependencies)
    (requests : ids.requests = ids'.requests) (profiles : ids.profiles = ids'.profiles) :
    ids = ids' := by
  cases ids
  cases ids'
  simp_all

theorem onIds_union (ids ids' : NamespaceIds) :
    renames.onIds (ids ∪ ids') = renames.onIds ids ∪ renames.onIds ids' := by
  apply NamespaceIds.ext' <;> exact Finset.map_union _ _

section Gather
variable {α : Type} {mentions : α → NamespaceIds} {items items' : List α}

theorem mem_gather {field : NamespaceIds → Finset String}
    (union : ∀ ids ids', field (ids ∪ ids') = field ids ∪ field ids') (empty : field {} = ∅)
    {x : String} : x ∈ field (gather mentions items) ↔ ∃ item ∈ items, x ∈ field (mentions item) := by
  induction items with
  | nil => simp [gather, empty]
  | cons item items ih =>
      have step : field (gather mentions (item :: items)) =
          field (mentions item) ∪ field (gather mentions items) := union _ _
      simp [step, ih]

theorem gather_congr (same : ∀ item, item ∈ items ↔ item ∈ items') :
    gather mentions items = gather mentions items' := by
  have fields {field : NamespaceIds → Finset String}
      (union : ∀ ids ids', field (ids ∪ ids') = field ids ∪ field ids') (empty : field {} = ∅) :
      field (gather mentions items) = field (gather mentions items') := by
    ext x
    simp only [mem_gather union empty, same]
  apply NamespaceIds.ext'
  · exact fields (fun _ _ => rfl) rfl
  · exact fields (fun _ _ => rfl) rfl
  · exact fields (fun _ _ => rfl) rfl
  · exact fields (fun _ _ => rfl) rfl
  · exact fields (fun _ _ => rfl) rfl

theorem gather_map {f : α → α} (changed : ∀ item, mentions (f item) = renames.onIds (mentions item))
    (items : List α) : gather mentions (items.map f) = renames.onIds (gather mentions items) := by
  induction items with
  | nil => rfl
  | cons item items ih =>
      change mentions (f item) ∪ gather mentions (items.map f) =
        renames.onIds (mentions item ∪ gather mentions items)
      rw [ih, changed, onIds_union]

/-- What changed and reordered items mention. -/
theorem gather_changed {f : α → α} {key : α → String}
    (changed : ∀ item, mentions (f item) = renames.onIds (mentions item))
    (reordered : Reordered key (items.map f) items') :
    gather mentions items' = renames.onIds (gather mentions items) := by
  rw [← gather_congr fun item => reordered.mem_iff, gather_map changed]

end Gather

theorem toFinset_map (f : String ↪ String) (value : Option String) :
    (value.map f).toFinset = value.toFinset.map f := by
  cases value <;> rfl

theorem evidenceMentions_changed (item : Evidence) :
    evidenceMentions (renames.onEvidence shift item) = renames.onIds (evidenceMentions item) := by
  apply NamespaceIds.ext'
  · exact (Finset.map_singleton _ _).symm
  · rfl
  · rfl
  · rfl
  · exact toFinset_map _ _

theorem basisMentions_changed (item : Basis) :
    basisMentions (renames.onBasis item) = renames.onIds (basisMentions item) := by
  apply NamespaceIds.ext'
  · rfl
  · exact (Finset.map_singleton _ _).symm
  · rfl
  · rfl
  · rfl

theorem requestIds_changed {requests requests' : List ReassessmentRequest}
    (reordered : Reordered ReassessmentRequest.requestId
      (requests.map (renames.onRequest shift)) requests') :
    Keyed.keys ReassessmentRequest.requestId requests' =
      (Keyed.keys ReassessmentRequest.requestId requests).map renames.requests := by
  ext x
  simp only [Keyed.mem_keys, Finset.mem_map, ← reordered.mem_iff, List.mem_map]
  constructor
  · rintro ⟨_, ⟨request, member, rfl⟩, rfl⟩
    exact ⟨request.requestId, ⟨request, member, rfl⟩, rfl⟩
  · rintro ⟨_, ⟨request, member, rfl⟩, rfl⟩
    exact ⟨_, ⟨request, member, rfl⟩, rfl⟩

theorem stateMentions_changed {state state' : ControlState}
    (changed : StateChanged renames shift state state') :
    stateMentions state' = renames.onIds (stateMentions state) := by
  unfold stateMentions
  rw [onIds_union, onIds_union, gather_changed evidenceMentions_changed changed.evidence,
    gather_changed basisMentions_changed changed.bases]
  congr 1
  apply NamespaceIds.ext'
  · rfl
  · change state'.currentSourceBasisIds ∪ state'.currentVerdictBasisIds = _
    rw [changed.sourceBases, changed.verdictBases, ← Finset.map_union]
    rfl
  · rfl
  · exact requestIds_changed changed.requests
  · change state'.requiredProfileId.toFinset = _
    rw [changed.profileId, toFinset_map]
    rfl

theorem eventMentions_changed {event event' : CsdEvent}
    (changed : EventChanged renames shift event event') :
    eventMentions event' = renames.onIds (eventMentions event) := by
  cases changed with
  | dependencyChange event => rfl
  | reassess event newEvidence newBases requests =>
      unfold eventMentions
      dsimp only
      rw [onIds_union, onIds_union, gather_changed evidenceMentions_changed newEvidence,
        gather_changed basisMentions_changed newBases]
      congr 1
      apply NamespaceIds.ext'
      · rfl
      · rfl
      · rfl
      · ext x
        change x ∈ List.toFinset _ ↔ x ∈ Finset.map _ (List.toFinset _)
        simp [← requests.mem_iff]
      · rfl
  | retireControl event => exact evidenceMentions_changed _
  | advanceClock event => rfl
  | profileChange event =>
      apply NamespaceIds.ext'
      · rfl
      · rfl
      · rfl
      · exact toFinset_map _ _
      · exact (Finset.map_singleton _ _).symm
  | requestReassessment event => rfl
  | recordHeartbeat event => rfl

theorem getD_map (f : String ↪ String) (value : Option (Finset String)) :
    (value.map (Finset.map f)).getD ∅ = (value.getD ∅).map f := by
  cases value <;> rfl

theorem keys_map {α : Type} (f : String ↪ String) (pairs : List (String × α)) :
    ((pairs.map fun pair => (f pair.1, pair.2)).map (·.1)).toFinset =
      ((pairs.map (·.1)).toFinset).map f := by
  ext x
  simp

theorem expectationMentions_changed (expected : StateExpectation) :
    expectationMentions (renames.onExpectation expected) =
      renames.onIds (expectationMentions expected) := by
  apply NamespaceIds.ext'
  · unfold expectationMentions Renaming.onExpectation Renaming.onIds
    dsimp only
    rw [keys_map, keys_map, Finset.map_union]
  · unfold expectationMentions Renaming.onExpectation Renaming.onIds
    dsimp only
    rw [keys_map, getD_map, getD_map, Finset.map_union, Finset.map_union]
  · rfl
  · rfl
  · rfl

theorem caseMentions_changed {body body' : ScenarioCase}
    (changed : CaseChanged renames shift body body') :
    caseMentions body' = renames.onIds (caseMentions body) := by
  cases changed with
  | transition body state changed =>
      unfold caseMentions
      dsimp only
      rw [onIds_union, onIds_union, onIds_union, stateMentions_changed state,
        eventMentions_changed changed, expectationMentions_changed]
      congr 1
      apply NamespaceIds.ext'
      · exact getD_map _ _
      · exact getD_map _ _
      · rfl
      · rfl
      · rfl
  | observation body changed =>
      unfold caseMentions
      dsimp only
      rw [onIds_union, stateMentions_changed changed, expectationMentions_changed]
  | rejectedTransition body state proposed changed =>
      unfold caseMentions
      dsimp only
      rw [onIds_union, onIds_union, stateMentions_changed state, stateMentions_changed proposed]
      congr 1
      generalize body.event = event at changed
      cases changed with
      | none => rfl
      | some changed => exact eventMentions_changed changed

theorem collectScenarioIds_changed {spec spec' : ScenarioSpec}
    (changed : ScenarioChanged renames spec spec') :
    collectScenarioIds spec' = renames.onIds (collectScenarioIds spec) := by
  have related := changed.cases
  unfold collectScenarioIds
  generalize spec.cases = bodies at related
  generalize spec'.cases = bodies' at related
  induction related with
  | nil => rfl
  | cons first _ ih =>
      obtain ⟨shift, first⟩ := first
      change caseMentions _ ∪ gather caseMentions _ =
        renames.onIds (caseMentions _ ∪ gather caseMentions _)
      rw [ih, caseMentions_changed first, onIds_union]

end Mentions
end CsdFoundry.Scenarios
