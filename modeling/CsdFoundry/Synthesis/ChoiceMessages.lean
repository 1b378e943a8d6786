import CsdFoundry.Synthesis.ChoiceBytes
import CsdFoundry.Synthesis.ChoiceEncoding

/-! The messages that blocks are read from. The one part of variable length stands after its own
length, so a message tells the path, the operation, the domain, the draw and the block. -/
namespace CsdFoundry.Synthesis.Choices
open Admission Admission.Value Encoding Results

/-- The message of `_hmac_block`. -/
def blockMessage (material : List UInt8) (drawIndex blockIndex : Nat) :
    Except ChoiceFailure (List UInt8) := do
  let size ← uint64 material.length
  let draw ← uint64 drawIndex
  let block ← uint64 blockIndex
  .ok (choicePrefix ++ size ++ material ++ draw ++ block)

section Uint64
variable {value value' : Nat} {bytes : List UInt8}

theorem length_uint64 (encoded : uint64 value = .ok bytes) : bytes.length = 8 := by
  unfold uint64 at encoded
  split_ifs at encoded
  cases encoded
  exact length_toBigEndian 8 value

theorem fromBigEndian_uint64 (encoded : uint64 value = .ok bytes) : fromBigEndian bytes = value := by
  unfold uint64 at encoded
  split_ifs at encoded with fits
  cases encoded
  apply fromBigEndian_toBigEndian
  unfold maxUint64 at fits
  omega

theorem uint64_injective (encoded : uint64 value = .ok bytes) (encoded' : uint64 value' = .ok bytes) :
    value = value' := by
  rw [← fromBigEndian_uint64 encoded, fromBigEndian_uint64 encoded']

end Uint64

/-- The length in front of the material says where it ends. -/
theorem blockMessage_injective {material material' message : List UInt8}
    {drawIndex drawIndex' blockIndex blockIndex' : Nat}
    (built : blockMessage material drawIndex blockIndex = .ok message)
    (built' : blockMessage material' drawIndex' blockIndex' = .ok message) :
    material = material' ∧ drawIndex = drawIndex' ∧ blockIndex = blockIndex' := by
  obtain ⟨size, sized, built⟩ := bind_ok.mp built
  obtain ⟨draw, drawn, built⟩ := bind_ok.mp built
  obtain ⟨block, counted, built⟩ := bind_ok.mp built
  obtain ⟨size', sized', built'⟩ := bind_ok.mp built'
  obtain ⟨draw', drawn', built'⟩ := bind_ok.mp built'
  obtain ⟨block', counted', built'⟩ := bind_ok.mp built'
  have same : choicePrefix ++ (size ++ (material ++ (draw ++ block))) =
      choicePrefix ++ (size' ++ (material' ++ (draw' ++ block'))) := by
    have equal := (Except.ok.inj built).trans (Except.ok.inj built').symm
    simpa only [List.append_assoc] using equal
  have unprefixed := List.append_cancel_left same
  obtain ⟨sameSize, rest⟩ := List.append_inj unprefixed
    ((length_uint64 sized).trans (length_uint64 sized').symm)
  subst sameSize
  obtain ⟨sameMaterial, rest⟩ := List.append_inj rest (uint64_injective sized sized')
  obtain ⟨sameDraw, sameBlock⟩ := List.append_inj rest
    ((length_uint64 drawn).trans (length_uint64 drawn').symm)
  subst sameDraw sameBlock
  exact ⟨sameMaterial, uint64_injective drawn drawn', uint64_injective counted counted'⟩

theorem ChoiceSegment.json_injective (segment segment' : ChoiceSegment)
    (same : sortCodes segment.json = sortCodes segment'.json) : segment = segment' := by
  cases segment with
  | token value =>
      cases segment' with
      | token value' => rw [jsonText_injective same]
      | index value' => cases same
  | index value =>
      cases segment' with
      | token value' => cases same
      | index value' => rw [jsonNat_injective same]

theorem ChoiceOperation.value_injective {operation operation' : ChoiceOperation}
    (same : operation.value = operation'.value) : operation = operation' := by
  cases operation <;> cases operation' <;> first | rfl | exact absurd same (by decide)

/-- A path is its fields. -/
theorem ChoicePath.eq_of_fields {path path' : ChoicePath}
    (release : path.attemptKey.sampleKey.release = path'.attemptKey.sampleKey.release)
    (target : path.attemptKey.sampleKey.targetId = path'.attemptKey.sampleKey.targetId)
    (sample : path.attemptKey.sampleKey.sampleIndex = path'.attemptKey.sampleKey.sampleIndex)
    (attempt : path.attemptKey.attemptIndex = path'.attemptKey.attemptIndex)
    (space : path.pathNamespace = path'.pathNamespace) (segments : path.segments = path'.segments) :
    path = path' := by
  obtain ⟨⟨⟨r, t, i, _, _⟩, a, _⟩, n, s, _, _, _⟩ := path
  obtain ⟨⟨⟨r', t', i', _, _⟩, a', _⟩, n', s', _, _, _⟩ := path'
  cases release
  cases target
  cases sample
  cases attempt
  cases space
  cases segments
  rfl

/-- The members of `_choice_material`. -/
def materialMembers (path : ChoicePath) (operation : ChoiceOperation) (domainDigest : String) :
    List (String × Value) := [
  ("algorithm_id", jsonText algorithmId),
  ("algorithm_version", jsonNat algorithmVersion),
  ("attempt_index", jsonNat path.attemptKey.attemptIndex),
  ("domain_digest", jsonText domainDigest),
  ("namespace", jsonText path.pathNamespace),
  ("operation", jsonText operation.value),
  ("path_schema_version", jsonText pathSchemaVersion),
  ("release", jsonText path.attemptKey.sampleKey.release),
  ("sample_index", jsonNat path.attemptKey.sampleKey.sampleIndex),
  ("segments", .list (path.segments.map ChoiceSegment.json)),
  ("target_id", jsonText path.attemptKey.sampleKey.targetId)]

theorem material_built (path : ChoicePath) (operation : ChoiceOperation) (domainDigest : String) :
    WellBuilt (jsonDict (materialMembers path operation domainDigest)) := by
  have segments : WellBuilt (.list (path.segments.map ChoiceSegment.json)) := by
    apply WellBuilt.map
    intro segment
    cases segment with
    | token value => exact .text value
    | index value => exact .nat value
  apply WellBuilt.dict
  · simp [materialMembers]
  · simp only [materialMembers, List.forall_mem_cons]
    exact ⟨.text _, .nat _, .nat _, .text _, .text _, .text _, .text _, .text _, .nat _, segments,
      .text _, by simp⟩

/-- The material tells the path, the operation and the domain. -/
theorem choiceMaterial_injective {path path' : ChoicePath} {operation operation' : ChoiceOperation}
    {domainDigest domainDigest' : String} {material : List UInt8}
    (rendered : choiceMaterial path operation domainDigest = .ok material)
    (rendered' : choiceMaterial path' operation' domainDigest' = .ok material) :
    path = path' ∧ operation = operation' ∧ domainDigest = domainDigest' := by
  have same : sortCodes (jsonDict (materialMembers path operation domainDigest)) =
      sortCodes (jsonDict (materialMembers path' operation' domainDigest')) :=
    jsonBytes_injective (material_built path operation domainDigest)
      (material_built path' operation' domainDigest') rendered rendered'
  have read (key : String) {value value' : Value} :=
    @member_injective _ _ (by simp [materialMembers]) same key value value'
  have paths : path = path' := by
    apply ChoicePath.eq_of_fields
    · exact jsonText_injective (read "release" (by simp [materialMembers]) (by simp [materialMembers]))
    · exact jsonText_injective
        (read "target_id" (by simp [materialMembers]) (by simp [materialMembers]))
    · exact jsonNat_injective
        (read "sample_index" (by simp [materialMembers]) (by simp [materialMembers]))
    · exact jsonNat_injective
        (read "attempt_index" (by simp [materialMembers]) (by simp [materialMembers]))
    · exact jsonText_injective
        (read "namespace" (by simp [materialMembers]) (by simp [materialMembers]))
    · exact list_injective ChoiceSegment.json_injective
        (read "segments" (by simp [materialMembers]) (by simp [materialMembers]))
  have operations : operation = operation' := by
    apply ChoiceOperation.value_injective
    exact jsonText_injective
      (read "operation" (by simp [materialMembers]) (by simp [materialMembers]))
  have domains : domainDigest = domainDigest' :=
    jsonText_injective
      (read "domain_digest" (by simp [materialMembers]) (by simp [materialMembers]))
  exact ⟨paths, operations, domains⟩

/-- The message of a block of a draw. -/
def drawMessage (path : ChoicePath) (operation : ChoiceOperation) (domainDigest : String)
    (drawIndex blockIndex : Nat) : Except ChoiceFailure (List UInt8) := do
  let material ← choiceMaterial path operation domainDigest
  blockMessage material drawIndex blockIndex

/-- Draws with one message are one draw: no two of them read the same block. -/
theorem drawMessage_injective (path path' : ChoicePath) (operation operation' : ChoiceOperation)
    (domainDigest domainDigest' : String) (drawIndex drawIndex' blockIndex blockIndex' : Nat)
    (message : List UInt8)
    (drawn : drawMessage path operation domainDigest drawIndex blockIndex = .ok message)
    (drawn' : drawMessage path' operation' domainDigest' drawIndex' blockIndex' = .ok message) :
    path = path' ∧ operation = operation' ∧ domainDigest = domainDigest' ∧ drawIndex = drawIndex' ∧
      blockIndex = blockIndex' := by
  obtain ⟨material, rendered, built⟩ := bind_ok.mp drawn
  obtain ⟨material', rendered', built'⟩ := bind_ok.mp drawn'
  obtain ⟨rfl, draws, blocks⟩ := blockMessage_injective built built'
  obtain ⟨paths, operations, domains⟩ := choiceMaterial_injective rendered rendered'
  exact ⟨paths, operations, domains, draws, blocks⟩

theorem target_isToken : isToken "target" = true := by decide

theorem zero_le_maxAttemptIndex : 0 ≤ maxAttemptIndex := by decide

def samplePath : ChoicePath :=
  ⟨⟨⟨"v0.4", "target", 0, rfl, target_isToken⟩, 0, zero_le_maxAttemptIndex⟩, "planner", [.token "branch", .index 1],
    by decide, by decide, by decide⟩

/-- The blocks of the sample have messages. -/
theorem drawMessage_samplePath {drawIndex blockIndex : Nat} (draw : drawIndex ≤ maxUint64)
    (block : blockIndex ≤ maxUint64) :
    ∃ message, drawMessage samplePath .boundedInteger "00" drawIndex blockIndex = .ok message := by
  have built := material_built samplePath .boundedInteger "00"
  obtain ⟨material, rendered⟩ := (jsonBytes_exists built).mpr (by decide +kernel)
  have length := jsonBytes_length built rendered
  have short : material.length ≤ maxUint64 := by
    rw [length]
    decide +kernel
  exact ⟨_, bind_ok.mpr ⟨material, rendered, bind_ok.mpr ⟨_, if_pos short,
    bind_ok.mpr ⟨_, if_pos draw, bind_ok.mpr ⟨_, if_pos block, rfl⟩⟩⟩⟩⟩

/-- The message of one block is that of no other block, of this draw or of another. -/
theorem drawMessage_injective_sample :
    ∃ message other, drawMessage samplePath .boundedInteger "00" 2 3 = .ok message ∧
      drawMessage samplePath .boundedInteger "00" 3 2 = .ok other ∧ message ≠ other ∧
      ∀ drawIndex blockIndex,
        drawMessage samplePath .boundedInteger "00" drawIndex blockIndex = .ok message →
          drawIndex = 2 ∧ blockIndex = 3 := by
  obtain ⟨message, drawn⟩ :=
    drawMessage_samplePath (by decide : 2 ≤ maxUint64) (by decide : 3 ≤ maxUint64)
  obtain ⟨other, drawn'⟩ :=
    drawMessage_samplePath (by decide : 3 ≤ maxUint64) (by decide : 2 ≤ maxUint64)
  have only : ∀ drawIndex blockIndex,
      drawMessage samplePath .boundedInteger "00" drawIndex blockIndex = .ok message →
        drawIndex = 2 ∧ blockIndex = 3 := fun drawIndex blockIndex same =>
    (drawMessage_injective samplePath samplePath .boundedInteger .boundedInteger "00" "00"
      drawIndex 2 blockIndex 3 message same drawn).2.2.2
  refine ⟨message, other, drawn, drawn', ?_, only⟩
  rintro rfl
  exact absurd (only 3 2 drawn').1 (by decide)

end CsdFoundry.Synthesis.Choices
