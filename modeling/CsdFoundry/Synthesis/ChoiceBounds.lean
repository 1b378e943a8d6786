import CsdFoundry.Synthesis.ChoiceBytes
import CsdFoundry.Synthesis.ChoiceReplay
import Mathlib.Data.Set.Card

/-! Integers below a bound. The candidates below the limit fall on every residue equally often, the
first of them decides, and the evidence of the draws passes the checks of the records. -/
namespace CsdFoundry.Synthesis.Choices
open Admission Encoding Results HashBytes

/-- The bytes of a candidate. -/
def widthOf (upper : Nat) : Nat := max 1 ((bitLength (upper - 1) + 7) / 8)

/-- Where the candidates end that are accepted. -/
def limitOf (upper : Nat) : Nat := 2 ^ (widthOf upper * 8) - 2 ^ (widthOf upper * 8) % upper

/-! ### The arithmetic of the bound -/

theorem lt_bitLength (value : Nat) : value < 2 ^ bitLength value := by
  unfold bitLength
  split_ifs with zero
  · rw [zero]
    exact Nat.one_pos
  · exact Nat.lt_log2_self

theorem widthOf_pos (upper : Nat) : 0 < widthOf upper := Nat.le_max_left 1 _

/-- The candidates reach every number below the bound. -/
theorem le_space {upper : Nat} (positive : 0 < upper) : upper ≤ 2 ^ (widthOf upper * 8) := by
  have enough : bitLength (upper - 1) ≤ widthOf upper * 8 := by
    have wide : (bitLength (upper - 1) + 7) / 8 ≤ widthOf upper := Nat.le_max_right 1 _
    omega
  have below := lt_bitLength (upper - 1)
  have monotone := Nat.pow_le_pow_right Nat.two_pos enough
  omega

theorem limitOf_pos {upper : Nat} (positive : 0 < upper) : 0 < limitOf upper := by
  have space := le_space positive
  have rest := Nat.mod_lt (2 ^ (widthOf upper * 8)) positive
  unfold limitOf
  omega

theorem limitOf_le (upper : Nat) : limitOf upper ≤ 2 ^ (widthOf upper * 8) := Nat.sub_le _ _

theorem dvd_limitOf (upper : Nat) : upper ∣ limitOf upper := Nat.dvd_sub_mod _

/-- Below a multiple of the modulus every residue occurs equally often. -/
theorem card_residue {upper limit residue : Nat} (small : residue < upper) (multiple : upper ∣ limit) :
    ((Finset.range limit).filter fun candidate => candidate % upper = residue).card =
      limit / upper := by
  obtain ⟨count, rfl⟩ := multiple
  have positive : 0 < upper := by omega
  have listed : ((Finset.range (upper * count)).filter fun candidate =>
      candidate % upper = residue) =
      (Finset.range count).image fun turn => residue + upper * turn := by
    ext candidate
    simp only [Finset.mem_filter, Finset.mem_range, Finset.mem_image]
    constructor
    · rintro ⟨below, same⟩
      refine ⟨candidate / upper, Nat.div_lt_of_lt_mul below, ?_⟩
      rw [← same]
      exact Nat.mod_add_div candidate upper
    · rintro ⟨turn, early, rfl⟩
      have next : upper * (turn + 1) ≤ upper * count := Nat.mul_le_mul_left upper early
      rw [Nat.mul_succ] at next
      refine ⟨by omega, ?_⟩
      rw [Nat.add_mul_mod_self_left, Nat.mod_eq_of_lt small]
  rw [listed, Finset.card_image_of_injective, Finset.card_range, Nat.mul_div_cancel_left _ positive]
  intro turn turn' same
  exact Nat.eq_of_mul_eq_mul_left positive (Nat.add_left_cancel same)

/-- The candidates, as bytes, that are accepted and yield a residue. -/
def candidatesFor (upper residue : Nat) : Set (List UInt8) :=
  {bytes | bytes.length = widthOf upper ∧ fromBigEndian bytes < limitOf upper ∧
    fromBigEndian bytes % upper = residue}

theorem ncard_candidatesFor {upper residue : Nat} (small : residue < upper) :
    (candidatesFor upper residue).ncard = limitOf upper / upper := by
  have space : 2 ^ (widthOf upper * 8) = 256 ^ widthOf upper := by
    rw [Nat.mul_comm, pow_mul]
    rfl
  have listed : candidatesFor upper residue = toBigEndian (widthOf upper) ''
      ((Finset.range (limitOf upper)).filter fun candidate => candidate % upper = residue) := by
    ext bytes
    simp only [candidatesFor, Set.mem_ofPred_eq, Set.mem_image, Finset.coe_filter, Finset.mem_range]
    constructor
    · rintro ⟨length, below, same⟩
      refine ⟨fromBigEndian bytes, ⟨below, same⟩, ?_⟩
      rw [← length, toBigEndian_fromBigEndian]
    · rintro ⟨candidate, ⟨below, same⟩, rfl⟩
      have fits : candidate < 256 ^ widthOf upper := space ▸ below.trans_le (limitOf_le upper)
      rw [fromBigEndian_toBigEndian fits]
      exact ⟨length_toBigEndian _ _, below, same⟩
  rw [listed, Set.InjOn.ncard_image, Set.ncard_coe_finset, card_residue small (dvd_limitOf upper)]
  intro a inA b inB same
  have fits : ∀ candidate, candidate < limitOf upper → candidate < 256 ^ widthOf upper :=
    fun candidate below => space ▸ below.trans_le (limitOf_le upper)
  have below := fits a (Finset.mem_range.mp (Finset.mem_filter.mp inA).1)
  have below' := fits b (Finset.mem_range.mp (Finset.mem_filter.mp inB).1)
  rw [← fromBigEndian_toBigEndian below, same, fromBigEndian_toBigEndian below']

/-! ### The draws -/

variable [HashBytes] {seed : RootSeed} {material : List UInt8} {limit width : Nat}

/-- A draw of the loop, with what it was read from. -/
def IsDraw (seed : RootSeed) (material : List UInt8) (width index : Nat) (draw : CandidateDraw) :
    Prop :=
  ∃ bytes blocks, candidateBytes seed material index width = .ok (bytes, blocks) ∧
    draw = ⟨index, hex bytes, fromBigEndian bytes, blocks⟩

/-- Every draw so far was at or above the limit. -/
def Rejected (seed : RootSeed) (material : List UInt8) (limit width : Nat)
    (draws : List CandidateDraw) : Prop :=
  ∀ index draw, draws[index]? = some draw →
    IsDraw seed material width index draw ∧ limit ≤ draw.candidate

omit [HashBytes] in
theorem candidateLoop_blocks [HashBytes] {drawIndex rounds blockIndex blocks : Nat}
    {output candidate : List UInt8}
    (drawn : candidateLoop seed material drawIndex width rounds output blockIndex =
      .ok (candidate, blocks)) :
    blockIndex ≤ blocks ∧ (output.length < width → 0 < rounds → blockIndex < blocks) := by
  induction rounds generalizing output blockIndex with
  | zero =>
      cases drawn
      exact ⟨Nat.le_refl _, fun _ none_left => absurd none_left (Nat.lt_irrefl 0)⟩
  | succ rounds ih =>
      rw [candidateLoop] at drawn
      split_ifs at drawn with short
      · obtain ⟨block, -, rest⟩ := bind_ok.mp drawn
        have more := (ih rest).1
        exact ⟨by omega, fun _ _ => by omega⟩
      · cases drawn
        exact ⟨Nat.le_refl _, fun less => absurd less short⟩

/-- A candidate takes at least one block. -/
theorem candidateBytes_blocks {drawIndex blocks : Nat} {candidate : List UInt8} (wide : 0 < width)
    (drawn : candidateBytes seed material drawIndex width = .ok (candidate, blocks)) : 0 < blocks :=
  (candidateLoop_blocks drawn).2 wide wide

/-- The loop ends with the first candidate below the limit. -/
theorem drawLoop_ok {domainDigest : String} {upper left index : Nat} {draws : List CandidateDraw}
    {result : BoundedIntegerResult} (rejected : Rejected seed material limit width draws)
    (counted : draws.length = index)
    (drawn : drawLoop seed material domainDigest upper limit width left index draws = .ok result) :
    ∃ earlier final, Rejected seed material limit width earlier ∧
      earlier.length = result.drawIndex ∧ IsDraw seed material width result.drawIndex final ∧
      final.candidate < limit ∧
      result = ⟨final.candidate % upper, result.drawIndex, final.candidateHex, final.candidate, limit,
        width, final.blockCount, earlier ++ [final], domainDigest, hex (sha256 material)⟩ := by
  induction left generalizing index draws with
  | zero => cases drawn
  | succ left ih =>
      rw [drawLoop] at drawn
      obtain ⟨⟨bytes, blocks⟩, read, drawn⟩ := bind_ok.mp drawn
      dsimp only at drawn
      split_ifs at drawn with below
      · cases drawn
        exact ⟨draws, _, rejected, counted, ⟨bytes, blocks, read, rfl⟩, below, rfl⟩
      · refine ih ?_ (by simp [counted]) drawn
        intro place draw found
        rcases Nat.lt_trichotomy place draws.length with old | rfl | beyond
        · rw [List.getElem?_append_left old] at found
          exact rejected place draw found
        · rw [List.getElem?_concat_length] at found
          cases found
          exact ⟨⟨bytes, blocks, counted ▸ read, by rw [counted]⟩, not_lt.mp below⟩
        · rw [List.getElem?_eq_none (by simp; omega)] at found
          cases found

/-- What a result of `_bounded_integer_for_domain` is made of. -/
structure Bounded (seed : RootSeed) (path : ChoicePath) (operation : ChoiceOperation) (upper : Nat)
    (result : BoundedIntegerResult) (material : List UInt8) (earlier : List CandidateDraw)
    (final : CandidateDraw) : Prop where
  positive : 0 < upper
  rendered : choiceMaterial path operation result.domainDigest = .ok material
  domain : isHexDigest result.domainDigest = true
  rejected : Rejected seed material (limitOf upper) (widthOf upper) earlier
  counted : earlier.length = result.drawIndex
  drawn : IsDraw seed material (widthOf upper) result.drawIndex final
  below : final.candidate < limitOf upper
  fields : result = ⟨final.candidate % upper, result.drawIndex, final.candidateHex, final.candidate,
    limitOf upper, widthOf upper, final.blockCount, earlier ++ [final], result.domainDigest,
    hex (sha256 material)⟩

theorem boundedIntegerForDomain_ok {path : ChoicePath} {operation : ChoiceOperation} {upper : Int}
    {domain : Value} {result : BoundedIntegerResult}
    (drawn : boundedIntegerForDomain seed path operation upper domain = .ok result) :
    jsonDigest domain = .ok result.domainDigest ∧ ∃ material earlier final,
      Bounded seed path operation upper.toNat result material earlier final := by
  obtain ⟨positive, drawn⟩ := require_bind.mp drawn
  obtain ⟨digest, digested, drawn⟩ := bind_ok.mp drawn
  obtain ⟨material, rendered, drawn⟩ := bind_ok.mp drawn
  have none_yet : Rejected seed material (limitOf upper.toNat) (widthOf upper.toNat) [] :=
    fun index draw found => by cases found
  obtain ⟨earlier, final, rejected, counted, read, below, fields⟩ :=
    @drawLoop_ok _ _ _ (limitOf upper.toNat) (widthOf upper.toNat) _ _ _ _ _ _ none_yet rfl drawn
  have same : result.domainDigest = digest := by rw [fields]
  have isDigest : isHexDigest digest = true := by
    obtain ⟨bytes, -, hashed⟩ := bind_ok.mp digested
    cases hashed
    exact isHexDigest_hex (length_sha256 _)
  refine ⟨same ▸ digested, material, earlier, final, by omega, same ▸ rendered, same ▸ isDigest,
    rejected, counted, read, below, ?_⟩
  rw [same]
  exact fields

/-! ### The evidence -/

/-- The record of a draw. -/
def recordOf (draw : CandidateDraw) : CandidateDrawRecord :=
  ⟨draw.drawIndex, draw.candidateHex, draw.blockCount⟩

/-- What the checks of the records ask of a draw. -/
structure Recordable (width : Nat) (draw : CandidateDraw) : Prop where
  digits : isHexBytes draw.candidateHex = true
  length : draw.candidateHex.toList.length = width * 2
  blocks : 0 < draw.blockCount
  value : hexValue draw.candidateHex = draw.candidate

theorem IsDraw.recordable {index : Nat} {draw : CandidateDraw} (wide : 0 < width)
    (drawn : IsDraw seed material width index draw) : Recordable width draw := by
  obtain ⟨bytes, blocks, read, rfl⟩ := drawn
  have length := candidateBytes_length read
  have filled : bytes ≠ [] := by
    rintro rfl
    rw [List.length_nil] at length
    omega
  exact ⟨isHexBytes_hex filled, by rw [length_hex, length], candidateBytes_blocks wide read,
    hexValue_hex bytes⟩

omit [HashBytes] in
theorem drawRecord_ok {draw : CandidateDraw} (sound : Recordable width draw) :
    drawRecord draw = .ok (recordOf draw) := by
  have valid : (recordOf draw).isValid = true := by
    simp [CandidateDrawRecord.isValid, recordOf, sound.digits, sound.blocks]
  exact require_bind.mpr ⟨valid, rfl⟩

namespace Bounded
variable {path : ChoicePath} {operation : ChoiceOperation} {upper : Nat}
  {result : BoundedIntegerResult} {earlier : List CandidateDraw} {final : CandidateDraw}

theorem recordable (bounded : Bounded seed path operation upper result material earlier final) :
    ∀ draw ∈ earlier ++ [final], Recordable (widthOf upper) draw := by
  intro draw member
  rcases List.mem_append.mp member with old | last
  · obtain ⟨index, found⟩ := List.mem_iff_getElem?.mp old
    exact (bounded.rejected index draw found).1.recordable (widthOf_pos upper)
  · rw [List.mem_singleton.mp last]
    exact bounded.drawn.recordable (widthOf_pos upper)

theorem indices (bounded : Bounded seed path operation upper result material earlier final) :
    (earlier ++ [final]).map (·.drawIndex) = List.range (earlier.length + 1) := by
  have own : final.drawIndex = earlier.length := by
    obtain ⟨bytes, blocks, -, same⟩ := bounded.drawn
    rw [same, bounded.counted]
  have before : earlier.map (·.drawIndex) = List.range earlier.length := by
    apply List.ext_getElem (by simp)
    intro index inside _
    rw [List.length_map] at inside
    obtain ⟨⟨bytes, blocks, -, same⟩, -⟩ := bounded.rejected index earlier[index]
      (List.getElem?_eq_getElem inside)
    rw [List.getElem_map, same, List.getElem_range]
  rw [List.map_append, before, List.range_succ, List.map_singleton, own]

/-- The evidence of the draws passes its own checks. -/
theorem evidence (bounded : Bounded seed path operation upper result material earlier final) :
    ∃ evidence, evidenceFromResult result = .ok evidence ∧ evidence.value = result.value ∧
      evidence.candidate = result.candidate := by
  have sound := bounded.recordable
  have last := sound final (by simp)
  have draws : result.draws = earlier ++ [final] := by rw [bounded.fields]
  have recorded : collect (result.draws.map drawRecord) =
      .ok ((earlier ++ [final]).map recordOf) := by
    rw [collect_eq_ok, draws, List.map_map]
    exact List.map_congr_left fun draw member => drawRecord_ok (sound draw member)
  have indexed : ((earlier ++ [final]).map recordOf).map (·.drawIndex) =
      List.range (earlier.length + 1) := by
    rw [List.map_map]
    exact bounded.indices
  have own : result.drawIndex = final.drawIndex := by
    obtain ⟨bytes, blocks, -, same⟩ := bounded.drawn
    rw [same]
  have above : ∀ draw ∈ earlier, limitOf upper ≤ hexValue draw.candidateHex := by
    intro draw member
    obtain ⟨index, found⟩ := List.mem_iff_getElem?.mp member
    rw [(sound draw (List.mem_append_left _ member)).value]
    exact (bounded.rejected index draw found).2
  have digest : isHexDigest (hex (sha256 material)) = true := isHexDigest_hex (length_sha256 _)
  have fields := bounded.fields
  refine ⟨⟨result.value, result.drawIndex, result.candidateHex, result.candidate, result.limit,
    result.width, result.blockCount, (earlier ++ [final]).map recordOf, result.domainDigest,
    result.materialDigest⟩, ?_, rfl, rfl⟩
  refine bind_ok.mpr ⟨_, recorded, require_bind.mpr ⟨?_, rfl⟩⟩
  have domain := bounded.domain
  have below := bounded.below
  rw [fields] at domain ⊢
  simp only [BoundedIntegerEvidence.isValid, indexed, domain, digest, last.length, last.digits,
    last.value, below, widthOf_pos, last.blocks]
  simp only [List.map_append, List.map_singleton, List.dropLast_concat, List.getLast?_concat,
    List.all_map]
  simp [recordOf, own]
  exact fun draw member => decide_eq_true (above draw member)

end Bounded

theorem recordFromBoundedResult_ok {path path' : ChoicePath} {operation : ChoiceOperation}
    {upper : Int} {result : BoundedIntegerResult} {earlier : List CandidateDraw}
    {final : CandidateDraw} {namespaceDigest commitment : String}
    (bounded : Bounded seed path operation upper.toNat result material earlier final)
    (isNamespace : isHexDigest namespaceDigest = true) (isCommitment : isHexDigest commitment = true) :
    ∃ record, recordFromBoundedResult path' namespaceDigest commitment upper result = .ok record := by
  obtain ⟨evidence, recorded, value, candidate⟩ := bounded.evidence
  have positive := bounded.positive
  have derived : result.value = result.candidate % upper.toNat := by rw [bounded.fields]
  have small : result.value < upper.toNat := derived ▸ Nat.mod_lt _ positive
  have whole : (upper.toNat : Int) = upper := by omega
  refine ⟨.bounded ⟨path', namespaceDigest, commitment, upper, evidence⟩, ?_⟩
  refine bind_ok.mpr ⟨evidence, recorded, ?_⟩
  simp only [require_bind, isNamespace, isCommitment, true_and, value, candidate]
  refine ⟨by omega, by omega, ?_, trivial⟩
  rw [derived, ← whole]
  exact Int.natCast_mod _ _

/-- The draw is uniform: the limit is a positive multiple of the bound that candidates reach, every
residue has equally many of them, the first below the limit is taken, and its evidence is accepted
by the constructors of the records. -/
theorem boundedInteger_exact :
    (∀ upper : Nat, 0 < upper →
      0 < limitOf upper ∧ limitOf upper ≤ 2 ^ (widthOf upper * 8) ∧ upper ∣ limitOf upper ∧
      ∀ residue < upper, (candidatesFor upper residue).ncard = limitOf upper / upper) ∧
    ∀ (seed : RootSeed) (path : ChoicePath) (operation : ChoiceOperation) (upper : Int)
      (domain : Value) (result : BoundedIntegerResult),
      boundedIntegerForDomain seed path operation upper domain = .ok result →
      result.width = widthOf upper.toNat ∧ result.limit = limitOf upper.toNat ∧
      (result.value : Int) < upper ∧ result.value = result.candidate % upper.toNat ∧
      result.candidate < result.limit ∧ jsonDigest domain = .ok result.domainDigest ∧
      (∃ material, choiceMaterial path operation result.domainDigest = .ok material ∧
        (∃ bytes blocks, candidateBytes seed material result.drawIndex result.width =
          .ok (bytes, blocks) ∧ fromBigEndian bytes = result.candidate) ∧
        ∀ index < result.drawIndex, ∃ bytes blocks,
          candidateBytes seed material index result.width = .ok (bytes, blocks) ∧
          result.limit ≤ fromBigEndian bytes) ∧
      (∃ evidence, evidenceFromResult result = .ok evidence) ∧
      ∀ (recorded : ChoicePath) (namespaceDigest commitment : String),
        isHexDigest namespaceDigest = true → isHexDigest commitment = true →
        ∃ record, recordFromBoundedResult recorded namespaceDigest commitment upper result =
          .ok record := by
  refine ⟨fun upper positive => ⟨limitOf_pos positive, limitOf_le upper, dvd_limitOf upper,
    fun residue small => ncard_candidatesFor small⟩, ?_⟩
  intro seed path operation upper domain result drawn
  obtain ⟨digested, material, earlier, final, bounded⟩ := boundedIntegerForDomain_ok drawn
  have fields := bounded.fields
  have width : result.width = widthOf upper.toNat := by rw [fields]
  have limit : result.limit = limitOf upper.toNat := by rw [fields]
  have candidate : result.candidate = final.candidate := by rw [fields]
  have derived : result.value = result.candidate % upper.toNat := by rw [fields]
  have small : result.value < upper.toNat := derived ▸ Nat.mod_lt _ bounded.positive
  refine ⟨width, limit, by omega, derived, ?_, digested, ⟨material, bounded.rendered, ?_, ?_⟩, ?_, ?_⟩
  · rw [candidate, limit]
    exact bounded.below
  · obtain ⟨bytes, blocks, read, same⟩ := bounded.drawn
    exact ⟨bytes, blocks, width ▸ read, by rw [candidate, same]⟩
  · intro index early
    rw [← bounded.counted] at early
    obtain ⟨⟨bytes, blocks, read, same⟩, above⟩ :=
      bounded.rejected index earlier[index] (List.getElem?_eq_getElem early)
    rw [same] at above
    exact ⟨bytes, blocks, width ▸ read, limit ▸ above⟩
  · obtain ⟨evidence, recorded, -⟩ := bounded.evidence
    exact ⟨evidence, recorded⟩
  · exact fun _ _ _ isNamespace isCommitment =>
      recordFromBoundedResult_ok bounded isNamespace isCommitment

end CsdFoundry.Synthesis.Choices
