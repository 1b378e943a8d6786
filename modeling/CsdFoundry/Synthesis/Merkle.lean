import CsdFoundry.StableSort
import CsdFoundry.Synthesis.Publications
import Mathlib

/-! The append-only Merkle forest: at most one peak of each level, and a new record carries
through the levels that are taken. -/
namespace CsdFoundry.Synthesis

structure MerklePeak (D : Type) where
  level : Nat
  digest : D
  leafCount : Nat
  deriving DecidableEq

/-- `StreamingMerkleAccumulator`; `peaks` is a dictionary by level. -/
structure MerkleAccumulator (D : Type) where
  domain : String
  peaks : List (MerklePeak D)
  recordCount : Nat

variable {D : Type} [Sha256 D] [DigestText D]

/-- The constructor checks of `MerklePeak`. -/
def MerklePeak.check (peak : MerklePeak D) : Except SynthesisError Unit := do
  require (peak.level ≤ uint32Max) .reconciliation
  require (peak.leafCount ≤ uint32Max) .reconciliation
  require (peak.leafCount ≠ 0) .reconciliation

def MerklePeak.toJsonValue (peak : MerklePeak D) : Json :=
  .obj [("digest", .str (DigestText.text peak.digest)), ("leaf_count", .int peak.leafCount),
    ("level", .int peak.level)]

namespace MerkleAccumulator

def empty (domain : String) : MerkleAccumulator D := ⟨domain, [], 0⟩

/-- `while current.level in self._peaks`. Every turn uses up a peak. -/
def carry (domain : String) : Nat → List (MerklePeak D) → MerklePeak D →
    Except SynthesisError (List (MerklePeak D))
  | 0, peaks, current => .ok (peaks ++ [current])
  | fuel + 1, peaks, current =>
      match peaks.find? (fun peak => peak.level = current.level) with
      | none => .ok (peaks ++ [current])
      | some left => do
          let node : MerklePeak D :=
            { level := current.level + 1
              digest := Sha256.sha256 "csd-streaming-merkle-node/0.4" [.str domain,
                .nat (left.leafCount + current.leafCount), .digest left.digest,
                .nat (current.level + 1), .digest current.digest]
              leafCount := left.leafCount + current.leafCount }
          node.check
          carry domain fuel (peaks.eraseP fun peak => peak.level = current.level) node

def addRecord (accumulator : MerkleAccumulator D) (digest : D) :
    Except SynthesisError (MerkleAccumulator D) := do
  let peaks ← carry accumulator.domain accumulator.peaks.length accumulator.peaks ⟨0, digest, 1⟩
  return { accumulator with peaks := peaks, recordCount := accumulator.recordCount + 1 }

/-- The root digest, the number of records and the number of peaks. -/
def finalize (accumulator : MerkleAccumulator D) : D × Nat × Nat :=
  let ordered := accumulator.peaks.insertionSort fun a b => b.level ≤ a.level
  (Sha256.sha256 "csd-streaming-merkle-root/0.4" [.str accumulator.domain, .nat ordered.length,
    .json (.arr (ordered.map (·.toJsonValue))), .nat accumulator.recordCount],
    accumulator.recordCount, ordered.length)

theorem finalize_peakCount (accumulator : MerkleAccumulator D) :
    accumulator.finalize.2.2 = accumulator.peaks.length :=
  List.length_insertionSort _ _

/-- The peaks hold all records, and no peak is higher than it has leaves. -/
structure Counted (peaks : List (MerklePeak D)) (records : Nat) : Prop where
  total : (peaks.map (·.leafCount)).sum = records
  low : ∀ peak ∈ peaks, peak.level < peak.leafCount

omit [Sha256 D] [DigestText D] in
theorem Counted.length_le {peaks : List (MerklePeak D)} {records : Nat}
    (counted : Counted peaks records) : peaks.length ≤ records := by
  obtain ⟨rfl, low⟩ := counted
  induction peaks with
  | nil => exact Nat.zero_le _
  | cons peak peaks ih =>
      have first := low peak List.mem_cons_self
      have rest := ih fun other member => low other (List.mem_cons_of_mem _ member)
      simp only [List.length_cons, List.map_cons, List.sum_cons]
      omega

omit [Sha256 D] [DigestText D] in
theorem Counted.perm {peaks peaks' : List (MerklePeak D)} {records : Nat}
    (same : peaks'.Perm peaks) (counted : Counted peaks records) : Counted peaks' records :=
  ⟨(same.map _).sum_eq.trans counted.total, fun peak member => counted.low peak (same.mem_iff.mp member)⟩

omit [DigestText D] in
theorem carry_ok (domain : String) {fuel : Nat} {peaks : List (MerklePeak D)}
    {current : MerklePeak D} {records : Nat} (counted : Counted (current :: peaks) records)
    (small : records ≤ uint32Max) :
    ∃ carried, carry domain fuel peaks current = .ok carried ∧ Counted carried records := by
  have appended : ∀ {peaks : List (MerklePeak D)} {current : MerklePeak D},
      Counted (current :: peaks) records → Counted (peaks ++ [current]) records :=
    fun counted => counted.perm (List.perm_append_singleton _ _)
  induction fuel generalizing peaks current with
  | zero => exact ⟨_, rfl, appended counted⟩
  | succ fuel ih =>
      rw [carry]
      cases found : peaks.find? (fun peak => peak.level = current.level) with
      | none => exact ⟨_, rfl, appended counted⟩
      | some left =>
          have level : left.level = current.level := by simpa using List.find?_some found
          have perm := StableSort.perm_of_find found
          obtain ⟨total, low⟩ := counted.perm (perm.symm.cons current)
          simp only [List.map_cons, List.sum_cons] at total
          have height := low current List.mem_cons_self
          have height' := low left (List.mem_cons_of_mem _ List.mem_cons_self)
          have checked : ∀ digest : D, MerklePeak.check
              ⟨current.level + 1, digest, left.leafCount + current.leafCount⟩ = .ok () := by
            intro digest
            have level : current.level + 1 ≤ uint32Max := by omega
            have leaves : left.leafCount + current.leafCount ≤ uint32Max := by omega
            have some : left.leafCount + current.leafCount ≠ 0 := by omega
            simp only [MerklePeak.check, require, if_pos level, if_pos leaves, if_pos some]
            rfl
          simp only [checked]
          refine ih ⟨?_, ?_⟩
          · simp only [List.map_cons, List.sum_cons]
            omega
          · intro peak member
            rcases List.mem_cons.mp member with rfl | older
            · show current.level + 1 < left.leafCount + current.leafCount
              omega
            · exact low peak (List.mem_cons_of_mem _ (List.mem_cons_of_mem _ older))

omit [DigestText D] in
theorem addRecord_ok {accumulator : MerkleAccumulator D} (digest : D)
    (counted : Counted accumulator.peaks accumulator.recordCount)
    (small : accumulator.recordCount + 1 ≤ uint32Max) :
    ∃ added, accumulator.addRecord digest = .ok added ∧
      Counted added.peaks added.recordCount ∧ added.recordCount = accumulator.recordCount + 1 := by
  have leaf : Counted (⟨0, digest, 1⟩ :: accumulator.peaks) (accumulator.recordCount + 1) := by
    refine ⟨by simp [counted.total, Nat.add_comm], ?_⟩
    intro peak member
    rcases List.mem_cons.mp member with rfl | older
    · exact Nat.one_pos
    · exact counted.low peak older
  obtain ⟨peaks, carried, counted'⟩ := carry_ok accumulator.domain leaf small
  refine ⟨{ accumulator with peaks := peaks, recordCount := accumulator.recordCount + 1 }, ?_,
    counted', rfl⟩
  rw [addRecord, carried]
  rfl

end MerkleAccumulator
end CsdFoundry.Synthesis
