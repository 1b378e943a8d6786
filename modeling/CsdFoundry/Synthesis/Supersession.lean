import Mathlib.Data.List.Induction
import Mathlib.Logic.Relation
import Mathlib.Order.WellFounded
import CsdFoundry.Synthesis.ChoicePaths

/-! Supersession of execution inventories: an accepted history leads from every inventory to one
that was never superseded. -/
namespace CsdFoundry.Synthesis
open Admission Choices Relation

/-! ### Relations that lead to an end -/

section Ends
variable {α : Type} {r : α → α → Prop} {a b : α}

/-- Nothing follows. -/
def IsEnd (r : α → α → Prop) (a : α) : Prop := ∀ b, ¬ r a b

/-- The relation is a function without cycles, and from everywhere it leads to one end. -/
structure LeadsToEnd (r : α → α → Prop) : Prop where
  functional : ∀ a b c, r a b → r a c → b = c
  acyclic : ∀ a, ¬ TransGen r a a
  ends : ∀ a, ∃! last, ReflTransGen r a last ∧ IsEnd r last

theorem IsEnd.eq_of_reaches (ending : IsEnd r a) (reaches : ReflTransGen r a b) : a = b := by
  rcases reaches.cases_head with same | ⟨next, step, -⟩
  · exact same
  · exact absurd step (ending next)

theorem exists_end (grounded : WellFounded (flip r)) (a : α) :
    ∃ last, ReflTransGen r a last ∧ IsEnd r last := by
  induction a using grounded.induction with
  | _ a ih =>
      by_cases ending : IsEnd r a
      · exact ⟨a, .refl, ending⟩
      · obtain ⟨next, step⟩ : ∃ next, r a next := by
          simpa [IsEnd] using ending
        obtain ⟨last, reaches, ending⟩ := ih next step
        exact ⟨last, .head step reaches, ending⟩

theorem leadsToEnd (functional : Relator.RightUnique r) (grounded : WellFounded (flip r)) :
    LeadsToEnd r where
  functional := fun _ _ _ first second => functional first second
  acyclic := by
    intro a cycle
    have back : TransGen (flip r) a a := transGen_swap.mpr cycle
    exact grounded.transGen.asymmetric a a back back
  ends := by
    intro a
    obtain ⟨last, reaches, ending⟩ := exists_end grounded a
    refine ⟨last, ⟨reaches, ending⟩, ?_⟩
    rintro other ⟨path, final⟩
    rcases ReflTransGen.total_of_right_unique functional reaches path with onward | back
    · exact (ending.eq_of_reaches onward).symm
    · exact final.eq_of_reaches back

/-- A step to an end of the larger relation creates no infinite path. -/
theorem wellFounded_extend {larger : α → α → Prop} {target : α}
    (grounded : WellFounded (flip r)) (ending : IsEnd larger target)
    (added : ∀ a b, larger a b → r a b ∨ b = target) : WellFounded (flip larger) := by
  have settled : Acc (flip larger) target := ⟨_, fun next step => absurd step (ending next)⟩
  refine ⟨fun a => ?_⟩
  induction a using grounded.induction with
  | _ a ih =>
      refine ⟨_, fun next step => ?_⟩
      rcases added a next step with old | rfl
      · exact ih next old
      · exact settled

end Ends

/-! ### The records -/

inductive SupersessionFailure where
  | protocol (message : String)
  | choice (failure : ChoiceFailure)
  deriving DecidableEq

structure InventorySupersessionRecord where
  supersededInventoryDigest : String
  replacementInventoryDigest : String
  supersedingRunId : String
  reasonCode : String
  reasonFacts : CanonicalValue
  isSuperseded : isHexDigest supersededInventoryDigest = true
  isReplacement : isHexDigest replacementInventoryDigest = true
  differs : supersededInventoryDigest ≠ replacementInventoryDigest
  isRun : isToken supersedingRunId = true
  isReason : isToken reasonCode = true
  isObject : ∃ fields, reasonFacts.tree = .object fields

namespace InventorySupersessionRecord

/-- `to_json_value`. -/
def json (record : InventorySupersessionRecord) : Value :=
  jsonDict [
    ("reason_code", jsonText record.reasonCode),
    ("reason_facts", record.reasonFacts.json),
    ("replacement_inventory_digest", jsonText record.replacementInventoryDigest),
    ("schema_version", jsonText "csd-inventory-supersession/0.4"),
    ("superseded_inventory_digest", jsonText record.supersededInventoryDigest),
    ("superseding_run_id", jsonText record.supersedingRunId)]

def digest [HashBytes] (record : InventorySupersessionRecord) : Except SupersessionFailure String :=
  (jsonDigest record.json).mapError .choice

end InventorySupersessionRecord

def requireProtocol (condition : Prop) [Decidable condition] (message : String) :
    Except SupersessionFailure Unit :=
  if condition then .ok () else .error (.protocol message)

/-- What the scan of a history has seen. -/
structure SupersessionScan where
  superseded : List String
  recordDigests : List String

section Histories
variable [HashBytes]

/-- The body of the loop of `validate_supersession_history`. -/
def scanRecord (scan : SupersessionScan) (record : InventorySupersessionRecord) :
    Except SupersessionFailure SupersessionScan := do
  let digest ← record.digest
  requireProtocol (digest ∉ scan.recordDigests) "supersession history contains a duplicate record"
  requireProtocol (record.supersededInventoryDigest ∉ scan.superseded)
    "an inventory cannot be superseded more than once"
  requireProtocol (record.replacementInventoryDigest ∉ scan.superseded)
    "a previously superseded inventory cannot be reactivated"
  return ⟨record.supersededInventoryDigest :: scan.superseded, digest :: scan.recordDigests⟩

def validateSupersessionHistory (records : List InventorySupersessionRecord) :
    Except SupersessionFailure (List InventorySupersessionRecord) := do
  let _ ← records.foldlM scanRecord ⟨[], []⟩
  return records

def appendInventorySupersession (history : List InventorySupersessionRecord)
    (record : InventorySupersessionRecord) :
    Except SupersessionFailure (List InventorySupersessionRecord) :=
  validateSupersessionHistory (history ++ [record])

/-! ### Accepted histories -/

variable {history records : List InventorySupersessionRecord} {record : InventorySupersessionRecord}
  {scan next : SupersessionScan}

/-- A record of the history replaces the first inventory by the second. -/
def Supersedes (history : List InventorySupersessionRecord) (superseded replacement : String) :
    Prop :=
  ∃ record ∈ history, record.supersededInventoryDigest = superseded ∧
    record.replacementInventoryDigest = replacement

omit [HashBytes] in
theorem supersedes_concat {superseded replacement : String} :
    Supersedes (history ++ [record]) superseded replacement ↔
      Supersedes history superseded replacement ∨
        record.supersededInventoryDigest = superseded ∧
          record.replacementInventoryDigest = replacement := by
  simp [Supersedes, or_and_right, exists_or]

omit [HashBytes] in
theorem requireProtocol_bind {condition : Prop} [Decidable condition] {message : String}
    {rest : Unit → Except SupersessionFailure α} {value : α} :
    (requireProtocol condition message >>= rest) = .ok value ↔
      condition ∧ rest () = .ok value := by
  unfold requireProtocol
  split
  · simp_all [bind, Except.bind]
  · simp_all [bind, Except.bind]

/-- A record that the scan accepts names two inventories that were not superseded before. -/
theorem scanRecord_ok (accepted : scanRecord scan record = .ok next) :
    record.supersededInventoryDigest ∉ scan.superseded ∧
      record.replacementInventoryDigest ∉ scan.superseded ∧
      next.superseded = record.supersededInventoryDigest :: scan.superseded := by
  rw [scanRecord] at accepted
  obtain ⟨digest, -, accepted⟩ := Results.bind_ok.mp accepted
  obtain ⟨-, accepted⟩ := requireProtocol_bind.mp accepted
  obtain ⟨once, accepted⟩ := requireProtocol_bind.mp accepted
  obtain ⟨inactive, accepted⟩ := requireProtocol_bind.mp accepted
  obtain rfl := Except.ok.inj accepted
  exact ⟨once, inactive, rfl⟩

/-- What the scan of a history establishes: it knows what was superseded, each inventory once, and
no path of replacements is infinite. -/
structure Scanned (history : List InventorySupersessionRecord) (scan : SupersessionScan) : Prop where
  known : ∀ inventory, inventory ∈ scan.superseded ↔
    ∃ record ∈ history, record.supersededInventoryDigest = inventory
  functional : Relator.RightUnique (Supersedes history)
  grounded : WellFounded (flip (Supersedes history))

omit [HashBytes] in
theorem Scanned.nil : Scanned [] ⟨[], []⟩ := by
  refine ⟨by simp, ?_, ⟨fun a => ⟨a, ?_⟩⟩⟩
  · rintro a b c ⟨record, none, -⟩
    cases none
  · rintro b ⟨record, none, -⟩
    cases none

/-- The replacement of the new record is the end of every path that takes it. -/
theorem Scanned.concat (scanned : Scanned history scan)
    (accepted : scanRecord scan record = .ok next) : Scanned (history ++ [record]) next := by
  obtain ⟨once, inactive, extended⟩ := scanRecord_ok accepted
  have unused : ∀ {inventory other}, Supersedes history inventory other →
      inventory ∈ scan.superseded := fun ⟨earlier, member, source, _⟩ =>
    (scanned.known _).mpr ⟨earlier, member, source⟩
  have ending : IsEnd (Supersedes (history ++ [record])) record.replacementInventoryDigest := by
    intro other step
    rcases supersedes_concat.mp step with old | ⟨same, -⟩
    · exact inactive (unused old)
    · exact record.differs same
  refine ⟨?_, ?_, ?_⟩
  · intro inventory
    rw [extended, List.mem_cons, scanned.known]
    simp [or_and_right, exists_or, or_comm, eq_comm]
  · intro inventory first second toFirst toSecond
    rcases supersedes_concat.mp toFirst with old | ⟨rfl, rfl⟩ <;>
      rcases supersedes_concat.mp toSecond with old' | ⟨same, same'⟩
    · exact scanned.functional old old'
    · exact absurd (same ▸ unused old) once
    · exact absurd (unused old') once
    · exact same'
  · refine wellFounded_extend scanned.grounded ending fun a b step => ?_
    exact (supersedes_concat.mp step).imp_right fun taken => taken.2.symm

theorem scanned_of_fold (accepted : history.foldlM scanRecord ⟨[], []⟩ = .ok scan) :
    Scanned history scan := by
  induction history using List.reverseRecOn generalizing scan with
  | nil =>
      obtain rfl := Except.ok.inj accepted
      exact Scanned.nil
  | append_singleton history record ih =>
      rw [List.foldlM_append] at accepted
      obtain ⟨before, earlier, accepted⟩ := Results.bind_ok.mp accepted
      rw [List.foldlM_cons] at accepted
      obtain ⟨after, scanned, accepted⟩ := Results.bind_ok.mp accepted
      obtain rfl := Except.ok.inj accepted
      exact (ih earlier).concat scanned

theorem validateSupersessionHistory_ok (accepted : validateSupersessionHistory history =
    .ok records) : records = history ∧ LeadsToEnd (Supersedes history) := by
  obtain ⟨scan, accepted, returned⟩ := Results.bind_ok.mp accepted
  have scanned := scanned_of_fold accepted
  exact ⟨(Except.ok.inj returned).symm, leadsToEnd scanned.functional scanned.grounded⟩

/-- An accepted history leads from every inventory to one that was never superseded, and so does
what an accepted record makes of it. -/
theorem supersession_history_leads (history records : List InventorySupersessionRecord) :
    (validateSupersessionHistory history = .ok records →
      records = history ∧ LeadsToEnd (Supersedes history)) ∧
    ∀ record, appendInventorySupersession history record = .ok records →
      records = history ++ [record] ∧ LeadsToEnd (Supersedes records) := by
  refine ⟨validateSupersessionHistory_ok, fun record accepted => ?_⟩
  obtain ⟨rfl, leads⟩ := validateSupersessionHistory_ok accepted
  exact ⟨rfl, leads⟩

end Histories

/-! Two supersessions in a row. -/
section Sample

def sampleDigest (letter : Char) : String := String.ofList (List.replicate 64 letter)

def sampleSupersession (superseded replacement : Char)
    (isSuperseded : isHexDigest (sampleDigest superseded) = true)
    (isReplacement : isHexDigest (sampleDigest replacement) = true)
    (differs : sampleDigest superseded ≠ sampleDigest replacement) :
    InventorySupersessionRecord where
  supersededInventoryDigest := sampleDigest superseded
  replacementInventoryDigest := sampleDigest replacement
  supersedingRunId := "run"
  reasonCode := "reason"
  reasonFacts := ⟨.object [], rfl⟩
  isSuperseded := isSuperseded
  isReplacement := isReplacement
  differs := differs
  isRun := by decide
  isReason := by decide
  isObject := ⟨[], rfl⟩

def firstSupersession : InventorySupersessionRecord :=
  sampleSupersession 'a' 'b' (by decide) (by decide) (by decide)

def secondSupersession : InventorySupersessionRecord :=
  sampleSupersession 'b' 'c' (by decide) (by decide) (by decide)

/-- SHA-256 of the two records. -/
@[reducible]
def supersessionHash : HashBytes where
  sha256 message :=
    if .ok message = jsonBytes firstSupersession.json then [
      99, 29, 121, 18, 42, 39, 95, 153, 54, 229, 84, 41, 139, 33, 130, 18,
      71, 176, 204, 215, 21, 194, 176, 45, 31, 131, 248, 160, 19, 166, 230, 103]
    else [
      73, 178, 245, 90, 186, 75, 66, 249, 222, 60, 29, 57, 49, 76, 60, 179,
      195, 50, 44, 57, 166, 241, 166, 158, 8, 20, 179, 49, 35, 55, 209, 62]
  length_sha256 message := by split_ifs <;> rfl

theorem supersession_history_leads_sample :
    ∃! last, ReflTransGen (Supersedes [firstSupersession, secondSupersession]) (sampleDigest 'a') last ∧
      IsEnd (Supersedes [firstSupersession, secondSupersession]) last := by
  have passes : (@appendInventorySupersession supersessionHash [firstSupersession]
      secondSupersession).toBool = true := by decide +kernel
  cases appended : @appendInventorySupersession supersessionHash [firstSupersession]
      secondSupersession with
  | error failure =>
      rw [appended] at passes
      cases passes
  | ok records =>
      obtain ⟨rfl, leads⟩ := (@supersession_history_leads supersessionHash [firstSupersession]
        records).2 secondSupersession appended
      exact leads.ends (sampleDigest 'a')

end Sample
end CsdFoundry.Synthesis
