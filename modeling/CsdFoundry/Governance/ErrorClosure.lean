import CsdFoundry.Governance.Refusals

/-! Which errors leave the canonicalisation. The normaliser and the renderer stand inside the block
that translates them; the encoding of the rendered text and the copy of the value do not. -/
namespace CsdFoundry.Governance
open Admission Admission.Value Encoding Results

/-- How many more frames the interpreter has, for `deepcopy` and for `_normalize`. -/
structure Stack where
  copying : Nat
  normalizing : Nat

/-- `canonical_bytes` on a limited stack. -/
def canonicalBytesWithin (stack : Stack) (value schema : Value) : Except Raised (List UInt8) :=
  match schema with
  | .dict _ => do
      let normal ← normalizeWithin stack.normalizing value schema
      if normal.every hasDigits = true then
        match normal.dumps with
        | some rendered => .ok (utf8 (rendered ++ ['\n']))
        | none => .error (.failure .unicodeEncode)
      else .error (.failure canonicalizationFailed)
  | _ => .error (.failure (.contract "SCHEMA_TYPE_INVALID"))

/-- `unsigned.pop(digest_field, None)`. -/
def unsigned (members : Dict) (digestField : String) : Dict :=
  members.filter fun member => member.1 ≠ .text digestField

/-- `domain_digest`, with the hexadecimal digest of SHA-256. -/
def domainDigest (sha256 : List UInt8 → String) (stack : Stack) (value schema : Value)
    (digestField domainPrefix : String) : Except Raised String :=
  match value with
  | .dict members =>
      if digestField = "" then .error (.failure (.contract "DIGEST_FIELD_INVALID"))
      else if domainPrefix = "" then .error (.failure (.contract "DOMAIN_PREFIX_INVALID"))
      else if stack.copying < nesting value then .error .recursion
      else do
        let bytes ← canonicalBytesWithin stack (.dict (unsigned members digestField)) schema
        .ok ("sha256:" ++ sha256 (utf8 domainPrefix.toList ++ bytes))
  | _ => .error (.failure (.contract "CONTRACT_VALUE_NOT_OBJECT"))

/-- Whatever is raised is a `GovernanceContractError`. -/
def Closed {α : Type} (outcome : Except Raised α) : Prop :=
  ∀ raised, outcome = .error raised → ∃ code, raised = .failure (.contract code)

/-- The condition under which `canonical_bytes` raises nothing else. -/
def Handled (stack : Stack) (value schema : Value) : Prop :=
  if nesting value ≤ stack.normalizing then
    Offence schema value ∨ value.every hasDigits = false ∨ value.every isWritten = true
  else Refused stack.normalizing schema value

section Closure
variable {stack : Stack} {schema value normal : Value}

/-- What fails in the normaliser, fails with a `GovernanceContractError`. -/
theorem failure_contract (wellFormed : WellFormed schema) {room : Nat} {failure : Failure}
    (rejected : normalizeWithin room value schema = .error (.failure failure)) :
    ∃ code, failure = .contract code := by
  rcases normalizeWithin_agrees room value schema with exhausted | same
  · rw [rejected] at exhausted
    cases exhausted
  · rw [rejected] at same
    refine normalize_contract wellFormed (?_ : normalize value schema = .error failure)
    cases result : normalize value schema with
    | error other =>
        rw [result] at same
        cases same
        rfl
    | ok normal =>
        rw [result] at same
        cases same

/-- What leaves the normaliser is encoded outside the block. -/
theorem rendered_closed_iff (accepted : normalize value schema = .ok normal) :
    Closed (if normal.every hasDigits = true then
        match normal.dumps with
        | some rendered => .ok (utf8 (rendered ++ ['\n']))
        | none => .error (.failure .unicodeEncode)
      else .error (.failure canonicalizationFailed)) ↔
      value.every hasDigits = false ∨ value.every isWritten = true := by
  have moved := (same_normal accepted).every_iff (p := hasDigits) (fun _ _ => rfl) fun _ _ => rfl
  cases digits : value.every hasDigits with
  | false =>
      have long : ¬normal.every hasDigits = true := by
        rw [← moved, digits]
        exact Bool.false_ne_true
      rw [if_neg long]
      refine iff_of_true (fun raised escaped => ?_) (.inl rfl)
      cases escaped
      exact ⟨_, rfl⟩
  | true =>
      obtain ⟨short, rendered⟩ := normal_rendered accepted digits
      rw [if_pos short, ← rendered]
      cases normal.dumps with
      | none =>
          refine iff_of_false (fun closed => ?_) (by simp)
          obtain ⟨code, escaped⟩ := closed _ rfl
          cases escaped
      | some text => exact iff_of_true (fun raised escaped => by cases escaped) (.inr rfl)

theorem canonicalBytes_closed_iff (wellFormed : WellFormed schema)
    (distinct : value.every hasUniqueKeys = true) :
    Closed (canonicalBytesWithin stack value schema) ↔ Handled stack value schema := by
  have fails : (∃ failure, normalizeWithin stack.normalizing value schema =
      .error (.failure failure)) ↔ Refused stack.normalizing schema value :=
    refused_iff wellFormed distinct
  have fits : nesting value ≤ stack.normalizing → _ := fails_of_fits wellFormed distinct
  have unfolded : canonicalBytesWithin stack value schema = (do
      let normal ← normalizeWithin stack.normalizing value schema
      if normal.every hasDigits = true then
        match normal.dumps with
        | some rendered => .ok (utf8 (rendered ++ ['\n']))
        | none => .error (.failure .unicodeEncode)
      else .error (.failure canonicalizationFailed)) := by
    cases wellFormed
    rfl
  rw [unfolded, Handled]
  cases outcome : normalizeWithin stack.normalizing value schema with
  | error raised =>
      cases raised with
      | recursion =>
          rw [outcome] at fails
          rw [if_neg fun fits => normalizeWithin_fits fits outcome, ← fails]
          refine iff_of_false (fun closed => ?_) (by simp)
          obtain ⟨code, escaped⟩ := closed .recursion rfl
          cases escaped
      | failure failure =>
          obtain ⟨code, rfl⟩ := failure_contract wellFormed outcome
          refine iff_of_true (fun raised escaped => ?_) ?_
          · cases escaped
            exact ⟨code, rfl⟩
          · split_ifs with shallow
            · exact .inl ((fits shallow).mp ⟨_, outcome⟩)
            · exact fails.mp ⟨_, outcome⟩
  | ok normal =>
      have passes := (normalizeWithin_accepts wellFormed distinct).mp ⟨normal, outcome⟩
      obtain ⟨normal', accepted⟩ := (normalize_accepts wellFormed distinct).mpr passes.2
      have same : normal' = normal := by
        rcases normalizeWithin_agrees stack.normalizing value schema with exhausted | same
        · rw [outcome] at exhausted
          cases exhausted
        · rw [outcome, accepted] at same
          exact (Except.ok.inj same).symm
      subst same
      rw [if_pos passes.1, or_iff_right passes.2]
      exact rendered_closed_iff accepted

theorem unsigned_unique {members : Dict} (distinct : (Value.dict members).every hasUniqueKeys = true)
    (digestField : String) :
    (Value.dict (unsigned members digestField)).every hasUniqueKeys = true := by
  obtain ⟨nodup, unique⟩ := every_dict.mp distinct
  refine every_dict.mpr ⟨decide_eq_true ?_, fun member among =>
    unique member (List.mem_of_mem_filter among)⟩
  exact (List.filter_sublist.map _).nodup (of_decide_eq_true nodup)

/-- `domain_digest` copies the value first, whatever is in it. -/
theorem domainDigest_closed_iff (sha256 : List UInt8 → String) (wellFormed : WellFormed schema)
    {members : Dict} (distinct : (Value.dict members).every hasUniqueKeys = true)
    {digestField domainPrefix : String} (named : digestField ≠ "") (prefixed : domainPrefix ≠ "") :
    Closed (domainDigest sha256 stack (.dict members) schema digestField domainPrefix) ↔
      nesting (.dict members) ≤ stack.copying ∧
        Handled stack (.dict (unsigned members digestField)) schema := by
  unfold domainDigest
  dsimp only
  rw [if_neg named, if_neg prefixed]
  by_cases deep : stack.copying < nesting (.dict members)
  · rw [if_pos deep]
    refine iff_of_false (fun closed => ?_) (fun fits => by omega)
    obtain ⟨code, escaped⟩ := closed _ rfl
    cases escaped
  · rw [if_neg deep, ← canonicalBytes_closed_iff wellFormed (unsigned_unique distinct digestField),
      and_iff_right (by omega)]
    cases canonicalBytesWithin stack (.dict (unsigned members digestField)) schema with
    | ok bytes =>
        exact iff_of_true (fun raised escaped => by cases escaped)
          (fun raised escaped => by cases escaped)
    | error raised =>
        constructor
        · intro closed other escaped
          cases escaped
          exact closed raised rfl
        · intro closed other escaped
          cases escaped
          exact closed raised rfl

end Closure

/-- Under a well-formed schema the canonicalisation of a JSON value raises nothing but
`GovernanceContractError` exactly where the condition holds. If the value is nested no deeper than
the stack allows: it offends somewhere, its strings are in UTF-8, or an integer in it is too long
before they matter. If it is nested deeper: an offence is met before the stack runs out. A digest
copies its object first. -/
theorem canonicalisation_closed_iff (sha256 : List UInt8 → String) (stack : Stack) (schema : Value)
    (wellFormed : WellFormed schema) (document : Document) :
    (Closed (canonicalBytesWithin stack document.value schema) ↔
      Handled stack document.value schema) ∧
    ∀ digestField domainPrefix,
      Closed (domainDigest sha256 stack document.value schema digestField domainPrefix) ↔
        ∀ members, document.value = .dict members → digestField ≠ "" → domainPrefix ≠ "" →
          nesting document.value ≤ stack.copying ∧
            Handled stack (.dict (unsigned members digestField)) schema := by
  obtain ⟨value, distinct⟩ := document
  refine ⟨canonicalBytes_closed_iff wellFormed distinct, ?_⟩
  intro digestField domainPrefix
  have contract {code : String} : Closed (.error (.failure (.contract code)) : Except Raised String) := by
    intro raised escaped
    cases escaped
    exact ⟨code, rfl⟩
  cases value with
  | dict members =>
      by_cases unnamed : digestField = ""
      · have closed : Closed (domainDigest sha256 stack (.dict members) schema digestField
            domainPrefix) := by
          unfold domainDigest
          dsimp only
          rw [if_pos unnamed]
          exact contract
        exact iff_of_true closed fun _ _ named => absurd unnamed named
      by_cases unprefixed : domainPrefix = ""
      · have closed : Closed (domainDigest sha256 stack (.dict members) schema digestField
            domainPrefix) := by
          unfold domainDigest
          dsimp only
          rw [if_neg unnamed, if_pos unprefixed]
          exact contract
        exact iff_of_true closed fun _ _ _ prefixed => absurd unprefixed prefixed
      rw [domainDigest_closed_iff sha256 wellFormed distinct unnamed unprefixed]
      constructor
      · intro handled members' same _ _
        cases same
        exact handled
      · exact fun handled => handled members rfl unnamed unprefixed
  | null | bool | int | float | str | list =>
      exact iff_of_true contract fun members other => by cases other

section Sample

def sampleSurrogate : Value :=
  .dict [(.text "name", .str (.lone ⟨[⟨0xD800, by decide⟩], by decide⟩))]

def sampleStack : Stack := ⟨100, 100⟩

/-- A name of one lone surrogate: the rendered text is encoded outside the block. A list in a list
in a list, where there is room for two: the block handles no `RecursionError`. -/
theorem surrogate_and_nesting_escape :
    canonicalBytesWithin sampleStack sampleSurrogate (.dict []) = .error (.failure .unicodeEncode) ∧
      ¬Closed (canonicalBytesWithin sampleStack sampleSurrogate (.dict [])) ∧
      canonicalBytesWithin ⟨2, 2⟩ (.list [.list [.list []]]) (.dict []) = .error .recursion ∧
      ¬Closed (canonicalBytesWithin ⟨2, 2⟩ (.list [.list [.list []]]) (.dict [])) := by
  have surrogate : canonicalBytesWithin sampleStack sampleSurrogate (.dict []) =
      .error (.failure .unicodeEncode) := by decide +kernel
  have nested : canonicalBytesWithin ⟨2, 2⟩ (.list [.list [.list []]]) (.dict []) =
      .error .recursion := by decide +kernel
  refine ⟨surrogate, fun closed => ?_, nested, fun closed => ?_⟩
  · obtain ⟨code, escaped⟩ := closed _ surrogate
    cases escaped
  · obtain ⟨code, escaped⟩ := closed _ nested
    cases escaped

/-- The entries are a set, and the tags of an entry are a multiset. -/
def sampleSchema : Value :=
  .dict [(.text "properties", .dict [(.text "entries", .dict [
    (.text "x-csd-collection-kind", .str (.text "SET")),
    (.text "items", .dict [(.text "properties", .dict [(.text "tags", .dict [
      (.text "x-csd-collection-kind", .str (.text "MULTISET"))])])])])])]

def sampleEntry (name : String) (tags : List String) : Value :=
  .dict [(.text "name", .str (.text name)),
    (.text "tags", .list (tags.map fun tag => .str (.text tag)))]

def sampleEntries (names : List String) : Value :=
  .dict [(.text "entries", .list [
    sampleEntry (names.headD "a") ["x", "y"], sampleEntry (names.getLastD "a") ["y", "x"]]),
    (.text "digest", .null)]

/-- A schema given by what it declares. -/
theorem WellFormed.of_declared {members : Dict} (properties : Option Dict) (items : Option Value)
    (kind : Option PyStr) (declares : members.lookup (.text "properties") = properties.map .dict)
    (items_eq : members.lookup (.text "items") = items)
    (kind_eq : members.lookup (.text "x-csd-collection-kind") = kind.map .str)
    (property : ∀ inners ∈ properties, ∀ member ∈ inners, WellFormed member.2)
    (item : ∀ inner ∈ items, WellFormed inner) : WellFormed (.dict members) := by
  refine .dict ?_ ?_ ?_ ?_
  · intro declared found
    rw [declares] at found
    obtain ⟨inners, -, rfl⟩ := Option.map_eq_some_iff.mp found
    exact ⟨inners, rfl⟩
  · intro inners key inner found own
    rw [declares] at found
    obtain ⟨inners', given, same⟩ := Option.map_eq_some_iff.mp found
    cases same
    exact property inners given (key, inner) (StableSort.mem_of_lookup own)
  · intro inner found
    rw [items_eq] at found
    exact item inner found
  · intro declared found
    rw [kind_eq] at found
    obtain ⟨name, -, rfl⟩ := Option.map_eq_some_iff.mp found
    exact ⟨name, rfl⟩

theorem sampleSchema_wellFormed : WellFormed sampleSchema := by
  have tags : WellFormed (.dict [(.text "x-csd-collection-kind", .str (.text "MULTISET"))]) :=
    .of_declared none none (some (.text "MULTISET")) rfl rfl rfl (fun _ found => by cases found)
      fun _ found => by cases found
  have entry : WellFormed (.dict [(.text "properties", .dict [(.text "tags", .dict [
      (.text "x-csd-collection-kind", .str (.text "MULTISET"))])])]) := by
    apply WellFormed.of_declared (some _) none none rfl rfl rfl _ fun _ found => by cases found
    rintro _ ⟨⟩ member among
    rwa [List.mem_singleton.mp among]
  have entries : WellFormed (.dict [(.text "x-csd-collection-kind", .str (.text "SET")),
      (.text "items", .dict [(.text "properties", .dict [(.text "tags", .dict [
        (.text "x-csd-collection-kind", .str (.text "MULTISET"))])])])]) := by
    apply WellFormed.of_declared none (some _) (some (.text "SET")) rfl rfl rfl
      fun _ found => by cases found
    rintro _ ⟨⟩
    exact entry
  apply WellFormed.of_declared (some _) none none rfl rfl rfl _ fun _ found => by cases found
  rintro _ ⟨⟩ member among
  rwa [List.mem_singleton.mp among]

/-- A float is read before the list that is nested too deep for one frame. -/
def sampleFloat : Value :=
  .dict [(.text "list", .list [.list []]), (.text "float", .float (some "0.5"))]

/-- Two entries of one name are twins in their set, as their tags are a multiset. They and the float
are rejected with the error that they should be. -/
theorem canonicalisation_closed_sample :
    Closed (canonicalBytesWithin sampleStack (sampleEntries ["a", "b"]) sampleSchema) ∧
      Closed (canonicalBytesWithin sampleStack (sampleEntries ["a"]) sampleSchema) ∧
      Closed (domainDigest (fun _ => "") sampleStack (sampleEntries ["a", "b"]) sampleSchema
        "digest" "prefix") ∧
      Closed (canonicalBytesWithin ⟨1, 1⟩ sampleFloat sampleSchema) := by
  have apart := canonicalisation_closed_iff (fun _ => "") sampleStack sampleSchema
    sampleSchema_wellFormed ⟨sampleEntries ["a", "b"], by decide +kernel⟩
  have same := canonicalisation_closed_iff (fun _ => "") sampleStack sampleSchema
    sampleSchema_wellFormed ⟨sampleEntries ["a"], by decide +kernel⟩
  have float := canonicalisation_closed_iff (fun _ => "") ⟨1, 1⟩ sampleSchema
    sampleSchema_wellFormed ⟨sampleFloat, by decide +kernel⟩
  refine ⟨apart.1.mpr ?_, same.1.mpr ?_, (apart.2 _ _).mpr ?_, float.1.mpr ?_⟩
  · rw [Handled, if_pos (by decide +kernel)]
    exact .inr (.inr (by decide +kernel))
  · rw [Handled, if_pos (by decide +kernel)]
    refine .inl (.member List.mem_cons_self rfl (.here (.twins rfl fun apart => ?_)))
    refine (List.pairwise_cons.mp apart).1 _ List.mem_cons_self ?_
    have tags : Same (.dict [(.text "x-csd-collection-kind", .str (.text "MULTISET"))])
        (.list [.str (.text "x"), .str (.text "y")]) (.list [.str (.text "y"), .str (.text "x")]) :=
      .order rfl (by decide) (.swap ..)
    exact @Same.member _ _ _ _ (.text "tags") [(.text "name", .str (.text "a"))] [] rfl tags
  · rintro members ⟨⟩ - -
    refine ⟨by decide +kernel, ?_⟩
    rw [Handled, if_pos (by decide +kernel)]
    exact .inr (.inr (by decide +kernel))
  · rw [Handled, if_neg (by decide +kernel)]
    refine .member (List.mem_cons_of_mem _ List.mem_cons_self) rfl ?_ .float
    intro other among precedes
    have later : ¬ Precedes (.text "list") (.text "float") := by
      rintro ⟨-, first | below⟩
      · exact absurd first (by decide +kernel)
      · exact absurd below (by decide +kernel)
    have itself : ¬ Precedes (.text "float") (.text "float") := Precedes.irrefl
    simp only [List.mem_cons, List.not_mem_nil, or_false] at among
    rcases among with rfl | rfl
    · exact absurd precedes later
    · exact absurd precedes itself

end Sample
end CsdFoundry.Governance
