import CsdFoundry.Json
import Mathlib.Data.List.Sort
import Mathlib.Data.String.Basic

/-! Untrusted JSON values. They differ from canonical ones: there are floats, a string may
hold lone surrogates, and the members of a `dict` stand in the order of insertion. -/
namespace CsdFoundry.Admission

def isSurrogate (codePoint : Nat) : Bool := 0xD800 ≤ codePoint && codePoint ≤ 0xDFFF

/-- A `str` that UTF-8 cannot encode. -/
structure LoneSurrogates where
  codePoints : List (Fin 0x110000)
  found : codePoints.any (fun c => isSurrogate c.val) = true
  deriving DecidableEq

/-- A `str`: every sequence of code points is of one of the two kinds. -/
inductive PyStr where
  | text (value : String)
  | lone (value : LoneSurrogates)
  deriving DecidableEq

/-- `len`. -/
def PyStr.length : PyStr → Nat
  | .text value => value.length
  | .lone value => value.codePoints.length

/-- A float is its JSON text, which NaN and the infinities do not have. -/
inductive Value where
  | null
  | bool (value : Bool)
  | int (value : Int)
  | float (repr : Option String)
  | str (value : PyStr)
  | list (items : List Value)
  | dict (members : List (PyStr × Value))

abbrev Dict : Type := List (PyStr × Value)

/-- The order of the members of a canonical object: `schema_version` first, the others by
their UTF-8 bytes, which is the order of their code points. Lone surrogates have no bytes. -/
def KeyLe : PyStr → PyStr → Prop
  | .text a, .text b => a = "schema_version" ∨ (b ≠ "schema_version" ∧ a ≤ b)
  | .text _, .lone _ => True
  | .lone _, .text _ => False
  | .lone _, .lone _ => True

instance : DecidableRel KeyLe := fun a b => by
  cases a <;> cases b <;> unfold KeyLe <;> infer_instance

def MemberLe (a b : PyStr × α) : Prop := KeyLe a.1 b.1

instance : DecidableRel (MemberLe (α := α)) := fun a b =>
  inferInstanceAs (Decidable (KeyLe a.1 b.1))

instance : IsTrans PyStr KeyLe where
  trans a b c first second := by
    cases a <;> cases b <;> cases c <;> simp only [KeyLe] at *
    rcases first with first | ⟨later, le⟩
    · exact .inl first
    · rcases second with second | ⟨last, le'⟩
      · exact absurd second later
      · exact .inr ⟨last, le_trans le le'⟩

instance : Std.Total (α := PyStr) KeyLe where
  total a b := by
    cases a <;> cases b <;> simp only [KeyLe, or_true, true_or]
    rename_i a b
    by_cases first : a = "schema_version"
    · exact .inl (.inl first)
    · by_cases second : b = "schema_version"
      · exact .inr (.inl second)
      · rcases le_total a b with le | le
        · exact .inl (.inr ⟨second, le⟩)
        · exact .inr (.inr ⟨first, le⟩)

instance : IsTrans (PyStr × α) MemberLe := ⟨fun a b c => IsTrans.trans (r := KeyLe) a.1 b.1 c.1⟩

instance : Std.Total (α := PyStr × α) MemberLe := ⟨fun a b => Std.Total.total (r := KeyLe) a.1 b.1⟩

namespace Value

/-- Induction over a value whose hypotheses are about the items of a list and the members of a
dict. -/
@[elab_as_elim]
theorem nested_induction {motive : Value → Prop} (null : motive .null)
    (bool : ∀ value, motive (.bool value)) (int : ∀ value, motive (.int value))
    (float : ∀ repr, motive (.float repr)) (str : ∀ value, motive (.str value))
    (list : ∀ items, (∀ item ∈ items, motive item) → motive (.list items))
    (dict : ∀ members, (∀ member ∈ members, motive member.2) → motive (.dict members))
    (value : Value) : motive value :=
  @Value.rec motive (fun items => ∀ item ∈ items, motive item)
    (fun members => ∀ member ∈ members, motive member.2) (fun member => motive member.2)
    null bool int float str list dict (by simp)
    (fun _ _ first rest => List.forall_mem_cons.mpr ⟨first, rest⟩) (by simp)
    (fun _ _ first rest => List.forall_mem_cons.mpr ⟨first, rest⟩) (fun _ _ second => second) value

mutual
/-- The predicate holds of the value and of everything in it. -/
def every (p : Value → Bool) : Value → Bool
  | .list items => p (.list items) && everyItem p items
  | .dict members => p (.dict members) && everyMember p members
  | value => p value

def everyItem (p : Value → Bool) : List Value → Bool
  | [] => true
  | item :: items => every p item && everyItem p items

def everyMember (p : Value → Bool) : Dict → Bool
  | [] => true
  | member :: members => every p member.2 && everyMember p members
end

mutual
/-- The members of every object in canonical order. -/
def sortKeys : Value → Value
  | .list items => .list (sortItems items)
  | .dict members => .dict ((sortMembers members).insertionSort MemberLe)
  | value => value

def sortItems : List Value → List Value
  | [] => []
  | item :: items => sortKeys item :: sortItems items

def sortMembers : Dict → Dict
  | [] => []
  | member :: members => (member.1, sortKeys member.2) :: sortMembers members
end

mutual
/-- `.encode("utf-8")` of the JSON text, which is represented by the value. -/
def encode : Value → Option Json
  | .null => some .null
  | .bool value => some (.bool value)
  | .int value => some (.int value)
  | .float _ => none
  | .str (.text value) => some (.str value)
  | .str (.lone _) => none
  | .list items => (encodeItems items).map .arr
  | .dict members => (encodeMembers members).map .obj

def encodeItems : List Value → Option (List Json)
  | [] => some []
  | item :: items => (encode item).bind fun first => (encodeItems items).map (first :: ·)

def encodeMembers : Dict → Option JsonObject
  | [] => some []
  | (.text key, value) :: members =>
      (encode value).bind fun first => (encodeMembers members).map ((key, first) :: ·)
  | (.lone _, _) :: _ => none
end

mutual
/-- `json.loads`. -/
def ofJson : Json → Value
  | .null => .null
  | .bool value => .bool value
  | .int value => .int value
  | .str value => .str (.text value)
  | .arr items => .list (ofItems items)
  | .obj members => .dict (ofMembers members)

def ofItems : List Json → List Value
  | [] => []
  | item :: items => ofJson item :: ofItems items

def ofMembers : JsonObject → Dict
  | [] => []
  | member :: members => (.text member.1, ofJson member.2) :: ofMembers members
end

def isFloat : Value → Bool
  | .float _ => true
  | _ => false

/-- The decimal digits that `int.__repr__` writes at most. -/
def maxStrDigits : Nat := 4300

@[irreducible] def hasDecimal (value : Int) : Bool := value.natAbs < 10 ^ maxStrDigits

theorem hasDecimal_of_lt {value : Int} (small : value.natAbs < 10) : hasDecimal value = true := by
  unfold hasDecimal
  exact decide_eq_true (small.trans_le (Nat.le_self_pow (by decide) 10))

def hasDigits : Value → Bool
  | .int value => hasDecimal value
  | _ => true

def isText : PyStr → Bool
  | .text _ => true
  | .lone _ => false

def hasTextKeys : Value → Bool
  | .dict members => members.all (fun member => isText member.1)
  | _ => true

end Value
end CsdFoundry.Admission
