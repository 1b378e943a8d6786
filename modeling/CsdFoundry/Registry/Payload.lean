import CsdFoundry.Registry.Contracts

/-! The payload checks that the reducers of the entity registries share. An exception of a
reducer is its code; the detail text is left out. -/
namespace CsdFoundry.Registry
open Temporal (isToken)

variable (D : Type) [DigestText D]

def requireToken (code : String) : Json → Except String String
  | .str value => if isToken value = true then .ok value else .error code
  | _ => .error code

def requireDigest (code : String) : Json → Except String String
  | .str value => if DigestText.isDigest D value = true then .ok value else .error code
  | _ => .error code

def requiredToken (payload : JsonObject) (field code : String) : Except String String :=
  requireToken code (payload.get field)

def requiredDigest (payload : JsonObject) (field code : String) : Except String String :=
  requireDigest D code (payload.get field)

def requiredPositiveInt (payload : JsonObject) (field code : String) : Except String Nat :=
  match payload.get field with
  | .int value => if 1 ≤ value then .ok value.toNat else .error code
  | _ => .error code

def optionalPositiveInt (payload : JsonObject) (field code : String) : Except String (Option Nat) :=
  match payload.get field with
  | .null => .ok none
  | .int value => if 1 ≤ value then .ok (some value.toNat) else .error code
  | _ => .error code

/-- Tokens in ascending order, each once. -/
def SortedTokens (values : List String) : Prop :=
  values.Pairwise (· < ·) ∧ ∀ value ∈ values, isToken value = true

instance (values : List String) : Decidable (SortedTokens values) :=
  inferInstanceAs (Decidable (_ ∧ _))

def requireSortedTokens (values : List String) (code : String) (allowEmpty : Bool) :
    Except String Unit :=
  if (allowEmpty = false ∧ values = []) ∨ ¬ SortedTokens values then .error code else .ok ()

def strings : List Json → Option (List String)
  | [] => some []
  | .str value :: items => (strings items).map (value :: ·)
  | _ :: _ => none

def requiredTokenTuple (payload : JsonObject) (field code : String) (allowEmpty : Bool) :
    Except String (List String) := do
  match payload.get field with
  | .arr items =>
      match strings items with
      | some values =>
          requireSortedTokens values code allowEmpty
          .ok values
      | none => .error code
  | _ => .error code

def requireExactKeys (payload : JsonObject) (expected : List String) (code : String) :
    Except String Unit :=
  if payload.hasKeys expected = true then .ok () else .error code

/-- A check that raises. -/
def check (condition : Prop) [Decidable condition] (code : String) : Except String Unit :=
  if condition then .ok () else .error code

@[simp] theorem check_ok {condition : Prop} [Decidable condition] :
    check condition code = .ok passed ↔ condition := by
  unfold check
  split <;> simp_all

theorem except_bind_ok {x : Except ε α} {f : α → Except ε β} :
    (x >>= f) = .ok b ↔ ∃ a, x = .ok a ∧ f a = .ok b := by
  cases x with
  | error e => simp [bind, Except.bind]
  | ok a => simp [bind, Except.bind]

theorem requireToken_ok {value : Json} (passed : requireToken code value = .ok token) :
    value = .str token ∧ isToken token = true := by
  unfold requireToken at passed
  split at passed
  · split at passed
    · cases passed
      exact ⟨rfl, ‹_›⟩
    · cases passed
  · cases passed

theorem requireSortedTokens_ok {values : List String}
    (passed : requireSortedTokens values code allowEmpty = .ok ()) : SortedTokens values := by
  unfold requireSortedTokens at passed
  split at passed
  · cases passed
  · rename_i accepted
    push Not at accepted
    exact accepted.2

theorem requiredTokenTuple_ok {payload : JsonObject} {allowEmpty : Bool}
    (passed : requiredTokenTuple payload field code allowEmpty = .ok values) :
    ∃ items, payload.get field = .arr items ∧ strings items = some values ∧
      SortedTokens values ∧ (allowEmpty = false → values ≠ []) := by
  unfold requiredTokenTuple at passed
  split at passed
  · rename_i items found
    split at passed
    · rename_i parsed
      obtain ⟨done, accepted, same⟩ := except_bind_ok.mp passed
      obtain rfl := Except.ok.inj same
      unfold requireSortedTokens at accepted
      split at accepted
      · cases accepted
      · rename_i fine
        push Not at fine
        exact ⟨items, found, parsed, fine.2, fine.1⟩
    · cases passed
  · cases passed

end CsdFoundry.Registry
