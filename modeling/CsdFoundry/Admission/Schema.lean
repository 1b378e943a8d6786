import CsdFoundry.Admission.Contracts

/-! The first error under a schema. Its message mostly writes the value at fault out, which fails
where an integer in it is too long to be written. -/
namespace CsdFoundry.Admission
open Value

section Closed
variable {σ : Type} {accepts : σ → Value → Bool} {check : σ → Value → Except Raise Unit}
  {fields : List (String × σ)} {members : Dict}

theorem closed_iff : closed accepts fields members = true ↔
    (members.map (·.1)).Nodup ∧
    (∀ member ∈ members, ∃ field ∈ fields, member.1 = .text field.1) ∧
    ∀ field ∈ fields, ∃ value, members.lookup (.text field.1) = some value ∧
      accepts field.2 value = true := by
  unfold closed
  simp only [Bool.and_eq_true, decide_eq_true_eq, List.all_eq_true, List.any_eq_true, beq_iff_eq,
    Option.any_eq_true, and_assoc]

/-- The first member at fault, in the order of the schema, has a fault of the given kind. -/
structure FirstFault (accepts : σ → Value → Bool) (fault : σ → Value → Prop)
    (fields : List (String × σ)) (members : Dict) : Prop where
  distinct : (members.map (·.1)).Nodup
  known : ∀ member ∈ members, ∃ field ∈ fields, member.1 = .text field.1
  member : ∃ before field after value, fields = before ++ field :: after ∧
    (∀ other ∈ before, ∀ value, members.lookup (.text other.1) = some value →
      accepts other.2 value = true) ∧
    members.lookup (.text field.1) = some value ∧ fault field.2 value

theorem checkMember_some {field : String × σ} {value : Value}
    (found : members.lookup (.text field.1) = some value) :
    checkMember check members field = check field.2 value := by
  rw [checkMember, found]

theorem checkMember_none {field : String × σ} (missing : members.lookup (.text field.1) = none) :
    checkMember check members field = .ok () := by
  rw [checkMember, missing]

theorem checkMember_ok {field : String × σ}
    (each : ∀ value, check field.2 value = .ok () ↔ accepts field.2 value = true) :
    checkMember check members field = .ok () ↔
      ∀ value, members.lookup (.text field.1) = some value → accepts field.2 value = true := by
  cases found : members.lookup (.text field.1) with
  | none => simp [checkMember_none found]
  | some value => simp [checkMember_some found, each]

theorem known_iff : (members.map (·.1)).Nodup ∧
    members.all (fun member => fields.any (fun field => member.1 == .text field.1)) = true ↔
    (members.map (·.1)).Nodup ∧ ∀ member ∈ members, ∃ field ∈ fields, member.1 = .text field.1 := by
  simp only [List.all_eq_true, List.any_eq_true, beq_iff_eq]

theorem checkClosed_ok (each : ∀ field ∈ fields, ∀ value,
    check field.2 value = .ok () ↔ accepts field.2 value = true) :
    checkClosed check fields members = .ok () ↔ closed accepts fields members = true := by
  unfold checkClosed
  rw [closed_iff, Results.ensure_bind, known_iff, and_assoc]
  refine and_congr_right fun _ => and_congr_right fun _ => ?_
  rw [Results.bind_ok]
  constructor
  · rintro ⟨_, checked, required⟩ field inside
    have valid := (checkMember_ok (each field inside)).mp (Results.checkAll_ok.mp checked field inside)
    have there := List.all_eq_true.mp (Results.ensure_ok.mp required) field inside
    obtain ⟨value, found⟩ := Option.isSome_iff_exists.mp there
    exact ⟨value, found, valid value found⟩
  · intro members
    refine ⟨(), Results.checkAll_ok.mpr fun field inside => ?_, Results.ensure_ok.mpr ?_⟩
    · refine (checkMember_ok (each field inside)).mpr fun value found => ?_
      obtain ⟨value', found', valid⟩ := members field inside
      rw [found] at found'
      cases found'
      exact valid
    · refine List.all_eq_true.mpr fun field inside => ?_
      obtain ⟨value, found, -⟩ := members field inside
      rw [found]
      rfl

theorem checkClosed_error {fault : σ → Value → Prop}
    (passes : ∀ field ∈ fields, ∀ value,
      check field.2 value = .ok () ↔ accepts field.2 value = true)
    (fails : ∀ field ∈ fields, ∀ value,
      check field.2 value = .error .schemaLibrary ↔ fault field.2 value) :
    checkClosed check fields members = .error .schemaLibrary ↔
      FirstFault accepts fault fields members := by
  have refused {condition : Prop} [Decidable condition] :
      Results.ensure condition (Raise.governance "SCHEMA_REJECTED") ≠ .error .schemaLibrary := by
    unfold Results.ensure
    split_ifs <;> exact fun failed => by cases failed
  unfold checkClosed
  constructor
  · intro failed
    rcases Results.bind_failed failed with impossible | ⟨_, closed, failed⟩
    · exact absurd impossible refused
    obtain ⟨distinct, known⟩ := known_iff.mp (Results.ensure_ok.mp closed)
    rcases Results.bind_failed failed with checked | ⟨_, -, impossible⟩
    · obtain ⟨before, field, after, split, earlier, fault⟩ := Results.checkAll_error.mp checked
      have inside : field ∈ fields := by simp [split]
      cases found : members.lookup (.text field.1) with
      | none =>
          rw [checkMember_none found] at fault
          cases fault
      | some value =>
          rw [checkMember_some found] at fault
          refine ⟨distinct, known, before, field, after, value, split, fun other first => ?_, found,
            (fails field inside value).mp fault⟩
          exact (checkMember_ok (passes other (by simp [split, first]))).mp (earlier other first)
    · exact absurd impossible refused
  · rintro ⟨distinct, known, before, field, after, value, split, earlier, found, fault⟩
    rw [Results.ensure_ok.mpr (known_iff.mpr ⟨distinct, known⟩)]
    have checked := Results.checkAll_error.mpr ⟨before, field, after, split,
      fun other first => (checkMember_ok (passes other (by simp [split, first]))).mpr
        (earlier other first),
      (checkMember_some found).trans ((fails field (by simp [split]) value).mpr fault)⟩
    rw [Results.ok_bind, checked]
    rfl

/-- What an error under the schema raises. -/
def Refuses (e : Raise) : Prop := e = .governance "SCHEMA_REJECTED" ∨ e = .schemaLibrary

theorem refuses_ensure {condition : Prop} [Decidable condition] {e : Raise}
    (failed : Results.ensure condition (Raise.governance "SCHEMA_REJECTED") = .error e) :
    Refuses e := by
  unfold Results.ensure at failed
  split_ifs at failed
  cases failed
  exact .inl rfl

theorem checkClosed_refuses {e : Raise}
    (each : ∀ field ∈ fields, ∀ value, check field.2 value = .error e → Refuses e)
    (failed : checkClosed check fields members = .error e) : Refuses e := by
  unfold checkClosed at failed
  rcases Results.bind_failed failed with extra | ⟨_, -, failed⟩
  · exact refuses_ensure extra
  rcases Results.bind_failed failed with checked | ⟨_, -, missing⟩
  · obtain ⟨before, field, after, split, -, fault⟩ := Results.checkAll_error.mp checked
    cases found : members.lookup (.text field.1) with
    | none =>
        rw [checkMember_none found] at fault
        cases fault
    | some value =>
        rw [checkMember_some found] at fault
        exact each field (by simp [split]) value fault
  · exact refuses_ensure missing

end Closed

section Faults
variable (D : Type) [DigestText D]

/-- The value is at fault, and the message cannot write it. -/
def Scalar.Unwritable (schema : Scalar) (value : Value) : Prop :=
  (∀ constant, schema ≠ .const constant) ∧ schema.accepts D value = false ∧
    value.every hasDigits = false

def Item.Unwritable : Item → Value → Prop
  | .scalar schema, value => schema.Unwritable D value
  | .record fields, .dict members =>
      FirstFault (Scalar.accepts D) (Scalar.Unwritable D) fields members
  | .record _, value => value.every hasDigits = false

/-- Of the items of a set, the first one at fault counts. -/
def Property.Unwritable : Property → Value → Prop
  | .scalar schema, value => schema.Unwritable D value
  | .object, .dict _ => False
  | .set items, .list values => ∃ before item after, values = before ++ item :: after ∧
      (∀ other ∈ before, items.accepts D other = true) ∧ items.Unwritable D item
  | _, value => value.every hasDigits = false

/-- The first fault of the value under the schema is one that cannot be written out. -/
def ContractName.Unwritable (kind : ContractName) (members : Dict) : Prop :=
  FirstFault (Property.accepts D) (Property.Unwritable D) kind.properties members

end Faults

variable {D : Type} [DigestText D]

theorem refuse_ne_ok {value : Value} : refuse value ≠ .ok () := fun passed => by cases passed

theorem refuse_schemaLibrary {value : Value} :
    refuse value = .error .schemaLibrary ↔ value.every hasDigits = false := by
  unfold refuse
  cases value.every hasDigits <;> simp

theorem Scalar.check_ok {schema : Scalar} {value : Value} :
    schema.check D value = .ok () ↔ schema.accepts D value = true := by
  unfold Scalar.check
  split_ifs with accepted
  · simp [accepted]
  · refine iff_of_false ?_ accepted
    cases schema <;> exact fun passed => by cases passed

theorem Scalar.check_error {schema : Scalar} {value : Value} :
    schema.check D value = .error .schemaLibrary ↔ schema.Unwritable D value := by
  unfold Scalar.check Scalar.Unwritable
  split_ifs with accepted
  · simp [accepted]
  · rw [Bool.not_eq_true] at accepted
    cases schema with
    | const constant => simp
    | oneOf | token | digest | minLength | minimum => simp [refuse_schemaLibrary, accepted]

theorem Item.check_ok {item : Item} {value : Value} :
    item.check D value = .ok () ↔ item.accepts D value = true := by
  cases item with
  | scalar schema => exact Scalar.check_ok
  | record fields =>
      cases value with
      | dict members => exact checkClosed_ok fun _ _ _ => Scalar.check_ok
      | null | bool | int | float | str | list =>
          exact iff_of_false refuse_ne_ok fun accepted => by cases accepted

theorem Item.check_error {item : Item} {value : Value} :
    item.check D value = .error .schemaLibrary ↔ item.Unwritable D value := by
  cases item with
  | scalar schema => exact Scalar.check_error
  | record fields =>
      cases value with
      | dict members =>
          exact checkClosed_error (fun _ _ _ => Scalar.check_ok) fun _ _ _ => Scalar.check_error
      | null | bool | int | float | str | list => exact refuse_schemaLibrary

theorem Property.check_ok {property : Property} {value : Value} :
    property.check D value = .ok () ↔ property.accepts D value = true := by
  cases property with
  | scalar schema => exact Scalar.check_ok
  | object =>
      cases value with
      | dict members => exact iff_of_true rfl rfl
      | null | bool | int | float | str | list =>
          exact iff_of_false refuse_ne_ok fun accepted => by cases accepted
  | set items =>
      cases value with
      | list values =>
          cases values with
          | nil => exact iff_of_false refuse_ne_ok fun accepted => by cases accepted
          | cons first values =>
              change Results.checkAll _ _ = _ ↔ (first :: values).all _ = true
              rw [Results.checkAll_ok, List.all_eq_true]
              exact forall₂_congr fun _ _ => Item.check_ok
      | null | bool | int | float | str | dict =>
          exact iff_of_false refuse_ne_ok fun accepted => by cases accepted

theorem Property.check_error {property : Property} {value : Value} :
    property.check D value = .error .schemaLibrary ↔ property.Unwritable D value := by
  cases property with
  | scalar schema => exact Scalar.check_error
  | object =>
      cases value with
      | dict members => exact iff_of_false (fun failed => by cases failed) id
      | null | bool | int | float | str | list => exact refuse_schemaLibrary
  | set items =>
      cases value with
      | list values =>
          have checked : Results.checkAll (items.check D) values = .error .schemaLibrary ↔
              Property.Unwritable D (.set items) (.list values) := by
            rw [Results.checkAll_error]
            simp only [Property.Unwritable, Item.check_ok, Item.check_error]
          cases values with
          | nil => exact iff_of_false (fun failed => by cases failed) (by simp [Property.Unwritable])
          | cons first values => exact checked
      | null | bool | int | float | str | dict => exact refuse_schemaLibrary

theorem refuse_refuses {value : Value} {e : Raise} (failed : refuse value = .error e) :
    Refuses e := by
  unfold refuse at failed
  split_ifs at failed
  · cases failed
    exact .inl rfl
  · cases failed
    exact .inr rfl

theorem Scalar.check_refuses {schema : Scalar} {value : Value} {e : Raise}
    (failed : schema.check D value = .error e) : Refuses e := by
  unfold Scalar.check at failed
  split_ifs at failed
  cases schema with
  | const constant =>
      cases failed
      exact .inl rfl
  | oneOf | token | digest | minLength | minimum => exact refuse_refuses failed

theorem Item.check_refuses {item : Item} {value : Value} {e : Raise}
    (failed : item.check D value = .error e) : Refuses e := by
  cases item with
  | scalar schema => exact Scalar.check_refuses failed
  | record fields =>
      cases value with
      | dict members => exact checkClosed_refuses (fun _ _ _ => Scalar.check_refuses) failed
      | null | bool | int | float | str | list => exact refuse_refuses failed

theorem Property.check_refuses {property : Property} {value : Value} {e : Raise}
    (failed : property.check D value = .error e) : Refuses e := by
  cases property with
  | scalar schema => exact Scalar.check_refuses failed
  | object =>
      cases value with
      | dict members => cases failed
      | null | bool | int | float | str | list => exact refuse_refuses failed
  | set items =>
      cases value with
      | list values =>
          cases values with
          | nil => exact refuse_refuses failed
          | cons first values =>
              obtain ⟨-, item, -, -, -, fault⟩ := Results.checkAll_error.mp failed
              exact Item.check_refuses fault
      | null | bool | int | float | str | dict => exact refuse_refuses failed

theorem ContractName.check_ok {kind : ContractName} {members : Dict} :
    kind.check D members = .ok () ↔ kind.accepts D members = true :=
  checkClosed_ok fun _ _ _ => Property.check_ok

theorem ContractName.check_error {kind : ContractName} {members : Dict} :
    kind.check D members = .error .schemaLibrary ↔ kind.Unwritable D members :=
  checkClosed_error (fun _ _ _ => Property.check_ok) fun _ _ _ => Property.check_error

theorem ContractName.check_refuses {kind : ContractName} {members : Dict} {e : Raise}
    (failed : kind.check D members = .error e) : Refuses e :=
  checkClosed_refuses (fun _ _ _ => Property.check_refuses) failed

end CsdFoundry.Admission
