import AccessReport.Schema.Validation
/-!
# Values that fit a schema

`Fits` says which values fit a schema, one case for each kind of schema: every item of a list, every
member of a map, every field of a record that is there, with all required ones being there. The
validator gathers faults instead; there are none just for the values that fit.

Results:
* `faults_eq_nil_iff`: no fault is found if and only if the value fits.
* `isValid_iff_fits`: the validator accepts what fits and nothing else.
-/
namespace AccessReport.Schema

/-- The value fits the schema. -/
inductive Fits : Schema → Json → Prop where
  | any (value : Json) : Fits .any value
  | text (held : String) : Fits .text (.string held)
  | flag (held : Bool) : Fits .flag (.bool held)
  | listOf {inner : Schema} {items : List Json} (h : ∀ item ∈ items, Fits inner item) :
    Fits (.listOf inner) (.array items)
  | mapOf {inner : Schema} {members : List (String × Json)}
    (h : ∀ member ∈ members, Fits inner member.2) : Fits (.mapOf inner) (.object members)
  | null (inner : Schema) : Fits (.optional inner) .null
  | held {inner : Schema} {value : Json} (h : Fits inner value) : Fits (.optional inner) value
  | choice {name : String} {description : Option String} {variants : List Variant}
    {variant : Variant} (h : variant ∈ variants) :
    Fits (.choice name description variants) (.string variant.name)
  | record {name : String} {description : Option String} {fields : List (Field × Schema)}
    {members : List (String × Json)}
    (hfits : ∀ field ∈ fields, ∀ value, members.lookup field.1.name = some value →
      Fits field.2 value)
    (hrequired : ∀ field ∈ fields, field.1.isRequired = true →
      (members.lookup field.1.name).isSome = true) :
    Fits (.record name description fields) (.object members)

variable {inner : Schema} {name : String} {description : Option String}

/-! ## What fits a schema of each kind -/

@[simp] theorem fits_any (value : Json) : Fits .any value := Fits.any value

@[simp] theorem fits_text (value : Json) : Fits .text value ↔ ∃ held, value = .string held := by
  constructor
  · intro h
    cases h with
    | text held => exact ⟨held, rfl⟩
  · intro ⟨held, heq⟩
    rw [heq]
    exact Fits.text held

@[simp] theorem fits_flag (value : Json) : Fits .flag value ↔ ∃ held, value = .bool held := by
  constructor
  · intro h
    cases h with
    | flag held => exact ⟨held, rfl⟩
  · intro ⟨held, heq⟩
    rw [heq]
    exact Fits.flag held

@[simp] theorem fits_listOf (value : Json) :
    Fits (.listOf inner) value ↔
      ∃ items, value = .array items ∧ ∀ item ∈ items, Fits inner item := by
  constructor
  · intro h
    cases h with
    | listOf h => exact ⟨_, rfl, h⟩
  · intro ⟨items, heq, h⟩
    rw [heq]
    exact Fits.listOf h

@[simp] theorem fits_mapOf (value : Json) :
    Fits (.mapOf inner) value
      ↔ ∃ members, value = .object members ∧ ∀ member ∈ members, Fits inner member.2 := by
  constructor
  · intro h
    cases h with
    | mapOf h => exact ⟨_, rfl, h⟩
  · intro ⟨members, heq, h⟩
    rw [heq]
    exact Fits.mapOf h

@[simp] theorem fits_optional (value : Json) :
    Fits (.optional inner) value ↔ value = .null ∨ Fits inner value := by
  constructor
  · intro h
    cases h with
    | null => exact .inl rfl
    | held h => exact .inr h
  · intro h
    rcases h with rfl | h
    · exact Fits.null inner
    · exact Fits.held h

@[simp] theorem fits_choice (variants : List Variant) (value : Json) :
    Fits (.choice name description variants) value
      ↔ ∃ variant ∈ variants, value = .string variant.name := by
  constructor
  · intro h
    cases h with
    | choice h => exact ⟨_, h, rfl⟩
  · intro ⟨variant, hmem, heq⟩
    rw [heq]
    exact Fits.choice hmem

@[simp] theorem fits_record (fields : List (Field × Schema)) (value : Json) :
    Fits (.record name description fields) value
      ↔ ∃ members, value = .object members
        ∧ (∀ field ∈ fields, ∀ held, members.lookup field.1.name = some held → Fits field.2 held)
        ∧ ∀ field ∈ fields, field.1.isRequired = true →
          (members.lookup field.1.name).isSome = true := by
  constructor
  · intro h
    cases h with
    | record hfits hrequired => exact ⟨_, rfl, hfits, hrequired⟩
  · intro ⟨members, heq, hfits, hrequired⟩
    rw [heq]
    exact Fits.record hfits hrequired

/-! ## No fault where the value fits -/

theorem typeOf_eq_null (value : Json) : typeOf value = "null" ↔ value = .null := by
  cases value <;> simp [typeOf]

theorem typeOf_eq_string (value : Json) :
    typeOf value = "string" ↔ ∃ held, value = .string held := by
  cases value <;> simp [typeOf]

theorem typeOf_eq_boolean (value : Json) :
    typeOf value = "boolean" ↔ ∃ held, value = .bool held := by
  cases value <;> simp [typeOf]

/-- What fits a schema with one type has that type. -/
theorem Fits.typeOf_eq {schema : Schema} {value : Json} {type : String}
    (hplain : schema.plainType? = some type) (h : schema.Fits value) : typeOf value = type := by
  cases h <;> simp [plainType?] at hplain <;> exact hplain

theorem optionalFaults_eq_nil_iff {value : Json} {faults : List SchemaFault}
    (h : faults = [] ↔ inner.Fits value) :
    optionalFaults inner value faults = [] ↔ value = .null ∨ inner.Fits value := by
  unfold optionalFaults
  by_cases hnull : typeOf value = "null"
  · rw [if_pos hnull]
    simp [(typeOf_eq_null value).mp hnull]
  · rw [if_neg hnull]
    have hne : value ≠ .null := fun heq => hnull ((typeOf_eq_null value).mpr heq)
    cases hplain : inner.plainType? with
    | none => simp [hne, ← h]
    | some type =>
      by_cases htype : typeOf value = type
      · simp only [if_pos htype, h, hne, false_or]
      · have hnot : ¬inner.Fits value := fun hfits => htype (hfits.typeOf_eq hplain)
        simp [hne, htype, hnot]

theorem choiceFaults_eq_nil_iff (variants : List Variant) (value : Json) :
    choiceFaults variants value = [] ↔ ∃ variant ∈ variants, value = .string variant.name := by
  -- what is refused has a fault, whether the names are described or not
  cases value with
  | string held =>
    have hallowed : (variants.map (·.name)).contains held = true
        ↔ ∃ variant ∈ variants, Json.string held = .string variant.name := by simp [eq_comm]
    rw [← hallowed]
    unfold choiceFaults
    by_cases hheld : (variants.map (·.name)).contains held = true
    · simp only [hheld, if_true]
    · by_cases hdescribed : variants.any (·.description.isSome) = true
      · simp only [hheld, hdescribed, if_true]
        simp
      · simp only [hheld, hdescribed]
        simp
  | _ =>
    unfold choiceFaults
    by_cases hdescribed : variants.any (·.description.isSome) = true <;> simp [hdescribed]

theorem missingFields_eq_nil_iff (fields : List (Field × Schema))
    (members : List (String × Json)) :
    missingFields fields members = [] ↔ ∀ field ∈ fields, field.1.isRequired = true →
      (members.lookup field.1.name).isSome = true := by
  simp [missingFields, Option.isSome_iff_ne_none]

mutual

theorem faults_eq_nil_iff : ∀ (schema : Schema) (value : Json),
    schema.faults value = [] ↔ schema.Fits value
  | any, value => by simp [faults]
  | text, value => by simp [faults, typeOf_eq_string]
  | flag, value => by simp [faults, ← typeOf_eq_boolean, -Bool.exists_bool]
  | listOf inner, value => by
    have ih := faults_eq_nil_iff inner
    cases value <;> simp [faults, List.flatMap_eq_nil_iff, ih]
  | mapOf inner, value => by
    have ih := faults_eq_nil_iff inner
    cases value <;> simp [faults, List.flatMap_eq_nil_iff, ih]
  | optional inner, value => by
    rw [faults, optionalFaults_eq_nil_iff (faults_eq_nil_iff inner value), fits_optional]
  | choice name description variants, value => by
    rw [faults, choiceFaults_eq_nil_iff, fits_choice]
  | record name description fields, value => by
    have ih := fieldFaults_eq_nil_iff fields
    cases value <;> simp [faults, missingFields_eq_nil_iff, ih]

theorem fieldFaults_eq_nil_iff : ∀ (fields : List (Field × Schema))
    (members : List (String × Json)), fieldFaults fields members = []
      ↔ ∀ field ∈ fields, ∀ held, members.lookup field.1.name = some held → field.2.Fits held
  | [], members => by simp [fieldFaults]
  | (field, schema) :: rest, members => by
    rw [fieldFaults, List.append_eq_nil_iff, fieldFaults_eq_nil_iff rest, List.forall_mem_cons]
    cases members.lookup field.name with
    | none => simp
    | some held => simp [faults_eq_nil_iff schema]

end

/-- The validator accepts what fits and nothing else. -/
theorem isValid_iff_fits (schema : Schema) (value : Json) :
    schema.isValid value = true ↔ schema.Fits value := by
  rw [isValid, List.isEmpty_iff, faults_eq_nil_iff]

instance (schema : Schema) (value : Json) : Decidable (schema.Fits value) :=
  decidable_of_iff _ (isValid_iff_fits schema value)

end AccessReport.Schema
