import NodeGen.Proofs.Checks
import NodeGen.Schema.Validity
import Mathlib.Data.List.Nodup

/-! What validation establishes, stated without its order of checks. A schema is valid when its
names are identifiers that stay apart at every level and every reference meets a declaration;
validation succeeds on the valid schemas and on no others. -/

set_option autoImplicit false

namespace NodeGen

/-- Every node reference has a declaration, and no scalar is blank. -/
def TypeRef.Declared (schema : Schema) : TypeRef → Prop
  | .scalar name => Text.trim name.toList ≠ []
  | .base name => ∃ base ∈ schema.baseTypes, base.name = name
  | .variant owner name =>
    ∃ base ∈ schema.baseTypes, base.name = owner ∧ ∃ variant ∈ base.variants, variant.name = name
  | .list item => item.Declared schema
  | .optional inner => inner.Declared schema

structure Field.Valid (schema : Schema) (field : Field) : Prop where
  identifier : Name.isIdentifier field.name
  declared : field.type.Declared schema

structure Variant.Valid (schema : Schema) (variant : Variant) : Prop where
  identifier : Name.isIdentifier variant.name
  notBase : variant.name ∉ schema.baseTypes.map (·.name)
  fields : ∀ field ∈ variant.fields, field.Valid schema
  distinct : (variant.fields.map (·.name)).Nodup

structure BaseType.Valid (schema : Schema) (base : BaseType) : Prop where
  variants : ∀ variant ∈ base.variants, variant.Valid schema
  distinct : (base.variants.map (·.name)).Nodup

structure Schema.Valid (schema : Schema) : Prop where
  identifiers : ∀ base ∈ schema.baseTypes, Name.isIdentifier base.name
  distinct : (schema.baseTypes.map (·.name)).Nodup
  bases : ∀ base ∈ schema.baseTypes, base.Valid schema

theorem Schema.Valid.name_ne_base {schema : Schema} (valid : schema.Valid) {base : BaseType}
    (member : base ∈ schema.baseTypes) {variant : Variant} (inside : variant ∈ base.variants) :
    variant.name ≠ base.name := by
  intro same
  exact ((valid.bases base member).variants variant inside).notBase
    (same ▸ List.mem_map_of_mem member)

namespace Schema

theorem base?_eq_some_iff {schema : Schema} (distinct : (schema.baseTypes.map (·.name)).Nodup)
    {name : String} {base : BaseType} :
    schema.base? name = some base ↔ base ∈ schema.baseTypes ∧ base.name = name := by
  constructor
  · intro found
    exact ⟨List.mem_of_find?_eq_some found, by simpa using List.find?_some found⟩
  · rintro ⟨member, rfl⟩
    cases found : schema.base? base.name with
    | none => exact absurd (List.find?_eq_none.mp found base member) (by simp)
    | some other =>
      have same : other.name = base.name := by simpa using List.find?_some found
      rw [List.inj_on_of_nodup_map distinct (List.mem_of_find?_eq_some found) member same]

theorem base?_eq_none_iff {schema : Schema} {name : String} :
    schema.base? name = none ↔ ∀ base ∈ schema.baseTypes, base.name ≠ name := by
  simp [base?]

theorem checkIdentifier_eq_ok_iff {name context : String} :
    checkIdentifier name context = .ok ⟨⟩ ↔ Name.isIdentifier name := by
  unfold checkIdentifier
  split <;> simp_all

theorem checkRef_eq_ok_iff {schema : Schema} (distinct : (schema.baseTypes.map (·.name)).Nodup)
    {context : String} {type : TypeRef} :
    checkRef schema context type = .ok ⟨⟩ ↔ type.Declared schema := by
  induction type with
  | scalar name =>
    by_cases blank : Text.trim name.toList = [] <;> simp [checkRef, TypeRef.Declared, blank]
  | base name =>
    simp only [checkRef, TypeRef.Declared]
    cases found : schema.base? name with
    | none => simpa using base?_eq_none_iff.mp found
    | some base => simpa using ⟨base, (base?_eq_some_iff distinct).mp found⟩
  | variant owner name =>
    simp only [checkRef, TypeRef.Declared]
    cases found : schema.base? owner with
    | none =>
      have absent := base?_eq_none_iff.mp found
      simp only [reduceCtorEq, false_iff]
      rintro ⟨base, member, same, -⟩
      exact absent base member same
    | some target =>
      obtain ⟨member, named⟩ := (base?_eq_some_iff distinct).mp found
      -- The lookup stops at the first base type of this name, and there is no other.
      have unique : ∀ base ∈ schema.baseTypes, base.name = owner → base = target := by
        intro base other same
        exact List.inj_on_of_nodup_map distinct other member (same.trans named.symm)
      dsimp only
      cases chosen : target.variant? name with
      | none =>
        have absent : ∀ variant ∈ target.variants, variant.name ≠ name := by
          simpa [BaseType.variant?] using chosen
        simp only [reduceCtorEq, false_iff]
        rintro ⟨base, other, same, variant, inside, called⟩
        rw [unique base other same] at inside
        exact absent variant inside called
      | some variant =>
        simp only [true_iff]
        exact ⟨target, member, named, variant, List.mem_of_find?_eq_some chosen,
          by simpa using List.find?_some chosen⟩
  | list item ih => exact ih
  | optional inner ih => exact ih

/-- Each check for repeated names asks two things of the rest: nothing was seen before, and nothing
comes twice. -/
theorem seen_cons_iff {Item : Type} (name : Item → String) (seen : List String) (first : Item)
    (rest : List Item) :
    ((∀ item ∈ first :: rest, name item ∉ seen) ∧ ((first :: rest).map name).Nodup) ↔
      name first ∉ seen ∧
        (∀ item ∈ rest, name item ∉ name first :: seen) ∧ (rest.map name).Nodup := by
  simp only [List.map_cons, List.nodup_cons, List.mem_map, List.mem_cons, not_or,
    forall_eq_or_imp, not_exists, not_and]
  grind

theorem checkBaseNames_eq_ok_iff {seen : List String} {bases : List BaseType} :
    checkBaseNames seen bases = .ok ⟨⟩ ↔
      (∀ base ∈ bases, Name.isIdentifier base.name) ∧
        (∀ base ∈ bases, base.name ∉ seen) ∧ (bases.map (·.name)).Nodup := by
  induction bases generalizing seen with
  | nil => simp [checkBaseNames]
  | cons base rest ih =>
    -- The names seen so far grow with each step, so the statement is about any of them.
    rw [seen_cons_iff BaseType.name, checkBaseNames, Checks.then_eq_ok_iff,
      checkIdentifier_eq_ok_iff, List.forall_mem_cons]
    split
    · simp_all
    · rw [ih]
      grind

theorem checkFields_eq_ok_iff {schema : Schema} (distinct : (schema.baseTypes.map (·.name)).Nodup)
    {base variant : String} {seen : List String} {fields : List Field} :
    checkFields schema base variant seen fields = .ok ⟨⟩ ↔
      (∀ field ∈ fields, field.Valid schema) ∧
        (∀ field ∈ fields, field.name ∉ seen) ∧ (fields.map (·.name)).Nodup := by
  induction fields generalizing seen with
  | nil => simp [checkFields]
  | cons field rest ih =>
    rw [seen_cons_iff Field.name, checkFields, Checks.then_eq_ok_iff, checkIdentifier_eq_ok_iff,
      List.forall_mem_cons]
    split
    · simp_all
    · rw [Checks.then_eq_ok_iff, checkRef_eq_ok_iff distinct, ih]
      grind [Field.Valid]

theorem checkVariants_eq_ok_iff {schema : Schema}
    (distinct : (schema.baseTypes.map (·.name)).Nodup) {base : String} {seen : List String}
    {variants : List Variant} :
    checkVariants schema base seen variants = .ok ⟨⟩ ↔
      (∀ variant ∈ variants, variant.Valid schema) ∧
        (∀ variant ∈ variants, variant.name ∉ seen) ∧ (variants.map (·.name)).Nodup := by
  induction variants generalizing seen with
  | nil => simp [checkVariants]
  | cons variant rest ih =>
    rw [seen_cons_iff Variant.name, checkVariants, Checks.then_eq_ok_iff,
      checkIdentifier_eq_ok_iff, List.forall_mem_cons]
    split
    · simp_all
    · split
      · grind [Variant.Valid]
      · rw [Checks.then_eq_ok_iff, checkFields_eq_ok_iff distinct, ih]
        grind [Variant.Valid]

theorem checkBases_eq_ok_iff {schema : Schema} (distinct : (schema.baseTypes.map (·.name)).Nodup)
    {bases : List BaseType} :
    checkBases schema bases = .ok ⟨⟩ ↔ ∀ base ∈ bases, base.Valid schema := by
  induction bases with
  | nil => simp [checkBases]
  | cons base rest ih =>
    rw [checkBases, Checks.then_eq_ok_iff, checkVariants_eq_ok_iff distinct, ih,
      List.forall_mem_cons]
    grind [BaseType.Valid]

theorem validate_eq_ok_iff {schema : Schema} : schema.validate = .ok ⟨⟩ ↔ schema.Valid := by
  rw [validate, Checks.then_eq_ok_iff, checkBaseNames_eq_ok_iff]
  constructor
  · rintro ⟨⟨identifiers, -, distinct⟩, passed⟩
    exact ⟨identifiers, distinct, (checkBases_eq_ok_iff distinct).mp passed⟩
  · rintro ⟨identifiers, distinct, bases⟩
    exact ⟨⟨identifiers, by simp, distinct⟩, (checkBases_eq_ok_iff distinct).mpr bases⟩

end Schema

end NodeGen
