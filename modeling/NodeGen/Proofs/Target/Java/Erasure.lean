import NodeGen.Proofs.Target.Java.Likeness

/-! Optional layers taken off a schema. Java writes a value that may be missing like any other, so a
schema and what is left of it without optional layers are one to this target: validation and the
check of names come to the same outcome, down to the place that an error reports, and the units are
the same. -/

set_option autoImplicit false

namespace NodeGen

/-- The type with every optional layer taken off, at all depths. -/
def TypeRef.withoutOptional : TypeRef → TypeRef
  | .list item => .list item.withoutOptional
  | .optional inner => inner.withoutOptional
  | leaf => leaf

def Field.withoutOptional (field : Field) : Field :=
  { field with type := field.type.withoutOptional }

def Variant.withoutOptional (variant : Variant) : Variant :=
  { variant with fields := variant.fields.map (·.withoutOptional) }

def BaseType.withoutOptional (base : BaseType) : BaseType :=
  { base with variants := base.variants.map (·.withoutOptional) }

def Schema.withoutOptional (schema : Schema) : Schema :=
  { schema with baseTypes := schema.baseTypes.map (·.withoutOptional) }

theorem BaseType.variant?_withoutOptional (base : BaseType) (name : String) :
    base.withoutOptional.variant? name = (base.variant? name).map (·.withoutOptional) := by
  rw [variant?, withoutOptional, List.find?_map]
  rfl

namespace Schema

theorem base?_withoutOptional (schema : Schema) (name : String) :
    schema.withoutOptional.base? name = (schema.base? name).map (·.withoutOptional) := by
  rw [base?, withoutOptional, List.find?_map]
  rfl

theorem names_withoutOptional (schema : Schema) :
    schema.withoutOptional.baseTypes.map (·.name) = schema.baseTypes.map (·.name) := by
  rw [withoutOptional, List.map_map]
  rfl

/-- A reference is looked up under all its layers, and the lookup meets the same declarations. -/
theorem checkRef_withoutOptional (schema : Schema) (context : String) (type : TypeRef) :
    checkRef schema.withoutOptional context type.withoutOptional =
      checkRef schema context type := by
  induction type with
  | scalar name => rfl
  | base name =>
    simp only [TypeRef.withoutOptional, checkRef, base?_withoutOptional]
    cases schema.base? name <;> rfl
  | variant owner name =>
    simp only [TypeRef.withoutOptional, checkRef, base?_withoutOptional]
    cases schema.base? owner with
    | none => rfl
    | some target =>
      simp only [Option.map_some, BaseType.variant?_withoutOptional]
      cases target.variant? name <;> rfl
  | list item ih => exact ih
  | optional inner ih => exact ih

theorem checkFields_withoutOptional (schema : Schema) (base variant : String) (seen : List String)
    (fields : List Field) :
    checkFields schema.withoutOptional base variant seen (fields.map (·.withoutOptional)) =
      checkFields schema base variant seen fields := by
  induction fields generalizing seen with
  | nil => rfl
  | cons field rest ih =>
    rw [List.map_cons, checkFields, checkFields, ih, Field.withoutOptional,
      checkRef_withoutOptional]

theorem checkVariants_withoutOptional (schema : Schema) (base : String) (seen : List String)
    (variants : List Variant) :
    checkVariants schema.withoutOptional base seen (variants.map (·.withoutOptional)) =
      checkVariants schema base seen variants := by
  induction variants generalizing seen with
  | nil => rfl
  | cons variant rest ih =>
    rw [List.map_cons, checkVariants, checkVariants, ih, Variant.withoutOptional,
      checkFields_withoutOptional, names_withoutOptional]

theorem checkBases_withoutOptional (schema : Schema) (bases : List BaseType) :
    checkBases schema.withoutOptional (bases.map (·.withoutOptional)) =
      checkBases schema bases := by
  induction bases with
  | nil => rfl
  | cons base rest ih =>
    rw [List.map_cons, checkBases, checkBases, ih, BaseType.withoutOptional,
      checkVariants_withoutOptional]

theorem checkBaseNames_withoutOptional (seen : List String) (bases : List BaseType) :
    checkBaseNames seen (bases.map (·.withoutOptional)) = checkBaseNames seen bases := by
  induction bases generalizing seen with
  | nil => rfl
  | cons base rest ih =>
    rw [List.map_cons, checkBaseNames, checkBaseNames, ih]
    rfl

theorem validate_withoutOptional (schema : Schema) :
    schema.withoutOptional.validate = schema.validate := by
  have names : checkBaseNames [] schema.withoutOptional.baseTypes = _ :=
    checkBaseNames_withoutOptional [] schema.baseTypes
  have bases : checkBases schema.withoutOptional schema.withoutOptional.baseTypes = _ :=
    checkBases_withoutOptional schema schema.baseTypes
  rw [validate, validate, names, bases]

end Schema

namespace Target

theorem checkReservedVariants_withoutOptional (target : String) (reserved : List String)
    (base : String) (variants : List Variant) :
    checkReservedVariants target reserved base (variants.map (·.withoutOptional)) =
      checkReservedVariants target reserved base variants := by
  induction variants with
  | nil => rfl
  | cons variant rest ih =>
    rw [List.map_cons, checkReservedVariants, checkReservedVariants, ih]
    rfl

theorem checkReserved_withoutOptional (target : String) (reserved : List String)
    (bases : List BaseType) :
    checkReserved target reserved (bases.map (·.withoutOptional)) =
      checkReserved target reserved bases := by
  induction bases with
  | nil => rfl
  | cons base rest ih =>
    rw [List.map_cons, checkReserved, checkReserved, ih, BaseType.withoutOptional,
      checkReservedVariants_withoutOptional]

namespace Java

/-- Optional layers leave no trace in Java output. -/
theorem typeText_withoutOptional (type : TypeRef) :
    typeText type.withoutOptional = typeText type := by
  induction type with
  | scalar name => rfl
  | base name => rfl
  | variant base name => rfl
  | list item ih => simp only [TypeRef.withoutOptional, typeText, ih]
  | optional inner ih => exact ih

theorem usesList_withoutOptional (type : TypeRef) :
    type.withoutOptional.usesList = type.usesList := by
  induction type with
  | scalar name => rfl
  | base name => rfl
  | variant base name => rfl
  | list item ih => rfl
  | optional inner ih => exact ih

theorem checkVariantKeywords_withoutOptional (base : String) (variant : Variant) :
    checkVariantKeywords base variant.withoutOptional = checkVariantKeywords base variant := by
  rw [checkVariantKeywords, checkVariantKeywords, Variant.withoutOptional, List.forM_eq_forM,
    List.forM_map]
  rfl

theorem checkBaseKeywords_withoutOptional (base : BaseType) :
    checkBaseKeywords base.withoutOptional = checkBaseKeywords base := by
  rw [checkBaseKeywords, checkBaseKeywords, BaseType.withoutOptional, List.forM_eq_forM,
    List.forM_map]
  simp only [checkVariantKeywords_withoutOptional]

theorem check_withoutOptional (schema : Schema) : check schema.withoutOptional = check schema := by
  rw [check, check, Schema.withoutOptional, checkReserved_withoutOptional, List.forM_eq_forM,
    List.forM_map]
  simp only [checkBaseKeywords_withoutOptional]

/-- The output does not see the layers: names, texts and lists that stand outermost are kept. -/
theorem alike_withoutOptional (base : BaseType) : AlikeBase base.withoutOptional base where
  name := rfl
  variants := by
    rw [BaseType.withoutOptional, List.forall₂_map_left_iff, List.forall₂_same]
    intro variant _
    refine ⟨rfl, ?_⟩
    rw [Variant.withoutOptional, List.forall₂_map_left_iff, List.forall₂_same]
    intro field _
    exact ⟨rfl, typeText_withoutOptional field.type, usesList_withoutOptional field.type⟩

end Java

end Target

/-- Whether or not a schema is valid, Java output is generated from it as from the schema without
its optional layers, or refused with the same error. -/
theorem generate_withoutOptional (schema : Schema) (package : Option String)
    (imports : List String) :
    generate schema.withoutOptional (.java package imports) =
      generate schema (.java package imports) := by
  have checked : (Target.java package imports).check schema.withoutOptional = _ :=
    Target.Java.check_withoutOptional schema
  have units : schema.withoutOptional.baseTypes.map (Target.java package imports).unit =
      schema.baseTypes.map (Target.java package imports).unit := by
    rw [Schema.withoutOptional, List.map_map]
    apply List.map_congr_left
    intro base _
    exact (Target.Java.alike_withoutOptional base).unit_eq package imports
  rw [generate, generate, Schema.validate_withoutOptional, checked, units]
  rfl

end NodeGen
