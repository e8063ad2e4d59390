import NodeGen.Proofs.Schema.Faults
import NodeGen.Proofs.Source.Forms
import NodeGen.Proofs.Target.Accepted
import NodeGen.Proofs.Text.Trim
import NodeGen.Source.Resolve

/-! Resolution against its declarative meaning. Declarations resolve exactly when their names are
identifiers that stay apart at every level and every type text can be read; the schema repeats the
declarations in order, and no reference in it dangles. -/

set_option autoImplicit false

namespace NodeGen

namespace Source

/-- What declarations have to satisfy; types are read with all base types in scope. -/
structure WellFormed (types : List BaseType) : Prop where
  basesDistinct : (types.map (·.name)).Nodup
  variantsDistinct : ∀ base ∈ types, (base.variants.map (·.name)).Nodup
  fieldsDistinct : ∀ base ∈ types, ∀ variant ∈ base.variants, (variant.fields.map (·.name)).Nodup
  baseIdentifiers : ∀ base ∈ types, Name.isIdentifier base.name
  variantIdentifiers : ∀ base ∈ types, ∀ variant ∈ base.variants, Name.isIdentifier variant.name
  fieldIdentifiers : ∀ base ∈ types, ∀ variant ∈ base.variants, ∀ field ∈ variant.fields,
    Name.isIdentifier field.name
  variantsNotBases : ∀ base ∈ types, ∀ variant ∈ base.variants,
    ∀ other ∈ types, variant.name ≠ other.name
  typesRead : ∀ base ∈ types, ∀ variant ∈ base.variants, ∀ field ∈ variant.fields,
    ∃ type, TypeText.parse types (Context.field base.name variant.name field.name)
      field.typeText = .ok type

/-- The field has the declared name and the type that its text reads as. -/
structure ResolvesField (scope : List BaseType) (base variant : String) (declared : Field)
    (field : NodeGen.Field) : Prop where
  name : field.name = declared.name
  type : TypeText.parse scope (Context.field base variant declared.name) declared.typeText =
    .ok field.type

structure ResolvesVariant (scope : List BaseType) (base : String) (declared : Variant)
    (variant : NodeGen.Variant) : Prop where
  name : variant.name = declared.name
  fields : List.Forall₂ (ResolvesField scope base declared.name) declared.fields variant.fields

structure ResolvesBase (scope : List BaseType) (declared : BaseType) (base : NodeGen.BaseType) :
    Prop where
  name : base.name = declared.name
  variants : List.Forall₂ (ResolvesVariant scope declared.name) declared.variants base.variants

/-- The same base types, variants and fields in the same order. -/
def Resolves (types : List BaseType) (schema : Schema) : Prop :=
  List.Forall₂ (ResolvesBase types) types schema.baseTypes

theorem resolveField_eq_ok_iff {scope : List BaseType} {base variant : String} {declared : Field}
    {field : NodeGen.Field} :
    resolveField scope base variant declared = .ok field ↔
      ResolvesField scope base variant declared field := by
  rw [resolveField, Checks.bind_eq_ok_iff]
  constructor
  · rintro ⟨type, read, same⟩
    obtain rfl := Except.ok.inj same
    exact ⟨rfl, read⟩
  · rintro ⟨name, type⟩
    exact ⟨field.type, type, by rw [← name]; rfl⟩

theorem resolveVariant_eq_ok_iff {scope : List BaseType} {base : String} {declared : Variant}
    {variant : NodeGen.Variant} :
    resolveVariant scope base declared = .ok variant ↔
      ResolvesVariant scope base declared variant := by
  rw [resolveVariant, Checks.bind_eq_ok_iff]
  simp only [Checks.mapM_eq_ok_iff, resolveField_eq_ok_iff]
  constructor
  · rintro ⟨fields, resolved, same⟩
    obtain rfl := Except.ok.inj same
    exact ⟨rfl, resolved⟩
  · rintro ⟨name, fields⟩
    exact ⟨variant.fields, fields, by rw [← name]; rfl⟩

theorem resolveBase_eq_ok_iff {scope : List BaseType} {declared : BaseType}
    {base : NodeGen.BaseType} :
    resolveBase scope declared = .ok base ↔ ResolvesBase scope declared base := by
  rw [resolveBase, Checks.bind_eq_ok_iff]
  simp only [Checks.mapM_eq_ok_iff, resolveVariant_eq_ok_iff]
  constructor
  · rintro ⟨variants, resolved, same⟩
    obtain rfl := Except.ok.inj same
    exact ⟨rfl, resolved⟩
  · rintro ⟨name, variants⟩
    exact ⟨base.variants, variants, by rw [← name]; rfl⟩

theorem mapM_resolveBase_eq_ok_iff {types : List BaseType} {schema : Schema} :
    types.mapM (resolveBase types) = .ok schema.baseTypes ↔ Resolves types schema := by
  simp only [Checks.mapM_eq_ok_iff, resolveBase_eq_ok_iff, Resolves]

theorem exists_resolves_iff {types : List BaseType} :
    (∃ schema, Resolves types schema) ↔
      ∀ base ∈ types, ∀ variant ∈ base.variants, ∀ field ∈ variant.fields,
        ∃ type, TypeText.parse types (Context.field base.name variant.name field.name)
          field.typeText = .ok type := by
  have wrapped : (∃ schema, Resolves types schema) ↔
      ∃ baseTypes, types.mapM (resolveBase types) = .ok baseTypes :=
    ⟨fun ⟨schema, resolves⟩ => ⟨_, mapM_resolveBase_eq_ok_iff.mpr resolves⟩,
      fun ⟨baseTypes, read⟩ => ⟨⟨baseTypes⟩, mapM_resolveBase_eq_ok_iff.mp read⟩⟩
  rw [wrapped]
  simp only [resolveBase, resolveVariant, resolveField, Checks.exists_mapM_eq_ok_iff,
    Checks.exists_return_eq_ok_iff]

theorem resolve_eq_ok_iff {types : List BaseType} {schema : Schema} :
    resolve types = .ok schema ↔
      (types.map (·.name)).Nodup ∧ Resolves types schema ∧ schema.Valid := by
  unfold resolve
  cases repeated : repeatedBase? [] types with
  | some name =>
    -- A base type that comes again is reported before any text of a type is read.
    have clash : ¬(types.map (·.name)).Nodup := by
      intro distinct
      have absent := (repeatedBase?_eq_none_iff [] types).mpr ⟨by simp, distinct⟩
      rw [absent] at repeated
      cases repeated
    simp [clash, throw, throwThe, MonadExceptOf.throw, bind, Except.bind]
  | none =>
    have distinct := ((repeatedBase?_eq_none_iff [] types).mp repeated).2
    simp only [Checks.bind_eq_ok_iff, distinct, true_and]
    constructor
    · rintro ⟨baseTypes, read, _, validated, same⟩
      obtain rfl := Except.ok.inj same
      exact ⟨mapM_resolveBase_eq_ok_iff.mp read, Schema.validate_eq_ok_iff.mp validated⟩
    · rintro ⟨resolves, valid⟩
      exact ⟨schema.baseTypes, mapM_resolveBase_eq_ok_iff.mpr resolves, ⟨⟩,
        Schema.validate_eq_ok_iff.mpr valid, rfl⟩

theorem mem_of_declared {scope : List BaseType} {name : List Char} {base : BaseType}
    (found : TypeText.declared scope name = some base) :
    base ∈ scope ∧ base.name = String.ofList name := by
  have member := List.mem_reverse.mp (List.mem_of_find?_eq_some found)
  have same : base.name.toList = name := by simpa using List.find?_some found
  exact ⟨member, by rw [← same, String.ofList_toList]⟩

theorem ResolvesVariant.names_eq {scope : List BaseType} {base : String} {declared : Variant}
    {variant : NodeGen.Variant} (resolves : ResolvesVariant scope base declared variant) :
    variant.fields.map (·.name) = declared.fields.map (·.name) :=
  (resolves.fields.map_eq_map fun _ _ related => related.name.symm).symm

theorem ResolvesBase.names_eq {scope : List BaseType} {declared : BaseType}
    {base : NodeGen.BaseType} (resolves : ResolvesBase scope declared base) :
    base.variants.map (·.name) = declared.variants.map (·.name) :=
  (resolves.variants.map_eq_map fun _ _ related => related.name.symm).symm

namespace Resolves

variable {types : List BaseType} {schema : Schema}

theorem names_eq (resolves : Resolves types schema) :
    schema.baseTypes.map (·.name) = types.map (·.name) :=
  (resolves.map_eq_map fun _ _ related => related.name.symm).symm

theorem parseLeaf_declared (resolves : Resolves types schema) {context : String}
    {malformed : SchemaError} {text : List Char} {type : TypeRef} (present : Text.trim text ≠ [])
    (read : TypeText.parseLeaf types context malformed text = .ok type) : type.Declared schema := by
  have opaqueName : (TypeRef.scalar (String.ofList text)).Declared schema := by
    simpa [TypeRef.Declared] using present
  -- A text that no declaration accounts for stays a scalar; the others name what was found.
  cases TypeText.parseLeaf_eq_iff.mp read with
  | generic | undeclared | qualified => exact opaqueName
  | base plain whole found =>
    obtain ⟨member, named⟩ := mem_of_declared found
    obtain ⟨resolved, inside, related⟩ := resolves.exists_right member
    exact ⟨resolved, inside, related.name.trans named⟩
  | variant plain parts first found known =>
    obtain ⟨member, named⟩ := mem_of_declared found
    obtain ⟨resolved, inside, related⟩ := resolves.exists_right member
    -- The variant is found among the declarations, and resolution keeps its name.
    obtain ⟨variant, ofBase, spelled⟩ := List.mem_map.mp known
    obtain ⟨shape, ofResolved, same⟩ := related.variants.exists_right ofBase
    exact ⟨resolved, inside, related.name.trans named, shape, ofResolved, same.name.trans spelled⟩

/-- What a type text reads as refers to declared types only, however deep the reference stands. -/
theorem parseChars_declared (resolves : Resolves types schema) {context : String}
    {text : List Char} {type : TypeRef} (read : TypeText.parseChars types context text = .ok type) :
    type.Declared schema := by
  -- One case for each way the reader returns: it strips one list or optional at a time, and a leaf
  -- is left.
  fun_induction TypeText.parseChars types context text generalizing type with
  | case1 text blank => cases read
  | case2 text present optional doubled => cases read
  | case3 text present optional single ih =>
    obtain ⟨inner, readInner, rfl⟩ := Checks.map_eq_ok_iff.mp read
    have declared : inner.Declared schema := ih readInner
    exact declared
  | case4 text present plain item form ih =>
    obtain ⟨inside, readInside, rfl⟩ := Checks.map_eq_ok_iff.mp read
    have declared : inside.Declared schema := ih readInside
    exact declared
  | case5 text present plain form => cases read
  | case6 text present plain form =>
    refine resolves.parseLeaf_declared ?_ read
    rwa [Text.trim_trim]

theorem wellFormed (resolves : Resolves types schema) (valid : schema.Valid) :
    WellFormed types where
  basesDistinct := resolves.names_eq ▸ valid.distinct
  variantsDistinct declared member := by
    obtain ⟨base, inside, related⟩ := resolves.exists_right member
    exact related.names_eq ▸ (valid.bases base inside).distinct
  fieldsDistinct declared member shape ofDeclared := by
    obtain ⟨base, inside, related⟩ := resolves.exists_right member
    obtain ⟨variant, ofBase, same⟩ := related.variants.exists_right ofDeclared
    exact same.names_eq ▸ ((valid.bases base inside).variants variant ofBase).distinct
  baseIdentifiers declared member := by
    obtain ⟨base, inside, related⟩ := resolves.exists_right member
    exact related.name ▸ valid.identifiers base inside
  variantIdentifiers declared member shape ofDeclared := by
    obtain ⟨base, inside, related⟩ := resolves.exists_right member
    obtain ⟨variant, ofBase, same⟩ := related.variants.exists_right ofDeclared
    exact same.name ▸ ((valid.bases base inside).variants variant ofBase).identifier
  fieldIdentifiers declared member shape ofDeclared entry ofShape := by
    obtain ⟨base, inside, related⟩ := resolves.exists_right member
    obtain ⟨variant, ofBase, same⟩ := related.variants.exists_right ofDeclared
    obtain ⟨field, ofVariant, equal⟩ := same.fields.exists_right ofShape
    have accepted := (valid.bases base inside).variants variant ofBase
    exact equal.name ▸ (accepted.fields field ofVariant).identifier
  variantsNotBases declared member shape ofDeclared other present clash := by
    obtain ⟨base, inside, related⟩ := resolves.exists_right member
    obtain ⟨variant, ofBase, same⟩ := related.variants.exists_right ofDeclared
    have apart := ((valid.bases base inside).variants variant ofBase).notBase
    rw [resolves.names_eq, same.name, clash] at apart
    exact apart (List.mem_map_of_mem present)
  typesRead := exists_resolves_iff.mp ⟨schema, resolves⟩

theorem valid (resolves : Resolves types schema) (formed : WellFormed types) : schema.Valid where
  identifiers base inside := by
    obtain ⟨declared, member, related⟩ := resolves.exists_left inside
    exact related.name ▸ formed.baseIdentifiers declared member
  distinct := resolves.names_eq ▸ formed.basesDistinct
  bases base inside := by
    obtain ⟨declared, member, related⟩ := resolves.exists_left inside
    refine ⟨fun variant ofBase => ?_, related.names_eq ▸ formed.variantsDistinct declared member⟩
    obtain ⟨shape, ofDeclared, same⟩ := related.variants.exists_left ofBase
    constructor
    · exact same.name ▸ formed.variantIdentifiers declared member shape ofDeclared
    · rw [resolves.names_eq, same.name]
      intro clash
      obtain ⟨other, present, equal⟩ := List.mem_map.mp clash
      exact formed.variantsNotBases declared member shape ofDeclared other present equal.symm
    · intro field ofVariant
      obtain ⟨entry, ofShape, equal⟩ := same.fields.exists_left ofVariant
      exact ⟨equal.name ▸ formed.fieldIdentifiers declared member shape ofDeclared entry ofShape,
        resolves.parseChars_declared equal.type⟩
    · exact same.names_eq ▸ formed.fieldsDistinct declared member shape ofDeclared

/-- Validation never blames the type of a field that resolution has read. -/
theorem not_concernsType (resolves : Resolves types schema) {error : SchemaError}
    (failed : schema.validate = .error error) : ¬error.ConcernsType := by
  intro concerns
  obtain ⟨base, inside, variant, ofBase, field, ofVariant, undeclared⟩ :=
    Schema.exists_undeclared_of_validate failed concerns
  -- The field was read from a text, and what is read from a text is declared.
  obtain ⟨declared, -, related⟩ := resolves.exists_left inside
  obtain ⟨shape, -, same⟩ := related.variants.exists_left ofBase
  obtain ⟨entry, -, equal⟩ := same.fields.exists_left ofVariant
  exact undeclared (resolves.parseChars_declared equal.type)

end Resolves

/-- Declarations resolve exactly when they are well formed. The schema then repeats them in order,
each field with the type that its text reads as, and is valid, so that only a target can still
refuse it. Validation is reached after every text is read, and what it reports is a fault with a
name. -/
theorem resolve_iff_wellFormed (types : List BaseType) :
    ((∃ schema, resolve types = .ok schema) ↔ WellFormed types) ∧
    (∀ schema, resolve types = .ok schema →
      Resolves types schema ∧ schema.validate = .ok () ∧
      ∀ target error, generate schema target = .error error →
        (∃ name context, error = .reservedName name target.name context) ∨
        (∃ imports, target = .rust imports) ∧ ∃ first second emitted context,
          error = .nameCollision first second emitted target.name context) ∧
    ∀ baseTypes, (types.map (·.name)).Nodup → types.mapM (resolveBase types) = .ok baseTypes →
      ∀ error, Schema.validate ⟨baseTypes⟩ = .error error → ¬error.ConcernsType := by
  refine ⟨⟨?_, ?_⟩, ?_, ?_⟩
  · rintro ⟨schema, resolved⟩
    obtain ⟨-, resolves, valid⟩ := resolve_eq_ok_iff.mp resolved
    exact resolves.wellFormed valid
  · intro formed
    obtain ⟨schema, resolves⟩ := exists_resolves_iff.mpr formed.typesRead
    exact ⟨schema, resolve_eq_ok_iff.mpr ⟨formed.basesDistinct, resolves, resolves.valid formed⟩⟩
  · intro schema resolved
    obtain ⟨-, resolves, valid⟩ := resolve_eq_ok_iff.mp resolved
    refine ⟨resolves, Schema.validate_eq_ok_iff.mpr valid, fun target error failed => ?_⟩
    exact Target.refusal_of_check (check_eq_error_of_generate valid failed)
  · intro baseTypes _ read error failed
    have resolves : Resolves types ⟨baseTypes⟩ := mapM_resolveBase_eq_ok_iff.mp read
    exact resolves.not_concernsType failed

end Source

end NodeGen
