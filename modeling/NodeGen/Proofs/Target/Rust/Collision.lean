import NodeGen.Proofs.Target.Scopes

/-! Names that a Rust module would declare twice. The check of the target accepts a valid schema
exactly when its names stay apart after they are spelled for the output; then every scope of every
unit declares distinct names, and otherwise the error names two of one scope that become one. -/

set_option autoImplicit false

namespace NodeGen.Target.Rust

open Outline

/-- The lines declare these names, no two of which are equal. -/
structure DeclaresOnce (openings lines names : List String) : Prop where
  found : declared openings lines = names
  distinct : names.Nodup

/-- The line of a constructor whose parameters have these names. -/
def TakesParameters (names : List String) (line : String) : Prop :=
  ∃ types : List String, types.length = names.length ∧
    line = "pub fn new(" ++ String.intercalate ", "
      (List.zipWith (fun name type => name ++ ": " ++ type) names types) ++ ") -> Self \x7b"

/-- Each scope of a unit declares names that are apart: the module, the enum, the trait, and for
every variant the struct, whose members are also the parameters of the constructor. -/
structure Apart (base : BaseType) (entries : List Entry) : Prop where
  items : DeclaresOnce ["pub enum ", "pub trait ", "pub struct "] (within [] entries)
    (base.name :: "Visitor" :: base.variants.map (·.name))
  constructors : DeclaresOnce [""] (within [enumHeader base] entries)
    (base.variants.map (·.name))
  methods : DeclaresOnce ["fn "] (within [traitHeader] entries)
    (base.variants.map fun variant => methodName base.name variant.name)
  members : ∀ variant ∈ base.variants,
    DeclaresOnce ["pub "] (within [structHeader variant] entries)
      (variant.fields.map fun field => ident field.name)
  parameters : ∀ variant ∈ base.variants, ∃ line,
    (within [implHeader variant.name] entries).filter (·.startsWith "pub fn new(") = [line] ∧
    TakesParameters (variant.fields.map fun field => ident field.name) line

theorem takesParameters_constructorHeader (base : BaseType) (variant : Variant) :
    TakesParameters (variant.fields.map fun field => ident field.name)
      (constructorHeader base variant) := by
  refine ⟨variant.fields.map fun field => typeText base.name field.type, by simp, ?_⟩
  rw [List.zipWith_map, List.zipWith_self, constructorHeader_eq]
  rfl

theorem isIdentifier_dispatchMethod {base variant : String}
    (ofBase : Name.isIdentifier base = true) (ofVariant : Name.isIdentifier variant = true) :
    Name.isIdentifier (Name.dispatchMethod variant base) = true := by
  refine Name.isIdentifier_iff.mpr ⟨'v', "isit".toList ++ variant.toList ++ base.toList,
    by simp [Name.dispatchMethod], by decide, fun char member => ?_⟩
  obtain inFront | inBase := List.mem_append.mp member
  · obtain inWord | inVariant := List.mem_append.mp inFront
    · exact Name.isWordChar_of_mem (by decide) inWord
    · exact Name.isWordChar_of_mem ofVariant inVariant
  · exact Name.isWordChar_of_mem ofBase inBase

theorem isIdentChar_of_mem_methodName {base variant : String}
    (ofBase : Name.isIdentifier base = true) (ofVariant : Name.isIdentifier variant = true)
    {char : Char} (member : char ∈ (methodName base variant).toList) :
    isIdentChar char = true := by
  have word := Name.isWordChar_of_mem_snakeCase (isIdentifier_dispatchMethod ofBase ofVariant) member
  simp [isIdentChar, word]

theorem declared_methods (imports : List String) {base : BaseType}
    (named : Name.isIdentifier base.name = true)
    (variants : ∀ variant ∈ base.variants, Name.isIdentifier variant.name = true) :
    declared ["fn "] (inside traitHeader (unitSteps imports base)) =
      base.variants.map fun variant => methodName base.name variant.name := by
  have found : namesAfter "fn " (base.variants.map fun variant => "fn " ++
      methodName base.name variant.name ++ "(&mut self, " ++ ident base.name ++ ": &" ++
      variant.name ++ ") -> R;") =
      base.variants.map fun variant => methodName base.name variant.name :=
    namesAfter_map '('
      (fun variant => ("&mut self, " ++ ident base.name ++ ": &" ++ variant.name ++ ") -> R;").toList)
      (by simp)
      (fun variant inside _ => isIdentChar_of_mem_methodName named (variants variant inside))
      (by decide)
  simp [inside_traitHeader, found]

theorem declared_members (imports : List String) {base : BaseType}
    (distinct : (base.variants.map (·.name)).Nodup) {variant : Variant}
    (inside : variant ∈ base.variants)
    (fields : ∀ field ∈ variant.fields, Name.isIdentifier field.name = true) :
    declared ["pub "] (Outline.inside (structHeader variant) (unitSteps imports base)) =
      variant.fields.map fun field => ident field.name := by
  -- The text of the type comes after the colon and is never looked at.
  have found : namesAfter "pub " (variant.fields.map (memberText base)) =
      variant.fields.map fun field => ident field.name :=
    namesAfter_map ':' (fun field => (" " ++ typeText base.name field.type ++ ",").toList)
      (by simp [memberText_eq, parameterText_eq])
      (fun field present _ => isIdentChar_of_mem_ident (fields field present)) (by decide)
  simp [inside_structHeader imports distinct inside, found]

/-- The trait has a reserved name, and no variant has the name of a base type. -/
theorem nodup_items {schema : Schema} (valid : schema.Valid) {base : BaseType}
    (member : base ∈ schema.baseTypes) (free : base.name ∉ reserved)
    (variants : ∀ variant ∈ base.variants, variant.name ∉ reserved) :
    (base.name :: "Visitor" :: base.variants.map (·.name)).Nodup := by
  have trait : "Visitor" ∈ reserved := by decide
  have notTrait : "Visitor" ∉ base.variants.map (·.name) := by
    intro inNames
    obtain ⟨variant, inside, same⟩ := List.mem_map.mp inNames
    exact variants variant inside (same ▸ trait)
  have notVariant : base.name ∉ base.variants.map (·.name) := by
    intro inNames
    obtain ⟨variant, inside, same⟩ := List.mem_map.mp inNames
    exact valid.name_ne_base member inside same
  have notVisitor : base.name ≠ "Visitor" := fun same => free (same ▸ trait)
  simp only [List.nodup_cons, List.mem_cons, not_or]
  exact ⟨⟨notVisitor, notVariant⟩, notTrait, (valid.bases base member).distinct⟩

theorem separate_iff {base : BaseType} :
    Separate base ↔
      (base.variants.map fun variant => methodName base.name variant.name).Nodup ∧
      ∀ variant ∈ base.variants, (variant.fields.map fun field => ident field.name).Nodup := by
  constructor
  · rintro ⟨methods, fields⟩
    simp only [List.map_map] at methods fields
    exact ⟨methods, fields⟩
  · rintro ⟨methods, fields⟩
    refine ⟨?_, fun variant inside => ?_⟩
    · rw [List.map_map]
      exact methods
    · rw [List.map_map]
      exact fields variant inside

theorem apart_unitSteps (imports : List String) {schema : Schema} (valid : schema.Valid)
    (checked : check schema = .ok ⟨⟩) {base : BaseType} (member : base ∈ schema.baseTypes) :
    Apart base (ofSteps [] (unitSteps imports base)) := by
  obtain ⟨free, -, separate⟩ := check_eq_ok_iff.mp checked
  obtain ⟨methods, fields⟩ := separate_iff.mp (separate base member)
  have named := valid.identifiers base member
  have accepted := (valid.bases base member).variants
  have distinct := (valid.bases base member).distinct
  have variants : ∀ variant ∈ base.variants, Name.isIdentifier variant.name = true :=
    fun variant inside => (accepted variant inside).identifier
  constructor
  · rw [within_ofSteps_self]
    exact ⟨declared_items imports named variants,
      nodup_items valid member (free base member).1 (free base member).2⟩
  · rw [within_ofSteps_block]
    exact ⟨declared_constructors imports variants, distinct⟩
  · rw [within_ofSteps_block]
    exact ⟨declared_methods imports named variants, methods⟩
  · intro variant inside
    rw [within_ofSteps_block]
    exact ⟨declared_members imports distinct inside fun field present =>
      ((accepted variant inside).fields field present).identifier, fields variant inside⟩
  · intro variant inside
    -- A variant with the name of its base type would share the block with the enum's methods.
    have outside := valid.name_ne_base member inside
    rw [within_ofSteps_block, inside_implHeader imports distinct inside outside]
    refine ⟨_, ?_, takesParameters_constructorHeader base variant⟩
    simp [constructorHeader_eq, acceptHeader_eq]

theorem Collides.ne {schema : Schema} (valid : schema.Valid)
    {first second emitted context : String}
    (collides : Collides schema first second emitted context) : first ≠ second := by
  have apart {convert : String → String} {names : List String} (distinct : names.Nodup)
      (alike : Alike convert names first second emitted) : first ≠ second := by
    have pair := alike.order.nodup distinct
    simpa using pair
  cases collides with
  | modules alike => exact apart valid.distinct alike
  | @methods base member alike => exact apart (valid.bases base member).distinct alike
  | @fields base variant member inside alike =>
    exact apart ((valid.bases base member).variants variant inside).distinct alike

/-- For a valid schema the check decides whether the names of modules, methods and fields stay
apart once they are spelled for the output, and no reserved name is taken. In every unit that is
generated then, each scope declares distinct names; a collision that is reported is between two
names of one scope, the one that is declared first before the other. -/
theorem check_exact {schema : Schema} (validated : schema.validate = .ok ()) :
    (check schema = .ok () ↔
      (∀ base ∈ schema.baseTypes, base.name ∉ reserved ∧
        ∀ variant ∈ base.variants, variant.name ∉ reserved) ∧
      (schema.baseTypes.map fun base => moduleName base.name).Nodup ∧
      (∀ base ∈ schema.baseTypes,
        (base.variants.map fun variant => methodName base.name variant.name).Nodup) ∧
      ∀ base ∈ schema.baseTypes, ∀ variant ∈ base.variants,
        (variant.fields.map fun field => ident field.name).Nodup) ∧
    (∀ imports units, generate schema (.rust imports) = .ok units →
      List.Forall₂ (fun base unit =>
          unit.source = Layout.render "    " (unitSteps imports base) ∧
          Apart base (ofSteps [] (unitSteps imports base)) ∧
          (schema.ScalarsUnbroken → (∀ name ∈ imports, NodeGen.Unbroken name) →
            Apart base (read unit.source)))
        schema.baseTypes units) ∧
    ∀ first second emitted target context,
      (check schema : Except SchemaError Unit) =
        .error (.nameCollision first second emitted target context) →
      target = targetName ∧ first ≠ second ∧ Collides schema first second emitted context := by
  have valid := Schema.validate_eq_ok_iff.mp validated
  refine ⟨?_, ?_, ?_⟩
  · simp only [check_eq_ok_iff, separate_iff, List.map_map, forall₂_and]
    rfl
  · intro imports units generated
    obtain ⟨-, checked, rfl⟩ := generate_eq_ok_iff.mp generated
    rw [List.forall₂_map_right_iff, List.forall₂_same]
    intro base member
    have apart := apart_unitSteps imports valid checked member
    refine ⟨rfl, apart, fun scalars copied => ?_⟩
    have outline : read (unitText imports base) = ofSteps [] (unitSteps imports base) :=
      @Target.read_unitText (.rust imports) copied base (valid.readable scalars member)
    exact outline ▸ apart
  · intro first second emitted target context failed
    obtain ⟨_, _, same⟩ | ⟨_, _, _, _, same, collides⟩ :=
      reservedName_or_nameCollision_of_check failed
    · cases same
    · cases same
      exact ⟨rfl, collides.ne valid, collides⟩

/-- A base type and a field that need the mark of a raw identifier, a field that cannot have one,
and two variants that differ in the end of an acronym. -/
def marksSchema : Schema :=
  ⟨[⟨"Type", [⟨"HTTPCall", [⟨"self", .base "Type"⟩, ⟨"match", .scalar "u8"⟩]⟩, ⟨"HTTPCALL", []⟩]⟩]⟩

/-- Two fields of which the second is spelled as the first one becomes. -/
def fieldsSchema : Schema :=
  ⟨[⟨"Expr", [⟨"Call", [⟨"argList", .scalar "u8"⟩, ⟨"arg_list", .scalar "u8"⟩]⟩]⟩]⟩

theorem check_exact_marksSchema :
    List.Forall₂ (fun base unit => Apart base (read unit.source)) marksSchema.baseTypes
      (marksSchema.baseTypes.map (Target.rust []).unit) ∧
    Collides fieldsSchema "argList" "arg_list" "arg_list" "Expr.Call" := by
  obtain ⟨-, scopes, -⟩ := @check_exact marksSchema rfl
  obtain ⟨-, -, collision⟩ := @check_exact fieldsSchema rfl
  constructor
  · refine (scopes [] _ rfl).imp fun base unit ⟨_, _, apart⟩ => apart ?_ (by simp)
    simp [marksSchema, Schema.ScalarsUnbroken, TypeRef.ScalarsUnbroken, NodeGen.Unbroken]
  · exact (collision _ _ _ _ _ rfl).2.2

end NodeGen.Target.Rust
