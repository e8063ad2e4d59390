import NodeGen.Proofs.Layout.Outline
import NodeGen.Proofs.Name
import NodeGen.Proofs.Target.Accepted

/-! When the text of a unit can be read back: names are identifiers, and what is copied into the
text as it stands breaks no line. Every line of the unit then starts visibly, and braces at the
ends of lines belong to blocks. -/

set_option autoImplicit false

namespace NodeGen

def Unbroken (text : String) : Prop :=
  '\n' ∉ text.toList

theorem unbroken_of_isIdentifier {name : String} (identifier : Name.isIdentifier name = true) :
    Unbroken name :=
  Name.notMem_of_isIdentifier identifier (by decide)

theorem unbroken_intercalate {separator : String} (apart : Unbroken separator)
    {texts : List String} (unbroken : ∀ text ∈ texts, Unbroken text) :
    Unbroken (String.intercalate separator texts) := by
  induction texts with
  | nil => simp [Unbroken]
  | cons text rest ih =>
    have first := unbroken text List.mem_cons_self
    have others := ih fun other member => unbroken other (List.mem_cons_of_mem _ member)
    cases rest with
    | nil => simpa using first
    | cons next rest =>
      rw [String.intercalate_cons_cons]
      simp only [Unbroken, String.toList_append, List.mem_append, not_or]
      exact ⟨⟨first, apart⟩, others⟩

/-- No scalar inside the type breaks a line. -/
def TypeRef.ScalarsUnbroken : TypeRef → Prop
  | .scalar name => Unbroken name
  | .base _ | .variant _ _ => True
  | .list item => item.ScalarsUnbroken
  | .optional inner => inner.ScalarsUnbroken

/-- No name inside the type breaks a line. -/
def TypeRef.Unbroken : TypeRef → Prop
  | .scalar name | .base name => NodeGen.Unbroken name
  | .variant owner name => NodeGen.Unbroken owner ∧ NodeGen.Unbroken name
  | .list item => item.Unbroken
  | .optional inner => inner.Unbroken

theorem TypeRef.Declared.unbroken {schema : Schema} (valid : schema.Valid) {type : TypeRef}
    (declared : type.Declared schema) (scalars : type.ScalarsUnbroken) : type.Unbroken := by
  induction type with
  | scalar name => exact scalars
  | base name =>
    obtain ⟨base, member, rfl⟩ := declared
    exact unbroken_of_isIdentifier (valid.identifiers base member)
  | variant owner name =>
    obtain ⟨base, member, rfl, variant, inside, rfl⟩ := declared
    exact ⟨unbroken_of_isIdentifier (valid.identifiers base member),
      unbroken_of_isIdentifier ((valid.bases base member).variants variant inside).identifier⟩
  | list item ih => exact ih declared scalars
  | optional inner ih => exact ih declared scalars

/-- Names are identifiers, and no type breaks a line; of a reference to a proper name the latter is
true anyway. -/
structure Field.Readable (field : Field) : Prop where
  name : Name.isIdentifier field.name
  type : field.type.Unbroken

structure Variant.Readable (variant : Variant) : Prop where
  name : Name.isIdentifier variant.name
  fields : ∀ field ∈ variant.fields, field.Readable

structure BaseType.Readable (base : BaseType) : Prop where
  name : Name.isIdentifier base.name
  variants : ∀ variant ∈ base.variants, variant.Readable

def Schema.ScalarsUnbroken (schema : Schema) : Prop :=
  ∀ base ∈ schema.baseTypes, ∀ variant ∈ base.variants, ∀ field ∈ variant.fields,
    field.type.ScalarsUnbroken

theorem Schema.Valid.readable {schema : Schema} (valid : schema.Valid)
    (scalars : schema.ScalarsUnbroken) {base : BaseType} (member : base ∈ schema.baseTypes) :
    base.Readable where
  name := valid.identifiers base member
  variants variant inside :=
    have accepted := (valid.bases base member).variants variant inside
    ⟨accepted.identifier, fun field present =>
      ⟨(accepted.fields field present).identifier, (accepted.fields field present).declared.unbroken
        valid (scalars base member variant inside field present)⟩⟩

namespace Outline

theorem legible_of_isIdentifier {name : String} (identifier : Name.isIdentifier name = true)
    {rest : String} (unbroken : Unbroken rest) : Legible (name ++ rest) := by
  refine ⟨?_, ?_⟩
  · rw [String.toList_append, List.mem_append, not_or]
    exact ⟨unbroken_of_isIdentifier identifier, unbroken⟩
  · obtain ⟨first, tail, shape, letter, -⟩ := Name.isIdentifier_iff.mp identifier
    have word : Name.isWordChar first = true := by simp [Name.isWordChar, letter]
    have notBrace : first ≠ '\x7d' := by
      rintro rfl
      exact absurd word (by decide)
    simp [shape, Name.isBlank_of_isWordChar word, notBrace]

end Outline

namespace Target.Java

open Outline

theorem unbroken_typeText {type : TypeRef} (unbroken : type.Unbroken) :
    Unbroken (typeText type) := by
  induction type with
  | scalar name => exact unbroken
  | base name => exact unbroken
  | variant owner name =>
    obtain ⟨ofOwner, ofName⟩ := unbroken
    simp_all [Unbroken, typeText]
  | list item ih => simpa [Unbroken, typeText] using ih unbroken
  | optional inner ih => exact ih unbroken

theorem unbroken_parameterText {field : Field} (readable : field.Readable) :
    Unbroken (parameterText field) := by
  have type := unbroken_typeText readable.type
  have name := unbroken_of_isIdentifier readable.name
  simp_all [Unbroken, parameterText]

theorem stepsLegible_dispatchSteps {base : BaseType} (readable : base.Readable) :
    StepsLegible (dispatchSteps base) := by
  refine stepsLegible_iff.mpr fun step member => ?_
  obtain rfl := List.mem_singleton.mp member
  refine ⟨⟨by simp, by simp [Text.isBlank]⟩, by simp, rfl,
    stepsLegible_iff.mpr fun step member => ?_⟩
  obtain ⟨variant, inside, rfl⟩ := List.mem_map.mp member
  have ofBase := unbroken_of_isIdentifier readable.name
  have ofVariant := unbroken_of_isIdentifier (readable.variants variant inside).name
  have parameter := unbroken_of_isIdentifier (Name.isIdentifier_lowercase readable.name)
  refine ⟨⟨?_, by simp [Text.isBlank]⟩, by simp [List.getLast?_cons, List.getLast?_append]⟩
  simp_all [Unbroken, Name.dispatchMethod, visitorParameter]

theorem stepsLegible_memberSteps {variant : Variant} (readable : variant.Readable) :
    StepsLegible (memberSteps variant) := by
  refine stepsLegible_iff.mpr fun step member => ?_
  obtain line | separator := List.mem_append.mp member
  · obtain ⟨field, inside, rfl⟩ := List.mem_map.mp line
    have parameter := unbroken_parameterText (readable.fields field inside)
    refine ⟨⟨?_, by simp [Text.isBlank]⟩, by simp [List.getLast?_cons, List.getLast?_append]⟩
    simp_all [Unbroken]
  · split at separator
    · cases separator
    · obtain rfl := List.mem_singleton.mp separator
      trivial

theorem stepsLegible_constructorSteps {variant : Variant} (readable : variant.Readable) :
    StepsLegible (constructorSteps variant) := by
  refine stepsLegible_iff.mpr fun step member => ?_
  obtain rfl := List.mem_singleton.mp member
  refine ⟨?_, by simp [List.getLast?_cons, List.getLast?_append], rfl,
    stepsLegible_iff.mpr fun step member => ?_⟩
  · have parameters : Unbroken (String.intercalate ", " (variant.fields.map parameterText)) := by
      refine unbroken_intercalate (by simp [Unbroken]) fun text member => ?_
      obtain ⟨field, inside, rfl⟩ := List.mem_map.mp member
      exact unbroken_parameterText (readable.fields field inside)
    -- The line starts with the name of the variant and not with a word of the language.
    simp only [String.append_assoc]
    refine legible_of_isIdentifier readable.name ?_
    simp_all [Unbroken]
  · obtain ⟨field, inside, rfl⟩ := List.mem_map.mp member
    have name := unbroken_of_isIdentifier (readable.fields field inside).name
    refine ⟨⟨?_, by simp [Text.isBlank]⟩, by simp [List.getLast?_cons, List.getLast?_append]⟩
    simp_all [Unbroken]

theorem stepsLegible_acceptSteps {base : BaseType} (readable : base.Readable) {variant : Variant}
    (inside : variant ∈ base.variants) : StepsLegible (acceptSteps base variant) := by
  have ofBase := unbroken_of_isIdentifier readable.name
  have ofVariant := unbroken_of_isIdentifier (readable.variants variant inside).name
  simp_all [acceptSteps, StepsLegible, StepLegible, legible_iff, Unbroken, Text.isBlank,
    Name.dispatchMethod, List.getLast?_cons, List.getLast?_append]

theorem stepsLegible_variantSteps {base : BaseType} (readable : base.Readable) {variant : Variant}
    (inside : variant ∈ base.variants) : StepsLegible (variantSteps base variant) := by
  have ofBase := unbroken_of_isIdentifier readable.name
  have ofVariant := unbroken_of_isIdentifier (readable.variants variant inside).name
  have members := stepsLegible_memberSteps (readable.variants variant inside)
  have initializer := stepsLegible_constructorSteps (readable.variants variant inside)
  have accept := stepsLegible_acceptSteps readable inside
  refine stepsLegible_iff.mpr fun step member => ?_
  obtain rfl := List.mem_singleton.mp member
  refine ⟨⟨?_, by simp [Text.isBlank]⟩, by simp [List.getLast?_cons, List.getLast?_append], rfl, ?_⟩
  · simp_all [Unbroken]
  · simp_all [stepsLegible_append, StepsLegible, StepLegible]

/-- The class of a base type, which is all of a unit but its head. -/
def classStep (base : BaseType) : Step :=
  .block ("abstract class " ++ base.name ++ " \x7b") "\x7d" (bodySteps base)

theorem stepLegible_classStep {base : BaseType} (readable : base.Readable) :
    StepLegible (classStep base) := by
  have ofBase := unbroken_of_isIdentifier readable.name
  refine ⟨⟨?_, by simp [Text.isBlank]⟩, by simp [List.getLast?_cons, List.getLast?_append], rfl, ?_⟩
  · simp_all [Unbroken]
  · refine stepsLegible_append.mpr ⟨stepsLegible_append.mpr ⟨stepsLegible_dispatchSteps readable,
      ?_⟩, stepsLegible_iff.mpr fun step member => ?_⟩
    · simp [StepsLegible, StepLegible, legible_iff, Text.isBlank]
    · obtain ⟨variant, inside, ofVariant⟩ := List.mem_flatMap.mp member
      obtain rfl | later := List.mem_cons.mp ofVariant
      · trivial
      · exact stepsLegible_iff.mp (stepsLegible_variantSteps readable inside) step later

theorem stepsLegible_importSteps {imports : List String}
    (unbroken : ∀ name ∈ imports, Unbroken name) : StepsLegible (importSteps imports) := by
  cases imports with
  | nil => trivial
  | cons first rest =>
    refine stepsLegible_append.mpr ⟨stepsLegible_iff.mpr fun step member => ?_, trivial, trivial⟩
    obtain ⟨name, inside, rfl⟩ := List.mem_map.mp member
    have whole := unbroken name inside
    refine ⟨⟨?_, by simp [Text.isBlank]⟩, by simp [List.getLast?_cons, List.getLast?_append]⟩
    simp_all [Unbroken]

theorem stepsLegible_unitSteps {package : Option String} {imports : List String}
    (ofPackage : ∀ name ∈ package, Unbroken name) (ofImports : ∀ name ∈ imports, Unbroken name)
    {base : BaseType} (readable : base.Readable) :
    StepsLegible (unitSteps package imports base) := by
  have ofBase := unbroken_of_isIdentifier readable.name
  refine stepsLegible_append.mpr ⟨stepsLegible_append.mpr ⟨stepsLegible_append.mpr ⟨?_, ?_⟩, ?_⟩,
    stepLegible_classStep readable, trivial⟩
  · simp_all [StepsLegible, StepLegible, legible_iff, Unbroken, Text.isBlank, List.getLast?_cons,
      List.getLast?_append]
  · cases package with
    | none => trivial
    | some name =>
      have unbroken := ofPackage name rfl
      simp_all [packageSteps, StepsLegible, StepLegible, legible_iff, Unbroken, Text.isBlank,
        List.getLast?_cons, List.getLast?_append]
  · have allImports : ∀ name ∈ importsFor imports base, Unbroken name := by
      intro name member
      obtain given | automatic := List.mem_append.mp (Document.mem_distinct.mp member)
      · exact ofImports name given
      · split at automatic
        · obtain rfl := List.mem_singleton.mp automatic
          simp [Unbroken, listImport]
        · cases automatic
    exact stepsLegible_importSteps allImports

end Target.Java

namespace Target.Rust

open Outline

theorem unbroken_snakeCase {name : String} (unbroken : Unbroken name) :
    Unbroken (Name.snakeCase name) := by
  intro member
  rw [Name.snakeCase, String.toList_ofList] at member
  -- A break can neither be put in between words nor come from lowering a capital.
  obtain mark | ⟨origin, present, same | lowered⟩ := Name.mem_snakeChars member
  · cases mark
  · exact unbroken (same ▸ present)
  · cases upper : origin.isUpper with
    | true =>
      have small := Name.isLower_toLower upper
      rw [← lowered] at small
      cases small
    | false =>
      rw [Name.toLower_of_not_isUpper upper] at lowered
      exact unbroken (lowered ▸ present)

theorem unbroken_ident {name : String} (unbroken : Unbroken name) : Unbroken (ident name) := by
  have snake := unbroken_snakeCase unbroken
  unfold ident
  dsimp only
  split
  · simpa [Unbroken] using snake
  · split
    · simpa [Unbroken, rawMark] using snake
    · exact snake

theorem unbroken_itemPath {own base item : String} (ofBase : Unbroken base)
    (ofItem : Unbroken item) : Unbroken (itemPath own base item) := by
  have inModule := unbroken_ident ofBase
  unfold itemPath
  split
  · exact ofItem
  · simp_all [Unbroken, moduleName]

theorem unbroken_typeTextWithin {own : String} {boxed : Bool} {type : TypeRef}
    (unbroken : type.Unbroken) : Unbroken (typeTextWithin own boxed type) := by
  have node : ∀ {boxed : Bool} {path : String}, Unbroken path →
      Unbroken (typeTextWithin.node boxed path) := by
    intro boxed path whole
    cases boxed with
    | true => simpa [typeTextWithin.node, Unbroken] using whole
    | false => simpa [typeTextWithin.node] using whole
  induction type generalizing boxed with
  | scalar name => exact unbroken
  | base name => exact node (unbroken_itemPath unbroken unbroken)
  | variant owner name => exact node (unbroken_itemPath unbroken.1 unbroken.2)
  | list item ih => simpa [Unbroken, typeTextWithin] using ih unbroken
  | optional inner ih => simpa [Unbroken, typeTextWithin] using ih unbroken

theorem unbroken_parameterText (base : BaseType) {field : Field} (readable : field.Readable) :
    Unbroken (parameterText base field) := by
  have type : Unbroken (typeText base.name field.type) := unbroken_typeTextWithin readable.type
  have name := unbroken_ident (unbroken_of_isIdentifier readable.name)
  simp_all [Unbroken, parameterText]

theorem unbroken_methodName {base variant : String} (ofBase : Unbroken base)
    (ofVariant : Unbroken variant) : Unbroken (methodName base variant) := by
  refine unbroken_snakeCase ?_
  simp_all [Unbroken, Name.dispatchMethod]

theorem stepsLegible_dispatchSteps {base : BaseType} (readable : base.Readable) :
    StepsLegible (dispatchSteps base) := by
  refine stepsLegible_iff.mpr fun step member => ?_
  obtain rfl := List.mem_singleton.mp member
  refine ⟨⟨by simp, by simp [Text.isBlank]⟩, by simp, rfl,
    stepsLegible_iff.mpr fun step member => ?_⟩
  obtain ⟨variant, inside, rfl⟩ := List.mem_map.mp member
  have ofBase := unbroken_of_isIdentifier readable.name
  have ofVariant := unbroken_of_isIdentifier (readable.variants variant inside).name
  have method := unbroken_methodName ofBase ofVariant
  have parameter := unbroken_ident ofBase
  refine ⟨⟨?_, by simp [Text.isBlank]⟩, by simp [List.getLast?_cons, List.getLast?_append]⟩
  simp_all [Unbroken]

theorem stepsLegible_structSteps (base : BaseType) {variant : Variant}
    (readable : variant.Readable) : StepsLegible (structSteps base variant) := by
  have ofVariant := unbroken_of_isIdentifier readable.name
  refine stepsLegible_iff.mpr fun step member => ?_
  obtain rfl := List.mem_singleton.mp member
  refine ⟨⟨?_, by simp [Text.isBlank]⟩, by simp [List.getLast?_cons, List.getLast?_append], rfl,
    stepsLegible_iff.mpr fun step member => ?_⟩
  · simp_all [Unbroken]
  · obtain ⟨field, inside, rfl⟩ := List.mem_map.mp member
    have parameter := unbroken_parameterText base (readable.fields field inside)
    refine ⟨⟨?_, by simp [Text.isBlank]⟩, by simp [List.getLast?_cons, List.getLast?_append]⟩
    simp_all [Unbroken]

theorem stepLegible_initializer {names : List String} (unbroken : ∀ name ∈ names, Unbroken name) :
    StepLegible (.line (initializer names)) := by
  cases names with
  | nil => simp [initializer, StepLegible, legible_iff, Text.isBlank]
  | cons first rest =>
    have whole := @unbroken_intercalate ", " (by simp [Unbroken]) _ unbroken
    refine ⟨⟨?_, by simp [initializer, Text.isBlank]⟩,
      by simp [initializer, List.getLast?_cons, List.getLast?_append]⟩
    simpa [initializer, Unbroken] using whole

theorem stepsLegible_constructorSteps (base : BaseType) {variant : Variant}
    (readable : variant.Readable) : StepsLegible (constructorSteps base variant) := by
  refine stepsLegible_iff.mpr fun step member => ?_
  obtain rfl := List.mem_singleton.mp member
  refine ⟨⟨?_, by simp [Text.isBlank]⟩, by simp [List.getLast?_cons, List.getLast?_append], rfl,
    ?_, trivial⟩
  · have parameters :
        Unbroken (String.intercalate ", " (variant.fields.map (parameterText base))) := by
      refine unbroken_intercalate (by simp [Unbroken]) fun text member => ?_
      obtain ⟨field, inside, rfl⟩ := List.mem_map.mp member
      exact unbroken_parameterText base (readable.fields field inside)
    simp_all [Unbroken]
  · refine stepLegible_initializer fun name member => ?_
    obtain ⟨field, inside, rfl⟩ := List.mem_map.mp member
    exact unbroken_ident (unbroken_of_isIdentifier (readable.fields field inside).name)

theorem acceptHeader_eq (visitor : String) :
    acceptHeader visitor =
      "pub fn accept" ++ acceptGenerics ++ "(&self, " ++ visitor ++ ": &mut V) -> R \x7b" :=
  rfl

theorem stepsLegible_acceptSteps {base : BaseType} (readable : base.Readable) {variant : Variant}
    (inside : variant ∈ base.variants) : StepsLegible (acceptSteps base variant) := by
  have method := unbroken_methodName (unbroken_of_isIdentifier readable.name)
    (unbroken_of_isIdentifier (readable.variants variant inside).name)
  simp_all [acceptSteps, acceptHeader_eq, acceptGenerics, StepsLegible, StepLegible, legible_iff,
    Unbroken, Text.isBlank, List.getLast?_cons, List.getLast?_append]

theorem stepsLegible_variantSteps {base : BaseType} (readable : base.Readable) {variant : Variant}
    (inside : variant ∈ base.variants) : StepsLegible (variantSteps base variant) := by
  have ofVariant := unbroken_of_isIdentifier (readable.variants variant inside).name
  have members := stepsLegible_structSteps base (readable.variants variant inside)
  have initializer := stepsLegible_constructorSteps base (readable.variants variant inside)
  have accept := stepsLegible_acceptSteps readable inside
  refine stepsLegible_append.mpr ⟨stepsLegible_append.mpr ⟨members, trivial, trivial⟩, ?_, trivial⟩
  refine ⟨⟨?_, by simp [Text.isBlank]⟩, by simp [List.getLast?_cons, List.getLast?_append], rfl, ?_⟩
  · simp_all [Unbroken]
  · simp_all [stepsLegible_append, StepsLegible, StepLegible]

theorem stepsLegible_enumSteps {base : BaseType} (readable : base.Readable) :
    StepsLegible (enumSteps base) := by
  have ofBase := unbroken_of_isIdentifier readable.name
  refine stepsLegible_iff.mpr fun step member => ?_
  obtain rfl := List.mem_singleton.mp member
  refine ⟨⟨?_, by simp [Text.isBlank]⟩, by simp [List.getLast?_cons, List.getLast?_append], rfl,
    stepsLegible_iff.mpr fun step member => ?_⟩
  · simp_all [Unbroken]
  · obtain ⟨variant, inside, rfl⟩ := List.mem_map.mp member
    have name := (readable.variants variant inside).name
    have unbroken := unbroken_of_isIdentifier name
    refine ⟨?_, by simp [List.getLast?_cons, List.getLast?_append]⟩
    simp only [String.append_assoc]
    refine legible_of_isIdentifier name ?_
    simp_all [Unbroken]

theorem stepsLegible_enumAcceptSteps {base : BaseType} (readable : base.Readable) :
    StepsLegible (enumAcceptSteps base) := by
  unfold enumAcceptSteps
  split
  · simp [acceptHeader_eq, acceptGenerics, StepsLegible, StepLegible, legible_iff, Text.isBlank]
  · have arms : StepsLegible (base.variants.map matchArm) := by
      refine stepsLegible_iff.mpr fun step member => ?_
      obtain ⟨variant, inside, rfl⟩ := List.mem_map.mp member
      have unbroken := unbroken_of_isIdentifier (readable.variants variant inside).name
      refine ⟨⟨?_, by simp [Text.isBlank]⟩, by simp [List.getLast?_cons, List.getLast?_append]⟩
      simp_all [Unbroken]
    simp_all [acceptHeader_eq, acceptGenerics, StepsLegible, StepLegible, legible_iff, Text.isBlank]

theorem stepsLegible_importSteps {imports : List String}
    (unbroken : ∀ name ∈ imports, Unbroken name) : StepsLegible (importSteps imports) := by
  cases imports with
  | nil => trivial
  | cons first rest =>
    refine stepsLegible_append.mpr ⟨stepsLegible_iff.mpr fun step member => ?_, trivial, trivial⟩
    obtain ⟨name, inside, rfl⟩ := List.mem_map.mp member
    have whole := unbroken name inside
    refine ⟨⟨?_, by simp [Text.isBlank]⟩, by simp [List.getLast?_cons, List.getLast?_append]⟩
    simp_all [Unbroken]

/-- The items of a module, which are all of a unit but its head. -/
def itemSteps (base : BaseType) : List Step :=
  enumSteps base ++ [.blank] ++
    [.block ("impl " ++ base.name ++ " \x7b") "\x7d" (enumAcceptSteps base), .blank] ++
    dispatchSteps base ++
    base.variants.flatMap fun variant => .blank :: variantSteps base variant

theorem stepsLegible_itemSteps {base : BaseType} (readable : base.Readable) :
    StepsLegible (itemSteps base) := by
  have ofBase := unbroken_of_isIdentifier readable.name
  have accept := stepsLegible_enumAcceptSteps readable
  refine stepsLegible_append.mpr ⟨stepsLegible_append.mpr ⟨stepsLegible_append.mpr
    ⟨stepsLegible_append.mpr ⟨stepsLegible_enumSteps readable, trivial, trivial⟩, ?_, trivial,
      trivial⟩, stepsLegible_dispatchSteps readable⟩, stepsLegible_iff.mpr fun step member => ?_⟩
  · refine ⟨⟨?_, by simp [Text.isBlank]⟩, by simp [List.getLast?_cons, List.getLast?_append], rfl,
      accept⟩
    simp_all [Unbroken]
  · obtain ⟨variant, inside, ofVariant⟩ := List.mem_flatMap.mp member
    obtain rfl | later := List.mem_cons.mp ofVariant
    · trivial
    · exact stepsLegible_iff.mp (stepsLegible_variantSteps readable inside) step later

theorem unitSteps_eq (imports : List String) (base : BaseType) :
    unitSteps imports base =
      [.line ("// @generated by ast-gen from the `" ++ base.name ++ "` schema. Do not edit."),
        .line "#![allow(clippy::new_without_default, clippy::too_many_arguments)]", .blank] ++
      importSteps imports ++ itemSteps base := by
  simp [unitSteps, itemSteps]

theorem stepsLegible_unitSteps {imports : List String}
    (ofImports : ∀ name ∈ imports, Unbroken name) {base : BaseType} (readable : base.Readable) :
    StepsLegible (unitSteps imports base) := by
  have ofBase := unbroken_of_isIdentifier readable.name
  rw [unitSteps_eq]
  refine stepsLegible_append.mpr ⟨stepsLegible_append.mpr ⟨?_, stepsLegible_importSteps ofImports⟩,
    stepsLegible_itemSteps readable⟩
  simp_all [StepsLegible, StepLegible, legible_iff, Unbroken, Text.isBlank, List.getLast?_cons,
    List.getLast?_append]

end Target.Rust

namespace Target

/-- Nothing that a target copies into every unit breaks a line. -/
def Unbroken : Target → Prop
  | .java package imports =>
    (∀ name ∈ package, NodeGen.Unbroken name) ∧ ∀ name ∈ imports, NodeGen.Unbroken name
  | .rust imports => ∀ name ∈ imports, NodeGen.Unbroken name

theorem margin_tab : Outline.Margin "\t" :=
  ⟨by simp [Text.isBlank], by simp⟩

theorem margin_spaces : Outline.Margin "    " :=
  ⟨by simp [Text.isBlank], by simp⟩

end Target

end NodeGen
