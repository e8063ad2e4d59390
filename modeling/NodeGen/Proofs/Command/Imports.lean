import NodeGen.Proofs.Document.Grouping
import NodeGen.Proofs.Target.Scopes

/-! The imports of a unit. They come from the document, from the settings of the run, and in Java
from fields that hold lists. A document that was loaded has each of its imports once. Java output
writes each name once; Rust output writes the names as they are given, so that a name given twice,
or given although the document has it, is imported twice. -/

set_option autoImplicit false

namespace NodeGen

/-- A list stands somewhere in the type. -/
inductive TypeRef.HoldsList : TypeRef → Prop
  | list (item : TypeRef) : HoldsList (.list item)
  | item {item : TypeRef} : HoldsList item → HoldsList (.list item)
  | optional {inner : TypeRef} : HoldsList inner → HoldsList (.optional inner)

/-- The outermost list is found, and there is one wherever there is any. -/
theorem TypeRef.usesList_iff {type : TypeRef} : type.usesList = true ↔ type.HoldsList := by
  induction type with
  | scalar name => exact ⟨nofun, nofun⟩
  | base name => exact ⟨nofun, nofun⟩
  | variant base name => exact ⟨nofun, nofun⟩
  | list item ih => exact ⟨fun _ => .list item, fun _ => rfl⟩
  | optional inner ih =>
    rw [TypeRef.usesList, ih]
    exact ⟨.optional, fun | .optional inside => inside⟩

/-- Some field of the base type has a type that holds a list. -/
def BaseType.HoldsList (base : BaseType) : Prop :=
  ∃ variant ∈ base.variants, ∃ field ∈ variant.fields, field.type.HoldsList

theorem BaseType.usesList_iff {base : BaseType} :
    Target.Java.usesList base = true ↔ base.HoldsList := by
  simp [Target.Java.usesList, BaseType.HoldsList, TypeRef.usesList_iff]

instance (base : BaseType) : Decidable base.HoldsList :=
  decidable_of_iff _ BaseType.usesList_iff

namespace Target

open Outline

/-- A name and a parenthesis do not begin with a word and a blank. -/
theorem not_startsWith_of_parenthesis {word name opening : String} (divided : opening = word ++ " ")
    (letters : Name.isIdentifier word = true) (identifier : Name.isIdentifier name = true)
    (rest : String) : (name ++ "(" ++ rest).startsWith opening = false := by
  have differ : ¬word.toList ++ ' ' :: [] <+: name.toList ++ '(' :: rest.toList :=
    Name.not_prefix_of_marks (fun _ => Name.isWordChar_of_mem letters)
      (fun _ => Name.isWordChar_of_mem identifier) (by decide) (by decide) (by decide)
  simpa [divided] using differ

/-- How a line begins that imports something. -/
def importOpening : Target → String
  | .java _ _ => "import "
  | .rust _ => "use "

def importText (target : Target) (name : String) : String :=
  target.importOpening ++ name ++ ";"

/-- The lines of a unit that import something, wherever they stand. -/
def importLines (target : Target) (base : BaseType) : List Entry :=
  starting target.importOpening (ofSteps [] (target.steps base))

theorem importText_injective (target : Target) : Function.Injective target.importText := by
  intro first second same
  simpa [importText] using same

namespace Java

theorem starting_importSteps (names : List String) :
    starting "import " (ofSteps [] (importSteps names)) =
      names.map fun name => ⟨[], "import " ++ name ++ ";"⟩ := by
  cases names with
  | nil => rfl
  | cons first rest =>
    rw [importSteps, ofSteps_append, ofSteps_map_line, starting_append, starting,
      marked_map_eq_self (by simp)]
    · simp [starting]
    · simp

theorem starting_headSteps (package : Option String) (imports : List String) (base : BaseType) :
    starting "import " (ofSteps [] (headSteps package imports base)) =
      (importsFor imports base).map fun name => ⟨[], "import " ++ name ++ ";"⟩ := by
  have ofPackage : starting "import " (ofSteps [] (packageSteps package)) = [] := by
    cases package <;> simp [packageSteps, starting]
  rw [headSteps, ofSteps_append, ofSteps_append, starting_append, starting_append, ofPackage,
    starting_importSteps]
  simp [starting]

theorem marked_import_variantSteps (base : BaseType) {variant : Variant}
    (identifier : Name.isIdentifier variant.name = true) (scope : List String) :
    marked ["import "] (ofSteps scope (variantSteps base variant)) = [] := by
  have header := not_startsWith_of_parenthesis (show "import " = "import" ++ " " by decide)
    (by decide) identifier
    (String.intercalate ", " (variant.fields.map parameterText) ++ ") \x7b")
  rw [← String.append_assoc] at header
  have members (inner : List String) :
      marked ["import "] (ofSteps inner (memberSteps variant)) = [] := by
    rw [memberSteps, ofSteps_append, ofSteps_map_line, marked_append, marked_map_eq_nil (by simp)]
    split <;> simp
  have constructor (inner : List String) :
      marked ["import "] (ofSteps inner (constructorSteps variant)) = [] := by
    simp only [constructorSteps, ofSteps, ofStep, ofSteps_map_line, marked_cons, marked_append,
      isMarked_singleton]
    rw [header, marked_map_eq_nil (by simp)]
    simp
  simp [variantSteps, acceptSteps, members, constructor]

theorem starting_classStep {base : BaseType}
    (identifiers : ∀ variant ∈ base.variants, Name.isIdentifier variant.name = true) :
    starting "import " (ofStep [] (classStep base)) = [] := by
  have nodes (scope : List String) :
      marked ["import "] (ofSteps scope (nodeSteps base)) = [] := by
    have each : ∀ variant ∈ base.variants, marked ["import "]
        (ofSteps scope (.blank :: variantSteps base variant)) = [] := by
      intro variant inside
      simp [marked_import_variantSteps base (identifiers variant inside)]
    rw [nodeSteps, ofSteps_flatMap, marked_flatMap each]
    simp
  rw [ofStep_classStep, starting]
  simp only [marked_append, nodes]
  rw [marked_map_eq_nil (by simp)]
  simp [classHeader_eq, visitorHeader]

theorem importLines_eq (package : Option String) (imports : List String) {base : BaseType}
    (identifiers : ∀ variant ∈ base.variants, Name.isIdentifier variant.name = true) :
    (Target.java package imports).importLines base =
      (importsFor imports base).map fun name => ⟨[], "import " ++ name ++ ";"⟩ := by
  have parts : ofSteps [] (unitSteps package imports base) =
      ofSteps [] (headSteps package imports base) ++ ofStep [] (classStep base) := by
    rw [unitSteps_eq, ofSteps_append]
    simp
  rw [importLines, importOpening, steps, parts, starting_append, starting_headSteps,
    starting_classStep identifiers, List.append_nil]

end Java

namespace Rust

theorem starting_headSteps (imports : List String) (base : BaseType) :
    starting "use " (ofSteps [] (headSteps imports base)) =
      imports.map fun name => ⟨[], "use " ++ name ++ ";"⟩ := by
  have ofImports : starting "use " (ofSteps [] (importSteps imports)) =
      imports.map fun name => ⟨[], "use " ++ name ++ ";"⟩ := by
    cases imports with
    | nil => rfl
    | cons first rest =>
      rw [importSteps, ofSteps_append, ofSteps_map_line, starting_append, starting,
        marked_map_eq_self (by simp)]
      · simp [starting]
      · simp
  rw [headSteps, ofSteps_append, starting_append, ofImports]
  simp [starting]

theorem marked_use_enumSteps {base : BaseType}
    (identifiers : ∀ variant ∈ base.variants, Name.isIdentifier variant.name = true) :
    marked ["use "] (ofSteps [] (enumSteps base)) = [] := by
  have shapes (scope : List String) : marked ["use "] (base.variants.map fun variant =>
      ⟨scope, variant.name ++ "(" ++ variant.name ++ "),"⟩) = [] := by
    refine marked_map_eq_nil fun variant inside => ?_
    have other := not_startsWith_of_parenthesis (show "use " = "use" ++ " " by decide) (by decide)
      (identifiers variant inside) (variant.name ++ "),")
    rwa [← String.append_assoc, ← isMarked_singleton] at other
  simp [enumSteps, shapes]

theorem marked_use_variantSteps (base : BaseType) (variant : Variant) :
    marked ["use "] (ofSteps [] (variantSteps base variant)) = [] := by
  have initial : (initializer (variant.fields.map fun field => ident field.name)).startsWith
      "use " = false := by
    cases variant.fields <;> simp [initializer]
  simp [variantSteps, structSteps, constructorSteps, acceptSteps, acceptHeader_eq, initial,
    marked_map_eq_nil]

theorem starting_itemSteps {base : BaseType}
    (identifiers : ∀ variant ∈ base.variants, Name.isIdentifier variant.name = true) :
    starting "use " (ofSteps [] (itemSteps base)) = [] := by
  have nodes : marked ["use "] (base.variants.flatMap fun variant =>
      ofSteps [] (.blank :: variantSteps base variant)) = [] := by
    have each : ∀ variant ∈ base.variants, marked ["use "]
        (ofSteps [] (.blank :: variantSteps base variant)) = [] := by
      simp [marked_use_variantSteps]
    rw [marked_flatMap each]
    simp
  have arms (scope : List String) :
      marked ["use "] (ofSteps scope (enumAcceptSteps base)) = [] := by
    unfold enumAcceptSteps
    split <;> simp [acceptHeader_eq, ofSteps_arms, armText_eq, marked_map_eq_nil]
  have methods : marked ["use "] (ofSteps [] (dispatchSteps base)) = [] := by
    simp [dispatchSteps, ofSteps_methods, marked_map_eq_nil]
  rw [starting, itemSteps, ofSteps_append, ofSteps_append, ofSteps_append, ofSteps_append,
    ofSteps_flatMap, marked_append, marked_append, marked_append, marked_append, nodes, methods,
    marked_use_enumSteps identifiers]
  simp [arms]

theorem importLines_eq (imports : List String) {base : BaseType}
    (identifiers : ∀ variant ∈ base.variants, Name.isIdentifier variant.name = true) :
    (Target.rust imports).importLines base =
      imports.map fun name => ⟨[], "use " ++ name ++ ";"⟩ := by
  rw [importLines, importOpening, steps, unitSteps_eq, ← headSteps, ofSteps_append,
    starting_append, starting_headSteps, starting_itemSteps identifiers, List.append_nil]

end Rust

end Target

theorem InputSettings.nodup_imports {settings : InputSettings} {evaluator : Query.Evaluator}
    {tree : FileTree} {document : Document} (loaded : settings.load evaluator tree = .ok document) :
    document.imports.Nodup := by
  unfold load at loaded
  split at loaded
  · obtain rfl := Except.ok.inj loaded
    decide
  · obtain ⟨paths, -, merged⟩ := Checks.bind_eq_ok_iff.mp loaded
    obtain ⟨documents, -, rfl⟩ := Document.loadAll_eq_ok_iff.mp merged
    rw [Document.mergeAll_eq]
    exact Document.nodup_distinct _

theorem InputSettings.loadSchema_eq_ok_iff {settings : InputSettings} {evaluator : Query.Evaluator}
    {tree : FileTree} {document : Document} {schema : Schema} :
    settings.loadSchema evaluator tree = .ok (document, schema) ↔
      settings.load evaluator tree = .ok document ∧ Source.resolve document.types = .ok schema := by
  simp only [loadSchema, Checks.bind_eq_ok_iff, Checks.mapError_eq_ok_iff]
  constructor
  · rintro ⟨_, loaded, _, resolved, same⟩
    obtain ⟨rfl, rfl⟩ := Prod.mk.inj (Except.ok.inj same)
    exact ⟨loaded, resolved⟩
  · rintro ⟨loaded, resolved⟩
    exact ⟨document, loaded, schema, resolved, rfl⟩

namespace GenerateSettings

section Units

variable {settings : GenerateSettings} {evaluator : Query.Evaluator} {tree : FileTree}
  {document : Document} {schema : Schema} {units : List CodeUnit}

theorem generate_of_units
    (loaded : settings.input.loadSchema evaluator tree = .ok (document, schema))
    (generated : settings.units evaluator tree = .ok units) :
    generate schema (settings.target document) = .ok units := by
  rw [GenerateSettings.units, loaded] at generated
  exact Checks.mapError_eq_ok_iff.mp generated

/-- The names that the unit of a base type imports, in order. -/
def importedNames (settings : GenerateSettings) (document : Document) (base : BaseType) :
    List String :=
  let given := document.imports ++ settings.imports
  match settings.language with
  | .java => (given ++ if base.HoldsList then ["java.util.List"] else []).eraseDups
  | .rust => given

theorem importLines_target (settings : GenerateSettings) (document : Document) {base : BaseType}
    (identifiers : ∀ variant ∈ base.variants, Name.isIdentifier variant.name = true) :
    (settings.target document).importLines base =
      (settings.importedNames document base).map fun name =>
        ⟨[], (settings.target document).importText name⟩ := by
  unfold target importedNames
  cases settings.language with
  | java =>
    rw [Target.Java.importLines_eq _ _ identifiers, Target.Java.importsFor,
      Document.distinct_eq_eraseDups]
    simp only [BaseType.usesList_iff]
    rfl
  | rust => exact Target.Rust.importLines_eq _ identifiers

theorem nodup_importedNames_iff (settings : GenerateSettings) (apart : document.imports.Nodup)
    (base : BaseType) :
    (settings.importedNames document base).Nodup ↔
      (settings.language = .rust →
        settings.imports.Nodup ∧ ∀ name ∈ settings.imports, name ∉ document.imports) := by
  unfold importedNames
  cases settings.language with
  | java => simp [← Document.distinct_eq_eraseDups, Document.nodup_distinct]
  | rust =>
    simp only [List.nodup_append, apart, true_and, true_implies]
    refine and_congr_right fun _ => ⟨fun differ name given present => ?_, ?_⟩
    · exact differ name present name given rfl
    · rintro fresh name present _ given rfl
      exact fresh name given present

/-- A unit imports, outside of every block and in order, the names of the document, those of the
settings and, in Java, the one for lists where a field holds one at any depth. Each of them is
imported once, except in Rust where the settings repeat a name or give one of the document's. -/
theorem units_imports (loaded : settings.input.loadSchema evaluator tree = .ok (document, schema))
    (generated : settings.units evaluator tree = .ok units) :
    document.imports.Nodup ∧
    List.Forall₂ (fun base unit =>
        unit.source = Layout.render (settings.target document).margin
          ((settings.target document).steps base) ∧
        (schema.ScalarsUnbroken → (settings.target document).Unbroken →
          Outline.read unit.source = Outline.ofSteps [] ((settings.target document).steps base)) ∧
        (settings.target document).importLines base =
          (settings.importedNames document base).map (fun name =>
            ⟨[], (settings.target document).importText name⟩) ∧
        (((settings.target document).importLines base).Nodup ↔
          (settings.language = .rust →
            settings.imports.Nodup ∧ ∀ name ∈ settings.imports, name ∉ document.imports)))
      schema.baseTypes units := by
  obtain ⟨valid, -, rfl⟩ := generate_eq_ok_iff.mp (generate_of_units loaded generated)
  have apart := InputSettings.nodup_imports (InputSettings.loadSchema_eq_ok_iff.mp loaded).1
  refine ⟨apart, ?_⟩
  rw [List.forall₂_map_right_iff, List.forall₂_same]
  intro base member
  have lines := importLines_target settings document fun variant inside =>
    ((valid.bases base member).variants variant inside).identifier
  have injective : Function.Injective fun name =>
      Outline.Entry.mk [] ((settings.target document).importText name) := by
    intro first second same
    exact Target.importText_injective _ (Outline.Entry.mk.inj same).2
  refine ⟨Target.unitText_eq _ base, ?_, lines, ?_⟩
  · intro scalars copied
    exact Target.read_unitText copied (valid.readable scalars member)
  · rw [lines, List.nodup_map_iff injective, nodup_importedNames_iff settings apart]

end Units

/-- A document with an import of its own and a list under an optional layer. -/
def overlapTree : FileTree :=
  ⟨[(⟨.above 0, ["b.json"]⟩, .file ("\x7b\"imports\":[\"a::B\"]," ++
    "\"types\":\x7b\"E\":\x7b\"A\":\x7b\"all\":\"List<int>?\"\x7d\x7d\x7d\x7d").toUTF8)]⟩

def overlapInput : InputSettings :=
  ⟨none, none, none, ["b.json"]⟩

def overlapSettings (language : Language) : GenerateSettings :=
  ⟨overlapInput, language, none, none, ["c::D", "a::B"], false⟩

def overlapDocument : Document :=
  ⟨none, ["a::B"], [⟨"E", [⟨"A", [⟨"all", "List<int>?"⟩]⟩]⟩]⟩

def overlapBase : BaseType :=
  ⟨"E", [⟨"A", [⟨"all", .optional (.list (.scalar "int"))⟩]⟩]⟩

theorem loadSchema_overlapTree :
    overlapInput.loadSchema Query.common overlapTree = .ok (overlapDocument, ⟨[overlapBase]⟩) := by
  decide +kernel

theorem units_overlapTree (language : Language) :
    (overlapSettings language).units Query.common overlapTree =
      .ok [((overlapSettings language).target overlapDocument).unit overlapBase] := by
  have generated : generate ⟨[overlapBase]⟩ ((overlapSettings language).target overlapDocument) =
      .ok [((overlapSettings language).target overlapDocument).unit overlapBase] := by
    cases language <;> decide +kernel
  rw [GenerateSettings.units, show (overlapSettings language).input = overlapInput from rfl,
    loadSchema_overlapTree]
  exact Checks.mapError_eq_ok_iff.mpr generated

theorem unbroken_overlapTree (language : Language) :
    Schema.ScalarsUnbroken ⟨[overlapBase]⟩ ∧
      ((overlapSettings language).target overlapDocument).Unbroken := by
  constructor
  · simp [overlapBase, Schema.ScalarsUnbroken, TypeRef.ScalarsUnbroken, Unbroken]
  · cases language <;>
      simp [overlapSettings, overlapDocument, target, Target.Unbroken, Unbroken]

theorem units_imports_overlapTree :
    ∃ unit, (overlapSettings .java).units Query.common overlapTree = .ok [unit] ∧
      Outline.starting "import " (Outline.read unit.source) =
        [⟨[], "import a::B;"⟩, ⟨[], "import c::D;"⟩, ⟨[], "import java.util.List;"⟩] := by
  have generated := units_overlapTree .java
  obtain ⟨-, related⟩ := units_imports loadSchema_overlapTree generated
  obtain ⟨⟨-, reads, lines, -⟩, -⟩ := List.forall₂_cons.mp related
  obtain ⟨scalars, copied⟩ := unbroken_overlapTree .java
  refine ⟨_, generated, ?_⟩
  rw [reads scalars copied]
  exact lines.trans (by decide +kernel)

/-- The name that the document and the settings have in common is imported twice. -/
theorem repeats_import_overlapTree :
    ∃ unit, (overlapSettings .rust).units Query.common overlapTree = .ok [unit] ∧
      Outline.starting "use " (Outline.read unit.source) =
        [⟨[], "use a::B;"⟩, ⟨[], "use c::D;"⟩, ⟨[], "use a::B;"⟩] ∧
      ¬(Outline.starting "use " (Outline.read unit.source)).Nodup := by
  have generated := units_overlapTree .rust
  obtain ⟨valid, -⟩ := generate_eq_ok_iff.mp (generate_of_units loadSchema_overlapTree generated)
  obtain ⟨scalars, copied⟩ := unbroken_overlapTree .rust
  have readable := valid.readable scalars List.mem_cons_self
  have lines : Outline.starting "use " (Outline.read
      (((overlapSettings .rust).target overlapDocument).unit overlapBase).source) =
      [⟨[], "use a::B;"⟩, ⟨[], "use c::D;"⟩, ⟨[], "use a::B;"⟩] := by
    rw [Target.unit, Target.read_unitText copied readable]
    exact Target.Rust.importLines_eq _ fun variant inside => (readable.variants variant inside).name
  refine ⟨_, generated, lines, ?_⟩
  rw [lines]
  decide

end GenerateSettings

end NodeGen
