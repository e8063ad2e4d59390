import NodeGen.Proofs.Target.Declarations

/-! The units of one schema link with each other. Where a field mentions a base type or a variant,
the text of its type holds a path, and the path leads to a declaration in one unit of the output and
in no other: modules stay apart although their names change spelling twice on the way to a file, and
no class of a variant hides the class of a base type. -/

set_option autoImplicit false

namespace NodeGen

/-- The type mentions a base type, or one of its variants, at some depth. -/
inductive TypeRef.Mentions : TypeRef → String → Option String → Prop
  | base (name : String) : Mentions (.base name) name none
  | variant (owner name : String) : Mentions (.variant owner name) owner (some name)
  | list {item : TypeRef} {owner : String} {node : Option String} :
    Mentions item owner node → Mentions (.list item) owner node
  | optional {inner : TypeRef} {owner : String} {node : Option String} :
    Mentions inner owner node → Mentions (.optional inner) owner node

theorem TypeRef.Mentions.exists_declared {schema : Schema} {type : TypeRef} {owner : String}
    {node : Option String} (mentions : type.Mentions owner node)
    (declared : type.Declared schema) :
    ∃ base ∈ schema.baseTypes, base.name = owner ∧
      ∀ name ∈ node, ∃ variant ∈ base.variants, variant.name = name := by
  induction mentions with
  | base name =>
    obtain ⟨base, member, same⟩ := declared
    exact ⟨base, member, same, by simp⟩
  | variant owner name =>
    obtain ⟨base, member, same, inside⟩ := declared
    exact ⟨base, member, same, by simpa using inside⟩
  | list _ ih => exact ih declared
  | optional _ ih => exact ih declared

/-- A text is a path with type constructors of the language around it. -/
def Wraps (constructors : List String) (path text : String) : Prop :=
  ∃ outer : List String, (∀ wrapper ∈ outer, wrapper ∈ constructors) ∧
    text = outer.foldr (fun wrapper inner => wrapper ++ "<" ++ inner ++ ">") path

namespace Wraps

variable {constructors : List String} {path text : String}

theorem bare : Wraps constructors path path :=
  ⟨[], by simp, rfl⟩

theorem wrap (wrapper : String) (known : wrapper ∈ constructors)
    (inner : Wraps constructors path text) :
    Wraps constructors path (wrapper ++ "<" ++ text ++ ">") := by
  obtain ⟨outer, all, rfl⟩ := inner
  exact ⟨wrapper :: outer, List.forall_mem_cons.mpr ⟨known, all⟩, rfl⟩

end Wraps

/-- Where keys are distinct, a key picks out one item. -/
theorem filter_eq_singleton {Item : Type} {key : Item → String} {items : List Item}
    (distinct : (items.map key).Nodup) {item : Item} (member : item ∈ items) :
    items.filter (fun other => key other = key item) = [item] := by
  induction items with
  | nil => cases member
  | cons first rest ih =>
    obtain ⟨fresh, apart⟩ := List.nodup_cons.mp distinct
    obtain rfl | later := List.mem_cons.mp member
    -- Found at the front, the item is the only one, since its key does not come again.
    · have none : rest.filter (fun other => key other = key item) = [] := by
        rw [List.filter_eq_nil_iff]
        intro other inside same
        have found := List.mem_map_of_mem inside (f := key)
        rw [of_decide_eq_true same] at found
        exact fresh found
      rw [List.filter_cons_of_pos (by simp), none]
    · have differs : key first ≠ key item := by
        intro same
        rw [same] at fresh
        exact fresh (List.mem_map_of_mem later)
      rw [List.filter_cons_of_neg (by simpa using differs), ih apart later]

theorem Schema.Valid.filter_units {schema : Schema} (valid : schema.Valid) (target : Target)
    {base : BaseType} (member : base ∈ schema.baseTypes) :
    (schema.baseTypes.map target.unit).filter (·.baseName = base.name) = [target.unit base] := by
  have distinct : ((schema.baseTypes.map target.unit).map (·.baseName)).Nodup := by
    rw [List.map_map]
    exact valid.distinct
  exact filter_eq_singleton distinct (List.mem_map_of_mem member)

/-- The variant that is meant, if one is, belongs to the base type and has a proper name. -/
def BaseType.Holds (base : BaseType) (node : Option String) : Prop :=
  ∀ name ∈ node, ∃ variant ∈ base.variants,
    variant.name = name ∧ Name.isIdentifier variant.name = true

theorem TypeRef.Mentions.exists_referenced {schema : Schema} (valid : schema.Valid)
    {type : TypeRef} {owner : String} {node : Option String} (mentions : type.Mentions owner node)
    (declared : type.Declared schema) :
    ∃ base ∈ schema.baseTypes, base.name = owner ∧ base.Holds node := by
  obtain ⟨base, member, same, nodes⟩ := mentions.exists_declared declared
  refine ⟨base, member, same, ?_⟩
  intro name chosen
  obtain ⟨variant, inside, called⟩ := nodes name chosen
  exact ⟨variant, inside, called, ((valid.bases base member).variants variant inside).identifier⟩

namespace Target

open Outline

namespace Java

/-- A class as it is written outside of its own file. -/
def pathText (owner : String) : Option String → String
  | none => owner
  | some name => owner ++ "." ++ name

theorem wraps_typeText {type : TypeRef} {owner : String} {node : Option String}
    (mentions : type.Mentions owner node) :
    Wraps ["List"] (pathText owner node) (typeText type) := by
  induction mentions with
  | base name => exact .bare
  | variant owner name => exact .bare
  | list _ ih => simpa [typeText] using ih.wrap "List" (by simp)
  | optional _ ih => exact ih

/-- From its header to its closing brace the class of a base type takes up the end of the text, and
the class of the variant begins one level further in. -/
def Nests (owner : String) (node : Option String) (source : String) : Prop :=
  ∃ before body, Text.lines source = before ++ ("abstract class " ++ owner ++ " \x7b") :: body ++
      ["\x7d"] ∧
    ∀ name ∈ node, "\t" ++ ("static class " ++ name ++ " extends " ++ owner ++ " \x7b") ∈ body

theorem lines_unitSteps (package : Option String) (imports : List String) (base : BaseType) :
    Layout.lines 0 (unitSteps package imports base) =
      Layout.lines 0 (headSteps package imports base) ++
        ([⟨0, classHeader base⟩] ++ Layout.lines 1 (bodySteps base) ++ [⟨0, "\x7d"⟩]) := by
  rw [unitSteps_eq, Layout.lines_append]
  simp [Layout.lines, Layout.stepLines, classStep, classHeader_eq]

theorem nests_unitText (package : Option String) (imports : List String) {base : BaseType}
    (identifier : Name.isIdentifier base.name = true) {node : Option String}
    (holds : base.Holds node) :
    Nests base.name node (unitText package imports base) := by
  have ofBase := unbroken_of_isIdentifier identifier
  refine ⟨Text.lines (Layout.renderLines "\t" (Layout.lines 0 (headSteps package imports base))),
    Text.lines (Layout.renderLines "\t" (Layout.lines 1 (bodySteps base))), ?_, ?_⟩
  · have header : '\n' ∉ (classHeader base).toList := by
      simpa [classHeader_eq, NodeGen.Unbroken] using ofBase
    have opening := lines_renderLines_singleton margin_tab 0 (by simp [classHeader_eq]) header
    have closing := @lines_renderLines_singleton "\t" margin_tab 0 "\x7d" (by simp) (by simp)
    rw [unitText, Layout.render, lines_unitSteps, lines_renderLines_append,
      lines_renderLines_append, lines_renderLines_append, opening, closing]
    simp [classHeader_eq]
  · intro name chosen
    obtain ⟨variant, member, rfl, proper⟩ := holds name chosen
    have ofVariant := unbroken_of_isIdentifier proper
    have header : '\n' ∉ (nodeHeader base variant).toList := by
      simp_all [nodeHeader_eq, NodeGen.Unbroken]
    -- The class is one block of the body, whose first line carries the header.
    have line : ⟨1, nodeHeader base variant⟩ ∈ Layout.lines 1 (bodySteps base) := by
      refine Layout.mem_lines (List.mem_append_right _ (List.mem_flatMap.mpr
        ⟨variant, member, List.mem_cons_of_mem _ (List.mem_singleton.mpr rfl)⟩)) ?_
      simp [Layout.stepLines, nodeHeader_eq]
    have found := mem_lines_renderLines margin_tab line (by simp [nodeHeader_eq]) header
    simpa [nodeHeader_eq] using found

theorem nodup_fileNames {schema : Schema} (valid : schema.Valid) :
    (schema.baseTypes.map fileName).Nodup := by
  have extended : Function.Injective fun name : String => name ++ ".java" := by
    intro first second same
    simpa using same
  have distinct := valid.distinct.map extended
  rw [List.map_map] at distinct
  exact distinct

/-- How a field's mention of a base type or variant is resolved among the classes of all units. -/
structure Links (schema : Schema) (units : List CodeUnit) (type : TypeRef) (owner : String)
    (node : Option String) (unit : CodeUnit) : Prop where
  written : Wraps ["List"] (pathText owner node) (typeText type)
  only : units.filter (·.baseName = owner) = [unit]
  file : units.filter (·.fileName = owner ++ ".java") = [unit]
  declared : Nests owner node unit.source
  unshadowed : ∀ base ∈ schema.baseTypes, ∀ variant ∈ base.variants, variant.name ≠ owner

theorem links_unit {schema : Schema} (valid : schema.Valid) (package : Option String)
    (imports : List String) {base : BaseType} (member : base ∈ schema.baseTypes)
    {type : TypeRef} {node : Option String} (mentions : type.Mentions base.name node)
    (holds : base.Holds node) :
    Links schema (schema.baseTypes.map (Target.java package imports).unit) type base.name node
      ((Target.java package imports).unit base) where
  written := wraps_typeText mentions
  only := valid.filter_units _ member
  file := by
    have files : ((schema.baseTypes.map (Target.java package imports).unit).map
        (·.fileName)).Nodup := by
      rw [List.map_map]
      exact nodup_fileNames valid
    exact filter_eq_singleton files (List.mem_map_of_mem member)
  declared := nests_unitText package imports (valid.identifiers base member) holds
  unshadowed := by
    intro other present variant inside same
    have notBase := ((valid.bases other present).variants variant inside).notBase
    exact notBase (same ▸ List.mem_map_of_mem member)

end Java

namespace Rust

def itemText (owner : String) (node : Option String) : String :=
  node.getD owner

/-- A base type is declared by an enum, a variant by a struct. -/
def itemHeader (owner : String) : Option String → String
  | none => "pub enum " ++ owner ++ " \x7b"
  | some name => "pub struct " ++ name ++ " \x7b"

theorem wraps_typeTextWithin (own : String) {type : TypeRef} {owner : String}
    {node : Option String} (mentions : type.Mentions owner node) (boxed : Bool) :
    Wraps ["Vec", "Option", "Box"] (itemPath own owner (itemText owner node))
      (typeTextWithin own boxed type) := by
  have leaf (path : String) : ∀ boxed,
      Wraps ["Vec", "Option", "Box"] path (typeTextWithin.node boxed path)
    | true => by simpa [typeTextWithin.node] using Wraps.bare.wrap "Box" (by simp)
    | false => by simpa [typeTextWithin.node] using Wraps.bare
  induction mentions generalizing boxed with
  | base name => exact leaf _ boxed
  | variant owner name => exact leaf _ boxed
  -- A list holds its items on the heap already, so what stands inside is not boxed again.
  | list _ ih => simpa [typeTextWithin] using (ih false).wrap "Vec" (by simp)
  | optional _ ih => simpa [typeTextWithin] using (ih boxed).wrap "Option" (by simp)

/-- A block at the left margin shows its header on a line of its own. -/
theorem header_mem_lines {imports : List String} {base : BaseType} {header : String}
    {body : List Step} (block : .block header "\x7d" body ∈ unitSteps imports base)
    (visible : header ≠ "") (whole : '\n' ∉ header.toList) :
    header ∈ Text.lines (unitText imports base) := by
  have line : ⟨0, header⟩ ∈ Layout.lines 0 (unitSteps imports base) :=
    Layout.mem_lines block (by simp [Layout.stepLines])
  simpa [unitText, Layout.render] using mem_lines_renderLines margin_spaces line visible whole

theorem itemHeader_mem_lines (imports : List String) {base : BaseType}
    (identifier : Name.isIdentifier base.name = true) {node : Option String}
    (holds : base.Holds node) :
    itemHeader base.name node ∈ Text.lines (unitText imports base) := by
  cases node with
  | none =>
    have ofBase := unbroken_of_isIdentifier identifier
    have block : .block (enumHeader base) "\x7d" (base.variants.map fun variant =>
        .line (variant.name ++ "(" ++ variant.name ++ "),")) ∈ unitSteps imports base := by
      simp [unitSteps, enumSteps, enumHeader_eq]
    change enumHeader base ∈ _
    refine header_mem_lines block (by simp [enumHeader_eq]) ?_
    simpa [enumHeader_eq, NodeGen.Unbroken] using ofBase
  | some name =>
    obtain ⟨variant, member, rfl, proper⟩ := holds name rfl
    have ofVariant := unbroken_of_isIdentifier proper
    have block : .block (structHeader variant) "\x7d" (variant.fields.map fun field =>
        .line ("pub " ++ parameterText base field ++ ",")) ∈ unitSteps imports base := by
      refine List.mem_append_right _ (List.mem_flatMap.mpr ⟨variant, member, ?_⟩)
      simp [variantSteps, structSteps, structHeader_eq]
    change structHeader variant ∈ _
    refine header_mem_lines block (by simp [structHeader_eq]) ?_
    simpa [structHeader_eq, NodeGen.Unbroken] using ofVariant

/-- How a field's mention of a base type or variant is resolved among the modules of all units: in
the module of its own base type by the bare name, in every other through the parent. -/
structure Links (units : List CodeUnit) (own : String) (type : TypeRef) (owner : String)
    (node : Option String) (unit : CodeUnit) : Prop where
  only : units.filter (·.baseName = owner) = [unit]
  declared : itemHeader owner node ∈ Text.lines unit.source
  written : ∃ path, Wraps ["Vec", "Option", "Box"] path (typeText own type) ∧
    (owner = own ∧ path = itemText owner node ∨
      owner ≠ own ∧ ∃ module file, path = "super::" ++ module ++ "::" ++ itemText owner node ∧
        '#' ∉ file.toList ∧ (module = file ∨ module = "r#" ++ file) ∧
        units.filter (·.fileName = file ++ ".rs") = [unit])

/-- Modules with one file would have one name, so the check of names keeps files apart too. -/
theorem nodup_fileNames {schema : Schema} (valid : schema.Valid)
    (modules : ((schema.baseTypes.map (·.name)).map moduleName).Nodup) :
    (schema.baseTypes.map fileName).Nodup := by
  rw [List.map_map] at modules
  -- A file drops the mark of a raw identifier, which can be told from what is left.
  refine List.Nodup.map_on ?_ (List.Nodup.of_map _ modules)
  intro first ofFirst second ofSecond same
  have stems : stem first.name = stem second.name := by
    simpa [fileName, moduleFile_eq] using same
  have idents : moduleName first.name = moduleName second.name :=
    ident_eq_of_stem (valid.identifiers first ofFirst) (valid.identifiers second ofSecond) stems
  exact List.inj_on_of_nodup_map modules ofFirst ofSecond idents

theorem links_unit {schema : Schema} (valid : schema.Valid)
    (modules : ((schema.baseTypes.map (·.name)).map moduleName).Nodup) (imports : List String)
    (own : String) {base : BaseType} (member : base ∈ schema.baseTypes) {type : TypeRef}
    {node : Option String} (mentions : type.Mentions base.name node) (holds : base.Holds node) :
    Links (schema.baseTypes.map (Target.rust imports).unit) own type base.name node
      ((Target.rust imports).unit base) where
  only := valid.filter_units _ member
  declared := itemHeader_mem_lines imports (valid.identifiers base member) holds
  written := by
    refine ⟨_, wraps_typeTextWithin own mentions true, ?_⟩
    -- Elsewhere the path leads through a file, and what the check keeps apart are modules.
    by_cases here : base.name = own
    · exact .inl ⟨here, by rw [itemPath, if_pos here]⟩
    · have files : ((schema.baseTypes.map (Target.rust imports).unit).map
          (·.fileName)).Nodup := by
        rw [List.map_map]
        exact nodup_fileNames valid modules
      have reached := filter_eq_singleton files (List.mem_map_of_mem member)
      obtain ⟨unmarked, escaped⟩ := stem_cases (valid.identifiers base member)
      refine .inr ⟨here, moduleName base.name, stem base.name, ?_, unmarked, ?_, reached⟩
      · rw [itemPath, if_neg here]
      · obtain ⟨-, marked⟩ | ⟨-, plain⟩ := escaped
        · exact .inr marked
        · exact .inl plain

end Rust

/-- The form that a resolved mention takes in the target's text. -/
def Links (schema : Schema) (units : List CodeUnit) (own : String) (type : TypeRef)
    (owner : String) (node : Option String) (unit : CodeUnit) : Target → Prop
  | .java _ _ => Java.Links schema units type owner node unit
  | .rust _ => Rust.Links units own type owner node unit

end Target

/-- Every mention of a base type or variant in a field leads to one unit of the output, which
declares it. Where nothing that is copied into the text breaks a line, the declarations that can be
read in the units are those of the schema and no others. -/
theorem generate_links {schema : Schema} {target : Target} {units : List CodeUnit}
    (generated : generate schema target = .ok units) :
    (∀ base ∈ schema.baseTypes, ∀ variant ∈ base.variants, ∀ field ∈ variant.fields,
      ∀ owner node, field.type.Mentions owner node →
        ∃ unit, target.Links schema units base.name field.type owner node unit) ∧
    (schema.ScalarsUnbroken → target.Unbroken →
      List.Forall₂ (fun base unit =>
          unit.baseName = base.name ∧ target.Declares base unit.source)
        schema.baseTypes units) := by
  obtain ⟨valid, checked, rfl⟩ := generate_eq_ok_iff.mp generated
  constructor
  · intro base member variant inside field held owner node mentions
    have accepted := (valid.bases base member).variants variant inside
    obtain ⟨referenced, present, rfl, holds⟩ :=
      mentions.exists_referenced valid (accepted.fields field held).declared
    refine ⟨target.unit referenced, ?_⟩
    cases target with
    | java package imports =>
      exact Target.Java.links_unit valid package imports present mentions holds
    | rust imports =>
      have modules := (Target.Rust.check_eq_ok_iff.mp checked).2.1
      exact Target.Rust.links_unit valid modules imports base.name present mentions holds
  · intro scalars copied
    rw [List.forall₂_map_right_iff, List.forall₂_same]
    intro base member
    exact ⟨rfl, Target.declares_unitText copied (valid.readable scalars member)⟩

/-- Declarations that refer to types, whose module has a keyword for its name. -/
def typesSchema : Schema :=
  ⟨[⟨"Decl", [⟨"Let", [⟨"annotation", .optional (.variant "Type" "Named")⟩]⟩]⟩,
    ⟨"Type", [⟨"Named", [⟨"name", .scalar "String"⟩]⟩,
      ⟨"Arrow", [⟨"domain", .list (.base "Type")⟩, ⟨"range", .base "Type"⟩]⟩]⟩]⟩

theorem generate_links_typesSchema :
    (∃ unit, (Target.rust []).Links typesSchema (typesSchema.baseTypes.map (Target.rust []).unit)
      "Decl" (.optional (.variant "Type" "Named")) "Type" (some "Named") unit) ∧
    List.Forall₂ (fun base unit =>
        unit.baseName = base.name ∧ (Target.rust []).Declares base unit.source)
      typesSchema.baseTypes (typesSchema.baseTypes.map (Target.rust []).unit) := by
  obtain ⟨links, declares⟩ :=
    @generate_links typesSchema (.rust []) (typesSchema.baseTypes.map (Target.rust []).unit) rfl
  constructor
  · exact links _ List.mem_cons_self _ List.mem_cons_self _ List.mem_cons_self _ _
      (.optional (.variant "Type" "Named"))
  · refine declares ?_ ?_
    · simp [typesSchema, Schema.ScalarsUnbroken, TypeRef.ScalarsUnbroken, Unbroken]
    · simp [Target.Unbroken]

end NodeGen
