import NodeGen.Proofs.Target.Declarations

/-! Dispatch is complete in the generated text. The visitor of a base type declares one method for
each variant, in order and under distinct names, and the node type of each variant calls the method
that was declared for it; no other line of the unit reads as a declaration or as a call. -/

set_option autoImplicit false

namespace NodeGen.Target

open Outline

namespace Java

/-- The text holds one interface, whose lines declare the methods, and each call stands where the
node type of its variant accepts a visitor. -/
structure Dispatches (base : BaseType) (source : String) : Prop where
  visitor : starting "interface " (read source) = [⟨[classHeader base], visitorHeader⟩]
  methods : ∃ parameter, Name.isIdentifier parameter ∧
    within [visitorHeader, classHeader base] (read source) =
      base.variants.map fun variant =>
        "R " ++ ("visit" ++ variant.name ++ base.name) ++ "(" ++ variant.name ++ " " ++
          parameter ++ ");"
  distinct : (base.variants.map fun variant => "visit" ++ variant.name ++ base.name).Nodup
  calls : starting "return visitor." (read source) =
    base.variants.map fun variant =>
      ⟨[acceptHeader, nodeHeader base variant, classHeader base],
        "return visitor." ++ ("visit" ++ variant.name ++ base.name) ++ "(this);"⟩

theorem within_headSteps (package : Option String) (imports : List String) (base : BaseType)
    {scope : List String} (inner : [] ≠ scope) :
    within scope (ofSteps [] (headSteps package imports base)) = [] := by
  have ofPackage : within scope (ofSteps [] (packageSteps package)) = [] := by
    cases package <;> simp [packageSteps, inner]
  have ofImports (names : List String) : within scope (ofSteps [] (importSteps names)) = [] := by
    cases names with
    | nil => rfl
    | cons first rest =>
      rw [importSteps, ofSteps_append, ofSteps_map_line, within_append, within_map_of_ne inner]
      · simp [inner]
      · simp
  simp [headSteps, ofPackage, ofImports, inner]

theorem within_classStep {base : BaseType} :
    within [visitorHeader, classHeader base] (ofStep [] (classStep base)) =
      base.variants.map fun variant => "R " ++ Name.dispatchMethod variant.name base.name ++ "(" ++
        variant.name ++ " " ++ visitorParameter base.name ++ ");" := by
  have elsewhere : within [visitorHeader, classHeader base]
      (ofSteps [classHeader base] (nodeSteps base)) = [] := by
    rw [nodeSteps, ofSteps_flatMap]
    refine within_flatMap_eq_nil fun variant _ => ?_
    -- The class of a variant lies beside the interface: only the outer block is shared.
    have outside : ¬[nodeHeader base variant, classHeader base] <:+
        [visitorHeader, classHeader base] := by
      intro suffix
      have same := congrArg String.toList (List.cons.inj (suffix.eq_of_length rfl)).1
      simp [nodeHeader_eq, visitorHeader] at same
    have inside := within_ofSteps_eq_nil outside
    simp only [nodeHeader_eq] at inside
    simp [variantSteps, -ofSteps_append, inside]
  rw [ofStep_classStep]
  simp [elsewhere]

theorem nodup_methods {base : BaseType} (distinct : (base.variants.map (·.name)).Nodup) :
    (base.variants.map fun variant => "visit" ++ variant.name ++ base.name).Nodup := by
  have injective : Function.Injective fun name => "visit" ++ name ++ base.name := by
    intro first second same
    simpa using same
  have mapped := distinct.map injective
  rwa [List.map_map] at mapped

theorem dispatches_unitText {package : Option String} {imports : List String}
    (ofPackage : ∀ name ∈ package, NodeGen.Unbroken name)
    (ofImports : ∀ name ∈ imports, NodeGen.Unbroken name) {base : BaseType}
    (readable : base.Readable) (distinct : (base.variants.map (·.name)).Nodup) :
    Dispatches base (unitText package imports base) := by
  have head :
      within [visitorHeader, classHeader base] (ofSteps [] (headSteps package imports base)) = [] :=
    within_headSteps package imports base (by simp)
  obtain ⟨-, visitor, -, calls⟩ := starting_unitLines base
  constructor
  · rw [starting_unitText ofPackage ofImports readable (by simp [isMarked_openings]), visitor]
  · refine ⟨visitorParameter base.name, Name.isIdentifier_lowercase readable.name, ?_⟩
    rw [read_unitText ofPackage ofImports readable, within_append, head, within_classStep,
      List.nil_append]
    rfl
  · exact nodup_methods distinct
  · rw [starting_unitText ofPackage ofImports readable (by simp [isMarked_openings]), calls]
    rfl

end Java

namespace Rust

/-- The text holds one trait, whose lines declare the methods; each call stands where the node type
of its variant accepts a visitor, and the enum hands a visitor on with one arm for each variant. -/
structure Dispatches (base : BaseType) (source : String) : Prop where
  visitor : starting "pub trait " (read source) = [⟨[], traitHeader⟩]
  methods : ∃ parameter, (∀ char ∈ parameter.toList, Name.isWordChar char || char == '#') ∧
    within [traitHeader] (read source) =
      base.variants.map fun variant =>
        "fn " ++ Name.snakeCase ("visit" ++ variant.name ++ base.name) ++ "(&mut self, " ++
          parameter ++ ": &" ++ variant.name ++ ") -> R;"
  distinct :
    (base.variants.map fun variant =>
      Name.snakeCase ("visit" ++ variant.name ++ base.name)).Nodup
  calls : starting "visitor." (read source) =
    base.variants.map fun variant =>
      ⟨[acceptHeader "visitor", implHeader variant.name],
        "visitor." ++ Name.snakeCase ("visit" ++ variant.name ++ base.name) ++ "(self)"⟩
  selection : starting "match " (read source) =
    [if base.variants.isEmpty then
      ⟨[acceptHeader "_visitor", implHeader base.name], "match *self \x7b\x7d"⟩
    else ⟨[acceptHeader "visitor", implHeader base.name], "match self \x7b"⟩]
  arms : within ["match self \x7b", acceptHeader "visitor", implHeader base.name] (read source) =
    base.variants.map fun variant => "Self::" ++ variant.name ++ "(node) => node.accept(visitor),"
  armsOnce : starting "Self::" (read source) =
    base.variants.map fun variant =>
      ⟨["match self \x7b", acceptHeader "visitor", implHeader base.name],
        "Self::" ++ variant.name ++ "(node) => node.accept(visitor),"⟩

theorem within_block_eq_nil {header : String} {scope : List String} {last : String}
    (outer : scope.getLast? = some last) (differ : header ≠ last) (steps : List Step) :
    within scope (ofSteps [header] steps) = [] := by
  refine within_ofSteps_eq_nil ?_ steps
  rintro ⟨inner, rfl⟩
  exact differ (by simpa using outer)

theorem header_ne {first second : String} (differ : first.toList ≠ second.toList) :
    first ≠ second :=
  fun same => differ (congrArg String.toList same)

/-- What a block directly in the module holds, when no node type has the same header. -/
theorem within_itemSteps {base : BaseType} {scope : List String} {last : String}
    (outer : scope.getLast? = some last) (notEnum : enumHeader base ≠ last)
    (notNode : ∀ variant ∈ base.variants,
      structHeader variant ≠ last ∧ implHeader variant.name ≠ last) :
    within scope (ofSteps [] (itemSteps base)) =
      within scope (ofSteps [implHeader base.name] (enumAcceptSteps base)) ++
        within scope (base.variants.map fun variant => ⟨[traitHeader], "fn " ++
          methodName base.name variant.name ++ "(&mut self, " ++ ident base.name ++ ": &" ++
          variant.name ++ ") -> R;"⟩) := by
  have inner : [] ≠ scope := by
    rintro rfl
    cases outer
  have inNodes : within scope (base.variants.flatMap fun variant =>
      ofSteps [] (.blank :: variantSteps base variant)) = [] := by
    refine within_flatMap_eq_nil fun variant inside => ?_
    have members := within_block_eq_nil outer (notNode variant inside).1
    have methods := within_block_eq_nil outer (notNode variant inside).2
    simp [variantSteps, structSteps, ← structHeader_eq, ← implHeader_eq, -ofSteps_append,
      -ofSteps_map_line, members, methods, inner]
  have inEnum := within_block_eq_nil outer notEnum
  rw [itemSteps, ofSteps_append, ofSteps_append, ofSteps_append, ofSteps_append, ofSteps_flatMap,
    within_append, within_append, within_append, within_append, inNodes]
  simp only [enumSteps, ← enumHeader_eq, ← implHeader_eq, dispatchSteps, ofSteps, ofStep,
    ofSteps_methods, within_append, within_cons, within_nil, inEnum, inner, if_false,
    List.nil_append, List.append_nil]
  rfl

theorem within_methods (base : BaseType) :
    within [traitHeader] (ofSteps [] (itemSteps base)) =
      base.variants.map fun variant => "fn " ++ methodName base.name variant.name ++
        "(&mut self, " ++ ident base.name ++ ": &" ++ variant.name ++ ") -> R;" := by
  have inEnum : within [traitHeader] (ofSteps [implHeader base.name] (enumAcceptSteps base)) = [] :=
    within_block_eq_nil rfl (header_ne (by simp [implHeader_eq, traitHeader])) _
  rw [within_itemSteps rfl (header_ne (by simp [enumHeader_eq, traitHeader])), inEnum, within_map]
  · rfl
  · intro variant _
    exact ⟨header_ne (by simp [structHeader_eq, traitHeader]),
      header_ne (by simp [implHeader_eq, traitHeader])⟩

theorem within_arms {base : BaseType}
    (apart : ∀ variant ∈ base.variants, variant.name ≠ base.name) :
    within ["match self \x7b", acceptHeader "visitor", implHeader base.name]
        (ofSteps [] (itemSteps base)) =
      base.variants.map fun variant =>
        "Self::" ++ variant.name ++ "(node) => node.accept(visitor)," := by
  rw [within_itemSteps rfl (header_ne (by simp [enumHeader_eq, implHeader_eq])), within_map_of_ne]
  · unfold enumAcceptSteps
    split
    · rename_i empty
      simp [List.isEmpty_iff.mp empty]
    · simp [ofSteps_arms, armText_eq]
  · simp
  · intro variant inside
    -- The methods of a variant with the name of its base type would stand under the same header.
    refine ⟨header_ne (by simp [structHeader_eq, implHeader_eq]), ?_⟩
    intro same
    refine apart variant inside ?_
    simpa [implHeader_eq] using same

theorem within_headSteps (imports : List String) (base : BaseType) {scope : List String}
    (inner : [] ≠ scope) : within scope (ofSteps [] (headSteps imports base)) = [] := by
  have ofImports : within scope (ofSteps [] (importSteps imports)) = [] := by
    cases imports with
    | nil => rfl
    | cons first rest =>
      rw [importSteps, ofSteps_append, ofSteps_map_line, within_append, within_map_of_ne inner]
      · simp [inner]
      · simp
  simp [headSteps, ofImports, inner]

theorem dispatches_unitText {imports : List String}
    (ofImports : ∀ name ∈ imports, NodeGen.Unbroken name) {base : BaseType}
    (readable : base.Readable) (apart : ∀ variant ∈ base.variants, variant.name ≠ base.name)
    (separate : Separate base) : Dispatches base (unitText imports base) := by
  have lines {opening : String} (known : isMarked openings opening = true) :=
    starting_unitText ofImports readable known
  obtain ⟨-, -, visitor, calls, selection, arms⟩ := starting_unitLines readable
  constructor
  · rw [lines (by simp [isMarked_openings]), visitor]
  · refine ⟨ident base.name, fun char => isIdentChar_of_mem_ident readable.name, ?_⟩
    rw [read_unitText ofImports readable, within_append, within_headSteps _ _ (by simp),
      within_methods]
    rfl
  · have methods := separate.methods
    rwa [List.map_map] at methods
  · rw [lines (by simp [isMarked_openings]), calls]
    rfl
  · rw [lines (by simp [isMarked_openings]), selection]
  · rw [read_unitText ofImports readable, within_append, within_headSteps _ _ (by simp),
      within_arms apart]
    rfl
  · rw [lines (by simp [isMarked_openings]), arms]
    rfl

end Rust

/-- The form that dispatch takes in the target's text. -/
def Dispatches : Target → BaseType → String → Prop
  | .java _ _ => Java.Dispatches
  | .rust _ => Rust.Dispatches

end NodeGen.Target

namespace NodeGen

/-- Where nothing that is copied into the text breaks a line, the text of every unit declares one
method for each variant of its base type and calls each of them from the node type of its
variant. -/
theorem generate_dispatches {schema : Schema} {target : Target} {units : List CodeUnit}
    (generated : generate schema target = .ok units) (scalars : schema.ScalarsUnbroken)
    (copied : target.Unbroken) :
    List.Forall₂ (fun base unit =>
        unit.baseName = base.name ∧ target.Dispatches base unit.source)
      schema.baseTypes units := by
  obtain ⟨valid, checked, rfl⟩ := generate_eq_ok_iff.mp generated
  rw [List.forall₂_map_right_iff, List.forall₂_same]
  intro base member
  have readable := valid.readable scalars member
  refine ⟨rfl, ?_⟩
  cases target with
  | java package imports =>
    exact Target.Java.dispatches_unitText copied.1 copied.2 readable
      (valid.bases base member).distinct
  | rust imports =>
    -- Names that differ may become one method; only the check of the target rules that out.
    have apart : ∀ variant ∈ base.variants, variant.name ≠ base.name := by
      intro variant inside same
      have notBase := ((valid.bases base member).variants variant inside).notBase
      exact notBase (same ▸ List.mem_map_of_mem member)
    exact Target.Rust.dispatches_unitText copied readable apart
      ((Target.Rust.check_eq_ok_iff.mp checked).2.2 base member)

/-- Expressions with a scalar that holds blanks and brackets, and a base type without variants. -/
def callsSchema : Schema :=
  ⟨[⟨"Expr", [⟨"Literal", [⟨"value", .scalar "Map<String, Object>"⟩]⟩,
      ⟨"Call", [⟨"callee", .base "Expr"⟩, ⟨"arguments", .list (.base "Expr")⟩]⟩]⟩,
    ⟨"Never", []⟩]⟩

theorem generate_dispatches_callsSchema :
    List.Forall₂
      (fun base unit => unit.baseName = base.name ∧
        (Target.rust ["crate::token::Token"]).Dispatches base unit.source)
      callsSchema.baseTypes
      (callsSchema.baseTypes.map (Target.rust ["crate::token::Token"]).unit) := by
  refine generate_dispatches rfl ?_ ?_
  · simp [callsSchema, Schema.ScalarsUnbroken, TypeRef.ScalarsUnbroken, Unbroken]
  · simp [Target.Unbroken, Unbroken]

end NodeGen
