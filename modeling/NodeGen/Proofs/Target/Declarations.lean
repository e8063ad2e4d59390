import NodeGen.Proofs.Target.Legibility
import NodeGen.Proofs.Target.Rust.Ident

/-! The lines of a unit that declare something or hand a visitor on. A unit declares its base type
once, its variants once each and in order, and the visitor once; no other line of the unit begins
like one of these, whatever the fields hold. -/

set_option autoImplicit false

namespace NodeGen.Target

open Outline

namespace Java

def classHeader (base : BaseType) : String :=
  "abstract class " ++ base.name ++ " \x7b"

def nodeHeader (base : BaseType) (variant : Variant) : String :=
  "static class " ++ variant.name ++ " extends " ++ base.name ++ " \x7b"

-- Lines are opened with these equations where their first characters matter; everywhere else they
-- stay names.
theorem classHeader_eq (base : BaseType) :
    classHeader base = "abstract class " ++ base.name ++ " \x7b" :=
  rfl

theorem nodeHeader_eq (base : BaseType) (variant : Variant) :
    nodeHeader base variant =
      "static class " ++ variant.name ++ " extends " ++ base.name ++ " \x7b" :=
  rfl

def visitorHeader : String := "interface Visitor<R> \x7b"

def acceptHeader : String := "<R> R accept(Visitor<R> visitor) \x7b"

def memberText (field : Field) : String :=
  "final " ++ parameterText field ++ ";"

def callText (base : BaseType) (variant : Variant) : String :=
  "return visitor." ++ Name.dispatchMethod variant.name base.name ++ "(this);"

theorem parameterText_eq (field : Field) :
    parameterText field = typeText field.type ++ " " ++ field.name :=
  rfl

theorem memberText_eq (field : Field) :
    memberText field = "final " ++ parameterText field ++ ";" :=
  rfl

theorem callText_eq (base : BaseType) (variant : Variant) :
    callText base variant =
      "return visitor." ++ Name.dispatchMethod variant.name base.name ++ "(this);" :=
  rfl

def openings : List String :=
  ["abstract class ", "interface ", "static class ", "final ", "return visitor."]

theorem isMarked_openings (text : String) :
    isMarked openings text = true ↔ text.startsWith "abstract class " ∨
      text.startsWith "interface " ∨ text.startsWith "static class " ∨
      text.startsWith "final " ∨ text.startsWith "return visitor." := by
  simp [isMarked, openings]

/-- A name and a parenthesis are not marked: in every opening a blank comes first. -/
theorem not_isMarked_of_parenthesis {name : String} (identifier : Name.isIdentifier name = true)
    (rest : String) : isMarked openings (name ++ "(" ++ rest) = false := by
  have differ (word tail : String) (letters : Name.isIdentifier word = true) :
      ¬word.toList ++ ' ' :: tail.toList <+: name.toList ++ '(' :: rest.toList :=
    Name.not_prefix_of_marks (fun _ => Name.isWordChar_of_mem letters)
      (fun _ => Name.isWordChar_of_mem identifier) (by decide) (by decide) (by decide)
  have forClass := differ "abstract" "class " (by decide)
  have forVisitor := differ "interface" "" (by decide)
  have forNode := differ "static" "class " (by decide)
  have forMember := differ "final" "" (by decide)
  have forCall := differ "return" "visitor." (by decide)
  rw [Bool.eq_false_iff, Ne, isMarked_openings]
  simp at forClass forVisitor forNode forMember forCall
  simp [forClass, forVisitor, forNode, forMember, forCall]

/-- The lines before the class: a comment, the package and the imports. -/
def headSteps (package : Option String) (imports : List String) (base : BaseType) : List Step :=
  [.line ("// Generated by ast-gen from the `" ++ base.name ++ "` schema. Do not edit."), .blank] ++
    packageSteps package ++ importSteps (importsFor imports base)

theorem unitSteps_eq (package : Option String) (imports : List String) (base : BaseType) :
    unitSteps package imports base = headSteps package imports base ++ [classStep base] :=
  rfl

theorem marked_headSteps (package : Option String) (imports : List String) (base : BaseType) :
    marked openings (ofSteps [] (headSteps package imports base)) = [] := by
  have ofPackage : marked openings (ofSteps [] (packageSteps package)) = [] := by
    cases package <;> simp [packageSteps, isMarked_openings]
  have ofImports (names : List String) : marked openings (ofSteps [] (importSteps names)) = [] := by
    cases names with
    | nil => rfl
    | cons first rest =>
      rw [importSteps, ofSteps_append, ofSteps_map_line, marked_append, marked_map_eq_nil]
      · simp [isMarked_openings]
      · simp [isMarked, openings]
      · simp
  rw [headSteps, ofSteps_append, ofSteps_append, marked_append, marked_append, ofPackage, ofImports]
  simp [isMarked_openings]

theorem ofSteps_methods (base : BaseType) (scope : List String) :
    ofSteps scope (base.variants.map (dispatchLine base)) =
      base.variants.map fun variant => ⟨scope, "R " ++ Name.dispatchMethod variant.name base.name ++
        "(" ++ variant.name ++ " " ++ visitorParameter base.name ++ ");"⟩ :=
  ofSteps_map_line scope _ base.variants

theorem marked_memberSteps (variant : Variant) (scope : List String) :
    marked openings (ofSteps scope (memberSteps variant)) =
      variant.fields.map fun field => ⟨scope, memberText field⟩ := by
  rw [memberSteps, ofSteps_append, ofSteps_map_line, marked_append, marked_map_eq_self]
  · split <;> simp [isMarked_openings, memberText_eq]
  · simp [isMarked_openings]

theorem marked_constructorSteps {variant : Variant}
    (identifier : Name.isIdentifier variant.name = true) (scope : List String) :
    marked openings (ofSteps scope (constructorSteps variant)) = [] := by
  -- A variant may be named like the first word of an opening, so its characters say nothing here.
  have header := not_isMarked_of_parenthesis identifier
    (String.intercalate ", " (variant.fields.map parameterText) ++ ") \x7b")
  rw [← String.append_assoc] at header
  simp only [constructorSteps, ofSteps, ofStep, ofSteps_map_line, marked_cons, marked_append,
    header]
  rw [marked_map_eq_nil]
  · simp [isMarked_openings]
  · simp [isMarked, openings]

/-- The marked lines of a variant's class: its header, its members and its call. -/
def variantLines (base : BaseType) (scope : List String) (variant : Variant) : List Entry :=
  ⟨scope, nodeHeader base variant⟩ ::
    (variant.fields.map fun field => ⟨nodeHeader base variant :: scope, memberText field⟩) ++
    [⟨acceptHeader :: nodeHeader base variant :: scope, callText base variant⟩]

theorem marked_variantSteps (base : BaseType) {variant : Variant}
    (identifier : Name.isIdentifier variant.name = true) (scope : List String) :
    marked openings (ofSteps scope (variantSteps base variant)) =
      variantLines base scope variant := by
  simp [variantSteps, acceptSteps, marked_memberSteps, marked_constructorSteps identifier,
    isMarked_openings, acceptHeader, nodeHeader_eq, callText_eq, variantLines]

/-- The classes of the variants, each set apart by a blank line. -/
def nodeSteps (base : BaseType) : List Step :=
  base.variants.flatMap fun variant => .blank :: variantSteps base variant

theorem marked_nodeSteps {base : BaseType} (readable : base.Readable) (scope : List String) :
    marked openings (ofSteps scope (nodeSteps base)) =
      base.variants.flatMap (variantLines base scope) := by
  rw [nodeSteps, ofSteps_flatMap]
  refine marked_flatMap fun variant inside => ?_
  rw [ofSteps, marked_append,
    marked_variantSteps base (readable.variants variant inside).name scope]
  simp [isMarked_openings]

theorem ofStep_classStep (base : BaseType) :
    ofStep [] (classStep base) =
      [⟨[], classHeader base⟩, ⟨[classHeader base], visitorHeader⟩] ++
      (base.variants.map fun variant => ⟨[visitorHeader, classHeader base],
        "R " ++ Name.dispatchMethod variant.name base.name ++ "(" ++ variant.name ++ " " ++
          visitorParameter base.name ++ ");"⟩) ++
      [⟨[classHeader base], "\x7d"⟩, ⟨[classHeader base], ""⟩,
        ⟨[classHeader base], "abstract <R> R accept(Visitor<R> visitor);"⟩] ++
      ofSteps [classHeader base] (nodeSteps base) ++ [⟨[], "\x7d"⟩] := by
  simp [classStep, bodySteps, dispatchSteps, ofSteps_methods, nodeSteps, classHeader_eq,
    visitorHeader]

theorem read_unitText {package : Option String} {imports : List String}
    (ofPackage : ∀ name ∈ package, NodeGen.Unbroken name)
    (ofImports : ∀ name ∈ imports, NodeGen.Unbroken name) {base : BaseType}
    (readable : base.Readable) :
    read (unitText package imports base) =
      ofSteps [] (headSteps package imports base) ++ ofStep [] (classStep base) := by
  rw [unitText, read_render margin_tab (stepsLegible_unitSteps ofPackage ofImports readable),
    unitSteps_eq, ofSteps_append]
  simp

/-- The marked lines of a unit: the header of the class, the visitor, and what the variants add. -/
def unitLines (base : BaseType) : List Entry :=
  [⟨[], classHeader base⟩, ⟨[classHeader base], visitorHeader⟩] ++
    base.variants.flatMap (variantLines base [classHeader base])

theorem marked_classStep {base : BaseType} (readable : base.Readable) :
    marked openings (ofStep [] (classStep base)) = unitLines base := by
  rw [ofStep_classStep]
  simp only [marked_append, marked_nodeSteps readable [classHeader base]]
  rw [marked_map_eq_nil]
  · simp [unitLines, isMarked_openings, classHeader_eq, visitorHeader]
  · simp [isMarked, openings]

theorem starting_unitText {package : Option String} {imports : List String}
    (ofPackage : ∀ name ∈ package, NodeGen.Unbroken name)
    (ofImports : ∀ name ∈ imports, NodeGen.Unbroken name) {base : BaseType}
    (readable : base.Readable) {opening : String} (known : isMarked openings opening = true) :
    starting opening (read (unitText package imports base)) =
      starting opening (unitLines base) := by
  rw [← starting_marked known, read_unitText ofPackage ofImports readable, marked_append,
    marked_headSteps, marked_classStep readable, List.nil_append]

/-- Of the lines that a variant adds, those with one opening can be told apart from the rest. -/
theorem starting_variantLines (base : BaseType) (scope : List String) (variant : Variant) :
    starting "abstract class " (variantLines base scope variant) = [] ∧
    starting "interface " (variantLines base scope variant) = [] ∧
    starting "static class " (variantLines base scope variant) =
      [⟨scope, nodeHeader base variant⟩] ∧
    starting "return visitor." (variantLines base scope variant) =
      [⟨acceptHeader :: nodeHeader base variant :: scope, callText base variant⟩] := by
  simp [starting, variantLines, nodeHeader_eq, memberText_eq, callText_eq, marked_map_eq_nil]

theorem starting_unitLines (base : BaseType) :
    starting "abstract class " (unitLines base) = [⟨[], classHeader base⟩] ∧
    starting "interface " (unitLines base) = [⟨[classHeader base], visitorHeader⟩] ∧
    starting "static class " (unitLines base) =
      (base.variants.map fun variant => ⟨[classHeader base], nodeHeader base variant⟩) ∧
    starting "return visitor." (unitLines base) =
      base.variants.map fun variant =>
        ⟨[acceptHeader, nodeHeader base variant, classHeader base], callText base variant⟩ := by
  have one := starting_variantLines base [classHeader base]
  -- What is found in the lines of each variant is found in the lines of all of them, in order.
  have nodes {opening : String} {found : Variant → List Entry} (each : ∀ variant,
      starting opening (variantLines base [classHeader base] variant) = found variant) :
      starting opening (base.variants.flatMap (variantLines base [classHeader base])) =
        base.variants.flatMap found :=
    marked_flatMap fun variant _ => each variant
  simp only [unitLines, starting_append]
  rw [nodes fun variant => (one variant).1, nodes fun variant => (one variant).2.1,
    nodes fun variant => (one variant).2.2.1, nodes fun variant => (one variant).2.2.2]
  simp [starting, classHeader_eq, visitorHeader, List.map_eq_flatMap]

/-- The text holds one class for the base type, and directly in it one for each variant. -/
structure Declares (base : BaseType) (source : String) : Prop where
  whole : starting "abstract class " (read source) = [⟨[], classHeader base⟩]
  nodes : starting "static class " (read source) =
    base.variants.map fun variant => ⟨[classHeader base], nodeHeader base variant⟩

theorem declares_unitText {package : Option String} {imports : List String}
    (ofPackage : ∀ name ∈ package, NodeGen.Unbroken name)
    (ofImports : ∀ name ∈ imports, NodeGen.Unbroken name) {base : BaseType}
    (readable : base.Readable) : Declares base (unitText package imports base) := by
  obtain ⟨whole, -, nodes, -⟩ := starting_unitLines base
  constructor
  · rw [starting_unitText ofPackage ofImports readable (by simp [isMarked_openings]), whole]
  · rw [starting_unitText ofPackage ofImports readable (by simp [isMarked_openings]), nodes]

end Java

namespace Rust

def enumHeader (base : BaseType) : String :=
  "pub enum " ++ base.name ++ " \x7b"

def structHeader (variant : Variant) : String :=
  "pub struct " ++ variant.name ++ " \x7b"

def traitHeader : String := "pub trait Visitor<R> \x7b"

def implHeader (name : String) : String :=
  "impl " ++ name ++ " \x7b"

def memberText (base : BaseType) (field : Field) : String :=
  "pub " ++ parameterText base field ++ ","

def constructorHeader (base : BaseType) (variant : Variant) : String :=
  "pub fn new(" ++ String.intercalate ", " (variant.fields.map (parameterText base)) ++
    ") -> Self \x7b"

def callText (base : BaseType) (variant : Variant) : String :=
  "visitor." ++ methodName base.name variant.name ++ "(self)"

def armText (variant : Variant) : String :=
  "Self::" ++ variant.name ++ "(node) => node.accept(visitor),"

theorem enumHeader_eq (base : BaseType) :
    enumHeader base = "pub enum " ++ base.name ++ " \x7b" :=
  rfl

theorem structHeader_eq (variant : Variant) :
    structHeader variant = "pub struct " ++ variant.name ++ " \x7b" :=
  rfl

theorem implHeader_eq (name : String) : implHeader name = "impl " ++ name ++ " \x7b" :=
  rfl

theorem parameterText_eq (base : BaseType) (field : Field) :
    parameterText base field = ident field.name ++ ": " ++ typeText base.name field.type :=
  rfl

theorem memberText_eq (base : BaseType) (field : Field) :
    memberText base field = "pub " ++ parameterText base field ++ "," :=
  rfl

theorem constructorHeader_eq (base : BaseType) (variant : Variant) :
    constructorHeader base variant =
      "pub fn new(" ++ String.intercalate ", " (variant.fields.map (parameterText base)) ++
        ") -> Self \x7b" :=
  rfl

theorem callText_eq (base : BaseType) (variant : Variant) :
    callText base variant = "visitor." ++ methodName base.name variant.name ++ "(self)" :=
  rfl

theorem armText_eq (variant : Variant) :
    armText variant = "Self::" ++ variant.name ++ "(node) => node.accept(visitor)," :=
  rfl

-- Items, members and methods share one opening. What tells items apart comes after it.
def openings : List String :=
  ["pub ", "visitor.", "match ", "Self::"]

theorem isMarked_openings (text : String) :
    isMarked openings text = true ↔ text.startsWith "pub " ∨ text.startsWith "visitor." ∨
      text.startsWith "match " ∨ text.startsWith "Self::" := by
  simp [isMarked, openings]

/-- A name and a parenthesis are not marked: every opening has another mark after its first word. -/
theorem not_isMarked_of_parenthesis {name : String} (identifier : Name.isIdentifier name = true)
    (rest : String) : isMarked openings (name ++ "(" ++ rest) = false := by
  have differ (word : String) (mark : Char) (tail : List Char)
      (letters : Name.isIdentifier word = true) (ends : Name.isWordChar mark = false)
      (other : mark ≠ '(') : ¬word.toList ++ mark :: tail <+: name.toList ++ '(' :: rest.toList :=
    Name.not_prefix_of_marks (fun _ => Name.isWordChar_of_mem letters)
      (fun _ => Name.isWordChar_of_mem identifier) ends (by decide) other
  have forItem := differ "pub" ' ' [] (by decide) (by decide) (by decide)
  have forCall := differ "visitor" '.' [] (by decide) (by decide) (by decide)
  have forMatch := differ "match" ' ' [] (by decide) (by decide) (by decide)
  have forArm := differ "Self" ':' [':'] (by decide) (by decide) (by decide)
  rw [Bool.eq_false_iff, Ne, isMarked_openings]
  simp at forItem forCall forMatch forArm
  simp [forItem, forCall, forMatch, forArm]

/-- The lines before the items: two comments for tools and the imports. -/
def headSteps (imports : List String) (base : BaseType) : List Step :=
  [.line ("// @generated by ast-gen from the `" ++ base.name ++ "` schema. Do not edit."),
    .line "#![allow(clippy::new_without_default, clippy::too_many_arguments)]", .blank] ++
    importSteps imports

theorem marked_headSteps (imports : List String) (base : BaseType) :
    marked openings (ofSteps [] (headSteps imports base)) = [] := by
  have ofImports : marked openings (ofSteps [] (importSteps imports)) = [] := by
    cases imports with
    | nil => rfl
    | cons first rest =>
      rw [importSteps, ofSteps_append, ofSteps_map_line, marked_append, marked_map_eq_nil]
      · simp [isMarked_openings]
      · simp [isMarked, openings]
      · simp
  rw [headSteps, ofSteps_append, marked_append, ofImports]
  simp [isMarked_openings]

theorem marked_enumSteps {base : BaseType} (readable : base.Readable) :
    marked openings (ofSteps [] (enumSteps base)) = [⟨[], enumHeader base⟩] := by
  have shapes (scope : List String) : marked openings (base.variants.map fun variant =>
      ⟨scope, variant.name ++ "(" ++ variant.name ++ "),"⟩) = [] := by
    -- The shapes of the enum begin with names of variants, as constructors do elsewhere.
    refine marked_map_eq_nil fun variant inside => ?_
    have other := not_isMarked_of_parenthesis (readable.variants variant inside).name
      (variant.name ++ "),")
    rwa [← String.append_assoc] at other
  simp [enumSteps, shapes, enumHeader_eq, isMarked_openings]

theorem ofSteps_arms (base : BaseType) (scope : List String) :
    ofSteps scope (base.variants.map matchArm) =
      base.variants.map fun variant => ⟨scope, armText variant⟩ :=
  ofSteps_map_line scope _ base.variants

/-- The marked lines in which the enum hands a visitor on. -/
def selectionLines (base : BaseType) (scope : List String) : List Entry :=
  -- A reference counts as inhabited even here, so an enum without variants is matched by value.
  if base.variants.isEmpty then
    [⟨scope, acceptHeader "_visitor"⟩,
      ⟨acceptHeader "_visitor" :: scope, "match *self \x7b\x7d"⟩]
  else
    ⟨scope, acceptHeader "visitor"⟩ :: ⟨acceptHeader "visitor" :: scope, "match self \x7b"⟩ ::
      base.variants.map fun variant =>
        ⟨"match self \x7b" :: acceptHeader "visitor" :: scope, armText variant⟩

theorem isMarked_acceptHeader (visitor : String) :
    isMarked openings (acceptHeader visitor) = true := by
  rw [isMarked_openings, acceptHeader_eq]
  simp

theorem marked_enumAcceptSteps (base : BaseType) (scope : List String) :
    marked openings (ofSteps scope (enumAcceptSteps base)) = selectionLines base scope := by
  have arms (inner : List String) : marked openings (base.variants.map fun variant =>
      ⟨inner, armText variant⟩) = base.variants.map fun variant => ⟨inner, armText variant⟩ :=
    marked_map_eq_self fun variant _ => by simp [isMarked_openings, armText_eq]
  have frame : isMarked openings "match *self \x7b\x7d" = true ∧
      isMarked openings "match self \x7b" = true ∧ isMarked openings "\x7d" = false := by
    simp [isMarked, openings]
  rw [enumAcceptSteps, selectionLines]
  split <;>
    simp only [ofSteps, ofStep, ofSteps_arms, marked_append, marked_cons, marked_nil, arms, frame,
      isMarked_acceptHeader, if_true, Bool.false_eq_true, if_false, List.append_nil,
      List.cons_append, List.nil_append]

theorem ofSteps_methods (base : BaseType) (scope : List String) :
    ofSteps scope (base.variants.map (dispatchLine base)) =
      base.variants.map fun variant =>
        ⟨scope, "fn " ++ methodName base.name variant.name ++ "(&mut self, " ++ ident base.name ++
          ": &" ++ variant.name ++ ") -> R;"⟩ :=
  ofSteps_map_line scope _ base.variants

theorem marked_dispatchSteps (base : BaseType) :
    marked openings (ofSteps [] (dispatchSteps base)) = [⟨[], traitHeader⟩] := by
  simp only [dispatchSteps, ofSteps, ofStep, ofSteps_methods, marked_cons, marked_append]
  rw [marked_map_eq_nil]
  · simp [isMarked_openings, traitHeader]
  · simp [isMarked, openings]

theorem marked_structSteps (base : BaseType) (variant : Variant) :
    marked openings (ofSteps [] (structSteps base variant)) =
      ⟨[], structHeader variant⟩ ::
        variant.fields.map fun field => ⟨[structHeader variant], memberText base field⟩ := by
  simp only [structSteps, ofSteps, ofStep, ofSteps_map_line, marked_cons, marked_append]
  rw [marked_map_eq_self]
  · simp [isMarked_openings, structHeader_eq, memberText_eq]
  · simp [isMarked_openings]

theorem marked_constructorSteps (base : BaseType) (variant : Variant) (scope : List String) :
    marked openings (ofSteps scope (constructorSteps base variant)) =
      [⟨scope, constructorHeader base variant⟩] := by
  have initial : isMarked openings
      (initializer (variant.fields.map fun field => ident field.name)) = false := by
    cases variant.fields <;> simp [initializer, isMarked, openings]
  simp [constructorSteps, initial, isMarked_openings, constructorHeader_eq]

/-- The marked lines that a variant adds: its struct with the members, and two methods. -/
def variantLines (base : BaseType) (variant : Variant) : List Entry :=
  ⟨[], structHeader variant⟩ ::
    (variant.fields.map fun field => ⟨[structHeader variant], memberText base field⟩) ++
    [⟨[implHeader variant.name], constructorHeader base variant⟩,
      ⟨[implHeader variant.name], acceptHeader "visitor"⟩,
      ⟨[acceptHeader "visitor", implHeader variant.name], callText base variant⟩]

theorem marked_variantSteps (base : BaseType) (variant : Variant) :
    marked openings (ofSteps [] (variantSteps base variant)) = variantLines base variant := by
  have frame : isMarked openings "" = false ∧ isMarked openings "\x7d" = false ∧
      isMarked openings (implHeader variant.name) = false ∧
      isMarked openings (callText base variant) = true := by
    simp [isMarked, openings, implHeader_eq, callText_eq]
  simp only [variantSteps, variantLines, acceptSteps, ← implHeader_eq, ← callText_eq, ofSteps,
    ofStep, ofSteps_append, marked_append, marked_cons, marked_nil, marked_structSteps,
    marked_constructorSteps, frame, isMarked_acceptHeader, if_true, Bool.false_eq_true, if_false,
    List.append_nil, List.cons_append, List.nil_append]

/-- The marked lines of a unit: the enum, its match, the trait, and what the variants add. -/
def unitLines (base : BaseType) : List Entry :=
  ⟨[], enumHeader base⟩ :: selectionLines base [implHeader base.name] ++ [⟨[], traitHeader⟩] ++
    base.variants.flatMap (variantLines base)

theorem marked_itemSteps {base : BaseType} (readable : base.Readable) :
    marked openings (ofSteps [] (itemSteps base)) = unitLines base := by
  have frame : isMarked openings "" = false ∧ isMarked openings "\x7d" = false ∧
      isMarked openings (implHeader base.name) = false := by
    simp [isMarked, openings, implHeader_eq]
  have nodes : marked openings (base.variants.flatMap fun variant =>
      ofSteps [] (.blank :: variantSteps base variant)) =
      base.variants.flatMap (variantLines base) := by
    refine marked_flatMap fun variant _ => ?_
    rw [ofSteps, marked_append, marked_variantSteps]
    simp [frame]
  rw [itemSteps, ofSteps_append, ofSteps_append, ofSteps_append, ofSteps_append, ofSteps_flatMap,
    marked_append, marked_append, marked_append, marked_append, nodes, marked_enumSteps readable,
    marked_dispatchSteps, ← implHeader_eq, unitLines]
  simp only [ofSteps, ofStep, marked_append, marked_cons, marked_nil, marked_enumAcceptSteps, frame,
    Bool.false_eq_true, if_false, List.append_nil, List.nil_append, List.singleton_append]

theorem read_unitText {imports : List String}
    (ofImports : ∀ name ∈ imports, NodeGen.Unbroken name) {base : BaseType}
    (readable : base.Readable) :
    read (unitText imports base) =
      ofSteps [] (headSteps imports base) ++ ofSteps [] (itemSteps base) := by
  rw [unitText, read_render margin_spaces (stepsLegible_unitSteps ofImports readable),
    unitSteps_eq, ← headSteps, ofSteps_append]

theorem starting_unitText {imports : List String}
    (ofImports : ∀ name ∈ imports, NodeGen.Unbroken name) {base : BaseType}
    (readable : base.Readable) {opening : String} (known : isMarked openings opening = true) :
    starting opening (read (unitText imports base)) = starting opening (unitLines base) := by
  rw [← starting_marked known, read_unitText ofImports readable, marked_append, marked_headSteps,
    marked_itemSteps readable, List.nil_append]

/-- A member is no item, even where the field has the name of a kind of items. -/
theorem not_startsWith_memberText (base : BaseType) {field : Field} (readable : field.Readable)
    {kind : String} (letters : Name.isIdentifier kind = true) :
    (memberText base field).startsWith ("pub " ++ kind ++ " ") = false := by
  -- Both go on with a run of identifier characters, which ends at a blank or at a colon.
  have differ : ¬kind.toList ++ ' ' :: [] <+: (ident field.name).toList ++
      ':' :: (" " ++ typeText base.name field.type ++ ",").toList :=
    Name.not_prefix_of_marks (fun _ => isIdentChar_of_mem letters)
      (fun _ => isIdentChar_of_mem_ident readable.name) (by decide) (by decide) (by decide)
  rw [memberText_eq, parameterText_eq]
  simpa using differ

theorem starting_variantLines (base : BaseType) {variant : Variant} (readable : variant.Readable) :
    starting "pub enum " (variantLines base variant) = [] ∧
    starting "pub struct " (variantLines base variant) = [⟨[], structHeader variant⟩] ∧
    starting "pub trait " (variantLines base variant) = [] ∧
    starting "visitor." (variantLines base variant) =
      [⟨[acceptHeader "visitor", implHeader variant.name], callText base variant⟩] ∧
    starting "match " (variantLines base variant) = [] ∧
    starting "Self::" (variantLines base variant) = [] := by
  have members (kind : String) (letters : Name.isIdentifier kind = true) :
      marked ["pub " ++ kind ++ " "] (variant.fields.map fun field =>
        ⟨[structHeader variant], memberText base field⟩) = [] := by
    refine marked_map_eq_nil fun field inside => ?_
    rw [isMarked_singleton]
    exact not_startsWith_memberText base (readable.fields field inside) letters
  have noEnum := members "enum" (by decide)
  have noStruct := members "struct" (by decide)
  have noTrait := members "trait" (by decide)
  simp [structHeader_eq, memberText_eq] at noEnum noStruct noTrait
  simp [starting, variantLines, structHeader_eq, constructorHeader_eq, acceptHeader_eq, callText_eq,
    noEnum, noStruct, noTrait, memberText_eq, marked_map_eq_nil]

theorem starting_selectionLines (base : BaseType) (scope : List String) :
    starting "pub enum " (selectionLines base scope) = [] ∧
    starting "pub struct " (selectionLines base scope) = [] ∧
    starting "pub trait " (selectionLines base scope) = [] ∧
    starting "visitor." (selectionLines base scope) = [] ∧
    starting "match " (selectionLines base scope) =
      [if base.variants.isEmpty then ⟨acceptHeader "_visitor" :: scope, "match *self \x7b\x7d"⟩
      else ⟨acceptHeader "visitor" :: scope, "match self \x7b"⟩] ∧
    starting "Self::" (selectionLines base scope) =
      base.variants.map fun variant =>
        ⟨"match self \x7b" :: acceptHeader "visitor" :: scope, armText variant⟩ := by
  rw [selectionLines]
  split
  · rename_i empty
    simp [starting, List.isEmpty_iff.mp empty, acceptHeader_eq]
  · simp [starting, acceptHeader_eq, armText_eq, marked_map_eq_nil, marked_map_eq_self]

theorem starting_unitLines {base : BaseType} (readable : base.Readable) :
    starting "pub enum " (unitLines base) = [⟨[], enumHeader base⟩] ∧
    starting "pub struct " (unitLines base) =
      (base.variants.map fun variant => ⟨[], structHeader variant⟩) ∧
    starting "pub trait " (unitLines base) = [⟨[], traitHeader⟩] ∧
    starting "visitor." (unitLines base) =
      (base.variants.map fun variant =>
        ⟨[acceptHeader "visitor", implHeader variant.name], callText base variant⟩) ∧
    starting "match " (unitLines base) =
      [if base.variants.isEmpty then
        ⟨[acceptHeader "_visitor", implHeader base.name], "match *self \x7b\x7d"⟩
      else ⟨[acceptHeader "visitor", implHeader base.name], "match self \x7b"⟩] ∧
    starting "Self::" (unitLines base) =
      base.variants.map fun variant =>
        ⟨["match self \x7b", acceptHeader "visitor", implHeader base.name], armText variant⟩ := by
  have one (variant : Variant) (inside : variant ∈ base.variants) :=
    starting_variantLines base (readable.variants variant inside)
  -- As for classes, but here the lines of a variant are known for readable fields only.
  have nodes {opening : String} {found : Variant → List Entry} (each : ∀ variant ∈ base.variants,
      starting opening (variantLines base variant) = found variant) :
      starting opening (base.variants.flatMap (variantLines base)) = base.variants.flatMap found :=
    marked_flatMap each
  obtain ⟨noEnum, noStruct, noTrait, noCall, selection, arms⟩ :=
    starting_selectionLines base [implHeader base.name]
  rw [unitLines, ← List.singleton_append]
  simp only [starting_append, noEnum, noStruct, noTrait, noCall, selection, arms]
  rw [nodes fun variant inside => (one variant inside).1,
    nodes fun variant inside => (one variant inside).2.1,
    nodes fun variant inside => (one variant inside).2.2.1,
    nodes fun variant inside => (one variant inside).2.2.2.1,
    nodes fun variant inside => (one variant inside).2.2.2.2.1,
    nodes fun variant inside => (one variant inside).2.2.2.2.2]
  simp [starting, enumHeader_eq, traitHeader, List.map_eq_flatMap]

/-- The text holds one enum for the base type and one struct for each variant, side by side. -/
structure Declares (base : BaseType) (source : String) : Prop where
  whole : starting "pub enum " (read source) = [⟨[], enumHeader base⟩]
  nodes : starting "pub struct " (read source) =
    base.variants.map fun variant => ⟨[], structHeader variant⟩

theorem declares_unitText {imports : List String}
    (ofImports : ∀ name ∈ imports, NodeGen.Unbroken name) {base : BaseType}
    (readable : base.Readable) : Declares base (unitText imports base) := by
  obtain ⟨whole, nodes, -⟩ := starting_unitLines readable
  constructor
  · rw [starting_unitText ofImports readable (by simp [isMarked_openings]), whole]
  · rw [starting_unitText ofImports readable (by simp [isMarked_openings]), nodes]

end Rust

/-- The form that declarations take in the target's text. -/
def Declares : Target → BaseType → String → Prop
  | .java _ _ => Java.Declares
  | .rust _ => Rust.Declares

theorem declares_unitText {target : Target} (copied : target.Unbroken) {base : BaseType}
    (readable : base.Readable) : target.Declares base (target.unitText base) := by
  cases target with
  | java package imports => exact Java.declares_unitText copied.1 copied.2 readable
  | rust imports => exact Rust.declares_unitText copied readable

end NodeGen.Target
