import NodeGen.Proofs.Target.Dispatch
import NodeGen.Proofs.Target.Linkage

/-! The names that a unit declares, scope by scope. The lines that stand directly in a block can be
read off the steps that a text is laid out from, and of each line the name behind the words that
open a declaration. What the types of fields hold does not matter to these names. -/

set_option autoImplicit false

namespace NodeGen

namespace Outline

/-! ### Lines directly in a block -/

mutual

@[simp] def surfaceStep : Step → List String
  | .line text => [text]
  | .blank => [""]
  | .indented body => surface body
  | .block opening closing _ => [opening, closing]

/-- The lines of steps without those inside their blocks. -/
@[simp] def surface : List Step → List String
  | [] => []
  | step :: rest => surfaceStep step ++ surface rest

end

mutual

@[simp] def insideStep (header : String) : Step → List String
  | .line _ | .blank => []
  | .indented body => inside header body
  | .block opening _ body => if opening = header then surface body else []

/-- The lines directly in the blocks that a header opens. -/
@[simp] def inside (header : String) : List Step → List String
  | [] => []
  | step :: rest => insideStep header step ++ inside header rest

end

@[simp] theorem surface_append (first rest : List Step) :
    surface (first ++ rest) = surface first ++ surface rest := by
  induction first with
  | nil => rfl
  | cons step first ih => simp [ih]

@[simp] theorem inside_append (header : String) (first rest : List Step) :
    inside header (first ++ rest) = inside header first ++ inside header rest := by
  induction first with
  | nil => rfl
  | cons step first ih => simp [ih]

@[simp] theorem surface_map_line {Item : Type} (text : Item → String) (items : List Item) :
    surface (items.map fun item => .line (text item)) = items.map text := by
  induction items with
  | nil => rfl
  | cons item rest ih => simp [ih]

@[simp] theorem inside_map_line {Item : Type} (header : String) (text : Item → String)
    (items : List Item) : inside header (items.map fun item => .line (text item)) = [] := by
  induction items with
  | nil => rfl
  | cons item rest ih => simp [ih]

@[simp] theorem surface_flatMap {Item : Type} (steps : Item → List Step) (items : List Item) :
    surface (items.flatMap steps) = items.flatMap fun item => surface (steps item) := by
  induction items with
  | nil => rfl
  | cons item rest ih => simp [ih]

@[simp] theorem inside_flatMap {Item : Type} (header : String) (steps : Item → List Step)
    (items : List Item) :
    inside header (items.flatMap steps) = items.flatMap fun item => inside header (steps item) := by
  induction items with
  | nil => rfl
  | cons item rest ih => simp [ih]

-- A line inside a block has a longer scope than the block itself, so length tells them apart.
mutual

theorem within_ofStep_self (scope : List String) :
    (step : Step) → within scope (ofStep scope step) = surfaceStep step
  | .line text => by simp
  | .blank => by simp
  | .indented body => within_ofSteps_self scope body
  | .block opening closing body => by
    have deeper : ¬opening :: scope <:+ scope := by
      intro suffix
      have short := suffix.length_le
      simp only [List.length_cons] at short
      omega
    simp [within_ofSteps_eq_nil deeper]

theorem within_ofSteps_self (scope : List String) :
    (steps : List Step) → within scope (ofSteps scope steps) = surface steps
  | [] => rfl
  | step :: rest => by
    rw [ofSteps, within_append, within_ofStep_self scope step, within_ofSteps_self scope rest,
      surface]

end

mutual

theorem within_ofStep_block (header : String) (scope : List String) :
    (step : Step) → within (header :: scope) (ofStep scope step) = insideStep header step
  | .line text => by simp
  | .blank => by simp
  | .indented body => within_ofSteps_block header scope body
  | .block opening closing body => by
    by_cases same : opening = header
    · subst same
      simp [within_ofSteps_self]
    · have beside : ¬opening :: scope <:+ header :: scope := by
        intro suffix
        exact same (List.cons.inj (suffix.eq_of_length rfl)).1
      simp [same, within_ofSteps_eq_nil beside]

theorem within_ofSteps_block (header : String) (scope : List String) :
    (steps : List Step) → within (header :: scope) (ofSteps scope steps) = inside header steps
  | [] => rfl
  | step :: rest => by
    rw [ofSteps, within_append, within_ofStep_block header scope step,
      within_ofSteps_block header scope rest, inside]

end

/-! ### Names in lines -/

/-- The name behind an opening, up to the first character that no name holds. -/
def nameAfter (opening line : String) : Option String :=
  if line.startsWith opening then
    some (String.ofList ((line.toList.drop opening.length).takeWhile Target.Rust.isIdentChar))
  else none

def namesAfter (opening : String) (lines : List String) : List String :=
  lines.filterMap (nameAfter opening)

/-- The names that lines declare, where a declaration begins with one of the openings. -/
@[simp] def declared (openings lines : List String) : List String :=
  openings.flatMap fun opening => namesAfter opening lines

theorem nameAfter_eq_some {opening name line : String} (mark : Char) (rest : List Char)
    (shape : line.toList = opening.toList ++ (name.toList ++ mark :: rest))
    (chars : ∀ char ∈ name.toList, Target.Rust.isIdentChar char = true)
    (ends : Target.Rust.isIdentChar mark = false) : nameAfter opening line = some name := by
  have begins : line.startsWith opening = true := by
    rw [String.startsWith_string_iff, shape]
    exact List.prefix_append _ _
  have run : List.takeWhile Target.Rust.isIdentChar (name.toList ++ mark :: rest) = name.toList := by
    rw [List.takeWhile_append_of_pos chars]
    simp [ends]
  rw [nameAfter, if_pos begins, shape, ← String.length_toList, List.drop_left, run,
    String.ofList_toList]

theorem nameAfter_eq_none {opening line : String} (other : line.startsWith opening = false) :
    nameAfter opening line = none := by
  simp [nameAfter, other]

@[simp] theorem namesAfter_nil (opening : String) : namesAfter opening [] = [] :=
  rfl

theorem namesAfter_cons (opening line : String) (lines : List String) :
    namesAfter opening (line :: lines) =
      (nameAfter opening line).toList ++ namesAfter opening lines := by
  cases found : nameAfter opening line <;> simp [namesAfter, found]

theorem namesAfter_map_eq_nil {Item : Type} {opening : String} {text : Item → String}
    (other : ∀ item, (text item).startsWith opening = false) (items : List Item) :
    namesAfter opening (items.map text) = [] := by
  simp [namesAfter, nameAfter, other]

/-- One name for each item, when all of them are declared in the same form. -/
theorem namesAfter_map {Item : Type} {opening : String} {items : List Item}
    {text name : Item → String} (mark : Char) (rest : Item → List Char)
    (shape : ∀ item,
      (text item).toList = opening.toList ++ ((name item).toList ++ mark :: rest item))
    (chars : ∀ item ∈ items, ∀ char ∈ (name item).toList, Target.Rust.isIdentChar char = true)
    (ends : Target.Rust.isIdentChar mark = false) :
    namesAfter opening (items.map text) = items.map name := by
  induction items with
  | nil => rfl
  | cons item items ih =>
    obtain ⟨ofFirst, ofOthers⟩ := List.forall_mem_cons.mp chars
    rw [List.map_cons, namesAfter_cons, ih ofOthers,
      nameAfter_eq_some mark (rest item) (shape item) ofFirst ends]
    rfl

/-- Declarations can be looked for among the lines that begin as all of them do. -/
theorem namesAfter_of_filter {word opening : String} (known : opening.startsWith word)
    {lines found : List String} (only : lines.filter (·.startsWith word) = found) :
    namesAfter opening lines = namesAfter opening found := by
  rw [← only, namesAfter, namesAfter, List.filterMap_filter]
  refine List.filterMap_congr fun line _ => ?_
  cases begins : line.startsWith opening with
  | false => simp [nameAfter_eq_none begins]
  | true =>
    have leads : line.startsWith word = true := by
      rw [String.startsWith_string_iff] at known begins ⊢
      exact known.trans begins
    rw [if_pos leads]

end Outline

/-- Of lists that are kept for the items of one key, only that of the item is left. -/
theorem flatMap_ite_eq {Item Result : Type} {key : Item → String} {items : List Item}
    (distinct : (items.map key).Nodup) {item : Item} (member : item ∈ items)
    (results : Item → List Result) :
    (items.flatMap fun other => if key other = key item then results other else []) =
      results item := by
  have filtered : ∀ all : List Item,
      (all.flatMap fun other => if key other = key item then results other else []) =
        (all.filter fun other => key other = key item).flatMap results := by
    intro all
    induction all with
    | nil => rfl
    | cons first rest ih => by_cases same : key first = key item <;> simp [same, ih]
  rw [filtered, filter_eq_singleton distinct member, List.flatMap_singleton]

namespace Target

open Outline

/-- The steps that the text of a unit is laid out from. -/
def steps : Target → BaseType → List Step
  | .java package imports => Java.unitSteps package imports
  | .rust imports => Rust.unitSteps imports

def margin : Target → String
  | .java _ _ => "\t"
  | .rust _ => "    "

theorem unitText_eq (target : Target) (base : BaseType) :
    target.unitText base = Layout.render target.margin (target.steps base) := by
  cases target <;> rfl

theorem read_unitText {target : Target} (copied : target.Unbroken) {base : BaseType}
    (readable : base.Readable) : read (target.unitText base) = ofSteps [] (target.steps base) := by
  rw [unitText_eq]
  cases target with
  | java package imports =>
    exact read_render margin_tab (Java.stepsLegible_unitSteps copied.1 copied.2 readable)
  | rust imports => exact read_render margin_spaces (Rust.stepsLegible_unitSteps copied readable)

namespace Java

theorem filter_headSteps (package : Option String) (imports : List String) (base : BaseType) :
    (surface (headSteps package imports base)).filter (·.startsWith "abstract class ") = [] := by
  have ofPackage :
      (surface (packageSteps package)).filter (·.startsWith "abstract class ") = [] := by
    cases package <;> simp [packageSteps]
  have ofImports (names : List String) :
      (surface (importSteps names)).filter (·.startsWith "abstract class ") = [] := by
    cases names <;> simp [importSteps]
  rw [headSteps, surface_append, surface_append, List.filter_append, List.filter_append, ofPackage,
    ofImports]
  simp

theorem declared_outer (package : Option String) (imports : List String) {base : BaseType}
    (named : Name.isIdentifier base.name = true) :
    declared ["abstract class "] (surface (unitSteps package imports base)) = [base.name] := by
  have ofClass : nameAfter "abstract class " (classHeader base) = some base.name :=
    nameAfter_eq_some ' ' ['\x7b'] (by simp [classHeader_eq])
      (fun _ => Rust.isIdentChar_of_mem named) (by decide)
  have lines : (surface (unitSteps package imports base)).filter (·.startsWith "abstract class ") =
      [classHeader base] := by
    rw [unitSteps_eq, surface_append, List.filter_append, filter_headSteps]
    simp [classStep, classHeader_eq]
  have found : namesAfter "abstract class " _ = _ := namesAfter_of_filter (by simp) lines
  simp [found, namesAfter_cons, ofClass]

theorem surface_bodySteps (base : BaseType) :
    surface (bodySteps base) =
      [visitorHeader, "\x7d", "", "abstract <R> R accept(Visitor<R> visitor);"] ++
        base.variants.flatMap fun variant => ["", nodeHeader base variant, "\x7d"] := by
  simp [bodySteps, dispatchSteps, variantSteps, visitorHeader, ← nodeHeader_eq]

theorem inside_classHeader (package : Option String) (imports : List String) (base : BaseType) :
    inside (classHeader base) (unitSteps package imports base) = surface (bodySteps base) := by
  have ofPackage : inside (classHeader base) (packageSteps package) = [] := by
    cases package <;> simp [packageSteps]
  have ofImports (names : List String) : inside (classHeader base) (importSteps names) = [] := by
    cases names <;> simp [importSteps]
  simp [unitSteps_eq, headSteps, ofPackage, ofImports, classStep, ← classHeader_eq]

theorem declared_inner (package : Option String) (imports : List String) {base : BaseType}
    (variants : ∀ variant ∈ base.variants, Name.isIdentifier variant.name = true) :
    declared ["interface ", "static class "]
        (inside (classHeader base) (unitSteps package imports base)) =
      "Visitor" :: base.variants.map (·.name) := by
  have ofVisitor : nameAfter "interface " visitorHeader = some "Visitor" :=
    nameAfter_eq_some '<' "R> \x7b".toList (by simp [visitorHeader])
      (fun _ => Rust.isIdentChar_of_mem (by decide)) (by decide)
  have ofNodes : namesAfter "static class " (base.variants.map (nodeHeader base)) =
      base.variants.map (·.name) :=
    namesAfter_map ' ' (fun _ => ("extends " ++ base.name ++ " \x7b").toList)
      (by simp [nodeHeader_eq])
      (fun variant inside _ => Rust.isIdentChar_of_mem (variants variant inside)) (by decide)
  have visitor : (surface (bodySteps base)).filter (·.startsWith "interface ") =
      [visitorHeader] := by
    simp [surface_bodySteps, List.filter_flatMap, nodeHeader_eq, visitorHeader]
  have nodes : (surface (bodySteps base)).filter (·.startsWith "static class ") =
      base.variants.map (nodeHeader base) := by
    simp [surface_bodySteps, List.filter_flatMap, nodeHeader_eq, visitorHeader, List.map_eq_flatMap]
  have foundVisitor : namesAfter "interface " _ = _ := namesAfter_of_filter (by simp) visitor
  have foundNodes : namesAfter "static class " _ = _ := namesAfter_of_filter (by simp) nodes
  rw [inside_classHeader]
  simp [foundVisitor, foundNodes, namesAfter_cons, ofVisitor, ofNodes]

end Java

namespace Rust

/-- The kinds of blocks that stand directly in a module. -/
inductive ItemKind where
  | enum
  | trait
  | struct
  | impl

def blockHeader : ItemKind → String → String
  | .enum, name => "pub enum " ++ name ++ " \x7b"
  | .trait, name => "pub trait " ++ name ++ "<R> \x7b"
  | .struct, name => "pub struct " ++ name ++ " \x7b"
  | .impl, name => "impl " ++ name ++ " \x7b"

theorem blockHeader_inj {kind other : ItemKind} {name called : String} :
    blockHeader kind name = blockHeader other called ↔ kind = other ∧ name = called := by
  cases kind <;> cases other <;> simp [blockHeader, ← String.toList_inj]

theorem surface_importSteps (imports : List String) :
    surface (importSteps imports) =
      if imports = [] then [] else (imports.map fun name => "use " ++ name ++ ";") ++ [""] := by
  cases imports <;> simp [importSteps]

theorem inside_importSteps (header : String) (imports : List String) :
    inside header (importSteps imports) = [] := by
  cases imports <;> simp [importSteps]

theorem surface_unitSteps (imports : List String) (base : BaseType) :
    surface (unitSteps imports base) =
      surface (headSteps imports base) ++
        [enumHeader base, "\x7d", "", implHeader base.name, "\x7d", "", traitHeader, "\x7d"] ++
        base.variants.flatMap fun variant =>
          ["", structHeader variant, "\x7d", "", implHeader variant.name, "\x7d"] := by
  simp only [unitSteps, headSteps, enumSteps, dispatchSteps, variantSteps, structSteps,
    surface_append, surface_flatMap, surface, surfaceStep, List.append_assoc, List.append_nil,
    List.nil_append, List.cons_append]
  rfl

theorem inside_variantSteps (header : String) (base : BaseType) (variant : Variant) :
    inside header (variantSteps base variant) =
      (if structHeader variant = header then variant.fields.map (memberText base) else []) ++
      (if implHeader variant.name = header then
        [constructorHeader base variant, "\x7d", "", acceptHeader "visitor", "\x7d"]
      else []) := by
  simp only [variantSteps, structSteps, constructorSteps, acceptSteps, inside, insideStep, surface,
    surfaceStep, surface_map_line, List.append_nil, List.cons_append, List.nil_append]
  rfl

theorem inside_unitSteps (header : String) (imports : List String) (base : BaseType) :
    inside header (unitSteps imports base) =
      (if blockHeader .enum base.name = header then
        base.variants.map fun variant => variant.name ++ "(" ++ variant.name ++ "),"
      else []) ++
      (if blockHeader .impl base.name = header then surface (enumAcceptSteps base) else []) ++
      (if blockHeader .trait "Visitor" = header then
        surface (base.variants.map (dispatchLine base))
      else []) ++
      base.variants.flatMap fun variant =>
        (if blockHeader .struct variant.name = header then variant.fields.map (memberText base)
        else []) ++
        (if blockHeader .impl variant.name = header then
          [constructorHeader base variant, "\x7d", "", acceptHeader "visitor", "\x7d"]
        else []) := by
  simp only [unitSteps, enumSteps, dispatchSteps, inside_variantSteps, inside_append,
    inside_importSteps, inside_flatMap, inside, insideStep, surface_map_line, List.append_nil,
    List.nil_append]
  rfl

theorem items_unitSteps (imports : List String) (base : BaseType) :
    (surface (unitSteps imports base)).filter (·.startsWith "pub ") =
      enumHeader base :: traitHeader :: base.variants.map structHeader := by
  have head : (surface (headSteps imports base)).filter (·.startsWith "pub ") = [] := by
    rw [headSteps, surface_append, surface_importSteps]
    split <;> simp
  have items : ∀ base : BaseType, (enumHeader base).startsWith "pub " = true := by
    simp [enumHeader_eq]
  have nodes : ∀ variant, (structHeader variant).startsWith "pub " = true := by
    simp [structHeader_eq]
  have blocks : ∀ name, (implHeader name).startsWith "pub " = false := by
    simp [implHeader_eq]
  rw [surface_unitSteps, List.filter_append, List.filter_append, head, List.filter_flatMap]
  simp [items, nodes, blocks, traitHeader, List.map_eq_flatMap]

theorem declared_items (imports : List String) {base : BaseType}
    (named : Name.isIdentifier base.name = true)
    (variants : ∀ variant ∈ base.variants, Name.isIdentifier variant.name = true) :
    declared ["pub enum ", "pub trait ", "pub struct "] (surface (unitSteps imports base)) =
      base.name :: "Visitor" :: base.variants.map (·.name) := by
  have ofEnum : nameAfter "pub enum " (enumHeader base) = some base.name :=
    nameAfter_eq_some ' ' ['\x7b'] (by simp [enumHeader_eq]) (fun _ => isIdentChar_of_mem named)
      (by decide)
  have ofTrait : nameAfter "pub trait " traitHeader = some "Visitor" :=
    nameAfter_eq_some '<' "R> \x7b".toList (by simp [traitHeader])
      (fun _ => isIdentChar_of_mem (by decide)) (by decide)
  have ofStructs : namesAfter "pub struct " (base.variants.map structHeader) =
      base.variants.map (·.name) :=
    namesAfter_map ' ' (fun _ => ['\x7b']) (by simp [structHeader_eq])
      (fun variant inside _ => isIdentChar_of_mem (variants variant inside)) (by decide)
  -- Each of the three kinds is looked for among all items, and the other two are passed over.
  have notTrait : nameAfter "pub enum " traitHeader = none ∧
      nameAfter "pub struct " traitHeader = none := by
    constructor <;> exact nameAfter_eq_none (by simp [traitHeader])
  have notEnum : nameAfter "pub trait " (enumHeader base) = none ∧
      nameAfter "pub struct " (enumHeader base) = none := by
    constructor <;> exact nameAfter_eq_none (by simp [enumHeader_eq])
  have notStruct : namesAfter "pub enum " (base.variants.map structHeader) = [] ∧
      namesAfter "pub trait " (base.variants.map structHeader) = [] := by
    constructor <;> exact namesAfter_map_eq_nil (by simp [structHeader_eq]) _
  have found {opening : String} (known : opening.startsWith "pub ") :=
    namesAfter_of_filter known (items_unitSteps imports base)
  simp [found, namesAfter_cons, ofEnum, ofTrait, ofStructs, notTrait, notEnum, notStruct]

theorem inside_enumHeader (imports : List String) (base : BaseType) :
    inside (enumHeader base) (unitSteps imports base) =
      base.variants.map fun variant => variant.name ++ "(" ++ variant.name ++ ")," := by
  change inside (blockHeader .enum base.name) _ = _
  simp [inside_unitSteps, blockHeader_inj]

theorem declared_constructors (imports : List String) {base : BaseType}
    (variants : ∀ variant ∈ base.variants, Name.isIdentifier variant.name = true) :
    declared [""] (inside (enumHeader base) (unitSteps imports base)) =
      base.variants.map (·.name) := by
  have found : namesAfter "" (base.variants.map fun variant =>
      variant.name ++ "(" ++ variant.name ++ "),") = base.variants.map (·.name) :=
    namesAfter_map '(' (fun variant => (variant.name ++ "),").toList) (by simp)
      (fun variant inside _ => isIdentChar_of_mem (variants variant inside)) (by decide)
  simp [inside_enumHeader, found]

theorem inside_traitHeader (imports : List String) (base : BaseType) :
    inside traitHeader (unitSteps imports base) =
      base.variants.map fun variant => "fn " ++ methodName base.name variant.name ++
        "(&mut self, " ++ ident base.name ++ ": &" ++ variant.name ++ ") -> R;" := by
  have methods : surface (base.variants.map (dispatchLine base)) = _ := surface_map_line _ _
  change inside (blockHeader .trait "Visitor") _ = _
  simp [inside_unitSteps, blockHeader_inj, methods]

theorem inside_structHeader (imports : List String) {base : BaseType}
    (distinct : (base.variants.map (·.name)).Nodup) {variant : Variant}
    (member : variant ∈ base.variants) :
    inside (structHeader variant) (unitSteps imports base) =
      variant.fields.map (memberText base) := by
  have chosen := flatMap_ite_eq distinct member fun other => other.fields.map (memberText base)
  change inside (blockHeader .struct variant.name) _ = _
  simpa [inside_unitSteps, blockHeader_inj] using chosen

theorem inside_implHeader (imports : List String) {base : BaseType}
    (distinct : (base.variants.map (·.name)).Nodup) {variant : Variant}
    (member : variant ∈ base.variants) (apart : variant.name ≠ base.name) :
    inside (implHeader variant.name) (unitSteps imports base) =
      [constructorHeader base variant, "\x7d", "", acceptHeader "visitor", "\x7d"] := by
  have chosen := flatMap_ite_eq distinct member fun other =>
    [constructorHeader base other, "\x7d", "", acceptHeader "visitor", "\x7d"]
  change inside (blockHeader .impl variant.name) _ = _
  simpa [inside_unitSteps, blockHeader_inj, Ne.symm apart] using chosen

end Rust

end Target

end NodeGen
