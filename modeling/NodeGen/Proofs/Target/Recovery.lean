import NodeGen.Proofs.Target.Declarations

/-! The text of a unit determines what it was generated from. The name of the base type stands in
the first line; what every unit of a target has in common is cancelled; the marked lines of the rest
fall into one block for each variant, and in each line of a member the name and the type come apart
at a character that names do not hold. Scalars may hold anything but a line break. -/

set_option autoImplicit false

namespace NodeGen

/-! ### Cutting lists -/

section Cutting

variable {Item : Type} {isHead : Item → Bool}

/-- Two lists come apart at their first heads in the same way. -/
theorem append_inj_of_heads {first second rest other : List Item}
    (ofFirst : ∀ item ∈ first, isHead item = false)
    (ofSecond : ∀ item ∈ second, isHead item = false)
    (ofRest : ∀ item ∈ rest.head?, isHead item = true)
    (ofOther : ∀ item ∈ other.head?, isHead item = true)
    (same : first ++ rest = second ++ other) : first = second ∧ rest = other := by
  induction first generalizing second with
  | nil =>
    cases second with
    | nil => exact ⟨rfl, same⟩
    | cons item second =>
      -- One list has no head here and the other begins with one.
      have head := ofRest item (by rw [← List.nil_append rest, same]; rfl)
      rw [ofSecond item List.mem_cons_self] at head
      cases head
  | cons item first ih =>
    cases second with
    | nil =>
      have head := ofOther item (by rw [← List.nil_append other, ← same]; rfl)
      rw [ofFirst item List.mem_cons_self] at head
      cases head
    | cons next second =>
      obtain ⟨rfl, later⟩ := List.cons.inj same
      obtain ⟨rfl, rests⟩ := ih (fun item member => ofFirst item (List.mem_cons_of_mem _ member))
        (fun item member => ofSecond item (List.mem_cons_of_mem _ member)) later
      exact ⟨rfl, rests⟩

/-- A head and what belongs to it. -/
def IsBlock (isHead : Item → Bool) (block : List Item) : Prop :=
  ∃ head tail, block = head :: tail ∧ isHead head = true ∧ ∀ item ∈ tail, isHead item = false

theorem isHead_of_head?_flatten {blocks : List (List Item)}
    (all : ∀ block ∈ blocks, IsBlock isHead block) :
    ∀ item ∈ blocks.flatten.head?, isHead item = true := by
  cases blocks with
  | nil => simp
  | cons block rest =>
    obtain ⟨head, tail, rfl, leads, -⟩ := all block List.mem_cons_self
    simpa using leads

/-- Blocks can be found again in what they are joined to. -/
theorem flatten_inj_of_blocks {first second : List (List Item)}
    (ofFirst : ∀ block ∈ first, IsBlock isHead block)
    (ofSecond : ∀ block ∈ second, IsBlock isHead block)
    (same : first.flatten = second.flatten) : first = second := by
  induction first generalizing second with
  | nil =>
    cases second with
    | nil => rfl
    | cons block rest =>
      obtain ⟨head, tail, rfl, -⟩ := ofSecond block List.mem_cons_self
      simp at same
  | cons block rest ih =>
    obtain ⟨head, tail, rfl, -, inside⟩ := ofFirst block List.mem_cons_self
    cases second with
    | nil => simp at same
    | cons other others =>
      obtain ⟨leader, follow, rfl, -, within⟩ := ofSecond other List.mem_cons_self
      have ofRest : ∀ block ∈ rest, IsBlock isHead block :=
        fun block member => ofFirst block (List.mem_cons_of_mem _ member)
      have ofOthers : ∀ block ∈ others, IsBlock isHead block :=
        fun block member => ofSecond block (List.mem_cons_of_mem _ member)
      simp only [List.flatten_cons, List.cons_append, List.cons.injEq] at same
      obtain ⟨rfl, tails⟩ := same
      -- The first blocks have one head, and both end where the next head stands.
      obtain ⟨rfl, rests⟩ := append_inj_of_heads inside within (isHead_of_head?_flatten ofRest)
        (isHead_of_head?_flatten ofOthers) tails
      rw [ih ofRest ofOthers rests]

end Cutting

/-- Texts come apart at the first mark. -/
theorem append_inj_of_mark {mark : Char} {first second rest other : List Char}
    (ofFirst : mark ∉ first) (ofSecond : mark ∉ second)
    (same : first ++ mark :: rest = second ++ mark :: other) : first = second ∧ rest = other := by
  have plain {text : List Char} (free : mark ∉ text) : ∀ char ∈ text, (char == mark) = false := by
    intro char member
    rw [beq_eq_false_iff_ne]
    rintro rfl
    exact free member
  obtain ⟨starts, rests⟩ := append_inj_of_heads (plain ofFirst) (plain ofSecond) (by simp)
    (by simp) same
  exact ⟨starts, (List.cons.inj rests).2⟩

theorem Layout.render_append (unit : String) (first rest : List Step) :
    render unit (first ++ rest) = render unit first ++ render unit rest := by
  rw [render, lines_append, renderLines_append]
  rfl

/-- What is looked for first in a run of lines is the head of a block, when it comes only once. -/
theorem Outline.isBlock_of_starting {opening : String} {entry : Entry} {rest : List Entry}
    (one : starting opening (entry :: rest) = [entry]) :
    IsBlock (·.text.startsWith opening) (entry :: rest) := by
  have found : entry ∈ starting opening (entry :: rest) := by simp [one]
  have leads : entry.text.startsWith opening = true := by
    simpa [starting, marked] using (List.mem_filter.mp found).2
  refine ⟨entry, rest, rfl, leads, ?_⟩
  have alone : starting opening rest = [] := by
    simpa [starting, leads] using one
  exact starting_eq_nil_iff.mp alone

namespace Target

open Outline

/-- What the text shows of a field: its name and its type, as they are written. -/
def shown : Target → BaseType → Field → String × String
  | .java _ _, _, field => (field.name, Java.typeText field.type)
  | .rust _, base, field => (Rust.ident field.name, Rust.typeText base.name field.type)

namespace Java

/-- A name holds no blank, so the last blank of a member stands before its name. -/
theorem eq_of_memberText {first second : Field}
    (ofFirst : Name.isIdentifier first.name = true)
    (ofSecond : Name.isIdentifier second.name = true)
    (same : memberText first = memberText second) :
    first.name = second.name ∧ typeText first.type = typeText second.type := by
  have free {name : String} (identifier : Name.isIdentifier name = true) :
      ' ' ∉ name.toList.reverse := by
    rw [List.mem_reverse]
    exact Name.notMem_of_isIdentifier identifier (by decide)
  -- Read backwards, a member is its name, a blank, and then everything before the name.
  have turned := congrArg (fun text : String => text.toList.reverse) same
  simp only [memberText_eq, parameterText_eq, String.toList_append, String.reduceToList,
    List.reverse_append, List.reverse_cons, List.reverse_nil, List.nil_append, List.cons_append,
    List.append_assoc, List.cons.injEq, true_and] at turned
  obtain ⟨names, types⟩ := append_inj_of_mark (free ofFirst) (free ofSecond) turned
  exact ⟨String.toList_injective (List.reverse_injective names),
    String.toList_injective (List.reverse_injective (List.append_cancel_right types))⟩

theorem unitText_eq (package : Option String) (imports : List String) (base : BaseType) :
    unitText package imports base =
      "// Generated by ast-gen from the `" ++ base.name ++ "` schema. Do not edit.\n\n" ++
        (Layout.render "\t" (packageSteps package) ++
          (Layout.render "\t" (importSteps (importsFor imports base)) ++
            Layout.render "\t" [classStep base])) := by
  rw [unitText, unitSteps_eq, headSteps, Layout.render_append, Layout.render_append,
    Layout.render_append]
  have comment : Layout.render "\t" [.line ("// Generated by ast-gen from the `" ++ base.name ++
      "` schema. Do not edit."), .blank] =
      "// Generated by ast-gen from the `" ++ base.name ++ "` schema. Do not edit.\n\n" := by
    simp [Layout.render, Layout.lines, Layout.stepLines, Layout.renderLines, Layout.Line.render,
      String.append_assoc]
  rw [comment]
  simp only [String.append_assoc]

theorem exists_classText (base : BaseType) :
    ∃ rest, Layout.render "\t" [classStep base] = "abstract class " ++ rest := by
  refine ⟨base.name ++ " \x7b\n" ++ Layout.renderLines "\t"
    (Layout.lines 1 (bodySteps base) ++ [⟨0, "\x7d"⟩]), ?_⟩
  simp [Layout.render, Layout.lines, Layout.stepLines, Layout.renderLines, Layout.Line.render,
    classStep, String.append_assoc]

def importLine (name : String) : Step :=
  .line ("import " ++ name ++ ";")

theorem importSteps_eq (names : List String) :
    importSteps names = names.map importLine ++ if names = [] then [] else [.blank] := by
  cases names with
  | nil => rfl
  | cons first rest => rfl

/-- The text shows whether the import for lists was added. -/
theorem importText_ne (names : List String) (first second : BaseType) :
    Layout.render "\t" (importSteps (names ++ [listImport])) ++
        Layout.render "\t" [classStep first] ≠
      Layout.render "\t" (importSteps names) ++ Layout.render "\t" [classStep second] := by
  intro same
  obtain ⟨ofFirst, left⟩ := exists_classText first
  obtain ⟨ofSecond, right⟩ := exists_classText second
  rw [importSteps_eq, importSteps_eq, List.map_append, left, right] at same
  simp only [Layout.render_append, String.append_assoc] at same
  have rests := congrArg String.toList same
  simp only [String.toList_append, List.append_cancel_left_eq] at rests
  -- After the imports that both texts have, one goes on with an import and the other does not.
  by_cases empty : names = []
  · simp [empty, importLine, Layout.render, Layout.lines, Layout.stepLines, Layout.renderLines,
      Layout.Line.render] at rests
  · simp [empty, importLine, Layout.render, Layout.lines, Layout.stepLines, Layout.renderLines,
      Layout.Line.render] at rests

theorem distinct_append_singleton (texts : List String) (text : String) :
    Document.distinct (texts ++ [text]) =
      if text ∈ texts then Document.distinct texts else Document.distinct texts ++ [text] := by
  induction texts with
  | nil => simp [Document.distinct]
  | cons first rest ih =>
    rw [List.cons_append, Document.distinct, Document.distinct, ih]
    by_cases later : text ∈ rest
    · simp [later]
    · by_cases same : text = first
      · subst same
        simp [later]
      · simp [later, same]

theorem importsFor_cases (imports : List String) (first second : BaseType) :
    importsFor imports first = importsFor imports second ∨
      importsFor imports first = importsFor imports second ++ [listImport] ∨
      importsFor imports second = importsFor imports first ++ [listImport] := by
  have added := distinct_append_singleton imports listImport
  by_cases given : listImport ∈ imports
  · rw [if_pos given] at added
    cases ofFirst : usesList first <;> cases ofSecond : usesList second <;>
      simp [importsFor, ofFirst, ofSecond, added]
  · rw [if_neg given] at added
    cases ofFirst : usesList first <;> cases ofSecond : usesList second <;>
      simp [importsFor, ofFirst, ofSecond, added]

theorem classText_eq {imports : List String} {first second : BaseType}
    (same : Layout.render "\t" (importSteps (importsFor imports first)) ++
        Layout.render "\t" [classStep first] =
      Layout.render "\t" (importSteps (importsFor imports second)) ++
        Layout.render "\t" [classStep second]) :
    Layout.render "\t" [classStep first] = Layout.render "\t" [classStep second] := by
  -- The imports of two units differ at most in the one for lists, which shows in the text.
  obtain equal | more | fewer := importsFor_cases imports first second
  · rw [equal] at same
    simpa using same
  · rw [more] at same
    exact absurd same (importText_ne _ first second)
  · rw [fewer] at same
    exact absurd same.symm (importText_ne _ second first)

theorem eq_of_unitText {package : Option String} {imports : List String} {first second : BaseType}
    (ofFirst : first.Readable) (ofSecond : second.Readable)
    (same : unitText package imports first = unitText package imports second) :
    first.name = second.name ∧ unitLines first = unitLines second := by
  have texts := congrArg String.toList same
  simp only [unitText_eq, String.toList_append, List.append_assoc, List.append_cancel_left_eq]
    at texts
  have mark : "` schema. Do not edit.\n\n".toList =
      '\x60' :: " schema. Do not edit.\n\n".toList := by simp
  rw [mark, List.cons_append, List.cons_append] at texts
  -- The first line quotes the name of the base type, and names hold no quote.
  obtain ⟨names, rests⟩ := append_inj_of_mark
    (Name.notMem_of_isIdentifier ofFirst.name (by decide))
    (Name.notMem_of_isIdentifier ofSecond.name (by decide)) texts
  refine ⟨String.toList_injective names, ?_⟩
  have classes : Layout.render "\t" [classStep first] = Layout.render "\t" [classStep second] := by
    refine @classText_eq imports first second (String.toList_injective ?_)
    simpa using rests
  have lines {base : BaseType} (readable : base.Readable) :
      marked openings (read (Layout.render "\t" [classStep base])) = unitLines base := by
    have legible : StepsLegible [classStep base] := ⟨stepLegible_classStep readable, trivial⟩
    rw [read_render margin_tab legible, ofSteps, ofSteps, List.append_nil,
      marked_classStep readable]
  rw [← lines ofFirst, ← lines ofSecond, classes]

theorem forall₂_of_unitLines {first second : BaseType} (ofFirst : first.Readable)
    (ofSecond : second.Readable) (named : first.name = second.name)
    (same : unitLines first = unitLines second) :
    List.Forall₂ (fun left right => left.name = right.name ∧
        left.fields.map (fun field => (field.name, typeText field.type)) =
          right.fields.map fun field => (field.name, typeText field.type))
      first.variants second.variants := by
  have block (base : BaseType) : ∀ lines ∈ base.variants.map (variantLines base [classHeader base]),
      IsBlock (·.text.startsWith "static class ") lines := by
    intro lines member
    obtain ⟨variant, -, rfl⟩ := List.mem_map.mp member
    exact isBlock_of_starting (starting_variantLines base [classHeader base] variant).2.2.1
  have nodes := List.append_inj_right same rfl
  rw [List.flatMap_def, List.flatMap_def] at nodes
  have blocks := flatten_inj_of_blocks (block first) (block second) nodes
  refine .of_map_eq_map blocks ?_
  intro left inFirst right inSecond lines
  obtain ⟨headers, rests⟩ := List.cons.inj lines
  obtain ⟨members, -⟩ := List.append_inj' rests rfl
  constructor
  -- The header of a variant's class ends with the name of the base type, which is known by now.
  · simpa [nodeHeader_eq, named] using (Entry.mk.inj headers).2
  · have ofLeft := ofFirst.variants left inFirst
    have ofRight := ofSecond.variants right inSecond
    -- Members correspond line by line, and each line yields its name and its type.
    refine List.Forall₂.map_eq_map (.of_map_eq_map members ?_) fun _ _ => id
    intro field held other kept entries
    obtain ⟨names, types⟩ := eq_of_memberText (ofLeft.fields field held).name
      (ofRight.fields other kept).name (Entry.mk.inj entries).2
    rw [names, types]

end Java

namespace Rust

/-- An identifier holds no colon, so the first colon of a member stands behind its name. -/
theorem eq_of_memberText {base other : BaseType} {first second : Field}
    (ofFirst : Name.isIdentifier first.name = true)
    (ofSecond : Name.isIdentifier second.name = true)
    (same : memberText base first = memberText other second) :
    ident first.name = ident second.name ∧
      typeText base.name first.type = typeText other.name second.type := by
  have free {name : String} (identifier : Name.isIdentifier name = true) :
      ':' ∉ (ident name).toList := by
    intro member
    exact absurd (isIdentChar_of_mem_ident identifier member) (by decide)
  have texts := congrArg String.toList same
  simp only [memberText_eq, parameterText_eq, String.toList_append, String.reduceToList,
    List.cons_append, List.nil_append, List.append_assoc, List.cons.injEq, true_and] at texts
  obtain ⟨names, types⟩ := append_inj_of_mark (free ofFirst) (free ofSecond) texts
  exact ⟨String.toList_injective names,
    String.toList_injective (List.append_cancel_right (List.cons.inj types).2)⟩

theorem unitText_eq (imports : List String) (base : BaseType) :
    unitText imports base =
      "// @generated by ast-gen from the `" ++ base.name ++ "` schema. Do not edit.\n" ++
        (Layout.render "    "
            [.line "#![allow(clippy::new_without_default, clippy::too_many_arguments)]", .blank] ++
          (Layout.render "    " (importSteps imports) ++
            Layout.render "    " (itemSteps base))) := by
  have comment : Layout.render "    " [.line ("// @generated by ast-gen from the `" ++ base.name ++
      "` schema. Do not edit.")] =
      "// @generated by ast-gen from the `" ++ base.name ++ "` schema. Do not edit.\n" := by
    simp [Layout.render, Layout.lines, Layout.stepLines, Layout.renderLines, Layout.Line.render,
      String.append_assoc]
  rw [unitText, unitSteps_eq, ← comment, ← Layout.render_append, ← Layout.render_append,
    ← Layout.render_append]
  simp

theorem eq_of_unitText {imports : List String} {first second : BaseType}
    (ofFirst : first.Readable) (ofSecond : second.Readable)
    (same : unitText imports first = unitText imports second) :
    first.name = second.name ∧ unitLines first = unitLines second := by
  have texts := congrArg String.toList same
  simp only [unitText_eq, String.toList_append, List.append_assoc, List.append_cancel_left_eq]
    at texts
  have mark : "` schema. Do not edit.\n".toList =
      '\x60' :: " schema. Do not edit.\n".toList := by simp
  rw [mark, List.cons_append, List.cons_append] at texts
  obtain ⟨names, rests⟩ := append_inj_of_mark
    (Name.notMem_of_isIdentifier ofFirst.name (by decide))
    (Name.notMem_of_isIdentifier ofSecond.name (by decide)) texts
  refine ⟨String.toList_injective names, ?_⟩
  have items : Layout.render "    " (itemSteps first) = Layout.render "    " (itemSteps second) :=
    String.toList_injective (by simpa using rests)
  have lines {base : BaseType} (readable : base.Readable) :
      marked openings (read (Layout.render "    " (itemSteps base))) = unitLines base := by
    rw [read_render margin_spaces (stepsLegible_itemSteps readable), marked_itemSteps readable]
  rw [← lines ofFirst, ← lines ofSecond, items]

theorem forall₂_of_unitLines {first second : BaseType} (ofFirst : first.Readable)
    (ofSecond : second.Readable) (same : unitLines first = unitLines second) :
    List.Forall₂ (fun left right => left.name = right.name ∧
        left.fields.map (fun field => (ident field.name, typeText first.name field.type)) =
          right.fields.map fun field => (ident field.name, typeText second.name field.type))
      first.variants second.variants := by
  have block {base : BaseType} (readable : base.Readable) :
      ∀ lines ∈ base.variants.map (variantLines base),
        IsBlock (·.text.startsWith "pub struct ") lines := by
    intro lines member
    obtain ⟨variant, inside, rfl⟩ := List.mem_map.mp member
    exact isBlock_of_starting (starting_variantLines base (readable.variants variant inside)).2.1
  -- The enum, its match and the trait come before every struct.
  have before (base : BaseType) :
      ∀ entry ∈ ⟨[], enumHeader base⟩ :: selectionLines base [implHeader base.name] ++
        [⟨[], traitHeader⟩], entry.text.startsWith "pub struct " = false := by
    have absent := (starting_selectionLines base [implHeader base.name]).2.1
    rw [← starting_eq_nil_iff, ← List.singleton_append, starting_append, starting_append, absent]
    simp [starting, enumHeader_eq, traitHeader]
  rw [unitLines, unitLines, List.flatMap_def, List.flatMap_def] at same
  obtain ⟨-, nodes⟩ := append_inj_of_heads (before first) (before second)
    (isHead_of_head?_flatten (block ofFirst)) (isHead_of_head?_flatten (block ofSecond)) same
  have blocks := flatten_inj_of_blocks (block ofFirst) (block ofSecond) nodes
  refine .of_map_eq_map blocks ?_
  intro left inFirst right inSecond lines
  obtain ⟨headers, rests⟩ := List.cons.inj lines
  obtain ⟨members, -⟩ := List.append_inj' rests rfl
  constructor
  · simpa [structHeader_eq] using (Entry.mk.inj headers).2
  · have ofLeft := ofFirst.variants left inFirst
    have ofRight := ofSecond.variants right inSecond
    refine List.Forall₂.map_eq_map (.of_map_eq_map members ?_) fun _ _ => id
    intro field held other kept entries
    obtain ⟨names, types⟩ := eq_of_memberText (ofLeft.fields field held).name
      (ofRight.fields other kept).name (Entry.mk.inj entries).2
    rw [names, types]

end Rust

end Target

/-- Two base types with one text have one name, and variants with the same names whose fields are
written alike. -/
theorem Target.agree_of_unitText {target : Target} {first second : BaseType}
    (ofFirst : first.Readable) (ofSecond : second.Readable)
    (same : target.unitText first = target.unitText second) :
    first.name = second.name ∧
      List.Forall₂ (fun left right => left.name = right.name ∧
          left.fields.map (target.shown first) = right.fields.map (target.shown second))
        first.variants second.variants := by
  cases target with
  | java package imports =>
    obtain ⟨named, lines⟩ := Java.eq_of_unitText ofFirst ofSecond same
    exact ⟨named, Java.forall₂_of_unitLines ofFirst ofSecond named lines⟩
  | rust imports =>
    obtain ⟨named, lines⟩ := Rust.eq_of_unitText ofFirst ofSecond same
    exact ⟨named, Rust.forall₂_of_unitLines ofFirst ofSecond lines⟩

/-- One field, whose type is left open. -/
def printType (value : TypeRef) : BaseType :=
  ⟨"Stmt", [⟨"Print", [⟨"value", value⟩]⟩]⟩

/-- An optional reference and a scalar of the same name are written alike. -/
theorem Target.agree_of_unitText_printType :
    (printType (.optional (.base "Expr"))).name = (printType (.scalar "Expr")).name ∧
      List.Forall₂ (fun left right => left.name = right.name ∧
          left.fields.map
              ((Target.java (some "lox") []).shown (printType (.optional (.base "Expr")))) =
            right.fields.map ((Target.java (some "lox") []).shown (printType (.scalar "Expr"))))
        (printType (.optional (.base "Expr"))).variants (printType (.scalar "Expr")).variants := by
  have names : Name.isIdentifier "Stmt" ∧ Name.isIdentifier "Print" ∧
      Name.isIdentifier "value" := by decide
  have readable {value : TypeRef} (unbroken : value.Unbroken) : (printType value).Readable := by
    refine ⟨names.1, fun variant inside => ?_⟩
    obtain rfl := List.mem_singleton.mp inside
    refine ⟨names.2.1, fun field held => ?_⟩
    obtain rfl := List.mem_singleton.mp held
    exact ⟨names.2.2, unbroken⟩
  have plain : NodeGen.Unbroken "Expr" := unbroken_of_isIdentifier (by decide)
  exact Target.agree_of_unitText (readable plain) (readable plain) rfl

end NodeGen
