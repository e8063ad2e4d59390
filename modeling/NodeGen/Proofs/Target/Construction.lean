import NodeGen.Proofs.Target.Recovery
import NodeGen.Proofs.Target.Scopes

/-! The node type of a variant as it is written. Its members, the parameters of its constructor and
what the constructor initializes are written separately, and each of them goes through the fields in
their order, with the same names and the same types. A scalar may hold whatever stands between two
parameters, so the parameters are compared as one text and not one by one. -/

set_option autoImplicit false

namespace NodeGen

namespace Outline

/-- The lines directly in a block that stands directly in another one. -/
theorem within_block_block (inner outer closing : String) (body : List Step) :
    within [inner, outer] (ofSteps [] [.block outer closing body]) = inside inner body := by
  rw [ofSteps, ofSteps, List.append_nil, ofStep, List.cons_append, within_cons, within_append,
    within_ofSteps_block]
  simp

end Outline

namespace Target

open Outline

/-- The text of a variant's node type, written at some depth. -/
def variantText (target : Target) (depth : Nat) (base : BaseType) (variant : Variant) : String :=
  Layout.renderLines target.margin (Layout.lines depth (target.variantSteps base variant))

namespace Java

/-- A member, given by its name and its type, as it is declared. -/
def typedName (member : String × String) : String :=
  member.2 ++ " " ++ member.1

def constructorText (variant : Variant) (members : List (String × String)) : String :=
  variant.name ++ "(" ++ String.intercalate ", " (members.map typedName) ++ ") \x7b"

/-- The text is one class. It declares the members and a constructor, which takes the members and
assigns each of them; its other lines hand a visitor on. -/
structure Constructs (base : BaseType) (variant : Variant) (members : List (String × String))
    (text : String) : Prop where
  whole : within [] (read text) = [nodeHeader base variant, "\x7d"]
  declared : within [nodeHeader base variant] (read text) =
    (members.map fun member => "final " ++ typedName member ++ ";") ++
      (if members.isEmpty then [] else [""]) ++
      [constructorText variant members, "\x7d", "", "@Override", acceptHeader, "\x7d"]
  assigned : within [constructorText variant members, nodeHeader base variant] (read text) =
    members.map fun member => "this." ++ member.1 ++ " = " ++ member.1 ++ ";"
  distinct : (members.map (·.1)).Nodup

section

variable (package : Option String) (imports : List String) (base : BaseType) (variant : Variant)

theorem constructorText_shown :
    constructorText variant (variant.fields.map ((Target.java package imports).shown base)) =
      variant.name ++ "(" ++ String.intercalate ", " (variant.fields.map parameterText) ++
        ") \x7b" := by
  rw [constructorText, List.map_map]
  rfl

theorem surface_memberSteps :
    surface (memberSteps variant) =
      variant.fields.map memberText ++ if variant.fields.isEmpty then [] else [""] := by
  rw [memberSteps, surface_append, surface_map_line]
  split <;> rfl

theorem inside_memberSteps (header : String) : inside header (memberSteps variant) = [] := by
  rw [memberSteps, inside_append, inside_map_line]
  split <;> rfl

theorem declared_variantSteps :
    inside (nodeHeader base variant) (variantSteps base variant) =
      variant.fields.map memberText ++ (if variant.fields.isEmpty then [] else [""]) ++
        [variant.name ++ "(" ++ String.intercalate ", " (variant.fields.map parameterText) ++
          ") \x7b", "\x7d", "", "@Override", acceptHeader, "\x7d"] := by
  rw [variantSteps, ← nodeHeader_eq, inside, insideStep, if_pos rfl, surface_append,
    surface_append, surface_append, surface_memberSteps]
  simp only [List.append_assoc]
  rfl

end

/-- A constructor begins with a name, and the method that takes a visitor does not. -/
theorem acceptHeader_ne_constructorText {variant : Variant}
    (identifier : Name.isIdentifier variant.name = true) (members : List (String × String)) :
    acceptHeader ≠ constructorText variant members := by
  intro same
  obtain ⟨first, rest, shape, letter, -⟩ := Name.isIdentifier_iff.mp identifier
  have texts := congrArg String.toList same
  simp only [acceptHeader, constructorText, String.toList_append, shape, String.reduceToList,
    List.cons_append, List.cons.injEq] at texts
  rw [← texts.1] at letter
  cases letter

theorem constructs_variantText (package : Option String) (imports : List String) {base : BaseType}
    (readable : base.Readable) {variant : Variant} (member : variant ∈ base.variants)
    (distinct : (variant.fields.map (·.name)).Nodup) (depth : Nat) :
    Constructs base variant (variant.fields.map ((Target.java package imports).shown base))
      ((Target.java package imports).variantText depth base variant) := by
  have outline : read ((Target.java package imports).variantText depth base variant) =
      ofSteps [] (variantSteps base variant) :=
    read_renderLines margin_tab (stepsLegible_variantSteps readable member) depth
  have header := constructorText_shown package imports base variant
  have other := acceptHeader_ne_constructorText (readable.variants variant member).name
    (variant.fields.map ((Target.java package imports).shown base))
  constructor
  · rw [outline, within_ofSteps_self]
    rfl
  · rw [outline, within_ofSteps_block, header, declared_variantSteps, List.map_map,
      List.isEmpty_map]
    rfl
  · -- Of the blocks in the class only the constructor has this header.
    rw [outline, variantSteps, ← nodeHeader_eq, within_block_block, inside_append, inside_append,
      inside_append, inside_memberSteps, constructorSteps, ← header, acceptSteps, ← acceptHeader]
    simp [other, Function.comp_def, shown]
  · rw [List.map_map]
    exact distinct

end Java

namespace Rust

/-- A member, given by its name and its type, as it is declared. -/
def typedName (member : String × String) : String :=
  member.1 ++ ": " ++ member.2

def constructorText (members : List (String × String)) : String :=
  "pub fn new(" ++ String.intercalate ", " (members.map typedName) ++ ") -> Self \x7b"

def literalText (members : List (String × String)) : String :=
  if members.isEmpty then "Self \x7b\x7d"
  else "Self \x7b " ++ String.intercalate ", " (members.map (·.1)) ++ " \x7d"

/-- The text is a struct, which holds the members, and its methods: a constructor, which takes the
members and lists each of them, and one that hands a visitor on. -/
structure Constructs (variant : Variant) (members : List (String × String)) (text : String) :
    Prop where
  whole : within [] (read text) =
    [structHeader variant, "\x7d", "", implHeader variant.name, "\x7d"]
  declared : within [structHeader variant] (read text) =
    members.map fun member => "pub " ++ typedName member ++ ","
  methods : within [implHeader variant.name] (read text) =
    [constructorText members, "\x7d", "", acceptHeader "visitor", "\x7d"]
  listed : within [constructorText members, implHeader variant.name] (read text) =
    [literalText members]
  distinct : (members.map (·.1)).Nodup

theorem constructorText_shown (imports : List String) (base : BaseType) (variant : Variant) :
    constructorText (variant.fields.map ((Target.rust imports).shown base)) =
      constructorHeader base variant := by
  rw [constructorText, List.map_map]
  rfl

theorem literalText_shown (imports : List String) (base : BaseType) (variant : Variant) :
    literalText (variant.fields.map ((Target.rust imports).shown base)) =
      initializer (variant.fields.map fun field => ident field.name) := by
  rw [literalText, List.map_map]
  cases variant.fields <;> rfl

theorem structHeader_ne_implHeader (variant : Variant) :
    structHeader variant ≠ implHeader variant.name :=
  header_ne (by simp [structHeader_eq, implHeader_eq])

theorem within_constructor (base : BaseType) (variant : Variant) :
    within [constructorHeader base variant, implHeader variant.name]
        (ofSteps [] (variantSteps base variant)) =
      [initializer (variant.fields.map fun field => ident field.name)] := by
  -- The members stand in another block, and of the two methods only one has this header.
  have members (steps : List Step) :
      within [constructorHeader base variant, implHeader variant.name]
        (ofSteps [structHeader variant] steps) = [] :=
    within_block_eq_nil rfl (structHeader_ne_implHeader variant) steps
  have other : acceptHeader "visitor" ≠ constructorHeader base variant :=
    header_ne (by simp [acceptHeader_eq, constructorHeader_eq])
  rw [variantSteps, ofSteps_append, ofSteps_append, within_append, within_append, ← implHeader_eq,
    within_block_block, structSteps, ← structHeader_eq, constructorSteps, ← constructorHeader_eq,
    acceptSteps]
  simp [members, other, -ofSteps_map_line]

theorem constructs_variantText (imports : List String) {base : BaseType}
    (readable : base.Readable) (separate : Separate base) {variant : Variant}
    (member : variant ∈ base.variants) (depth : Nat) :
    Constructs variant (variant.fields.map ((Target.rust imports).shown base))
      ((Target.rust imports).variantText depth base variant) := by
  have outline : read ((Target.rust imports).variantText depth base variant) =
      ofSteps [] (variantSteps base variant) :=
    read_renderLines margin_spaces (stepsLegible_variantSteps readable member) depth
  have apart := structHeader_ne_implHeader variant
  constructor
  · rw [outline, within_ofSteps_self]
    rfl
  · rw [outline, within_ofSteps_block, inside_variantSteps, if_pos rfl, if_neg apart.symm,
      List.append_nil, List.map_map]
    rfl
  · rw [outline, within_ofSteps_block, inside_variantSteps, if_neg apart, if_pos rfl,
      constructorText_shown]
    rfl
  · rw [outline, constructorText_shown, literalText_shown]
    exact within_constructor base variant
  · have fields := separate.fields variant member
    rw [List.map_map] at fields ⊢
    exact fields

end Rust

/-- The form that a node type takes in the target's text. -/
def Constructs : Target → BaseType → Variant → List (String × String) → String → Prop
  | .java _ _, base => Java.Constructs base
  | .rust _, _ => Rust.Constructs

end Target

/-- Of every variant of a valid schema whose names suit the target, and whose scalars break no line,
the node type declares a member for each field, in order and under its own name, and its
constructor takes and initializes the same members in the same order. -/
theorem variantText_constructs {schema : Schema} {target : Target}
    (validated : schema.validate = .ok ()) (checked : target.check schema = .ok ())
    (scalars : schema.ScalarsUnbroken) {base : BaseType} (member : base ∈ schema.baseTypes)
    {variant : Variant} (inside : variant ∈ base.variants) (depth : Nat) :
    target.Constructs base variant (variant.fields.map (target.shown base))
      (target.variantText depth base variant) := by
  have valid := Schema.validate_eq_ok_iff.mp validated
  have readable := valid.readable scalars member
  cases target with
  | java package imports =>
    have distinct := ((valid.bases base member).variants variant inside).distinct
    exact Target.Java.constructs_variantText package imports readable inside distinct depth
  | rust imports =>
    -- Fields with distinct names may become one member; only the check of names rules that out.
    have separate := (Target.Rust.check_eq_ok_iff.mp checked).2.2 base member
    exact Target.Rust.constructs_variantText imports readable separate inside depth

/-- A field with the name of a keyword, and one whose type holds what separates parameters. -/
def ifVariant : Variant :=
  ⟨"If", [⟨"type", .scalar "Map<String, Object>"⟩, ⟨"elseBranch", .optional (.base "Stmt")⟩]⟩

def branchType : BaseType :=
  ⟨"Stmt", [ifVariant, ⟨"Nil", []⟩]⟩

theorem variantText_constructs_branchType :
    (Target.rust []).Constructs branchType ifVariant
        [("r#type", "Map<String, Object>"), ("else_branch", "Option<Box<Stmt>>")]
        ((Target.rust []).variantText 0 branchType ifVariant) ∧
      (Target.java none []).Constructs branchType ifVariant
        [("type", "Map<String, Object>"), ("elseBranch", "Stmt")]
        ((Target.java none []).variantText 1 branchType ifVariant) := by
  have scalars : (Schema.mk [branchType]).ScalarsUnbroken := by
    simp [branchType, ifVariant, Schema.ScalarsUnbroken, TypeRef.ScalarsUnbroken, Unbroken]
  have inside : ifVariant ∈ branchType.variants := List.mem_cons_self
  have rust := @variantText_constructs ⟨[branchType]⟩ (.rust []) rfl rfl scalars branchType
    List.mem_cons_self ifVariant inside 0
  have java := @variantText_constructs ⟨[branchType]⟩ (.java none []) rfl rfl scalars branchType
    List.mem_cons_self ifVariant inside 1
  have shownRust : ifVariant.fields.map ((Target.rust []).shown branchType) =
      [("r#type", "Map<String, Object>"), ("else_branch", "Option<Box<Stmt>>")] := by
    decide +kernel
  have shownJava : ifVariant.fields.map ((Target.java none []).shown branchType) =
      [("type", "Map<String, Object>"), ("elseBranch", "Stmt")] := by
    decide +kernel
  rw [shownRust] at rust
  rw [shownJava] at java
  exact ⟨rust, java⟩

end NodeGen
