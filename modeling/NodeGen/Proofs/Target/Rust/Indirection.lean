import NodeGen.Proofs.Target.Scopes
import Mathlib.Logic.Relation

/-! Where references to nodes stand in Rust output. The text of a field's type is read as a type
with boxes in it, in the one way that leaves the reference when the boxes are taken out. A path to a
node then stands directly in a box or somewhere in a `Vec`, so no struct holds another item by value
through a reference, and of all items in all modules only the enums hold any. -/

set_option autoImplicit false

namespace NodeGen.Target.Rust

open Outline

/-- A type as it is written: a reference with boxes in it. -/
inductive Spelling where
  | scalar (text : String)
  | base (name : String)
  | variant (owner name : String)
  | box (inner : Spelling)
  | vec (item : Spelling)
  | option (inner : Spelling)

/-- A generic type that stands around another type. -/
inductive Wrapper where
  | box
  | vec
  | option
  deriving DecidableEq

/-- An enum or a struct: the base type whose module declares it, and its name there. -/
structure Item where
  owner : String
  name : String

namespace Spelling

/-- The text in the module of `own`. -/
def text (own : String) : Spelling → String
  | scalar text => text
  | base name => itemPath own name name
  | variant owner name => itemPath own owner name
  | box inner => "Box<" ++ inner.text own ++ ">"
  | vec item => "Vec<" ++ item.text own ++ ">"
  | option inner => "Option<" ++ inner.text own ++ ">"

def unboxed : Spelling → TypeRef
  | scalar text => .scalar text
  | base name => .base name
  | variant owner name => .variant owner name
  | box inner => inner.unboxed
  | vec item => .list item.unboxed
  | option inner => .optional inner.unboxed

/-- The path to an item stands in the type, and `around` it are these wrappers, the outermost
first. -/
inductive Reaches : Spelling → List Wrapper → Item → Prop
  | base (name : String) : Reaches (base name) [] ⟨name, name⟩
  | variant (owner name : String) : Reaches (variant owner name) [] ⟨owner, name⟩
  | box {inner : Spelling} {around : List Wrapper} {item : Item} :
    Reaches inner around item → Reaches (box inner) (.box :: around) item
  | vec {element : Spelling} {around : List Wrapper} {item : Item} :
    Reaches element around item → Reaches (vec element) (.vec :: around) item
  | option {inner : Spelling} {around : List Wrapper} {item : Item} :
    Reaches inner around item → Reaches (option inner) (.option :: around) item

/-- How a reference is written where a node would be held by value, or behind a list already. -/
def ofRef (boxed : Bool) : TypeRef → Spelling
  | .scalar name => .scalar name
  | .base name => if boxed then .box (.base name) else .base name
  | .variant owner name => if boxed then .box (.variant owner name) else .variant owner name
  | .list item => .vec (ofRef false item)
  | .optional inner => .option (ofRef boxed inner)

theorem text_ofRef (own : String) (boxed : Bool) (type : TypeRef) :
    (ofRef boxed type).text own = typeTextWithin own boxed type := by
  induction type generalizing boxed with
  | scalar name => rfl
  | base name => cases boxed <;> rfl
  | variant owner name => cases boxed <;> rfl
  | list item ih => rw [ofRef, text, ih, typeTextWithin]
  | optional inner ih => rw [ofRef, text, ih, typeTextWithin]

theorem unboxed_ofRef (boxed : Bool) (type : TypeRef) : (ofRef boxed type).unboxed = type := by
  induction type generalizing boxed with
  | scalar name => rfl
  | base name => cases boxed <;> rfl
  | variant owner name => cases boxed <;> rfl
  | list item ih => rw [ofRef, unboxed, ih]
  | optional inner ih => rw [ofRef, unboxed, ih]

/-- Boxes only make a text longer. -/
theorem length_unboxed_le (own : String) (written : Spelling) :
    (typeTextWithin own false written.unboxed).length ≤ (written.text own).length := by
  induction written with
  | scalar text => exact le_refl _
  | base name => exact le_refl _
  | variant owner name => exact le_refl _
  | box inner ih =>
    simp only [unboxed, text, String.length_append]
    omega
  | vec item ih =>
    simp only [unboxed, text, typeTextWithin, String.length_append]
    omega
  | option inner ih =>
    simp only [unboxed, text, typeTextWithin, String.length_append]
    omega

/-- A box around a type is no part of the text without boxes. -/
theorem text_box_ne (own : String) (inner : Spelling) :
    typeTextWithin own false inner.unboxed ≠ (box inner).text own := by
  intro same
  have longer := length_unboxed_le own inner
  have lengths := congrArg String.length same
  have mark : "Box<".length = 4 := rfl
  simp only [text, String.length_append] at lengths
  omega

/-- The text and the reference tell where the boxes are. -/
theorem eq_of_text {own : String} {first second : Spelling}
    (types : first.unboxed = second.unboxed) (texts : first.text own = second.text own) :
    first = second := by
  induction first generalizing second with
  | scalar name =>
    cases second with
    | scalar other => exact congrArg scalar (TypeRef.scalar.inj types)
    | box inner => exact absurd (types ▸ texts) (text_box_ne own inner)
    | _ => cases types
  | base name =>
    cases second with
    | base other => exact congrArg base (TypeRef.base.inj types)
    | box inner => exact absurd (types ▸ texts) (text_box_ne own inner)
    | _ => cases types
  | variant owner name =>
    cases second with
    | variant other called =>
      obtain ⟨rfl, rfl⟩ := TypeRef.variant.inj types
      rfl
    | box inner => exact absurd (types ▸ texts) (text_box_ne own inner)
    | _ => cases types
  | box inner ih =>
    cases second with
    | box other => exact congrArg box (ih types (by simpa [text] using texts))
    | vec item => simp [text, ← String.toList_inj] at texts
    | option other => simp [text, ← String.toList_inj] at texts
    | _ => exact absurd (types ▸ texts.symm) (text_box_ne own inner)
  | vec item ih =>
    cases second with
    | box inner => simp [text, ← String.toList_inj] at texts
    | vec other =>
      exact congrArg vec (ih (TypeRef.list.inj types) (by simpa [text] using texts))
    | _ => cases types
  | option inner ih =>
    cases second with
    | box other => simp [text, ← String.toList_inj] at texts
    | option other =>
      exact congrArg option (ih (TypeRef.optional.inj types) (by simpa [text] using texts))
    | _ => cases types

end Spelling

/-- The tree is what the text of the type stands for in the module of `own`. -/
structure Spells (own : String) (type : TypeRef) (written : Spelling) : Prop where
  text : written.text own = typeText own type
  unboxed : written.unboxed = type

theorem spells_iff {own : String} {type : TypeRef} {written : Spelling} :
    Spells own type written ↔ written = .ofRef true type := by
  constructor
  · rintro ⟨text, unboxed⟩
    apply @Spelling.eq_of_text own
    · rw [unboxed, Spelling.unboxed_ofRef]
    · rw [text, Spelling.text_ofRef, typeText]
  · rintro rfl
    exact ⟨Spelling.text_ofRef own true type, Spelling.unboxed_ofRef true type⟩

/-- What stands inside these wrappers stands directly in a box or somewhere in a list, and in a box
only where there is no list. -/
def Indirect (around : List Wrapper) : Prop :=
  (around.getLast? = some .box ∨ .vec ∈ around) ∧ (.box ∈ around → .vec ∉ around)

/-- Behind a list nothing is boxed. -/
theorem box_notMem_of_reaches {type : TypeRef} {around : List Wrapper} {item : Item}
    (reaches : (Spelling.ofRef false type).Reaches around item) : .box ∉ around := by
  induction type generalizing around with
  | scalar name => cases reaches
  | base name =>
    cases reaches
    simp
  | variant owner name =>
    cases reaches
    simp
  | list element ih =>
    cases reaches with
    | vec inner => simpa using ih inner
  | optional content ih =>
    cases reaches with
    | option inner => simpa using ih inner

theorem indirect_of_reaches {type : TypeRef} {around : List Wrapper} {item : Item}
    (reaches : (Spelling.ofRef true type).Reaches around item) : Indirect around := by
  induction type generalizing around with
  | scalar name => cases reaches
  | base name =>
    cases reaches with
    | box inner =>
      cases inner
      simp [Indirect]
  | variant owner name =>
    cases reaches with
    | box inner =>
      cases inner
      simp [Indirect]
  | list element ih =>
    cases reaches with
    | vec inner =>
      have unboxed := box_notMem_of_reaches inner
      simp [Indirect, unboxed]
  | optional content ih =>
    cases reaches with
    | @option _ around _ inner =>
      obtain ⟨direct | listed, once⟩ := ih inner
      · have last : (Wrapper.option :: around).getLast? = some .box := by
          rw [List.getLast?_cons, direct, Option.getD_some]
        exact ⟨.inl last, by simpa using once⟩
      · simpa [Indirect, listed] using once

theorem Spells.indirect {own : String} {type : TypeRef} {written : Spelling}
    (spells : Spells own type written) {around : List Wrapper} {item : Item}
    (reaches : written.Reaches around item) : Indirect around := by
  rw [spells_iff] at spells
  subst spells
  exact indirect_of_reaches reaches

theorem Indirect.not_byValue {around : List Wrapper} (indirect : Indirect around) :
    ¬∀ wrapper ∈ around, wrapper = .option := by
  intro byValue
  cases indirect.1 with
  | inl direct => cases byValue .box (List.mem_of_getLast? direct)
  | inr listed => cases byValue .vec listed

/-- One item holds another by value. An enum holds the structs of its constructors, and a struct
what the type of a member reaches through nothing but `Option`. -/
inductive Contains (schema : Schema) : Item → Item → Prop
  | constructor {base : BaseType} {variant : Variant} : base ∈ schema.baseTypes →
    variant ∈ base.variants → Contains schema ⟨base.name, base.name⟩ ⟨base.name, variant.name⟩
  | member {base : BaseType} {variant : Variant} {field : Field} {written : Spelling}
      {around : List Wrapper} {item : Item} : base ∈ schema.baseTypes → variant ∈ base.variants →
    field ∈ variant.fields → Spells base.name field.type written → written.Reaches around item →
    (∀ wrapper ∈ around, wrapper = .option) → Contains schema ⟨base.name, variant.name⟩ item

/-- Members hold nothing by value, so only constructors are left. -/
theorem contains_iff {schema : Schema} {holder held : Item} :
    Contains schema holder held ↔
      ∃ base ∈ schema.baseTypes, ∃ variant ∈ base.variants,
        holder = ⟨base.name, base.name⟩ ∧ held = ⟨base.name, variant.name⟩ := by
  constructor
  · intro contains
    cases contains with
    | @constructor base variant present inside =>
      exact ⟨base, present, variant, inside, rfl, rfl⟩
    | member present inside ofVariant spells reaches byValue =>
      exact absurd byValue (spells.indirect reaches).not_byValue
  · rintro ⟨base, present, variant, inside, rfl, rfl⟩
    exact .constructor present inside

theorem not_transGen_contains {schema : Schema} (valid : schema.Valid) (item : Item) :
    ¬Relation.TransGen (Contains schema) item item := by
  intro cycle
  obtain ⟨_, first, -⟩ := Relation.TransGen.head'_iff.mp cycle
  obtain ⟨_, -, back⟩ := Relation.TransGen.tail'_iff.mp cycle
  -- The first edge leaves an enum and the last one enters a struct.
  obtain ⟨base, present, _, -, rfl, -⟩ := contains_iff.mp first
  obtain ⟨owner, known, variant, inside, -, same⟩ := contains_iff.mp back
  obtain ⟨owned, named⟩ := Item.mk.inj same
  exact valid.name_ne_base known inside (named.symm.trans owned)

/-- The text of a type has one reading, in which every node is behind a box or a list. The members
of a struct have these texts and an enum has the structs of its module, so no item of any module
holds itself by value, not even through others. -/
theorem nodes_indirect :
    (∀ own type, (∃! written, Spells own type written) ∧ ∀ written, Spells own type written →
      ∀ around item, written.Reaches around item → Indirect around) ∧
    ∀ schema : Schema, schema.validate = .ok () →
      (∀ imports, ∀ base ∈ schema.baseTypes,
        within [enumHeader base] (ofSteps [] (unitSteps imports base)) =
          base.variants.map (fun variant => variant.name ++ "(" ++ variant.name ++ "),") ∧
        ∀ variant ∈ base.variants,
          within [structHeader variant] (ofSteps [] (unitSteps imports base)) =
            variant.fields.map fun field =>
              "pub " ++ ident field.name ++ ": " ++ typeText base.name field.type ++ ",") ∧
      ∀ item, ¬Relation.TransGen (Contains schema) item item := by
  constructor
  · intro own type
    constructor
    · exact ⟨.ofRef true type, spells_iff.mpr rfl, fun _ => spells_iff.mp⟩
    · intro written spells around item reaches
      exact spells.indirect reaches
  · intro schema accepted
    have valid := Schema.validate_eq_ok_iff.mp accepted
    constructor
    · intro imports base present
      constructor
      · rw [within_ofSteps_block, inside_enumHeader]
      · intro variant inside
        rw [within_ofSteps_block,
          inside_structHeader imports (valid.bases base present).distinct inside]
        apply List.map_congr_left
        intro field _
        simp [memberText, parameterText, String.append_assoc]
    · exact not_transGen_contains valid

/-- Two base types that refer to each other, once to a single variant. -/
def mutualSchema : Schema :=
  ⟨[⟨"Expr", [⟨"Block", [⟨"body", .list (.base "Stmt")⟩,
      ⟨"last", .optional (.variant "Stmt" "Return")⟩]⟩]⟩,
    ⟨"Stmt", [⟨"Return", [⟨"value", .optional (.base "Expr")⟩]⟩]⟩]⟩

theorem nodes_indirect_mutualSchema :
    typeText "Expr" (.optional (.variant "Stmt" "Return")) = "Option<Box<super::stmt::Return>>" ∧
      Indirect [.option, .box] ∧ Contains mutualSchema ⟨"Expr", "Expr"⟩ ⟨"Expr", "Block"⟩ ∧
      ∀ item, ¬Relation.TransGen (Contains mutualSchema) item item := by
  have spells : Spells "Expr" (.optional (.variant "Stmt" "Return"))
      (.option (.box (.variant "Stmt" "Return"))) := ⟨rfl, rfl⟩
  have reaches := Spelling.Reaches.option (.box (.variant "Stmt" "Return"))
  have held : Contains mutualSchema ⟨"Expr", "Expr"⟩ ⟨"Expr", "Block"⟩ := by
    rw [contains_iff]
    exact ⟨_, List.mem_cons_self, _, List.mem_cons_self, rfl, rfl⟩
  exact ⟨by decide +kernel, (nodes_indirect.1 _ _).2 _ spells _ _ reaches, held,
    (nodes_indirect.2 mutualSchema rfl).2⟩

end NodeGen.Target.Rust
