import NodeGen.Proofs.Schema.Faults
import NodeGen.Proofs.Target.Recovery
import NodeGen.Proofs.Target.Scopes
import Mathlib.Logic.Relation

/-! Which items of a Rust module hold which others by value. The enum holds a struct for each of its
constructors. A struct holds what the text of a member names with nothing but `Option` around it;
references to nodes are boxed or stand in a `Vec`, so only a scalar can name an item there. -/

set_option autoImplicit false

namespace NodeGen

theorem Wraps.cases {wrapper path text : String} (wraps : Wraps [wrapper] path text) :
    text = path ∨ ∃ inner, text = wrapper ++ "<" ++ inner ++ ">" ∧ Wraps [wrapper] path inner := by
  obtain ⟨outer, known, rfl⟩ := wraps
  cases outer with
  | nil => exact .inl rfl
  | cons first rest =>
    obtain ⟨ofFirst, ofRest⟩ := List.forall_mem_cons.mp known
    obtain rfl := List.mem_singleton.mp ofFirst
    exact .inr ⟨_, rfl, rest, ofRest, rfl⟩

/-- The types that the unit of a base type declares under names of the schema. -/
def BaseType.itemNames (base : BaseType) : List String :=
  base.name :: base.variants.map (·.name)

/-- Some scalar names a type of the unit that it is written into, by itself or optional. -/
def BaseType.SpellsItem (base : BaseType) : Prop :=
  ∃ variant ∈ base.variants, ∃ field ∈ variant.fields, ∃ name, field.type.leaf = .scalar name ∧
    ∃ item ∈ base.itemNames, Wraps ["Option"] item name

theorem Schema.Valid.isIdentifier_of_mem_itemNames {schema : Schema} (valid : schema.Valid)
    {base : BaseType} (present : base ∈ schema.baseTypes) {item : String}
    (member : item ∈ base.itemNames) : Name.isIdentifier item = true := by
  obtain rfl | inVariants := List.mem_cons.mp member
  · exact valid.identifiers base present
  · obtain ⟨variant, inside, rfl⟩ := List.mem_map.mp inVariants
    exact ((valid.bases base present).variants variant inside).identifier

namespace Target.Rust

open Outline

/-- An identifier inside a constructor is inside `Option` only if that is the constructor. -/
theorem wraps_bracket {item : String} (identifier : Name.isIdentifier item = true)
    {constructor content : String} (letters : Name.isIdentifier constructor = true)
    (wraps : Wraps ["Option"] item (constructor ++ "<" ++ content ++ ">")) :
    constructor = "Option" ∧ Wraps ["Option"] item content := by
  have free {name : String} (word : Name.isIdentifier name = true) : '<' ∉ name.toList :=
    Name.notMem_of_isIdentifier word (by decide)
  obtain same | ⟨inner, same, inside⟩ := wraps.cases
  · have bracket : '<' ∈ item.toList := by simp [← same]
    exact absurd bracket (free identifier)
  · have texts := congrArg String.toList same
    simp only [String.toList_append, List.append_assoc] at texts
    obtain ⟨starts, rests⟩ := append_inj_of_mark (free letters) (free (by decide)) texts
    obtain rfl := String.toList_injective (List.append_cancel_right rests)
    exact ⟨String.toList_injective starts, inside⟩

/-- Only a scalar lets an item be held by value: every other leaf is behind a bracket. -/
theorem scalar_of_wraps {own item : String} (identifier : Name.isIdentifier item = true)
    {type : TypeRef} (wraps : Wraps ["Option"] item (typeText own type)) :
    ∃ name, type.leaf = .scalar name ∧ Wraps ["Option"] item name := by
  induction type with
  | scalar name => exact ⟨name, rfl, wraps⟩
  | base name =>
    have boxed := @wraps_bracket item identifier "Box" (itemPath own name name) (by decide)
      (by simpa [typeText, typeTextWithin, typeTextWithin.node] using wraps)
    exact absurd boxed.1 (by decide)
  | variant owner name =>
    have boxed := @wraps_bracket item identifier "Box" (itemPath own owner name) (by decide)
      (by simpa [typeText, typeTextWithin, typeTextWithin.node] using wraps)
    exact absurd boxed.1 (by decide)
  | list element =>
    have listed := @wraps_bracket item identifier "Vec" (typeTextWithin own false element)
      (by decide) (by simpa [typeText, typeTextWithin] using wraps)
    exact absurd listed.1 (by decide)
  | optional inner ih =>
    have inside := @wraps_bracket item identifier "Option" (typeText own inner) (by decide)
      (by simpa [typeText, typeTextWithin] using wraps)
    exact ih inside.2

/-- One item of a module holds another, or a type from elsewhere, by value. -/
inductive Holds (base : BaseType) (entries : List Entry) : String → String → Prop
  | constructor {name held : String} : (∀ char ∈ name.toList, isIdentChar char = true) →
    name ++ "(" ++ held ++ ")," ∈ within [enumHeader base] entries →
    Holds base entries base.name held
  | member {variant : Variant} {name type held : String} : variant ∈ base.variants →
    (∀ char ∈ name.toList, isIdentChar char = true) →
    "pub " ++ name ++ ": " ++ type ++ "," ∈ within [structHeader variant] entries →
    Wraps ["Option"] held type → Holds base entries variant.name held

section Module

variable {schema : Schema} {base : BaseType} {imports : List String} {holder held : String}

/-- In the outline of a unit the enum holds the structs, and each member holds what its type
names. -/
theorem Holds.cases (valid : schema.Valid) (present : base ∈ schema.baseTypes)
    (holds : Holds base (ofSteps [] (unitSteps imports base)) holder held) :
    holder = base.name ∧ held ∈ base.variants.map (·.name) ∨
      ∃ variant ∈ base.variants, variant.name = holder ∧ ∃ field ∈ variant.fields,
        Wraps ["Option"] held (typeText base.name field.type) := by
  have accepted := (valid.bases base present).variants
  have free (mark : Char) (other : isIdentChar mark = false) {text : List Char}
      (chars : ∀ char ∈ text, isIdentChar char = true) : mark ∉ text := by
    intro inside
    rw [chars mark inside] at other
    cases other
  cases holds with
  | @constructor name held chars line =>
    rw [within_ofSteps_block, inside_enumHeader] at line
    obtain ⟨variant, inside, same⟩ := List.mem_map.mp line
    refine .inl ⟨rfl, List.mem_map.mpr ⟨variant, inside, ?_⟩⟩
    -- Both halves of the line name the struct, and the first bracket stands between them.
    have texts := congrArg String.toList same
    simp only [String.toList_append, String.reduceToList, List.append_assoc, List.cons_append,
      List.nil_append] at texts
    have apart := append_inj_of_mark
      (free '(' (by decide) fun _ => isIdentChar_of_mem (accepted variant inside).identifier)
      (free '(' (by decide) chars) texts
    exact String.toList_injective (List.append_cancel_right apart.2)
  | @member variant name type held inside chars line wraps =>
    rw [within_ofSteps_block, inside_structHeader imports (valid.bases base present).distinct inside]
      at line
    obtain ⟨field, ofVariant, same⟩ := List.mem_map.mp line
    refine .inr ⟨variant, inside, rfl, field, ofVariant, ?_⟩
    have texts := congrArg String.toList same
    simp only [memberText_eq, parameterText_eq, String.toList_append, String.reduceToList,
      List.append_assoc, List.cons_append, List.nil_append, List.cons.injEq, true_and] at texts
    have identifier := ((accepted variant inside).fields field ofVariant).identifier
    have apart := append_inj_of_mark
      (free ':' (by decide) fun _ => isIdentChar_of_mem_ident identifier)
      (free ':' (by decide) chars) texts
    have types := String.toList_injective (List.append_cancel_right (List.cons.inj apart.2).2)
    exact types ▸ wraps

/-- Where no scalar names an item, items are held by the enum only. -/
theorem Holds.of_mem_itemNames (valid : schema.Valid) (present : base ∈ schema.baseTypes)
    (unspelled : ¬base.SpellsItem)
    (holds : Holds base (ofSteps [] (unitSteps imports base)) holder held)
    (item : held ∈ base.itemNames) :
    holder = base.name ∧ held ∈ base.variants.map (·.name) := by
  obtain ofEnum | ⟨variant, inside, -, field, ofVariant, wraps⟩ := holds.cases valid present
  · exact ofEnum
  · have identifier := valid.isIdentifier_of_mem_itemNames present item
    obtain ⟨name, leaf, spelled⟩ := scalar_of_wraps identifier wraps
    exact absurd ⟨variant, inside, field, ofVariant, name, leaf, held, item, spelled⟩ unspelled

theorem Holds.holder_mem_itemNames {entries : List Entry}
    (holds : Holds base entries holder held) : holder ∈ base.itemNames := by
  cases holds with
  | constructor chars line => exact List.mem_cons_self
  | member inside chars line wraps => exact List.mem_cons_of_mem _ (List.mem_map_of_mem inside)

/-- No item holds itself by value, not even through others, so every item has a finite size. -/
theorem not_transGen_holds (valid : schema.Valid) (present : base ∈ schema.baseTypes)
    (unspelled : ¬base.SpellsItem) (item : String) :
    ¬Relation.TransGen (Holds base (ofSteps [] (unitSteps imports base))) item item := by
  have notVariant : base.name ∉ base.variants.map (·.name) := by
    intro inNames
    obtain ⟨variant, inside, same⟩ := List.mem_map.mp inNames
    exact valid.name_ne_base present inside same
  intro cycle
  obtain ⟨next, first, -⟩ := Relation.TransGen.head'_iff.mp cycle
  obtain ⟨last, path, back⟩ := Relation.TransGen.tail'_iff.mp cycle
  -- The way back into the item starts at the enum, and nothing leads into the enum.
  obtain ⟨rfl, inVariants⟩ :=
    back.of_mem_itemNames valid present unspelled first.holder_mem_itemNames
  obtain rfl | ⟨_, -, intoEnum⟩ := Relation.ReflTransGen.cases_tail path
  · exact notVariant inVariants
  · exact notVariant (intoEnum.of_mem_itemNames valid present unspelled List.mem_cons_self).2

end Module

end Target.Rust

end NodeGen
