import NodeGen.Proofs.Source.Scope
import NodeGen.Proofs.Target.Java.Likeness

/-! More base types behind those that are declared. A name that was opaque may turn out to be one of
the new base types or a variant of one; nothing else about the earlier declarations changes, and
what is written for them in Java does not change at all. -/

set_option autoImplicit false

namespace NodeGen

/-- The types are the same, except that scalars of the first may stand as references to the added
base types and their variants in the second. -/
inductive TypeRef.Sharpens (added : List Source.BaseType) : TypeRef → TypeRef → Prop
  | same (type : TypeRef) : Sharpens added type type
  | base {base : Source.BaseType} : base ∈ added →
    Sharpens added (.scalar base.name) (.base base.name)
  | variant {base : Source.BaseType} {variant : Source.Variant} :
    base ∈ added → variant ∈ base.variants →
    Sharpens added (.scalar (base.name ++ "." ++ variant.name)) (.variant base.name variant.name)
  | list {item other : TypeRef} : Sharpens added item other →
    Sharpens added (.list item) (.list other)
  | optional {inner other : TypeRef} : Sharpens added inner other →
    Sharpens added (.optional inner) (.optional other)

structure Field.Sharpens (added : List Source.BaseType) (field other : Field) : Prop where
  name : field.name = other.name
  type : field.type.Sharpens added other.type

structure Variant.Sharpens (added : List Source.BaseType) (variant other : Variant) : Prop where
  name : variant.name = other.name
  fields : List.Forall₂ (Field.Sharpens added) variant.fields other.fields

structure BaseType.Sharpens (added : List Source.BaseType) (base other : BaseType) : Prop where
  name : base.name = other.name
  variants : List.Forall₂ (Variant.Sharpens added) base.variants other.variants

namespace TypeRef.Sharpens

variable {added : List Source.BaseType} {type other : TypeRef}

theorem typeText_eq (sharpens : type.Sharpens added other) :
    Target.Java.typeText type = Target.Java.typeText other := by
  induction sharpens with
  | same type => rfl
  | base member => rfl
  | variant member inside => rfl
  | list _ ih => rw [Target.Java.typeText, Target.Java.typeText, ih]
  | optional _ ih => exact ih

theorem usesList_eq (sharpens : type.Sharpens added other) : type.usesList = other.usesList := by
  induction sharpens with
  | same type => rfl
  | base member => rfl
  | variant member inside => rfl
  | list _ ih => rfl
  | optional _ ih => exact ih

end TypeRef.Sharpens

/-- Java output is blind to the difference between an opaque name and a reference. -/
theorem BaseType.Sharpens.alike {added : List Source.BaseType} {base other : BaseType}
    (sharpens : base.Sharpens added other) : Target.Java.AlikeBase base other :=
  ⟨sharpens.name, sharpens.variants.imp fun _ _ variant =>
    ⟨variant.name, variant.fields.imp fun _ _ field =>
      ⟨field.name, field.type.typeText_eq, field.type.usesList_eq⟩⟩⟩

namespace Source

section Part

variable {types part added : List BaseType} (sublist : part.Sublist types)
  (distinct : (types.map (·.name)).Nodup) (cover : ∀ base ∈ types, base ∈ part ∨ base ∈ added)
include sublist distinct

theorem declared_part_of_none {name : List Char} (absent : TypeText.declared types name = none) :
    TypeText.declared part name = none := by
  cases found : TypeText.declared part name with
  | none => rfl
  | some base =>
    have apart : (part.map (·.name)).Nodup := distinct.sublist (sublist.map _)
    obtain ⟨member, named⟩ := (TypeText.declared_eq_some_iff apart).mp found
    have present := (TypeText.declared_eq_some_iff distinct).mpr ⟨sublist.subset member, named⟩
    rw [absent] at present
    cases present

include cover

/-- A base type that the part lacks is not replaced by another of its name. -/
theorem declared_part_of_some {name : List Char} {base : BaseType}
    (found : TypeText.declared types name = some base) :
    TypeText.declared part name = some base ∨
      TypeText.declared part name = none ∧ base ∈ added := by
  have apart : (part.map (·.name)).Nodup := distinct.sublist (sublist.map _)
  obtain ⟨member, named⟩ := (TypeText.declared_eq_some_iff distinct).mp found
  by_cases inside : base ∈ part
  · exact .inl ((TypeText.declared_eq_some_iff apart).mpr ⟨inside, named⟩)
  · refine .inr ⟨?_, (cover base member).resolve_left inside⟩
    cases other : TypeText.declared part name with
    | none => rfl
    | some rival =>
      obtain ⟨held, called⟩ := (TypeText.declared_eq_some_iff apart).mp other
      have present := (TypeText.declared_eq_some_iff distinct).mpr ⟨sublist.subset held, called⟩
      rw [found] at present
      obtain rfl := Option.some.inj present
      exact absurd held inside

theorem parseLeaf_part {context : String} {malformed : SchemaError} {text : List Char}
    {type : TypeRef} (read : TypeText.parseLeaf types context malformed text = .ok type) :
    ∃ coarse, TypeText.parseLeaf part context malformed text = .ok coarse ∧
      coarse.Sharpens added type := by
  cases TypeText.parseLeaf_eq_iff.mp read with
  | generic bracketed balanced =>
    exact ⟨_, (TypeText.LeafReads.generic bracketed balanced).parseLeaf_eq, .same _⟩
  | undeclared plain whole missing =>
    have absent := declared_part_of_none sublist distinct missing
    exact ⟨_, (TypeText.LeafReads.undeclared plain whole absent).parseLeaf_eq, .same _⟩
  | qualified plain parts first missing =>
    have absent := declared_part_of_none sublist distinct missing
    exact ⟨_, (TypeText.LeafReads.qualified plain parts first absent).parseLeaf_eq, .same _⟩
  | base plain whole found =>
    obtain kept | ⟨lost, new⟩ := declared_part_of_some sublist distinct cover found
    · exact ⟨_, (TypeText.LeafReads.base plain whole kept).parseLeaf_eq, .same _⟩
    · refine ⟨_, (TypeText.LeafReads.undeclared plain whole lost).parseLeaf_eq, ?_⟩
      rw [← (mem_of_declared found).2]
      exact .base new
  | @variant owner name base plain parts first found known =>
    obtain kept | ⟨lost, new⟩ := declared_part_of_some sublist distinct cover found
    · exact ⟨_, (TypeText.LeafReads.variant plain parts first kept known).parseLeaf_eq, .same _⟩
    · refine ⟨_, (TypeText.LeafReads.qualified plain parts first lost).parseLeaf_eq, ?_⟩
      obtain ⟨variant, inside, spelled⟩ := List.mem_map.mp known
      have called := (mem_of_declared found).2
      have written : String.ofList text = base.name ++ "." ++ variant.name := by
        rw [called, spelled, parts]
        simp [String.append_assoc]
      rw [written, ← spelled, ← called]
      exact .variant new inside

/-- A text that can be read with all base types in scope can be read with some of them, and what
differs is said by the names of the others. -/
theorem parseChars_part {context : String} {text : List Char} {type : TypeRef}
    (read : TypeText.parseChars types context text = .ok type) :
    ∃ coarse, TypeText.parseChars part context text = .ok coarse ∧
      coarse.Sharpens added type := by
  fun_induction TypeText.parseChars types context text generalizing type with
  | case1 => cases read
  | case2 => cases read
  | case3 text present optional single ih =>
    obtain ⟨inner, readInner, rfl⟩ := Checks.map_eq_ok_iff.mp read
    obtain ⟨coarse, readCoarse, sharpens⟩ := ih readInner
    refine ⟨.optional coarse, ?_, .optional sharpens⟩
    rw [TypeText.parseChars_optional present optional single, readCoarse, Except.map]
  | case4 text present plain item form ih =>
    obtain ⟨inside, readInside, rfl⟩ := Checks.map_eq_ok_iff.mp read
    obtain ⟨coarse, readCoarse, sharpens⟩ := ih readInside
    refine ⟨.list coarse, ?_, .list sharpens⟩
    rw [TypeText.parseChars_item present plain form, readCoarse, Except.map]
  | case5 => cases read
  | case6 text malformed present plain =>
    rename_i form
    rw [TypeText.parseChars_leaf present plain form]
    exact parseLeaf_part sublist distinct cover read

theorem WellFormed.of_sublist (formed : WellFormed types) : WellFormed part := by
  have apart : (part.map (·.name)).Nodup := distinct.sublist (sublist.map _)
  refine formed.of_subset sublist.subset apart fun base member variant inside field held => ?_
  obtain ⟨type, read⟩ := formed.typesRead base (sublist.subset member) variant inside field held
  obtain ⟨coarse, readCoarse, -⟩ := parseChars_part sublist distinct cover read
  exact ⟨coarse, readCoarse⟩

theorem ResolvesBase.sharpens {declared : BaseType} {base other : NodeGen.BaseType}
    (resolves : ResolvesBase part declared base) (whole : ResolvesBase types declared other) :
    base.Sharpens added other := by
  refine ⟨resolves.name.trans whole.name.symm, resolves.variants.common whole.variants ?_⟩
  intro shape variant next ofPart ofWhole
  refine ⟨ofPart.name.trans ofWhole.name.symm, ofPart.fields.common ofWhole.fields ?_⟩
  intro entry field more inPart inWhole
  refine ⟨inPart.name.trans inWhole.name.symm, ?_⟩
  obtain ⟨coarse, readCoarse, sharpens⟩ := parseChars_part sublist distinct cover inWhole.type
  have same : field.type = coarse := Except.ok.inj (inPart.type.symm.trans readCoarse)
  exact same ▸ sharpens

end Part

/-- Declarations that resolve together resolve apart as well. Those in front keep all of their
types but for scalars that name what was added, and their Java units are the first units of the
whole, byte for byte. -/
theorem resolve_append_sharpens {types added : List BaseType} {whole : Schema}
    (resolved : resolve (types ++ added) = .ok whole) :
    ∃ schema, resolve types = .ok schema ∧ (∃ rest, resolve added = .ok rest) ∧
      List.Forall₂ (NodeGen.BaseType.Sharpens added) schema.baseTypes
        (whole.baseTypes.take types.length) ∧
      ∀ package imports units, generate whole (.java package imports) = .ok units →
        generate schema (.java package imports) = .ok (units.take types.length) := by
  obtain ⟨distinct, resolves, valid⟩ := resolve_eq_ok_iff.mp resolved
  have formed := resolves.wellFormed valid
  have front := List.sublist_append_left types added
  have back := List.sublist_append_right types added
  have cover : ∀ base ∈ types ++ added, base ∈ types ∨ base ∈ added := by simp
  obtain ⟨schema, alone⟩ := (formed.of_sublist front distinct cover).exists_resolve
  obtain ⟨-, own, ownValid⟩ := resolve_eq_ok_iff.mp alone
  have sharpens : List.Forall₂ (NodeGen.BaseType.Sharpens added) schema.baseTypes
      (whole.baseTypes.take types.length) := by
    have first := List.forall₂_take types.length resolves
    rw [List.take_left] at first
    exact own.common first fun declared base other ofPart ofWhole =>
      ofPart.sharpens front distinct cover ofWhole
  refine ⟨schema, alone, ?_, sharpens, ?_⟩
  · exact (formed.of_sublist back distinct fun base member => (cover base member).symm).exists_resolve
  · intro package imports units generated
    obtain ⟨-, checked, rfl⟩ := generate_eq_ok_iff.mp generated
    have twin : ∀ base ∈ schema.baseTypes,
        ∃ other ∈ whole.baseTypes, Target.Java.AlikeBase base other := by
      intro base member
      obtain ⟨other, present, related⟩ := sharpens.exists_right member
      exact ⟨other, List.mem_of_mem_take present, related.alike⟩
    refine generate_eq_ok_iff.mpr ⟨ownValid, Target.Java.check_of_alike twin checked, ?_⟩
    rw [← List.map_take]
    exact (sharpens.map_eq_map fun _ _ related => related.alike.unit_eq package imports).symm

/-- Expressions that mention statements, which are declared elsewhere. -/
def blockTypes : List BaseType :=
  [⟨"Expr", [⟨"Block", [⟨"body", "List<Stmt>?"⟩, ⟨"last", "Stmt.Print"⟩]⟩]⟩]

def printTypes : List BaseType :=
  [⟨"Stmt", [⟨"Print", [⟨"value", "Expr"⟩]⟩]⟩]

def blockSchema : Schema :=
  ⟨[⟨"Expr", [⟨"Block", [⟨"body", .optional (.list (.base "Stmt"))⟩,
      ⟨"last", .variant "Stmt" "Print"⟩]⟩]⟩,
    ⟨"Stmt", [⟨"Print", [⟨"value", .base "Expr"⟩]⟩]⟩]⟩

theorem resolve_append_sharpens_blockTypes :
    ∃ schema, resolve blockTypes = .ok schema ∧ (∃ rest, resolve printTypes = .ok rest) ∧
      List.Forall₂ (NodeGen.BaseType.Sharpens printTypes) schema.baseTypes
        (blockSchema.baseTypes.take 1) ∧
      generate schema (.java (some "lox") []) =
        .ok ((blockSchema.baseTypes.map (Target.java (some "lox") []).unit).take 1) := by
  have resolved : resolve (blockTypes ++ printTypes) = .ok blockSchema := by decide +kernel
  obtain ⟨schema, alone, rest, sharpens, units⟩ := resolve_append_sharpens resolved
  exact ⟨schema, alone, rest, sharpens, units (some "lox") [] _ rfl⟩

end Source

end NodeGen
