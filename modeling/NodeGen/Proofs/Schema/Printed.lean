import NodeGen.Proofs.Json.Printed
import NodeGen.Schema.Json

/-! Printed schemas read back. The JSON form of a schema is read by its keys alone, every type
reference by its kind; order and further keys do not matter. Nothing of a schema is lost in it, nor
in the text that is printed of it. -/

set_option autoImplicit false

namespace NodeGen

namespace Json.Tree

def get? (value : Value) (key : String) : Option Value :=
  match value with
  | .object fields => field? fields key
  | _ => none

def text? (value : Value) (key : String) : Option String :=
  match value.get? key with
  | some (.string text) => some text
  | _ => none

def items? (value : Value) (key : String) : Option (List Value) :=
  match value.get? key with
  | some (.array items) => some items
  | _ => none

theorem sizeOf_lt_of_get? {value inner : Value} {key : String} (found : inner ∈ value.get? key) :
    sizeOf inner < sizeOf value := by
  cases value with
  | object fields =>
    obtain ⟨field, here, rfl⟩ := Option.map_eq_some_iff.mp found
    have part := List.sizeOf_lt_of_mem (List.mem_of_find?_eq_some here)
    have whole : sizeOf field = 1 + sizeOf field.1 + sizeOf field.2 := by
      cases field
      simp
    simp only [object.sizeOf_spec]
    omega
  | null | bool value | number value | string value | array items => cases found

end Json.Tree

open Json (Tree Value)

namespace TypeRef

/-- The kinds that hold no other type. -/
def leaf? (value : Value) : String → Option TypeRef
  | "scalar" => (value.text? "name").map .scalar
  | "base" => (value.text? "name").map .base
  | "variant" => do return .variant (← value.text? "base") (← value.text? "variant")
  | _ => none

/-- The kinds that hold another type: its key, and what is made of it. -/
def wrapper? : String → Option (String × (TypeRef → TypeRef))
  | "list" => some ("item", .list)
  | "optional" => some ("inner", .optional)
  | _ => none

-- The type inside is smaller than the value, but only `found` says so.
set_option linter.unusedVariables false in
def ofJson? (value : Value) : Option TypeRef :=
  match value.text? "kind" with
  | none => none
  | some kind =>
    match wrapper? kind with
    | none => leaf? value kind
    | some (key, wrap) =>
      match found : value.get? key with
      | none => none
      | some inner => (ofJson? inner).map wrap
termination_by sizeOf value
decreasing_by exact Tree.sizeOf_lt_of_get? found

end TypeRef

def Field.ofJson? (value : Value) : Option Field := do
  return ⟨← value.text? "name", ← TypeRef.ofJson? (← value.get? "type")⟩

def Variant.ofJson? (value : Value) : Option Variant := do
  return ⟨← value.text? "name", ← (← value.items? "fields").mapM Field.ofJson?⟩

def BaseType.ofJson? (value : Value) : Option BaseType := do
  return ⟨← value.text? "name", ← (← value.items? "variants").mapM Variant.ofJson?⟩

def Schema.ofJson? (value : Value) : Option Schema := do
  return ⟨← (← value.items? "base_types").mapM BaseType.ofJson?⟩

/-- A schema read from a text. Nothing in a text is nested deeper than the text is long. -/
def Schema.ofText? (text : String) : Option Schema :=
  match Json.parseWithin (text.length + 1) text.toList with
  | .ok value => Schema.ofJson? value
  | .error _ => none

namespace TypeRef

theorem ofJson?_leaf {value : Value} {kind : String} (tag : value.text? "kind" = some kind)
    (leaf : wrapper? kind = none) : ofJson? value = leaf? value kind := by
  rw [ofJson?, tag]
  simp only [leaf]

theorem ofJson?_wrapper {value inner : Value} {kind key : String} {wrap : TypeRef → TypeRef}
    (tag : value.text? "kind" = some kind) (wraps : wrapper? kind = some (key, wrap))
    (held : value.get? key = some inner) : ofJson? value = (ofJson? inner).map wrap := by
  rw [ofJson?, tag]
  simp only [wraps]
  split
  · next missing => cases held.symm.trans missing
  · next other found => rw [Option.some.inj (held.symm.trans found)]

theorem ofJson?_toJson (type : TypeRef) : ofJson? type.toJson = some type := by
  induction type with
  | scalar name | base name | variant owner name =>
    rw [toJson, ofJson?_leaf rfl rfl]
    rfl
  | list item ih => rw [toJson, ofJson?_wrapper rfl rfl rfl, ih, Option.map_some]
  | optional inner ih => rw [toJson, ofJson?_wrapper rfl rfl rfl, ih, Option.map_some]

end TypeRef

theorem Field.ofJson?_toJson (field : Field) : Field.ofJson? field.toJson = some field := by
  have type : field.toJson.get? "type" = some field.type.toJson := rfl
  have name : field.toJson.text? "name" = some field.name := rfl
  simp [Field.ofJson?, name, type, TypeRef.ofJson?_toJson]

/-- Reading undoes writing on lists where it does so on items. -/
theorem mapM_map_eq_some {Item Form : Type} {write : Item → Form} {read : Form → Option Item}
    (inverse : ∀ item, read (write item) = some item) (items : List Item) :
    (items.map write).mapM read = some items := by
  induction items with
  | nil => rfl
  | cons item rest ih => simp [inverse, ih]

theorem Variant.ofJson?_toJson (variant : Variant) :
    Variant.ofJson? variant.toJson = some variant := by
  have name : variant.toJson.text? "name" = some variant.name := rfl
  have fields : variant.toJson.items? "fields" = some (variant.fields.map (·.toJson)) := rfl
  simp [Variant.ofJson?, name, fields, mapM_map_eq_some Field.ofJson?_toJson]

theorem BaseType.ofJson?_toJson (base : BaseType) : BaseType.ofJson? base.toJson = some base := by
  have name : base.toJson.text? "name" = some base.name := rfl
  have variants : base.toJson.items? "variants" = some (base.variants.map (·.toJson)) := rfl
  simp [BaseType.ofJson?, name, variants, mapM_map_eq_some Variant.ofJson?_toJson]

theorem Schema.ofJson?_toJson (schema : Schema) : Schema.ofJson? schema.toJson = some schema := by
  have bases : schema.toJson.items? "base_types" = some (schema.baseTypes.map (·.toJson)) := rfl
  simp [Schema.ofJson?, bases, mapM_map_eq_some BaseType.ofJson?_toJson]

section Plain

open Json (Plain)

theorem TypeRef.plain_toJson (type : TypeRef) : Plain type.toJson := by
  induction type with
  | scalar name | base name | variant owner name =>
    refine .object (by simp) ?_
    simp [Plain.string]
  | list item ih | optional item ih =>
    refine .object (by simp) ?_
    simp [Plain.string, ih]

theorem Field.plain_toJson (field : Field) : Plain field.toJson := by
  refine .object (by simp) ?_
  simp [Plain.string, field.type.plain_toJson]

theorem Variant.plain_toJson (variant : Variant) : Plain variant.toJson := by
  have fields : Plain (.array (variant.fields.map (·.toJson))) :=
    .array (by simp +contextual [Field.plain_toJson])
  refine .object (by simp) ?_
  simp [Plain.string, fields]

theorem BaseType.plain_toJson (base : BaseType) : Plain base.toJson := by
  have variants : Plain (.array (base.variants.map (·.toJson))) :=
    .array (by simp +contextual [Variant.plain_toJson])
  refine .object (by simp) ?_
  simp [Plain.string, variants]

theorem Schema.plain_toJson (schema : Schema) : Plain schema.toJson := by
  have bases : Plain (.array (schema.baseTypes.map (·.toJson))) :=
    .array (by simp +contextual [BaseType.plain_toJson])
  refine .object (by simp) ?_
  simp [bases]

end Plain

section Pretty

open Json.Grammar

theorem Schema.wholeText_pretty (schema : Schema) :
    ∃ written : Written, written.WholeText (Json.pretty schema.toJson).toList ∧
      written.Matches schema.toJson := by
  obtain ⟨written, form, same⟩ :=
    Json.valueText_chars Json.Spacing.blank_pretty schema.plain_toJson 0
  have whole := Written.WholeText.spaced Json.space_nil form Json.space_nil
  refine ⟨written, ?_, same⟩
  simpa [Json.pretty] using whole

/-- The printed schema is read back, with space behind it or without. -/
theorem Schema.ofText?_pretty (schema : Schema) {space : String} (blank : Space space.toList) :
    Schema.ofText? (Json.pretty schema.toJson ++ space) = some schema := by
  have shape : (Json.pretty schema.toJson ++ space).toList =
      schema.toJson.chars .pretty Json.Number.text 0 ++ space.toList := by
    simp [Json.pretty]
  have short : (schema.toJson.chars .pretty Json.Number.text 0).length <
      (Json.pretty schema.toJson ++ space).length + 1 := by
    rw [← String.length_toList, shape, List.length_append]
    omega
  rw [ofText?, shape,
    Json.parseWithin_chars Json.Spacing.blank_pretty schema.plain_toJson short blank]
  exact ofJson?_toJson schema

end Pretty

end NodeGen
