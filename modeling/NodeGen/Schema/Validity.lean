import NodeGen.Name
import NodeGen.Schema
import NodeGen.Schema.Error
import NodeGen.Text.Blank

/-! Validation of a resolved schema. Base names are judged first, all of them; then each base type
in turn, variant by variant and field by field, and the first fault met is the one reported. -/

set_option autoImplicit false

namespace NodeGen.Schema

def checkIdentifier (name context : String) : Except SchemaError PUnit :=
  if Name.isIdentifier name then .ok ⟨⟩ else .error (.invalidIdentifier name context)

/-- Base names are identifiers and none occurs in `seen` or twice. -/
def checkBaseNames (seen : List String) : List BaseType → Except SchemaError PUnit
  | [] => .ok ⟨⟩
  | base :: rest => do
    checkIdentifier base.name Context.baseList
    if base.name ∈ seen then .error (.duplicateBase base.name)
    else checkBaseNames (base.name :: seen) rest

/-- Every node reference has a declaration, and no scalar is blank. -/
def checkRef (schema : Schema) (context : String) : TypeRef → Except SchemaError PUnit
  | .scalar name =>
    if (Text.trim name.toList).isEmpty then .error (.malformedType name context) else .ok ⟨⟩
  | .base name =>
    match schema.base? name with
    | some _ => .ok ⟨⟩
    | none => .error (.unknownBase name context)
  | .variant base name =>
    match schema.base? base with
    | none => .error (.unknownBase base context)
    | some target =>
      match target.variant? name with
      | some _ => .ok ⟨⟩
      | none => .error (.unknownVariant base name context)
  | .list item => checkRef schema context item
  | .optional inner => checkRef schema context inner

def checkFields (schema : Schema) (base variant : String) (seen : List String) :
    List Field → Except SchemaError PUnit
  | [] => .ok ⟨⟩
  | field :: rest => do
    checkIdentifier field.name (Context.variant base variant)
    if field.name ∈ seen then .error (.duplicateField base variant field.name)
    else
      checkRef schema (Context.field base variant field.name) field.type
      checkFields schema base variant (field.name :: seen) rest

def checkVariants (schema : Schema) (base : String) (seen : List String) :
    List Variant → Except SchemaError PUnit
  | [] => .ok ⟨⟩
  | variant :: rest => do
    checkIdentifier variant.name base
    if variant.name ∈ seen then .error (.duplicateVariant base variant.name)
    else if variant.name ∈ schema.baseTypes.map (·.name) then
      .error (.variantShadowsBase base variant.name)
    else
      checkFields schema base variant.name [] variant.fields
      checkVariants schema base (variant.name :: seen) rest

def checkBases (schema : Schema) : List BaseType → Except SchemaError PUnit
  | [] => .ok ⟨⟩
  | base :: rest => do
    checkVariants schema base.name [] base.variants
    checkBases schema rest

def validate (schema : Schema) : Except SchemaError PUnit := do
  checkBaseNames [] schema.baseTypes
  checkBases schema schema.baseTypes

end NodeGen.Schema
