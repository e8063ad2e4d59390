import NodeGen.Json.Printer
import NodeGen.Schema

/-! The JSON form of a resolved schema. Every type reference carries its kind. -/

set_option autoImplicit false

namespace NodeGen

open Json (Tree Value)

def TypeRef.toJson : TypeRef → Value
  | .scalar name => .object [("kind", .string "scalar"), ("name", .string name)]
  | .base name => .object [("kind", .string "base"), ("name", .string name)]
  | .variant owner name =>
    .object [("kind", .string "variant"), ("base", .string owner), ("variant", .string name)]
  | .list item => .object [("kind", .string "list"), ("item", item.toJson)]
  | .optional inner => .object [("kind", .string "optional"), ("inner", inner.toJson)]

def Field.toJson (field : Field) : Value :=
  .object [("name", .string field.name), ("type", field.type.toJson)]

def Variant.toJson (variant : Variant) : Value :=
  .object [("name", .string variant.name), ("fields", .array (variant.fields.map (·.toJson)))]

def BaseType.toJson (base : BaseType) : Value :=
  .object [("name", .string base.name), ("variants", .array (base.variants.map (·.toJson)))]

def Schema.toJson (schema : Schema) : Value :=
  .object [("base_types", .array (schema.baseTypes.map (·.toJson)))]

end NodeGen
