/-! Resolved schemas: base types, their variants and fields in declaration order, where every type
reference is classified. -/

set_option autoImplicit false

namespace NodeGen

inductive TypeRef where
  /-- A type of the target language, written as it stands. -/
  | scalar (name : String)
  | base (name : String)
  | variant (base name : String)
  | list (item : TypeRef)
  | optional (inner : TypeRef)
  deriving DecidableEq, Repr

/-- A list stands outermost, optional layers apart. -/
def TypeRef.usesList : TypeRef → Bool
  | .list _ => true
  | .optional inner => inner.usesList
  | .scalar _ | .base _ | .variant _ _ => false

structure Field where
  name : String
  type : TypeRef
  deriving DecidableEq, Repr

structure Variant where
  name : String
  fields : List Field
  deriving DecidableEq, Repr

structure BaseType where
  name : String
  variants : List Variant
  deriving DecidableEq, Repr

structure Schema where
  baseTypes : List BaseType
  deriving DecidableEq, Repr

def BaseType.variant? (base : BaseType) (name : String) : Option Variant :=
  base.variants.find? (·.name == name)

def Schema.base? (schema : Schema) (name : String) : Option BaseType :=
  schema.baseTypes.find? (·.name == name)

def Schema.variant? (schema : Schema) (base variant : String) : Option Variant :=
  (schema.base? base).bind (·.variant? variant)

end NodeGen
