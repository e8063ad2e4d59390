/-! What can be wrong with a schema, and how each fault is reported. A `context` names the place of
the declaration or reference: the list of base types, `B`, `B.V` or `B.V.f`. -/

set_option autoImplicit false

namespace NodeGen

inductive SchemaError where
  | duplicateBase (name : String)
  | duplicateVariant (base variant : String)
  | duplicateField (base variant field : String)
  | invalidIdentifier (name context : String)
  | variantShadowsBase (base variant : String)
  | malformedType (text context : String)
  | unknownBase (name context : String)
  | unknownVariant (base variant context : String)
  /-- Two names that are written alike in the output of `target`. -/
  | nameCollision (first second emitted target context : String)
  | reservedName (name target context : String)
  deriving DecidableEq, Repr

namespace SchemaError

private def quote (text : String) : String :=
  "`" ++ text ++ "`"

def message : SchemaError → String
  | duplicateBase name => "duplicate base type " ++ quote name
  | duplicateVariant base variant =>
      "duplicate variant " ++ quote variant ++ " in base type " ++ quote base
  | duplicateField base variant field =>
      "duplicate field " ++ quote field ++ " in " ++ quote (base ++ "." ++ variant)
  | invalidIdentifier name context =>
      quote name ++ " is not a valid identifier (in " ++ context ++ ")"
  | variantShadowsBase base variant =>
      "variant " ++ quote (base ++ "." ++ variant) ++ " shares its name with a base type"
  | malformedType text context =>
      "malformed type " ++ quote text ++ " for field " ++ quote context
  | unknownBase name context =>
      "reference to undeclared base type " ++ quote name ++ " from " ++ quote context
  | unknownVariant base variant context =>
      "base type " ++ quote base ++ " has no variant " ++ quote variant ++
        " (referenced from " ++ quote context ++ ")"
  | nameCollision first second emitted target context =>
      quote first ++ " and " ++ quote second ++ " both become " ++ quote emitted ++ " in " ++
        target ++ " output (in " ++ quote context ++ ")"
  | reservedName name target context =>
      quote name ++ " is reserved by the " ++ target ++ " backend (declared in " ++
        quote context ++ ")"

end SchemaError

/-- Places a fault is reported at. -/
def Context.baseList : String := "base type list"

def Context.variant (base variant : String) : String :=
  base ++ "." ++ variant

def Context.field (base variant field : String) : String :=
  base ++ "." ++ variant ++ "." ++ field

end NodeGen
