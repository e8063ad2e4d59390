import NodeGen.Schema
import NodeGen.Schema.Error

/-! Names that a target keeps for itself. -/

set_option autoImplicit false

namespace NodeGen.Target

def checkReservedVariants (target : String) (reserved : List String) (base : String) :
    List Variant → Except SchemaError PUnit
  | [] => .ok ⟨⟩
  | variant :: rest =>
    if variant.name ∈ reserved then .error (.reservedName variant.name target base)
    else checkReservedVariants target reserved base rest

/-- No base type and no variant has a reserved name; the first one in declaration order is
reported, a base type before its variants. -/
def checkReserved (target : String) (reserved : List String) :
    List BaseType → Except SchemaError PUnit
  | [] => .ok ⟨⟩
  | base :: rest => do
    if base.name ∈ reserved then .error (.reservedName base.name target Context.baseList)
    else
      checkReservedVariants target reserved base.name base.variants
      checkReserved target reserved rest

end NodeGen.Target
