import NodeGen.Schema.Validity
import NodeGen.Source.TypeText

/-! Resolution of declared types into a schema. Repeated base names are refused first; then the type
texts are read in declaration order; then the schema is validated. -/

set_option autoImplicit false

namespace NodeGen.Source

/-- The earliest base type whose name is in `seen` or was declared before it. -/
def repeatedBase? (seen : List String) : List BaseType → Option String
  | [] => none
  | base :: rest =>
    if base.name ∈ seen then some base.name else repeatedBase? (base.name :: seen) rest

theorem repeatedBase?_eq_none_iff (seen : List String) (types : List BaseType) :
    repeatedBase? seen types = none ↔
      (∀ base ∈ types, base.name ∉ seen) ∧ (types.map (·.name)).Nodup := by
  induction types generalizing seen with
  | nil => simp [repeatedBase?]
  | cons base rest ih =>
    by_cases known : base.name ∈ seen
    · simp [repeatedBase?, known]
    · simp only [repeatedBase?, known, if_false, ih, List.mem_cons, not_or, List.map_cons,
        List.nodup_cons, List.mem_map, forall_eq_or_imp]
      grind

def resolveField (scope : List BaseType) (base variant : String) (field : Field) :
    Except SchemaError NodeGen.Field := do
  let type ← TypeText.parse scope (Context.field base variant field.name) field.typeText
  return ⟨field.name, type⟩

def resolveVariant (scope : List BaseType) (base : String) (variant : Variant) :
    Except SchemaError NodeGen.Variant := do
  let fields ← variant.fields.mapM (resolveField scope base variant.name)
  return ⟨variant.name, fields⟩

def resolveBase (scope : List BaseType) (base : BaseType) :
    Except SchemaError NodeGen.BaseType := do
  let variants ← base.variants.mapM (resolveVariant scope base.name)
  return ⟨base.name, variants⟩

def resolve (types : List BaseType) : Except SchemaError Schema := do
  if let some name := repeatedBase? [] types then
    throw (.duplicateBase name)
  let baseTypes ← types.mapM (resolveBase types)
  let schema : Schema := ⟨baseTypes⟩
  schema.validate
  return schema

end NodeGen.Source
