import NodeGen.Layout
import NodeGen.Name
import NodeGen.Target.Reserved
import NodeGen.Target.Rust.Ident

/-! Rust output: for each base type a module that holds an enum over its variants, a struct for each
variant and the trait `Visitor<R>`. Modules stand side by side, so a reference to another base type
goes through the parent. -/

set_option autoImplicit false

namespace NodeGen.Target.Rust

def targetName : String := "rust"

/-- Names that the output itself uses unqualified. -/
def reserved : List String :=
  ["Visitor", "R", "V", "Box", "Vec", "Option", "Self", "Sized"]

/-- The path of an item of the module of `base`, seen from the module of `own`. -/
def itemPath (own base item : String) : String :=
  if base = own then item else "super::" ++ moduleName base ++ "::" ++ item

/-- The type of a field; `boxed` says that a node would be held by value here. -/
def typeTextWithin (own : String) (boxed : Bool) : TypeRef → String
  | .scalar name => name
  | .base name => node (itemPath own name name)
  | .variant base name => node (itemPath own base name)
  | .list item => "Vec<" ++ typeTextWithin own false item ++ ">"
  | .optional inner => "Option<" ++ typeTextWithin own boxed inner ++ ">"
where
  node (path : String) : String :=
    if boxed then "Box<" ++ path ++ ">" else path

def typeText (own : String) (type : TypeRef) : String :=
  typeTextWithin own true type

/-- Names stay distinct under `convert`; `seen` holds what was emitted before, with its name. -/
def checkDistinct (convert : String → String) (context : String) (seen : List (String × String)) :
    List String → Except SchemaError PUnit
  | [] => .ok ⟨⟩
  | name :: rest =>
    match seen.find? (·.1 == convert name) with
    | some (emitted, first) => .error (.nameCollision first name emitted targetName context)
    | none => checkDistinct convert context (seen ++ [(convert name, name)]) rest

def methodName (base variant : String) : String :=
  Name.snakeCase (Name.dispatchMethod variant base)

def checkFieldNames (base : String) (variant : Variant) : Except SchemaError PUnit :=
  checkDistinct ident (Context.variant base variant.name) [] (variant.fields.map (·.name))

def checkBaseNames (base : BaseType) : Except SchemaError PUnit := do
  checkDistinct (methodName base.name) base.name [] (base.variants.map (·.name))
  base.variants.forM (checkFieldNames base.name)

/-- Reserved names are looked for first, then modules of one name, then methods of one name within
a base type and fields of one name within a variant. -/
def check (schema : Schema) : Except SchemaError PUnit := do
  checkReserved targetName reserved schema.baseTypes
  checkDistinct moduleName "module names" [] (schema.baseTypes.map (·.name))
  schema.baseTypes.forM checkBaseNames

def fileName (base : BaseType) : String :=
  moduleFile base.name

def acceptGenerics : String := "<R, V: Visitor<R> + ?Sized>"

def dispatchLine (base : BaseType) (variant : Variant) : Step :=
  .line ("fn " ++ methodName base.name variant.name ++ "(&mut self, " ++ ident base.name ++ ": &" ++
    variant.name ++ ") -> R;")

def dispatchSteps (base : BaseType) : List Step :=
  [.block "pub trait Visitor<R> \x7b" "\x7d" (base.variants.map (dispatchLine base))]

def parameterText (base : BaseType) (field : Field) : String :=
  ident field.name ++ ": " ++ typeText base.name field.type

def structSteps (base : BaseType) (variant : Variant) : List Step :=
  [.block ("pub struct " ++ variant.name ++ " \x7b") "\x7d"
    (variant.fields.map fun field => .line ("pub " ++ parameterText base field ++ ","))]

def initializer : List String → String
  | [] => "Self \x7b\x7d"
  | names => "Self \x7b " ++ String.intercalate ", " names ++ " \x7d"

def constructorSteps (base : BaseType) (variant : Variant) : List Step :=
  [.block
    ("pub fn new(" ++ String.intercalate ", " (variant.fields.map (parameterText base)) ++
      ") -> Self \x7b")
    "\x7d" [.line (initializer (variant.fields.map fun field => ident field.name))]]

def acceptHeader (visitor : String) : String :=
  "pub fn accept" ++ acceptGenerics ++ "(&self, " ++ visitor ++ ": &mut V) -> R \x7b"

def acceptSteps (base : BaseType) (variant : Variant) : List Step :=
  [.block (acceptHeader "visitor") "\x7d"
    [.line ("visitor." ++ methodName base.name variant.name ++ "(self)")]]

def variantSteps (base : BaseType) (variant : Variant) : List Step :=
  structSteps base variant ++ [.blank] ++
    [.block ("impl " ++ variant.name ++ " \x7b") "\x7d"
      (constructorSteps base variant ++ [.blank] ++ acceptSteps base variant)]

def importSteps : List String → List Step
  | [] => []
  | imports => imports.map (fun name => .line ("use " ++ name ++ ";")) ++ [.blank]

def enumSteps (base : BaseType) : List Step :=
  [.block ("pub enum " ++ base.name ++ " \x7b") "\x7d"
    (base.variants.map fun variant =>
      .line (variant.name ++ "(" ++ variant.name ++ "),"))]

def matchArm (variant : Variant) : Step :=
  .line ("Self::" ++ variant.name ++ "(node) => node.accept(visitor),")

/-- A base type without variants has no value to visit. -/
def enumAcceptSteps (base : BaseType) : List Step :=
  if base.variants.isEmpty then
    [.block (acceptHeader "_visitor") "\x7d" [.line "match *self \x7b\x7d"]]
  else
    [.block (acceptHeader "visitor") "\x7d"
      [.block "match self \x7b" "\x7d" (base.variants.map matchArm)]]

def unitSteps (imports : List String) (base : BaseType) : List Step :=
  [.line ("// @generated by ast-gen from the `" ++ base.name ++ "` schema. Do not edit."),
    .line "#![allow(clippy::new_without_default, clippy::too_many_arguments)]", .blank] ++
    importSteps imports ++
    enumSteps base ++ [.blank] ++
    [.block ("impl " ++ base.name ++ " \x7b") "\x7d" (enumAcceptSteps base), .blank] ++
    dispatchSteps base ++
    base.variants.flatMap fun variant => .blank :: variantSteps base variant

def unitText (imports : List String) (base : BaseType) : String :=
  Layout.render "    " (unitSteps imports base)

end NodeGen.Target.Rust
