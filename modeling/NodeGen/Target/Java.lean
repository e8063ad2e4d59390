import NodeGen.Layout
import NodeGen.Name
import NodeGen.Source
import NodeGen.Target.Java.Keyword
import NodeGen.Target.Reserved
import NodeGen.Text.Lowercase

/-! Java output: for each base type an abstract class that holds the interface `Visitor<R>` and one
static class for each variant. -/

set_option autoImplicit false

namespace NodeGen.Target.Java

def targetName : String := "java"

/-- Names that the output itself uses for types. -/
def reserved : List String :=
  ["Visitor", "R", "List", "Override"]

def listImport : String := "java.util.List"

/-- The parameter of a dispatch method is the base name in lower case. -/
def visitorParameter (base : String) : String :=
  Text.lowercase base

/-- Every reference may be null already, so an optional type is written like the type inside. -/
def typeText : TypeRef → String
  | .scalar name | .base name => name
  | .variant base name => base ++ "." ++ name
  | .list item => "List<" ++ typeText item ++ ">"
  | .optional inner => typeText inner

def checkKeyword (name context : String) : Except SchemaError PUnit :=
  if isKeyword name then .error (.reservedName name targetName context) else .ok ⟨⟩

def checkVariantKeywords (base : String) (variant : Variant) : Except SchemaError PUnit := do
  checkKeyword variant.name base
  variant.fields.forM fun field =>
    checkKeyword field.name (Context.variant base variant.name)

def checkBaseKeywords (base : BaseType) : Except SchemaError PUnit := do
  checkKeyword base.name Context.baseList
  checkKeyword (visitorParameter base.name) base.name
  base.variants.forM (checkVariantKeywords base.name)

/-- Reserved names are looked for in the whole schema before keywords are. -/
def check (schema : Schema) : Except SchemaError PUnit := do
  checkReserved targetName reserved schema.baseTypes
  schema.baseTypes.forM checkBaseKeywords

def fileName (base : BaseType) : String :=
  base.name ++ ".java"

def usesList (base : BaseType) : Bool :=
  base.variants.any fun variant => variant.fields.any (·.type.usesList)

/-- Each import once, and the one for lists where a field needs it. -/
def importsFor (imports : List String) (base : BaseType) : List String :=
  Document.distinct (imports ++ if usesList base then [listImport] else [])

def dispatchLine (base : BaseType) (variant : Variant) : Step :=
  .line ("R " ++ Name.dispatchMethod variant.name base.name ++ "(" ++ variant.name ++ " " ++
    visitorParameter base.name ++ ");")

def dispatchSteps (base : BaseType) : List Step :=
  [.block "interface Visitor<R> \x7b" "\x7d" (base.variants.map (dispatchLine base))]

def parameterText (field : Field) : String :=
  typeText field.type ++ " " ++ field.name

def constructorSteps (variant : Variant) : List Step :=
  [.block
    (variant.name ++ "(" ++ String.intercalate ", " (variant.fields.map parameterText) ++ ") \x7b")
    "\x7d"
    (variant.fields.map fun field => .line ("this." ++ field.name ++ " = " ++ field.name ++ ";"))]

def acceptSteps (base : BaseType) (variant : Variant) : List Step :=
  [.line "@Override",
    .block "<R> R accept(Visitor<R> visitor) \x7b" "\x7d"
      [.line ("return visitor." ++ Name.dispatchMethod variant.name base.name ++ "(this);")]]

def memberSteps (variant : Variant) : List Step :=
  variant.fields.map (fun field => .line ("final " ++ parameterText field ++ ";")) ++
    if variant.fields.isEmpty then [] else [.blank]

def variantSteps (base : BaseType) (variant : Variant) : List Step :=
  [.block ("static class " ++ variant.name ++ " extends " ++ base.name ++ " \x7b") "\x7d"
    (memberSteps variant ++ constructorSteps variant ++ [.blank] ++ acceptSteps base variant)]

def packageSteps : Option String → List Step
  | none => []
  | some package => [.line ("package " ++ package ++ ";"), .blank]

def importSteps : List String → List Step
  | [] => []
  | imports => imports.map (fun name => .line ("import " ++ name ++ ";")) ++ [.blank]

def bodySteps (base : BaseType) : List Step :=
  dispatchSteps base ++ [.blank, .line "abstract <R> R accept(Visitor<R> visitor);"] ++
    base.variants.flatMap fun variant => .blank :: variantSteps base variant

def unitSteps (package : Option String) (imports : List String) (base : BaseType) : List Step :=
  [.line ("// Generated by ast-gen from the `" ++ base.name ++ "` schema. Do not edit."), .blank] ++
    packageSteps package ++ importSteps (importsFor imports base) ++
    [.block ("abstract class " ++ base.name ++ " \x7b") "\x7d" (bodySteps base)]

def unitText (package : Option String) (imports : List String) (base : BaseType) : String :=
  Layout.render "\t" (unitSteps package imports base)

end NodeGen.Target.Java
