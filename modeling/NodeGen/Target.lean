import NodeGen.Schema.Validity
import NodeGen.Target.Java
import NodeGen.Target.Rust

/-! Targets: a language that source text is generated for, with what a run asks of the output. -/

set_option autoImplicit false

namespace NodeGen

inductive Target where
  | java (package : Option String) (imports : List String)
  | rust (imports : List String)
  deriving DecidableEq, Repr

/-- One file of output, which holds one base type. -/
structure CodeUnit where
  baseName : String
  fileName : String
  source : String
  deriving DecidableEq, Repr

namespace Target

def name : Target → String
  | .java _ _ => Java.targetName
  | .rust _ => Rust.targetName

def reservedNames : Target → List String
  | .java _ _ => Java.reserved
  | .rust _ => Rust.reserved

def fileName : Target → BaseType → String
  | .java _ _ => Java.fileName
  | .rust _ => Rust.fileName

/-- The names of the schema can be used in the output. -/
def check : Target → Schema → Except SchemaError PUnit
  | .java _ _ => Java.check
  | .rust _ => Rust.check

/-- The interface with one method for each variant. -/
def dispatchSteps : Target → BaseType → List Step
  | .java _ _ => Java.dispatchSteps
  | .rust _ => Rust.dispatchSteps

/-- The type of a variant's nodes. -/
def variantSteps : Target → BaseType → Variant → List Step
  | .java _ _ => Java.variantSteps
  | .rust _ => Rust.variantSteps

def unitText : Target → BaseType → String
  | .java package imports => Java.unitText package imports
  | .rust imports => Rust.unitText imports

def unit (target : Target) (base : BaseType) : CodeUnit :=
  ⟨base.name, target.fileName base, target.unitText base⟩

end Target

/-- One unit for each base type, in order, of a valid schema whose names suit the target. -/
def generate (schema : Schema) (target : Target) : Except SchemaError (List CodeUnit) := do
  schema.validate
  target.check schema
  return schema.baseTypes.map target.unit

namespace CodeUnit

/-- A unit under a line that names its file. -/
def listingEntry (unit : CodeUnit) : String :=
  "// ==> " ++ unit.fileName ++ "\n" ++ unit.source

/-- All units in one text, set apart by line breaks. -/
def listing (units : List CodeUnit) : String :=
  String.intercalate "\n" (units.map listingEntry)

end CodeUnit

end NodeGen
