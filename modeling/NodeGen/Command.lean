/-! Commands: what a run is asked to do. -/

set_option autoImplicit false

namespace NodeGen

/-- Documents that come with the program. -/
inductive Builtin where
  | lox
  deriving DecidableEq, Repr

inductive Language where
  | java
  | rust
  deriving DecidableEq, Repr

/-- Where the document of a run comes from. -/
structure InputSettings where
  builtin : Option Builtin
  pointer : Option String
  query : Option String
  inputs : List String
  deriving DecidableEq, Repr

structure GenerateSettings where
  input : InputSettings
  language : Language
  out : Option String
  package : Option String
  imports : List String
  dryRun : Bool
  deriving DecidableEq, Repr

structure SchemaSettings where
  input : InputSettings
  out : Option String
  dryRun : Bool
  deriving DecidableEq, Repr

inductive Command where
  /-- Source text for every base type. -/
  | generate (settings : GenerateSettings)
  /-- The resolved schema as JSON. -/
  | schema (settings : SchemaSettings)
  deriving DecidableEq, Repr

end NodeGen
