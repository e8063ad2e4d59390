import NodeGen.Document.Reader

/-! Documents taken from JSON values, which hold every key once. Faults name the path of the part
that is of the wrong kind. -/

set_option autoImplicit false

namespace NodeGen.Document

open Json (Path Problem Segment Value)

/-- A fault of a value and the path to it. -/
structure Misfit where
  path : Path
  problem : Problem

abbrev Fits (α : Type) : Type :=
  Except Misfit α

def Misfit.report (misfit : Misfit) : Json.Report :=
  ⟨some misfit.path, misfit.problem, none⟩

def inside {α : Type} (segment : Segment) (result : Fits α) : Fits α :=
  result.mapError fun misfit => { misfit with path := segment :: misfit.path }

def misfit {α : Type} (wanted : String) (value : Value) : Fits α :=
  .error ⟨[], .wrongKind value.kind wanted⟩

def textOfValue : Value → Fits String
  | .string text => .ok text
  | other => misfit "a string" other

def packageOfValue : Value → Fits (Option String)
  | .null => .ok none
  | other => (textOfValue other).map some

def itemsOfValues (position : Nat) : List Value → Except Misfit (List String)
  | [] => .ok []
  | item :: rest => do
    let text ← inside (.index position) (textOfValue item)
    return text :: (← itemsOfValues (position + 1) rest)

def importsOfValue : Value → Fits (List String)
  | .array items => itemsOfValues 0 items
  | other => misfit "a sequence" other

def mapOfValue {α : Type} (item : String → Value → Fits α) : Value → Fits (List α)
  | .object fields => fields.mapM fun field => inside (.key field.1) (item field.1 field.2)
  | other => misfit "a JSON object" other

def variantOfValue (value : Value) : Fits (List Source.Field) :=
  mapOfValue (fun name type => return ⟨name, ← textOfValue type⟩) value

def baseOfValue (value : Value) : Fits (List Source.Variant) :=
  mapOfValue (fun name fields => return ⟨name, ← variantOfValue fields⟩) value

def typesOfValue (value : Value) : Fits (List Source.BaseType) :=
  mapOfValue (fun name variants => return ⟨name, ← baseOfValue variants⟩) value

def fieldsOfValue (fields : Partial) : List (String × Value) → Except Misfit Document
  | [] => .ok fields.document
  | (key, value) :: rest =>
    if key ∉ fieldNames then inside (.key key) (.error ⟨[], .unknownField key fieldNames⟩)
    else if fields.has key then .error ⟨[], .duplicateField key⟩
    else if key = "package" then do
      let package ← inside (.key key) (packageOfValue value)
      fieldsOfValue { fields with package := some package } rest
    else if key = "imports" then do
      let imports ← inside (.key key) (importsOfValue value)
      fieldsOfValue { fields with imports := some imports } rest
    else do
      let types ← inside (.key key) (typesOfValue value)
      fieldsOfValue { fields with types := some types } rest

def positionalOfValues : List Value → Except Misfit Document
  | [] => .ok .empty
  | package :: rest => do
    let package ← inside (.index 0) (packageOfValue package)
    match rest with
    | [] => .ok ⟨package, [], []⟩
    | imports :: rest =>
      let imports ← inside (.index 1) (importsOfValue imports)
      match rest with
      | [] => .ok ⟨package, imports, []⟩
      | types :: rest =>
        let types ← inside (.index 2) (typesOfValue types)
        match rest with
        | [] => .ok ⟨package, imports, types⟩
        | _ :: _ => .error ⟨[], .tooLong (3 + rest.length)⟩

def ofValue : Value → Fits Document
  | .object fields => fieldsOfValue .empty fields
  | .array items => positionalOfValues items
  | other => misfit wanted other

end NodeGen.Document
