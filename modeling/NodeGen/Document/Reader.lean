import NodeGen.Json.Scan
import NodeGen.Source

/-! Documents read straight from JSON text, so that repeated names are kept. The document is an
object with the fields `package`, `imports` and `types`, each at most once, or a list of up to three
of them in this order; what is absent is empty. Text behind the document is not looked at. -/

set_option autoImplicit false

namespace NodeGen.Document

open Json (Fault Result Segment skipSpace within)

/-- The value that follows is of a kind that is not wanted. -/
def refuse {α : Type} (wanted : String) (text : List Char) :
    Except Fault (α × List Char) := do
  let (kind, rest) ← Json.readKind text
  .error (.read (.wrongKind kind wanted) rest)

def readText (text : List Char) : Result String :=
  match skipSpace text with
  | '"' :: rest => Json.readString rest
  | other => refuse "a string" other

/-- The package may be null. -/
def readPackage (text : List Char) : Result (Option String) :=
  match skipSpace text with
  | 'n' :: rest => (Json.readWord ['u', 'l', 'l'] rest).map fun rest => (none, rest)
  | other => (readText other).map fun (name, rest) => (some name, rest)

def readImports (text : List Char) : Result (List String) :=
  match skipSpace text with
  | '[' :: rest => Json.readItems readText (rest.length + 1) [] rest
  | other => refuse "a sequence" other

def readMap {α : Type} (item : List Char → Result α) (text : List Char) :
    Result (List (String × α)) :=
  match skipSpace text with
  | '\x7b' :: rest => Json.readEntries item (rest.length + 1) [] rest
  | other => refuse "a JSON object" other

def readVariant (text : List Char) : Result (List Source.Field) :=
  (readMap readText text).map fun (entries, rest) =>
    (entries.map fun entry => ⟨entry.1, entry.2⟩, rest)

def readBase (text : List Char) : Result (List Source.Variant) :=
  (readMap readVariant text).map fun (entries, rest) =>
    (entries.map fun entry => ⟨entry.1, entry.2⟩, rest)

def readTypes (text : List Char) : Result (List Source.BaseType) :=
  (readMap readBase text).map fun (entries, rest) =>
    (entries.map fun entry => ⟨entry.1, entry.2⟩, rest)

/-- A document of which some fields have been read. -/
structure Partial where
  package : Option (Option String)
  imports : Option (List String)
  types : Option (List Source.BaseType)

def Partial.empty : Partial :=
  ⟨none, none, none⟩

def Partial.document (fields : Partial) : Document :=
  ⟨fields.package.getD none, fields.imports.getD [], fields.types.getD []⟩

def fieldNames : List String :=
  ["package", "imports", "types"]

def wanted : String := "struct RawDocument"

def Partial.has (fields : Partial) (key : String) : Bool :=
  if key = "package" then fields.package.isSome
  else if key = "imports" then fields.imports.isSome
  else if key = "types" then fields.types.isSome
  else false

/-- A fault in a key counts the space behind it as read, and a brace that ends the object. -/
def afterKey (text : List Char) : List Char :=
  match skipSpace text with
  | '\x7d' :: rest => rest
  | other => other

/-- The fields of a document after its opening brace, in at most `fuel` steps. -/
def readFields : Nat → Bool → Partial → List Char → Except Fault (Document × List Char)
  | 0, _, _, text => .error (.read .endInObject text)
  | fuel + 1, first, fields, text => do
    match ← within .unreadKey (Json.nextKey first text) with
    | (none, rest) => .ok (fields.document, rest)
    | (some key, rest) =>
      if key ∉ fieldNames then
        within (.key key) (.error (.read (.unknownField key fieldNames) (afterKey rest)))
      else if fields.has key then .error (.read (.duplicateField key) (afterKey rest))
      else
        let rest ← Json.readColon rest
        if key = "package" then
          let (package, rest) ← within (.key key) (readPackage rest)
          readFields fuel false { fields with package := some package } rest
        else if key = "imports" then
          let (imports, rest) ← within (.key key) (readImports rest)
          readFields fuel false { fields with imports := some imports } rest
        else
          let (types, rest) ← within (.key key) (readTypes rest)
          readFields fuel false { fields with types := some types } rest

/-- The end of a list that has all its items. -/
def readListEnd (text : List Char) : Except Fault (List Char) :=
  match skipSpace text with
  | [] => .error (.next .endInList [])
  | ']' :: rest => .ok rest
  | ',' :: rest =>
    match skipSpace rest with
    | ']' :: rest => .error (.next .trailingComma (']' :: rest))
    | other => .error (.next .trailingCharacters other)
  | other => .error (.next .trailingCharacters other)

/-- The fields of a document that is a list, after its opening bracket. -/
def readPositional (text : List Char) : Except Fault (Document × List Char) := do
  match ← Json.nextItem true text with
  | (false, rest) => .ok (.empty, rest)
  | (true, rest) =>
    let (package, rest) ← within (.index 0) (readPackage rest)
    match ← Json.nextItem false rest with
    | (false, rest) => .ok (⟨package, [], []⟩, rest)
    | (true, rest) =>
      let (imports, rest) ← within (.index 1) (readImports rest)
      match ← Json.nextItem false rest with
      | (false, rest) => .ok (⟨package, imports, []⟩, rest)
      | (true, rest) =>
        let (types, rest) ← within (.index 2) (readTypes rest)
        let rest ← readListEnd rest
        .ok (⟨package, imports, types⟩, rest)

def read (text : List Char) : Result Document :=
  match skipSpace text with
  | '\x7b' :: rest => readFields (rest.length + 1) true .empty rest
  | '[' :: rest => readPositional rest
  | other => refuse wanted other

/-- The document at the head of a text. -/
def parse (text : String) : Except Json.Report Document :=
  match read text.toList with
  | .ok (document, _) => .ok document
  | .error fault => .error ⟨some fault.path, fault.problem, some (fault.position text.toList)⟩

end NodeGen.Document
