import NodeGen.Command
import NodeGen.Text.Quoted

/-! The settings of a command written out, one a line, four spaces for each level. -/

set_option autoImplicit false

namespace NodeGen

inductive Dump where
  | leaf (text : String)
  /-- A name with one part. -/
  | wrap (name : String) (part : Dump)
  | items (parts : List Dump)
  | record (name : String) (fields : List (String × Dump))

namespace Dump

def indent (depth : Nat) : String :=
  String.ofList (List.replicate (4 * depth) ' ')

mutual

/-- The text of a part whose first line is at a depth; it has no line break at its end. -/
def text (depth : Nat) : Dump → String
  | .leaf text => text
  | .wrap name part =>
    name ++ "(\n" ++ indent (depth + 1) ++ text (depth + 1) part ++ ",\n" ++ indent depth ++ ")"
  | .items [] => "[]"
  | .items parts => "[\n" ++ itemsText (depth + 1) parts ++ indent depth ++ "]"
  | .record name fields => name ++ " \x7b\n" ++ fieldsText (depth + 1) fields ++ indent depth ++ "\x7d"

def itemsText (depth : Nat) : List Dump → String
  | [] => ""
  | part :: rest => indent depth ++ text depth part ++ ",\n" ++ itemsText depth rest

def fieldsText (depth : Nat) : List (String × Dump) → String
  | [] => ""
  | (name, part) :: rest =>
    indent depth ++ name ++ ": " ++ text depth part ++ ",\n" ++ fieldsText depth rest

end

def ofOption : Option Dump → Dump
  | none => .leaf "None"
  | some part => .wrap "Some" part

def ofBool (value : Bool) : Dump :=
  .leaf (if value then "true" else "false")

def ofText (value : String) : Dump :=
  .leaf (Text.quoted value)

/-- In a path single quotes are escaped too. -/
def ofPath (value : String) : Dump :=
  .leaf (Text.quotedPath value)

end Dump

def InputSettings.dump (settings : InputSettings) : Dump :=
  .record "InputSettings" [
    ("builtin", .ofOption (settings.builtin.map fun _ => .leaf "Lox")),
    ("json_pointer", .ofOption (settings.pointer.map .ofText)),
    ("jq_expr", .ofOption (settings.query.map .ofText)),
    ("input", .items (settings.inputs.map .ofText))]

def Language.dump : Language → Dump
  | .java => .leaf "Java"
  | .rust => .leaf "Rust"

def GenerateSettings.dump (settings : GenerateSettings) : Dump :=
  .record "GenerateOut" [
    ("input_settings", settings.input.dump),
    ("lang", settings.language.dump),
    ("out", .ofOption (settings.out.map .ofPath)),
    ("package", .ofOption (settings.package.map .ofText)),
    ("imports", .items (settings.imports.map .ofText)),
    ("no_op", .ofBool settings.dryRun)]

def SchemaSettings.dump (settings : SchemaSettings) : Dump :=
  .record "SchemaOut" [
    ("input_settings", settings.input.dump),
    ("out", .ofOption (settings.out.map .ofPath)),
    ("no_op", .ofBool settings.dryRun)]

def Command.dump (command : Command) : Dump :=
  let part :=
    match command with
    | .generate settings => Dump.wrap "Generate" settings.dump
    | .schema settings => Dump.wrap "Schema" settings.dump
  .record "CommandLineInterface" [("cmd", part)]

end NodeGen
