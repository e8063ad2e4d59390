import NodeGen.Name

/-! Identifiers of Rust output: names in lower case, with keywords escaped. -/

set_option autoImplicit false

namespace NodeGen.Target.Rust

/-- Keywords in use and reserved ones, of the 2024 edition. -/
def keywords : List String := [
  "as", "async", "await", "break", "const", "continue", "dyn", "else", "enum", "extern", "false",
  "fn", "for", "gen", "if", "impl", "in", "let", "loop", "match", "mod", "move", "mut", "pub",
  "ref", "return", "static", "struct", "trait", "true", "type", "unsafe", "use", "where", "while",
  "abstract", "become", "box", "do", "final", "macro", "override", "priv", "try", "typeof",
  "unsized", "virtual", "yield"]

/-- Words that cannot even be raw identifiers. -/
def pathKeywords : List String :=
  ["self", "Self", "super", "crate", "_"]

def rawMark : String := "r#"

/-- The identifier of a field or parameter. -/
def ident (name : String) : String :=
  let snake := Name.snakeCase name
  if pathKeywords.contains snake then snake ++ "_"
  else if keywords.contains snake then rawMark ++ snake
  else snake

/-- The module that holds a base type. -/
def moduleName (base : String) : String :=
  ident base

/-- Drops every mark of a raw identifier from the front. -/
def dropRawMarks : List Char → List Char
  | 'r' :: '#' :: rest => dropRawMarks rest
  | other => other

def moduleFile (base : String) : String :=
  String.ofList (dropRawMarks (moduleName base).toList) ++ ".rs"

end NodeGen.Target.Rust
