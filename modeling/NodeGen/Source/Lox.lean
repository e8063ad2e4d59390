import NodeGen.Source

/-! The built-in document: the node types of a tree-walking interpreter for the language Lox. -/

set_option autoImplicit false

namespace NodeGen.Source.Lox

def node (name : String) (fields : List (String × String)) : Variant :=
  ⟨name, fields.map fun field => ⟨field.1, field.2⟩⟩

def expr : BaseType where
  name := "Expr"
  variants := [
    node "Binary" [("left", "Expr"), ("operator", "Token"), ("right", "Expr")],
    node "Logical" [("left", "Expr"), ("operator", "Token"), ("right", "Expr")],
    node "Grouping" [("expression", "Expr")],
    node "Literal" [("value", "Object")],
    node "Unary" [("operator", "Token"), ("right", "Expr")],
    node "Variable" [("name", "Token")],
    node "Assign" [("name", "Token"), ("value", "Expr")],
    node "Call" [("callee", "Expr"), ("paren", "Token"), ("arguments", "List<Expr>")],
    node "Get" [("object", "Expr"), ("name", "Token")],
    node "Set" [("object", "Expr"), ("name", "Token"), ("value", "Expr")],
    node "This" [("keyword", "Token")],
    node "Super" [("keyword", "Token"), ("method", "Token")]]

def stmt : BaseType where
  name := "Stmt"
  variants := [
    node "Block" [("statements", "List<Stmt>")],
    node "Expression" [("expression", "Expr")],
    node "Print" [("expression", "Expr")],
    node "Var" [("name", "Token"), ("initializer", "Expr?")],
    node "If" [("condition", "Expr"), ("thenBranch", "Stmt"), ("elseBranch", "Stmt?")],
    node "While" [("condition", "Expr"), ("body", "Stmt")],
    node "Function" [("name", "Token"), ("params", "List<Token>"), ("body", "List<Stmt>")],
    node "Return" [("keyword", "Token"), ("value", "Expr?")],
    node "Class"
      [("name", "Token"), ("super_", "Expr.Variable?"), ("methods", "List<Stmt.Function>")]]

def document : Document where
  package := some "com.craftinginterpreters.lox"
  imports := []
  types := [expr, stmt]

end NodeGen.Source.Lox
