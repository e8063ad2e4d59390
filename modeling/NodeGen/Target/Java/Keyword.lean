/-! Words that cannot name a type, a field or a parameter in Java. -/

set_option autoImplicit false

namespace NodeGen.Target.Java

/-- Keywords, literals, and the contextual words that cannot name a type or a variable. -/
def keywords : List String := [
  "abstract", "assert", "boolean", "break", "byte", "case", "catch", "char", "class", "const",
  "continue", "default", "do", "double", "else", "enum", "extends", "final", "finally", "float",
  "for", "goto", "if", "implements", "import", "instanceof", "int", "interface", "long", "native",
  "new", "package", "private", "protected", "public", "return", "short", "static", "strictfp",
  "super", "switch", "synchronized", "this", "throw", "throws", "transient", "try", "void",
  "volatile", "while", "true", "false", "null", "var", "yield", "record", "_"]

def isKeyword (name : String) : Bool :=
  keywords.contains name

end NodeGen.Target.Java
