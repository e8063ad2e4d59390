/-! Names of a schema: which texts are identifiers, the lower-case form with underscores, and the
name of the method that dispatches on a variant. Letters and digits are those of ASCII throughout:
an identifier holds no others, and every other character passes through unchanged. -/

set_option autoImplicit false

namespace NodeGen.Name

def isLetter (char : Char) : Bool :=
  char.isUpper || char.isLower || char == '_'

def isIdentifierChars : List Char → Bool
  | [] => false
  | first :: rest => isLetter first && rest.all fun char => isLetter char || char.isDigit

/-- A letter or underscore, then letters, digits and underscores. -/
def isIdentifier (name : String) : Bool :=
  isIdentifierChars name.toList

/-- A capital starts a new word after a small letter or a digit, and after another capital when a
small letter follows it (the last capital of an acronym belongs to the next word). -/
def startsWord (previous next : Option Char) : Bool :=
  match previous with
  | none => false
  | some char => char.isLower || char.isDigit || (char.isUpper && next.any Char.isLower)

/-- The lower-case form of a text that stands after the character `previous`. -/
def snakeChars (previous : Option Char) : List Char → List Char
  | [] => []
  | char :: rest =>
    let tail := snakeChars (some char) rest
    if char.isUpper then
      if startsWord previous rest.head? then '_' :: char.toLower :: tail else char.toLower :: tail
    else char :: tail

def snakeCase (name : String) : String :=
  String.ofList (snakeChars none name.toList)

/-- The method that a visitor of `base` declares for `variant`. -/
def dispatchMethod (variant base : String) : String :=
  "visit" ++ variant ++ base

end NodeGen.Name
