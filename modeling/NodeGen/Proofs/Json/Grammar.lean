/-! The texts that JSON allows for strings, lists and objects: space between tokens, escapes in
strings, entries with repeated keys. A text is related to the value it stands for, and nothing is
said about how it is read. -/

set_option autoImplicit false

namespace NodeGen.Json.Grammar

def Space (text : List Char) : Prop :=
  ∀ char ∈ text, char ∈ [' ', '\t', '\n', '\r']

/-- The digit of a value below sixteen, in small or in capital letters. -/
def HexDigit (value : Nat) (digit : Char) : Prop :=
  "0123456789abcdef".toList[value]? = some digit ∨ "0123456789ABCDEF".toList[value]? = some digit

/-- Sixteen bits in four digits, the highest first. -/
inductive HexUnit : Nat → List Char → Prop
  | digits {a b c d : Nat} {first second third fourth : Char} :
    HexDigit a first → HexDigit b second → HexDigit c third → HexDigit d fourth →
    HexUnit (4096 * a + 256 * b + 16 * c + d) [first, second, third, fourth]

/-- Letters that stand for a character after a backslash. -/
def shortEscapes : List (Char × Char) :=
  [('"', '"'), ('\\', '\\'), ('/', '/'), ('b', '\x08'), ('f', '\x0c'), ('n', '\n'), ('r', '\r'),
    ('t', '\t')]

/-- The ways to write a character within quotes. -/
inductive CharText : Char → List Char → Prop
  | plain {char : Char} : char ≠ '"' → char ≠ '\\' → 0x20 ≤ char.toNat → CharText char [char]
  | short {letter char : Char} : (letter, char) ∈ shortEscapes → CharText char ['\\', letter]
  | unit {char : Char} {digits : List Char} : HexUnit char.toNat digits →
    CharText char ('\\' :: 'u' :: digits)
  /-- A character beyond sixteen bits, as two surrogates of ten bits each. -/
  | pair {char : Char} {high low : List Char} : 0x10000 ≤ char.toNat →
    HexUnit (0xD800 + (char.toNat - 0x10000) / 0x400) high →
    HexUnit (0xDC00 + (char.toNat - 0x10000) % 0x400) low →
    CharText char ('\\' :: 'u' :: high ++ '\\' :: 'u' :: low)

inductive CharsText : List Char → List Char → Prop
  | nil : CharsText [] []
  | cons {char : Char} {chars text rest : List Char} : CharText char text → CharsText chars rest →
    CharsText (char :: chars) (text ++ rest)

inductive StringText (value : String) : List Char → Prop
  | quoted {inner : List Char} : CharsText value.toList inner →
    StringText value ('"' :: inner ++ ['"'])

/-- What stands before an item: space, and a comma in it unless the item is the first. -/
inductive Gap : Bool → List Char → Prop
  | first {space : List Char} : Space space → Gap true space
  | comma {before after : List Char} : Space before → Space after →
    Gap false (before ++ ',' :: after)

section Containers

variable {Item : Type} (form : Item → List Char → Prop)

/-- Items up to the closing bracket or brace; `first` says that none came before them. -/
inductive Items : Bool → List Item → List Char → Prop
  | done {first : Bool} {space : List Char} : Space space → Items first [] space
  | next {first : Bool} {item : Item} {items : List Item} {gap text rest : List Char} :
    Gap first gap → form item text → Items false items rest →
    Items first (item :: items) (gap ++ (text ++ rest))

inductive ArrayText (items : List Item) : List Char → Prop
  | bracketed {inner : List Char} : Items form true items inner →
    ArrayText items ('[' :: inner ++ [']'])

inductive EntryText : String × Item → List Char → Prop
  | colon {key : String} {item : Item} {name before after text : List Char} :
    StringText key name → Space before → Space after → form item text →
    EntryText (key, item) (name ++ (before ++ ':' :: (after ++ text)))

/-- An object with these entries in this order; keys may come again. -/
inductive ObjectText (entries : List (String × Item)) : List Char → Prop
  | braced {inner : List Char} : Items (EntryText form) true entries inner →
    ObjectText entries ('\x7b' :: inner ++ ['\x7d'])

end Containers

end NodeGen.Json.Grammar
