import NodeGen.Text.Printable

/-! Texts between double quotes, in the form that reports and listings of settings use: quotes and
backslashes are escaped, and a character that would not show is written by its code point. -/

set_option autoImplicit false

namespace NodeGen.Text

/-- `\u` and the code point in lower-case hexadecimal digits between braces. -/
def escapeCodePoint (char : Char) : List Char :=
  ['\\', 'u', '\x7b'] ++ Nat.toDigits 16 char.toNat ++ ['\x7d']

def quoteChar (char : Char) : List Char :=
  if char == '\x00' then ['\\', '0']
  else if char == '\t' then ['\\', 't']
  else if char == '\r' then ['\\', 'r']
  else if char == '\n' then ['\\', 'n']
  else if char == '\\' then ['\\', '\\']
  else if char == '"' then ['\\', '"']
  else if isPrintable char then [char]
  else escapeCodePoint char

def quoted (text : String) : String :=
  String.ofList ('"' :: text.toList.flatMap quoteChar ++ ['"'])

/-- As `quoted`, with single quotes escaped as well. -/
def quotedPath (text : String) : String :=
  String.ofList ('"' :: text.toList.flatMap
    (fun char => if char == '\'' then ['\\', '\''] else quoteChar char) ++ ['"'])

end NodeGen.Text
