import NodeGen.Schema
import NodeGen.Schema.Error
import NodeGen.Source
import NodeGen.Text.Blank

/-! The text of a field's type: `T?` is optional, `List<T>` is a list, a declared base type `B` or
its variant `B.V` is a reference, and everything else is a type of the target language whose angle
brackets have to balance. The text is read from its ends, not token by token. -/

set_option autoImplicit false

namespace NodeGen.Source.TypeText

open NodeGen.Text (trim trimStart trimEnd)

/-- Every closing angle bracket has a partner before it, and `depth` of them are still due. -/
def closes (depth : Nat) : List Char → Bool
  | [] => depth == 0
  | '<' :: rest => closes (depth + 1) rest
  | '>' :: rest =>
    match depth with
    | 0 => false
    | outer + 1 => closes outer rest
  | _ :: rest => closes depth rest

/-- A text that closes what is open before it leaves the brackets around it to the rest. -/
theorem closes_append {depth : Nat} {first : List Char} (closed : closes depth first = true)
    (outer : Nat) (rest : List Char) :
    closes (depth + outer) (first ++ rest) = closes outer rest := by
  fun_induction closes depth first with
  | case1 depth => simp_all
  | case2 depth first ih =>
    simpa [closes, Nat.add_right_comm] using ih closed
  | case3 first => cases closed
  | case4 first depth ih =>
    simpa [closes, Nat.add_right_comm] using ih closed
  | case5 depth char first notOpen notClose ih =>
    simpa [closes, notOpen, notClose] using ih closed

def isBalanced (text : List Char) : Bool :=
  closes 0 text

/-- How a trimmed text relates to the form `List<T>`. -/
inductive ListForm where
  | other
  /-- `List<` begins the text and no `>` ends it. -/
  | unclosed
  | item (text : List Char)
  deriving DecidableEq, Repr

def listForm : List Char → ListForm
  | 'L' :: 'i' :: 's' :: 't' :: rest =>
    match trimStart rest with
    | '<' :: inner => if inner.getLast? = some '>' then .item inner.dropLast else .unclosed
    | _ => .other
  | _ => .other

theorem length_lt_of_listForm {text item : List Char} (form : listForm text = .item item) :
    item.length < text.length := by
  unfold listForm at form
  split at form
  · rename_i rest
    split at form
    · rename_i inner opened
      split at form
      · cases form
        have shorter := Text.length_trimStart_le rest
        rw [opened] at shorter
        simp only [List.length_cons, List.length_dropLast] at *
        omega
      · cases form
    · cases form
  · cases form

/-- Of two declarations of one name the later one counts. -/
def declared (scope : List BaseType) (name : List Char) : Option BaseType :=
  scope.reverse.find? (·.name.toList == name)

/-- A trimmed text that is neither optional nor a list. -/
def parseLeaf (scope : List BaseType) (context : String) (malformed : SchemaError)
    (text : List Char) : Except SchemaError TypeRef :=
  if text.any fun char => char == '<' || char == '>' then
    if isBalanced text then .ok (.scalar (String.ofList text)) else .error malformed
  else
    match text.dropWhile (· != '.') with
    | [] =>
      match declared scope text with
      | some _ => .ok (.base (String.ofList text))
      | none => .ok (.scalar (String.ofList text))
    | _ :: tail =>
      let head := text.takeWhile (· != '.')
      match declared scope head with
      | none => .ok (.scalar (String.ofList text))
      | some base =>
        if base.variants.any (·.name.toList == tail) then
          .ok (.variant (String.ofList head) (String.ofList tail))
        else .error (.unknownVariant (String.ofList head) (String.ofList tail) context)

set_option linter.unusedVariables false in
/-- A fault quotes the innermost text that could not be read, blanks around it included. -/
def parseChars (scope : List BaseType) (context : String) (text : List Char) :
    Except SchemaError TypeRef :=
  let malformed := SchemaError.malformedType (String.ofList text) context
  if blank : trim text = [] then .error malformed
  else if (trim text).getLast? = some '?' then
    if (trimEnd (trim text).dropLast).getLast? = some '?' then .error malformed
    else (parseChars scope context (trim text).dropLast).map .optional
  else
    match form : listForm (trim text) with
    | .item item => (parseChars scope context item).map .list
    | .unclosed => .error malformed
    | .other => parseLeaf scope context malformed (trim text)
termination_by text.length
decreasing_by
  · have trimmed := Text.length_trim_le text
    have present := List.length_pos_iff.mpr blank
    simp only [List.length_dropLast]
    omega
  · exact Nat.lt_of_lt_of_le (length_lt_of_listForm form) (Text.length_trim_le text)

def parse (scope : List BaseType) (context text : String) : Except SchemaError TypeRef :=
  parseChars scope context text.toList

end NodeGen.Source.TypeText
