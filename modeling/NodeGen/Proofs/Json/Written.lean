import Mathlib.Data.List.Forall2
import NodeGen.Json.Value
import NodeGen.Proofs.Json.Grammar

/-! JSON texts as such, whatever a reader makes of them: a string may hold one half of a surrogate
pair, a number may be out of every range, and values may be nested at any depth. -/

set_option autoImplicit false

namespace NodeGen.Json.Grammar

section Strings

/-- The code units of sixteen bits that a character takes. -/
def charUnits (char : Char) : List Nat :=
  if char.toNat < 0x10000 then [char.toNat]
  else [0xD800 + (char.toNat - 0x10000) / 0x400, 0xDC00 + (char.toNat - 0x10000) % 0x400]

def codeUnits (chars : List Char) : List Nat :=
  chars.flatMap charUnits

theorem charUnits_ne_nil (char : Char) : charUnits char ≠ [] := by
  unfold charUnits
  split <;> simp

theorem eq_of_charUnits_append {char other : Char} {front back : List Nat}
    (same : charUnits char ++ front = charUnits other ++ back) : char = other ∧ front = back := by
  -- The first half of a pair is no character, so that it tells where a pair begins.
  have valid : char.toNat < 0xD800 ∨ 0xDFFF < char.toNat ∧ char.toNat < 0x110000 := char.valid
  have alsoValid : other.toNat < 0xD800 ∨ 0xDFFF < other.toNat ∧ other.toNat < 0x110000 :=
    other.valid
  rw [← Char.toNat_inj]
  unfold charUnits at same
  split at same <;> split at same <;>
    simp only [List.cons_append, List.nil_append, List.cons.injEq] at same
  · exact same
  · omega
  · omega
  · exact ⟨by omega, same.2.2⟩

theorem codeUnits_injective {chars others : List Char} (same : codeUnits chars = codeUnits others) :
    chars = others := by
  induction chars generalizing others with
  | nil =>
    cases others with
    | nil => rfl
    | cons other others => exact absurd same.symm (by simp [codeUnits, charUnits_ne_nil])
  | cons char chars ih =>
    cases others with
    | nil => exact absurd same (by simp [codeUnits, charUnits_ne_nil])
    | cons other others =>
      obtain ⟨rfl, rest⟩ := eq_of_charUnits_append same
      rw [ih rest]

/-- The ways to write code units within quotes. An escape of four digits is one unit, whether or not
it has the other half of its pair beside it. -/
inductive UnitsText : List Nat → List Char → Prop
  | nil : UnitsText [] []
  | plain {char : Char} {units : List Nat} {rest : List Char} : char ≠ '"' → char ≠ '\\' →
    0x20 ≤ char.toNat → UnitsText units rest → UnitsText (charUnits char ++ units) (char :: rest)
  | short {letter char : Char} {units : List Nat} {rest : List Char} :
    (letter, char) ∈ shortEscapes → UnitsText units rest →
    UnitsText (charUnits char ++ units) ('\\' :: letter :: rest)
  | escape {unit : Nat} {digits : List Char} {units : List Nat} {rest : List Char} :
    HexUnit unit digits → UnitsText units rest →
    UnitsText (unit :: units) ('\\' :: 'u' :: (digits ++ rest))

/-- What needs no escape stands for itself. -/
theorem unitsText_plain {text : List Char}
    (plain : text.all (fun char => char ≠ '"' ∧ char ≠ '\\' ∧ 0x20 ≤ char.toNat)) :
    UnitsText (codeUnits text) text := by
  induction text with
  | nil => exact .nil
  | cons char rest ih =>
    rw [List.all_cons, Bool.and_eq_true, decide_eq_true_iff] at plain
    obtain ⟨⟨notQuote, notSlash, printed⟩, others⟩ := plain
    exact .plain notQuote notSlash printed (ih others)

end Strings

section Numbers

def DigitsText (text : List Char) : Prop :=
  text ≠ [] ∧ ∀ char ∈ text, char.isDigit = true

/-- Digits without leading zero. -/
def WholeText (text : List Char) : Prop :=
  text = ['0'] ∨ DigitsText text ∧ text.head? ≠ some '0'

inductive FractionText : List Char → Prop
  | absent : FractionText []
  | digits {digits : List Char} : DigitsText digits → FractionText ('.' :: digits)

inductive ExponentText : List Char → Prop
  | absent : ExponentText []
  | digits {mark : Char} {sign digits : List Char} : mark ∈ ['e', 'E'] →
    sign ∈ [[], ['+'], ['-']] → DigitsText digits → ExponentText (mark :: (sign ++ digits))

inductive NumberText : List Char → Prop
  | parts {sign whole fraction exponent : List Char} : sign ∈ [[], ['-']] → WholeText whole →
    FractionText fraction → ExponentText exponent →
    NumberText (sign ++ (whole ++ (fraction ++ exponent)))

end Numbers

/-- A value as it is written: strings by their code units, numbers by their texts, objects with all
their entries. -/
inductive Written where
  | null
  | bool (value : Bool)
  | number (text : List Char)
  | string (units : List Nat)
  | array (items : List Written)
  | object (fields : List (List Nat × Written))

inductive MemberText (form : Written → List Char → Prop) : List Nat × Written → List Char → Prop
  | colon {key : List Nat} {value : Written} {name before after text : List Char} :
    UnitsText key name → Space before → Space after → form value text →
    MemberText form (key, value) ('"' :: (name ++ '"' :: (before ++ ':' :: (after ++ text))))

namespace Written

inductive Text : Written → List Char → Prop
  | null : Text .null ['n', 'u', 'l', 'l']
  | true : Text (.bool true) ['t', 'r', 'u', 'e']
  | false : Text (.bool false) ['f', 'a', 'l', 's', 'e']
  | number {text : List Char} : NumberText text → Text (.number text) text
  | string {units : List Nat} {inner : List Char} : UnitsText units inner →
    Text (.string units) ('"' :: (inner ++ ['"']))
  | array {items : List Written} {inner : List Char} : Items Text true items inner →
    Text (.array items) ('[' :: (inner ++ [']']))
  | object {fields : List (List Nat × Written)} {inner : List Char} :
    Items (MemberText Text) true fields inner → Text (.object fields) ('\x7b' :: (inner ++ ['\x7d']))

/-- The text as a whole is one value, with nothing but space around it. -/
inductive WholeText (written : Written) : List Char → Prop
  | spaced {before inner after : List Char} : Space before → written.Text inner → Space after →
    WholeText written (before ++ (inner ++ after))

/-- No object in the value repeats a key. -/
inductive Distinct : Written → Prop
  | null : Distinct .null
  | bool {value : Bool} : Distinct (.bool value)
  | number {text : List Char} : Distinct (.number text)
  | string {units : List Nat} : Distinct (.string units)
  | array {items : List Written} : (∀ item ∈ items, item.Distinct) → Distinct (.array items)
  | object {fields : List (List Nat × Written)} : (fields.map (·.1)).Nodup →
    (∀ field ∈ fields, field.2.Distinct) → Distinct (.object fields)

inductive MemberMatches (same : Written → Value → Prop) : List Nat × Written → String × Value → Prop
  | named {key : String} {written : Written} {value : Value} : same written value →
    MemberMatches same (codeUnits key.toList, written) (key, value)

theorem MemberMatches.parts {same : Written → Value → Prop} {field : List Nat × Written}
    {entry : String × Value} (named : MemberMatches same field entry) :
    field.1 = codeUnits entry.1.toList ∧ same field.2 entry.2 := by
  cases named with
  | named inner => exact ⟨rfl, inner⟩

/-- The value is what the written one stands for; numbers may have any value. -/
inductive Matches : Written → Value → Prop
  | null : Matches .null .null
  | bool {value : Bool} : Matches (.bool value) (.bool value)
  | number {text : List Char} {value : Number} : Matches (.number text) (.number value)
  | string {value : String} : Matches (.string (codeUnits value.toList)) (.string value)
  | array {items : List Written} {values : List Value} : List.Forall₂ Matches items values →
    Matches (.array items) (.array values)
  | object {fields : List (List Nat × Written)} {values : List (String × Value)} :
    List.Forall₂ (MemberMatches Matches) fields values → Matches (.object fields) (.object values)

end Written

end NodeGen.Json.Grammar
