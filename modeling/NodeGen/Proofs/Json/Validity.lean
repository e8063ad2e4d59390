import NodeGen.Proofs.Json.Soundness

/-! Texts that are JSON, whatever they are read as. Strings, lists and objects whose parts are JSON
are JSON themselves. -/

set_option autoImplicit false

namespace NodeGen.Json.Grammar

section Strings

theorem CharText.units {char : Char} {text : List Char} (form : CharText char text)
    {units : List Nat} {rest : List Char} (later : UnitsText units rest) :
    UnitsText (charUnits char ++ units) (text ++ rest) := by
  cases form with
  | plain notQuote notSlash printed => exact .plain notQuote notSlash printed later
  | short member => exact .short member later
  | unit digits =>
    rw [charUnits, if_pos (HexUnit.lt digits)]
    exact .escape digits later
  | pair beyond high low =>
    rw [charUnits, if_neg (by omega), List.append_assoc]
    exact .escape high (.escape low later)

theorem CharsText.units {chars text : List Char} (form : CharsText chars text) :
    UnitsText (codeUnits chars) text := by
  induction form with
  | nil => exact .nil
  | cons first _ ih => exact first.units ih

end Strings

/-- Every text of the form is the text of some JSON value. -/
def IsJson {Item : Type} (form : Item → List Char → Prop) : Prop :=
  ∀ item text, form item text → ∃ written : Written, written.Text text

theorem isJson_stringText : IsJson StringText := by
  rintro value _ ⟨chars⟩
  exact ⟨_, .string chars.units⟩

section Containers

variable {Item Other : Type} {form : Item → List Char → Prop} {other : Other → List Char → Prop}
  {first : Bool} {text : List Char}

/-- Items whose texts are also those of other items, which stand for them. -/
theorem Items.exists_related {stands : Other → Item → Prop}
    (each : ∀ item text, form item text → ∃ found, other found text ∧ stands found item)
    {items : List Item} (listed : Items form first items text) :
    ∃ others, Items other first others text ∧ List.Forall₂ stands others items := by
  induction listed with
  | done blank => exact ⟨[], .done blank, .nil⟩
  | next ofGap ofItem _ ih =>
    obtain ⟨found, ofFound, means⟩ := each _ _ ofItem
    obtain ⟨others, later, related⟩ := ih
    exact ⟨found :: others, .next ofGap ofFound later, .cons means related⟩

theorem Items.exists_other
    (each : ∀ item text, form item text → ∃ found, other found text)
    {items : List Item} (listed : Items form first items text) :
    ∃ others, Items other first others text := by
  have found : ∀ item text, form item text → ∃ found, other found text ∧ True := by
    simpa using each
  obtain ⟨others, ofOthers, -⟩ := Items.exists_related found listed
  exact ⟨others, ofOthers⟩

theorem isJson_arrayText (json : IsJson form) : IsJson (ArrayText form) := by
  rintro items _ ⟨listed⟩
  obtain ⟨written, form⟩ := Items.exists_other json listed
  exact ⟨_, .array form⟩

theorem EntryText.exists_memberText (json : IsJson form) (entry : String × Item)
    (text : List Char) (ofEntry : EntryText form entry text) :
    ∃ field, MemberText Written.Text field text := by
  obtain ⟨⟨chars⟩, before, after, ofValue⟩ := ofEntry
  obtain ⟨written, ofWritten⟩ := json _ _ ofValue
  have field := MemberText.colon chars.units before after ofWritten
  exact ⟨_, by simpa using field⟩

theorem isJson_objectText (json : IsJson form) : IsJson (ObjectText form) := by
  rintro entries _ ⟨listed⟩
  obtain ⟨written, form⟩ := Items.exists_other (EntryText.exists_memberText json) listed
  exact ⟨_, .object form⟩

end Containers

theorem Written.WholeText.append {written : Written} {text space : List Char}
    (form : written.WholeText text) (blank : Space space) : written.WholeText (text ++ space) := by
  obtain ⟨before, inner, after⟩ := form
  rw [List.append_assoc, List.append_assoc]
  exact .spaced before inner (space_append after blank)

end NodeGen.Json.Grammar
