import NodeGen.Proofs.Document.Recognition
import NodeGen.Proofs.Json.Validity

/-! What may follow a document in its file. The reader of documents stops where the document ends,
so a text is accepted if it begins with one. It is one JSON value as a whole only if nothing but
space follows, and that is what the reader of values insists on. -/

set_option autoImplicit false

namespace NodeGen

namespace Document

open Json Json.Grammar

theorem isJson_typesText : IsJson TypesText :=
  have fields : IsJson FieldsText := fun _ => isJson_objectText isJson_stringText _
  have variants : IsJson VariantsText := fun _ => isJson_objectText fields _
  fun _ => isJson_objectText variants _

theorem isJson_valueText : IsJson Member.ValueText := by
  intro member text ofValue
  cases member with
  | package value =>
    obtain ⟨⟩ | named := ofValue
    · exact ⟨_, .null⟩
    · exact isJson_stringText _ _ named
  | imports values => exact isJson_arrayText isJson_stringText _ _ ofValue
  | types values => exact isJson_typesText _ _ ofValue

theorem exists_memberText_of_text (member : Member) (text : List Char) (form : member.Text text) :
    ∃ field, MemberText Written.Text field text :=
  EntryText.exists_memberText isJson_valueText _ _ form

section Beginning

variable {document : Document} {front rest : List Char}

theorem EntireText.exists_wholeText (form : document.EntireText front) :
    ∃ written : Written, written.WholeText front := by
  obtain ⟨-, -, before, items, after⟩ | ⟨-, -, before, items, after⟩ := form
  · obtain ⟨fields, members⟩ := Items.exists_other exists_memberText_of_text items
    have whole := Written.WholeText.spaced before (.object members) after
    exact ⟨_, by simpa using whole⟩
  · obtain ⟨values, listed⟩ := Items.exists_other isJson_valueText items
    have whole := Written.WholeText.spaced before (.array listed) after
    exact ⟨_, by simpa using whole⟩

/-- The value in place of the document, and that no other end of it can be found. -/
theorem EntireText.exists_reads (form : document.EntireText front) (rest : List Char) :
    ∃ value after, Space after ∧ Reads depthLimit (front ++ rest) value (after ++ rest) ∧
      ∀ other behind, Reads depthLimit (front ++ rest) other behind → behind = after ++ rest := by
  have levels : depthLimit = 123 + 5 := rfl
  rw [levels]
  obtain ⟨after, blank, found⟩ := read_entireText_append form rest
  obtain ⟨value, reads, -⟩ := read_iff.mp found
  refine ⟨value, after, blank, reads, fun other behind alsoReads => ?_⟩
  have once := readValue_eq_ok_iff.mpr ⟨value, reads, rfl⟩
  have again := readValue_eq_ok_iff.mpr ⟨other, alsoReads, rfl⟩
  exact (Prod.mk.inj (Except.ok.inj (again.symm.trans once))).2

/-- A text is read as a document if a beginning of it is a whole text of the document, whatever
follows. With what follows it is one JSON value, and is read as such, if that is nothing but
space. -/
theorem parse_takes_beginning (text : String) (document : Document) :
    (parse text = .ok document ↔
      ∃ front rest, text.toList = front ++ rest ∧ document.EntireText front) ∧
    ∀ front rest, text.toList = front ++ rest → document.EntireText front →
      (∃ written : Written, written.WholeText front) ∧
      ((∃ written : Written, written.WholeText text.toList) ↔ Space rest) ∧
      ((∃ value, Json.parse text = .ok value) ↔ Space rest) := by
  refine ⟨parse_eq_ok_iff_begins, fun front rest whole form => ?_⟩
  obtain ⟨written, ofFront⟩ := form.exists_wholeText
  obtain ⟨value, after, blank, reads, unique⟩ := form.exists_reads rest
  have ended (skipped : skipSpace (after ++ rest) = []) : Space rest := by
    rw [skipSpace_append blank] at skipped
    exact space_of_skipSpace skipped
  refine ⟨⟨written, ofFront⟩, ⟨?_, ?_⟩, ⟨?_, ?_⟩⟩
  · rintro ⟨other, ofText⟩
    rw [whole] at ofText
    exact ended (reads_wholeText ofText reads).1
  · intro behind
    exact ⟨written, whole ▸ ofFront.append behind⟩
  · rintro ⟨value, parsed⟩
    obtain ⟨other, left, alsoReads, skipped, -⟩ := Json.parse_eq_ok_iff.mp parsed
    rw [whole] at alsoReads
    exact ended (unique other left alsoReads ▸ skipped)
  · intro behind
    have skipped : skipSpace (after ++ rest) = [] := by
      rw [← List.append_nil (after ++ rest), skipSpace_append (space_append blank behind)]
      rfl
    exact ⟨value.collapse, Json.parse_eq_ok_iff.mpr ⟨value, after ++ rest, whole ▸ reads, skipped,
      rfl⟩⟩

end Beginning

/-- A list with the package alone, and a bracket too many behind it. -/
theorem parse_takes_beginning_strayBracket :
    parse " [\"p\"] ]" = .ok ⟨some "p", [], []⟩ ∧
    (¬∃ written : Written, written.WholeText " [\"p\"] ]".toList) ∧
    ¬∃ value, Json.parse " [\"p\"] ]" = .ok value := by
  obtain ⟨accepted, extent⟩ := parse_takes_beginning " [\"p\"] ]" ⟨some "p", [], []⟩
  have blank : Space [' '] := by simp [Space]
  have stray : ¬Space [']'] := by simp [Space]
  have name : StringText "p" _ := .quoted (charsText_plain (by decide))
  have items : Items Member.ValueText true [.package (some "p")] _ :=
    .next (.first space_nil) (.named name) (.done space_nil)
  have form : EntireText ⟨some "p", [], []⟩ [' ', '[', '"', 'p', '"', ']', ' '] :=
    .inr (@ListText.bracketed _ _ [.imports [], .types []] _ _ _ rfl (by simp [Member.IsEmpty])
      blank items blank)
  obtain ⟨-, whole, value⟩ := extent _ [']'] rfl form
  exact ⟨accepted.mpr ⟨_, [']'], rfl, form⟩, fun read => stray (whole.mp read),
    fun read => stray (value.mp read)⟩

/-- A second object behind the document is not looked at, although the text is no JSON value. -/
theorem parse_two_objects :
    parse "\x7b\x7d \x7b\x7d" = .ok .empty ∧
    ¬∃ written : Written, written.WholeText "\x7b\x7d \x7b\x7d".toList := by
  have found : read "\x7b\x7d \x7b\x7d".toList = .ok (.empty, " \x7b\x7d".toList) := rfl
  refine ⟨by rw [parse, found], ?_⟩
  rintro ⟨written, form⟩
  obtain ⟨value, reads, -⟩ := (@read_iff 0 _ _ _).mp found
  exact absurd (reads_wholeText form reads).1 (by decide)

end Document

end NodeGen
