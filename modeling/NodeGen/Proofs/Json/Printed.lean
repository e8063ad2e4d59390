import NodeGen.Json.Printer
import NodeGen.Proofs.Json.Validity

/-! Printed values read back. What is printed of a value without numbers is a JSON text of the
value, however its parts are set off from each other, and the reader gives the value back. -/

set_option autoImplicit false

namespace NodeGen.Json

open Grammar

section Strings

theorem hexDigit_digitChar {value : Nat} (small : value < 16) :
    HexDigit value (Nat.digitChar value) := by
  have all : ∀ place : Fin 16,
      "0123456789abcdef".toList[place.val]? = some (Nat.digitChar place.val) := by
    decide
  exact .inl (all ⟨value, small⟩)

theorem hexUnit_hexPair {code : Nat} (small : code < 0x20) :
    HexUnit code (['0', '0'] ++ hexPair code) := by
  have zero : HexDigit 0 '0' := .inl rfl
  have high := @hexDigit_digitChar (code / 16 % 16) (by omega)
  have low := @hexDigit_digitChar (code % 16) (by omega)
  have sum : 4096 * 0 + 256 * 0 + 16 * (code / 16 % 16) + code % 16 = code := by omega
  have whole := HexUnit.digits zero zero high low
  rwa [sum] at whole

theorem charText_escapeChar (char : Char) : CharText char (escapeChar char) := by
  unfold escapeChar
  split_ifs with quote slash newline carriage tab backspace feed control
  any_goals
    subst char
    exact .short (by decide)
  · exact .unit (hexUnit_hexPair control)
  · exact .plain quote slash (by omega)

theorem charsText_escape (chars : List Char) : CharsText chars (chars.flatMap escapeChar) := by
  induction chars with
  | nil => exact .nil
  | cons char rest ih => exact .cons (charText_escapeChar char) ih

theorem stringText_form (value : String) : StringText value (stringText value) :=
  .quoted (charsText_escape value.toList)

end Strings

/-- Nothing but space is put between the tokens. -/
structure Spacing.Blank (spacing : Spacing) : Prop where
  newline : ∀ depth, Space (spacing.newline depth)
  colon : ∃ after, spacing.colon = ':' :: after ∧ Space after

theorem Spacing.blank_pretty : Spacing.pretty.Blank where
  newline depth := by
    intro char member
    simp only [pretty, List.mem_cons, List.mem_replicate] at member
    obtain rfl | ⟨-, rfl⟩ := member <;> decide
  colon := ⟨[' '], rfl, by simp [Space]⟩

section Containers

variable {ν : Type} {spacing : Spacing} (blank : spacing.Blank) (number : ν → List Char)
  {form : Tree ν → List Char → Prop} {level : Nat}
include blank

theorem items_itemsChars {items : List (Tree ν)}
    (each : ∀ item ∈ items, form item (item.chars spacing number (level + 1))) :
    Items form false items
      (Tree.itemsChars spacing number level items ++ spacing.newline level) := by
  induction items with
  | nil => exact .done (blank.newline level)
  | cons item rest ih =>
    obtain ⟨first, others⟩ := List.forall_mem_cons.mp each
    have listed := Items.next (.comma space_nil (blank.newline (level + 1))) first (ih others)
    simpa [Tree.itemsChars] using listed

/-- The list of items is printed as a list of what is printed of them. -/
theorem arrayText_chars {items : List (Tree ν)}
    (each : ∀ item ∈ items, form item (item.chars spacing number (level + 1))) :
    ArrayText form items ((Tree.array items).chars spacing number level) := by
  cases items with
  | nil => exact .bracketed (.done space_nil)
  | cons item rest =>
    obtain ⟨first, others⟩ := List.forall_mem_cons.mp each
    have listed := Items.next (.first (blank.newline (level + 1))) first
      (items_itemsChars blank number others)
    simpa [Tree.chars] using ArrayText.bracketed listed

theorem entryText_chars (key : String) {value : Tree ν} {text : List Char}
    (ofValue : form value text) :
    EntryText form (key, value) (stringText key ++ spacing.colon ++ text) := by
  obtain ⟨after, colon, behind⟩ := blank.colon
  have entry := EntryText.colon (stringText_form key) space_nil behind ofValue
  simpa [colon] using entry

theorem items_fieldsChars {fields : List (String × Tree ν)}
    (each : ∀ field ∈ fields, form field.2 (field.2.chars spacing number (level + 1))) :
    Items (EntryText form) false fields
      (Tree.fieldsChars spacing number level fields ++ spacing.newline level) := by
  induction fields with
  | nil => exact .done (blank.newline level)
  | cons field rest ih =>
    obtain ⟨first, others⟩ := List.forall_mem_cons.mp each
    have listed := Items.next (.comma space_nil (blank.newline (level + 1)))
      (entryText_chars blank field.1 first) (ih others)
    simpa [Tree.fieldsChars] using listed

theorem objectText_chars {fields : List (String × Tree ν)}
    (each : ∀ field ∈ fields, form field.2 (field.2.chars spacing number (level + 1))) :
    ObjectText form fields ((Tree.object fields).chars spacing number level) := by
  cases fields with
  | nil => exact .braced (.done space_nil)
  | cons field rest =>
    obtain ⟨first, others⟩ := List.forall_mem_cons.mp each
    have listed := Items.next (.first (blank.newline (level + 1)))
      (entryText_chars blank field.1 first) (items_fieldsChars blank number others)
    simpa [Tree.chars] using ObjectText.braced listed

end Containers

section Lengths

variable {Item : Type} {form : Item → List Char → Prop} {text : List Char}

theorem Items.exists_text {first : Bool} {items : List Item} (listed : Items form first items text)
    {item : Item} (member : item ∈ items) :
    ∃ part, form item part ∧ part.length ≤ text.length := by
  induction listed with
  | done => cases member
  | @next first here items gap part rest _ ofItem _ ih =>
    obtain rfl | later := List.mem_cons.mp member
    · refine ⟨part, ofItem, ?_⟩
      simp only [List.length_append]
      omega
    · obtain ⟨other, ofOther, inside⟩ := ih later
      refine ⟨other, ofOther, ?_⟩
      simp only [List.length_append]
      omega

theorem EntryText.exists_text {entry : String × Item} (ofEntry : EntryText form entry text) :
    ∃ part, form entry.2 part ∧ part.length ≤ text.length := by
  obtain @⟨key, item, name, before, after, part, -, -, -, ofItem⟩ := ofEntry
  refine ⟨part, ofItem, ?_⟩
  simp only [List.length_append, List.length_cons]
  omega

variable {ν : Type} {spacing : Spacing} (blank : spacing.Blank) (number : ν → List Char)
  (level : Nat)
include blank

theorem length_item_lt {items : List (Tree ν)} {item : Tree ν} (member : item ∈ items) :
    (item.chars spacing number (level + 1)).length + 1 <
      ((Tree.array items).chars spacing number level).length := by
  have printed :
      ArrayText (fun item part => part = item.chars spacing number (level + 1)) items _ :=
    arrayText_chars blank number fun _ _ => rfl
  generalize (Tree.array items).chars spacing number level = text at printed ⊢
  obtain ⟨listed⟩ := printed
  obtain ⟨_, rfl, inside⟩ := Items.exists_text listed member
  simp only [List.length_append, List.length_cons]
  omega

theorem length_field_lt {fields : List (String × Tree ν)} {field : String × Tree ν}
    (member : field ∈ fields) :
    (field.2.chars spacing number (level + 1)).length + 1 <
      ((Tree.object fields).chars spacing number level).length := by
  have printed :
      ObjectText (fun item part => part = item.chars spacing number (level + 1)) fields _ :=
    objectText_chars blank number fun _ _ => rfl
  generalize (Tree.object fields).chars spacing number level = text at printed ⊢
  obtain ⟨listed⟩ := printed
  obtain ⟨entry, ofEntry, inside⟩ := Items.exists_text listed member
  obtain ⟨_, rfl, within⟩ := EntryText.exists_text ofEntry
  simp only [List.length_append, List.length_cons]
  omega

end Lengths

/-- The text of the value is read as the value, whatever stands around it, and does not begin like
the end of a list. -/
def ReadAs (limit : Nat) (value : Value) (text : List Char) : Prop :=
  (∀ space rest, Space space → readValue limit (space ++ (text ++ rest)) = .ok (value, rest)) ∧
    ∃ first others, text = first :: others ∧ isSpace first = false ∧ first ≠ ']'

theorem accepts_readAs (limit : Nat) : Accepts (readValue limit) (ReadAs limit) where
  reads blank read rest := read.1 _ rest blank
  opens read := read.2

section Reading

variable {limit : Nat} {text : List Char}

theorem readAs_string (value : String) : ReadAs (limit + 1) (.string value) (stringText value) := by
  refine ⟨fun space rest blank => ?_, _, _, rfl, by decide, by decide⟩
  have read := readString_eq_ok (charsText_escape value.toList) rest
  have shape : stringText value ++ rest =
      '"' :: (value.toList.flatMap escapeChar ++ '"' :: rest) := by simp [stringText]
  rw [readValue, skipSpace_append blank, shape, skipSpace_cons (by decide)]
  simp [readKind, read, Except.map, bind, Except.bind]

theorem readAs_null : ReadAs (limit + 1) .null ['n', 'u', 'l', 'l'] := by
  refine ⟨fun space rest blank => ?_, _, _, rfl, by decide, by decide⟩
  rw [readValue, skipSpace_append blank]
  rfl

theorem readAs_bool (value : Bool) (spacing : Spacing) (level : Nat) :
    ReadAs (limit + 1) (.bool value) ((Tree.bool value).chars spacing Number.text level) := by
  cases value
  all_goals
    refine ⟨fun space rest blank => ?_, _, _, rfl, by decide, by decide⟩
    rw [readValue, skipSpace_append blank]
    rfl

theorem readAs_array (nested : limit ≠ 0) {items : List Value}
    (listed : ArrayText (ReadAs limit) items text) : ReadAs (limit + 1) (.array items) text := by
  obtain @⟨inner, ofItems⟩ := listed
  refine ⟨fun space rest blank => ?_, _, _, rfl, by decide, by decide⟩
  have enough : inner.length < (inner ++ ']' :: rest).length + 1 := by
    rw [List.length_append]
    omega
  have read := readItems_eq_ok (accepts_readAs limit) ofItems enough List.isEmpty_nil rest
  have shape : '[' :: inner ++ [']'] ++ rest = '[' :: (inner ++ ']' :: rest) := by simp
  rw [readValue, skipSpace_append blank, shape, skipSpace_cons (by decide)]
  simp only [nested, if_false, read]
  rfl

theorem readAs_object (nested : limit ≠ 0) {fields : List (String × Value)}
    (apart : (fields.map (·.1)).Nodup) (listed : ObjectText (ReadAs limit) fields text) :
    ReadAs (limit + 1) (.object fields) text := by
  obtain @⟨inner, ofFields⟩ := listed
  refine ⟨fun space rest blank => ?_, _, _, rfl, by decide, by decide⟩
  have enough : inner.length < (inner ++ '\x7d' :: rest).length + 1 := by
    rw [List.length_append]
    omega
  have read := readEntries_eq_ok (accepts_readAs limit) ofFields enough List.isEmpty_nil rest
  have shape : '\x7b' :: inner ++ ['\x7d'] ++ rest = '\x7b' :: (inner ++ '\x7d' :: rest) := by simp
  rw [readValue, skipSpace_append blank, shape, skipSpace_cons (by decide)]
  simp only [nested, if_false, read, Except.map, List.reverse_nil, List.nil_append,
    Tree.ofFields_of_nodup apart]

end Reading

/-- A value without numbers in which no object repeats a key. -/
inductive Plain : Value → Prop
  | null : Plain .null
  | bool {value : Bool} : Plain (.bool value)
  | string {value : String} : Plain (.string value)
  | array {items : List Value} : (∀ item ∈ items, Plain item) → Plain (.array items)
  | object {fields : List (String × Value)} : (fields.map (·.1)).Nodup →
    (∀ field ∈ fields, Plain field.2) → Plain (.object fields)

/-- A text that JSON allows for the value. -/
def ValueText (value : Value) (text : List Char) : Prop :=
  ∃ written : Written, written.Text text ∧ written.Matches value

theorem valueText_array {items : List Value} {text : List Char}
    (listed : ArrayText ValueText items text) : ValueText (.array items) text := by
  obtain ⟨inner⟩ := listed
  obtain ⟨parts, ofParts, related⟩ := Items.exists_related (fun _ _ found => found) inner
  exact ⟨_, .array ofParts, .array related⟩

theorem valueText_object {fields : List (String × Value)} {text : List Char}
    (listed : ObjectText ValueText fields text) : ValueText (.object fields) text := by
  have members (entry : String × Value) (text : List Char)
      (ofEntry : EntryText ValueText entry text) :
      ∃ field, MemberText Written.Text field text ∧
        Written.MemberMatches Written.Matches field entry := by
    obtain ⟨⟨chars⟩, before, after, written, ofWritten, same⟩ := ofEntry
    have field := MemberText.colon chars.units before after ofWritten
    exact ⟨_, by simpa using field, .named same⟩
  obtain ⟨inner⟩ := listed
  obtain ⟨parts, ofParts, related⟩ := Items.exists_related members inner
  exact ⟨_, .object ofParts, .object related⟩

section Printed

variable {spacing : Spacing} (blank : spacing.Blank) {value : Value}
include blank

/-- A printed value is read where its text is shorter than the limit, which is then no limit to its
depth. -/
theorem readAs_chars (plain : Plain value) {limit level : Nat}
    (short : (value.chars spacing Number.text level).length < limit) :
    ReadAs limit value (value.chars spacing Number.text level) := by
  obtain ⟨limit, rfl⟩ : ∃ less, limit = less + 1 := ⟨limit - 1, by omega⟩
  -- Each level takes one from the limit and two brackets from the text.
  induction plain generalizing limit level with
  | null => exact readAs_null
  | @bool value => exact readAs_bool value spacing level
  | @string value => exact readAs_string value
  | @array items _ ih =>
    have nested : limit ≠ 0 := by
      rintro rfl
      cases items <;> simp [Tree.chars] at short
    obtain ⟨limit, rfl⟩ := Nat.exists_eq_succ_of_ne_zero nested
    refine readAs_array nested (arrayText_chars blank Number.text fun item member => ?_)
    have inside := length_item_lt blank Number.text level member
    exact ih item member limit (by omega)
  | @object fields apart _ ih =>
    have nested : limit ≠ 0 := by
      rintro rfl
      cases fields <;> simp [Tree.chars] at short
    obtain ⟨limit, rfl⟩ := Nat.exists_eq_succ_of_ne_zero nested
    refine readAs_object nested apart (objectText_chars blank Number.text fun field member => ?_)
    have inside := length_field_lt blank Number.text level member
    exact ih field member limit (by omega)

/-- The whole of a printed value is the value, and space may follow it. -/
theorem parseWithin_chars (plain : Plain value) {level limit : Nat}
    (short : (value.chars spacing Number.text level).length < limit) {space : List Char}
    (behind : Space space) :
    parseWithin limit (value.chars spacing Number.text level ++ space) = .ok value := by
  have read := (readAs_chars blank plain short).1 [] space space_nil
  have ended : skipSpace space = [] := by
    rw [← List.append_nil space, skipSpace_append behind]
    rfl
  rw [List.nil_append] at read
  simp [parseWithin, read, ended, bind, Except.bind]

theorem valueText_chars (plain : Plain value) (level : Nat) :
    ValueText value (value.chars spacing Number.text level) := by
  induction plain generalizing level with
  | null => exact ⟨_, .null, .null⟩
  | @bool value => cases value <;> exact ⟨_, by constructor, .bool⟩
  | @string value => exact ⟨_, .string (charsText_escape value.toList).units, .string⟩
  | array _ ih =>
    exact valueText_array (arrayText_chars blank Number.text fun item member => ih item member _)
  | object _ _ ih =>
    exact valueText_object (objectText_chars blank Number.text fun field member =>
      ih field member _)

end Printed

end NodeGen.Json
