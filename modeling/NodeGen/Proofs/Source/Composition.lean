import NodeGen.Proofs.Source.Capture

/-! Type texts that are put together from type texts. Blanks around a text change nothing, a list
around it reads as a list of what it read as, and a mark behind it makes it optional once. The text
is read from its ends, so none of this asks what stands inside it. -/

set_option autoImplicit false

namespace NodeGen

def Text.Blank (text : String) : Prop :=
  ∀ char ∈ text.toList, Text.isBlank char = true

def TypeRef.isOptional : TypeRef → Bool
  | .optional _ => true
  | .scalar _ | .base _ | .variant _ _ | .list _ => false

/-- One kind of fault at one place: at most the text that is quoted differs. -/
def SchemaError.Alike : SchemaError → SchemaError → Prop
  | malformedType _ context, malformedType _ other => context = other
  | error, other => error = other

theorem SchemaError.Alike.refl (error : SchemaError) : error.Alike error := by
  cases error <;> simp [Alike]

namespace Source.TypeText

open NodeGen.Text (trim trimStart trimEnd)

section Spacing

variable {scope : List BaseType} {context : String}

/-- A leaf returns the fault that it was given, or what it returns does not depend on it. -/
theorem parseLeaf_cases (scope : List BaseType) (context : String) (text : List Char) :
    (∀ fault, parseLeaf scope context fault text = .error fault) ∨
      ∀ fault other, parseLeaf scope context fault text = parseLeaf scope context other text := by
  unfold parseLeaf
  split
  · split
    · exact .inr fun _ _ => rfl
    · exact .inl fun _ => rfl
  · exact .inr fun _ _ => rfl

/-- Only what is left after trimming is read; a fault of the whole text quotes it untrimmed. -/
theorem parseChars_of_trim_eq (scope : List BaseType) (context : String) {text other : List Char}
    (same : trim other = trim text) :
    parseChars scope context other = parseChars scope context text ∨
      parseChars scope context text =
        .error (.malformedType (String.ofList text) context) ∧
      parseChars scope context other =
        .error (.malformedType (String.ofList other) context) := by
  by_cases present : trim text = []
  · exact .inr ⟨parseChars_blank present, parseChars_blank (same.trans present)⟩
  have visible : trim other ≠ [] := by rwa [same]
  by_cases optional : (trim text).getLast? = some '?'
  · by_cases doubled : (trimEnd (trim text).dropLast).getLast? = some '?'
    · exact .inr ⟨parseChars_doubled present optional doubled,
        parseChars_doubled visible (by rwa [same]) (by rwa [same])⟩
    · left
      rw [parseChars_optional present optional doubled,
        parseChars_optional visible (by rwa [same]) (by rwa [same]), same]
  have plain : (trim other).getLast? ≠ some '?' := by rwa [same]
  cases form : listForm (trim text) with
  | item item =>
    left
    rw [parseChars_item present optional form, parseChars_item visible plain (same ▸ form)]
  | unclosed =>
    exact .inr ⟨parseChars_unclosed present optional form,
      parseChars_unclosed visible plain (same ▸ form)⟩
  | other =>
    rw [parseChars_leaf present optional form, parseChars_leaf visible plain (same ▸ form), same]
    obtain refused | alike := parseLeaf_cases scope context (trim text)
    · exact .inr ⟨refused _, refused _⟩
    · exact .inl (alike _ _)

theorem parseChars_spaced {text other : List Char} {type : TypeRef}
    (same : trim other = trim text) (read : parseChars scope context text = .ok type) :
    parseChars scope context other = .ok type := by
  obtain alike | ⟨refused, -⟩ := parseChars_of_trim_eq scope context same
  · rw [alike, read]
  · rw [refused] at read
    cases read

theorem alike_of_trim_eq {text other : List Char} {error : SchemaError}
    (same : trim other = trim text) (failed : parseChars scope context text = .error error) :
    ∃ fault, parseChars scope context other = .error fault ∧ error.Alike fault := by
  obtain alike | ⟨refused, again⟩ := parseChars_of_trim_eq scope context same
  · exact ⟨error, by rw [alike, failed], .refl error⟩
  · rw [refused] at failed
    obtain rfl := Except.error.inj failed
    exact ⟨_, again, rfl⟩

end Spacing

section Layers

variable {scope : List BaseType} {context : String}

/-- Whatever stands in the brackets is read by itself, and what it reads as becomes the item. -/
theorem parseChars_list {blanks after : List Char}
    (blank : ∀ char ∈ blanks, Text.isBlank char = true)
    (blankAfter : ∀ char ∈ after, Text.isBlank char = true) (item : List Char) :
    parseChars scope context ("List".toList ++ blanks ++ '<' :: item ++ ['>'] ++ after) =
      (parseChars scope context item).map .list := by
  have trimmed : trim ("List".toList ++ blanks ++ '<' :: item ++ ['>'] ++ after) =
      "List".toList ++ blanks ++ '<' :: item ++ ['>'] := by
    rw [← List.nil_append ("List".toList ++ blanks ++ '<' :: item ++ ['>']),
      Text.trim_append (by simp) blankAfter]
    exact Text.trim_eq_self (by decide) (by decide) _
  refine parseChars_item ?_ ?_ ?_
  · rw [trimmed]
    simp
  · rw [trimmed, List.getLast?_concat]
    decide
  · rw [trimmed, listForm_eq_item blank]

theorem parseChars_compactList (scope : List BaseType) (context : String) (item : List Char) :
    parseChars scope context ("List".toList ++ '<' :: item ++ ['>']) =
      (parseChars scope context item).map .list := by
  have blank : ∀ char ∈ ([] : List Char), Text.isBlank char = true := by simp
  simpa using parseChars_list blank blank item

theorem isOptional_of_parseLeaf {malformed : SchemaError} {text : List Char} {type : TypeRef}
    (read : parseLeaf scope context malformed text = .ok type) : type.isOptional = false := by
  cases parseLeaf_eq_iff.mp read <;> rfl

/-- A text reads as optional exactly when the mark ends it. -/
theorem isOptional_iff {text : List Char} {type : TypeRef}
    (read : parseChars scope context text = .ok type) :
    type.isOptional = true ↔ (trim text).getLast? = some '?' := by
  fun_induction parseChars scope context text generalizing type with
  | case1 => cases read
  | case2 => cases read
  | case3 text present optional single ih =>
    obtain ⟨inner, -, rfl⟩ := Checks.map_eq_ok_iff.mp read
    exact iff_of_true rfl optional
  | case4 text present plain item form ih =>
    obtain ⟨element, -, rfl⟩ := Checks.map_eq_ok_iff.mp read
    exact iff_of_false Bool.false_ne_true plain
  | case5 => cases read
  | case6 text malformed present plain =>
    rw [isOptional_of_parseLeaf read]
    exact iff_of_false Bool.false_ne_true plain

theorem present_of_parseChars {text : List Char} {type : TypeRef}
    (read : parseChars scope context text = .ok type) : trim text ≠ [] := by
  intro blank
  rw [parseChars_blank blank] at read
  cases read

/-- A mark behind a text that could be read makes it optional, but never twice. -/
theorem parseChars_mark {text : List Char} {type : TypeRef}
    (read : parseChars scope context text = .ok type) {blanks after : List Char}
    (blank : ∀ char ∈ blanks, Text.isBlank char = true)
    (blankAfter : ∀ char ∈ after, Text.isBlank char = true) :
    parseChars scope context (text ++ blanks ++ ['?'] ++ after) =
      if type.isOptional then
        .error (.malformedType (String.ofList (text ++ blanks ++ ['?'] ++ after)) context)
      else .ok (.optional type) := by
  have trimmed : trim (text ++ blanks ++ ['?'] ++ after) = trimStart text ++ blanks ++ ['?'] := by
    rw [← List.nil_append (text ++ blanks ++ ['?']), Text.trim_append (by simp) blankAfter]
    exact Text.trim_append_visible (present_of_parseChars read) blanks (by decide)
  have present : trim (text ++ blanks ++ ['?'] ++ after) ≠ [] := by
    rw [trimmed]
    exact List.concat_ne_nil _ _
  have optional : (trim (text ++ blanks ++ ['?'] ++ after)).getLast? = some '?' := by
    rw [trimmed, List.getLast?_concat]
  have before : (trim (text ++ blanks ++ ['?'] ++ after)).dropLast = trimStart text ++ blanks := by
    rw [trimmed, List.dropLast_concat]
  -- Without the mark and the blanks before it the text itself is left.
  have ended : trimEnd (trimStart text ++ blanks) = trim text := Text.trimEnd_append blank _
  have same : trim (trimStart text ++ blanks) = trim text := by
    have started : trimStart (trimStart text) = trimStart text := List.dropWhile_idempotent _ text
    rw [← List.nil_append (trimStart text), Text.trim_append (by simp) blank, trim, started, trim]
  split
  · next twice =>
    refine parseChars_doubled present optional ?_
    rw [before, ended]
    exact (isOptional_iff read).mp twice
  · next once =>
    rw [parseChars_optional present optional, before]
    · rw [parseChars_spaced same read]
      rfl
    · rw [before, ended]
      exact mt (isOptional_iff read).mpr once

end Layers

/-- How the reading of a text decides that of the texts around it, for any blanks in between. A text
that is refused is refused in a list too, for the same reason. -/
theorem parse_composes (scope : List BaseType) (context text : String)
    {first second third fourth : String}
    (blank : ∀ space ∈ [first, second, third, fourth], Text.Blank space) :
    (∀ type, parse scope context text = .ok type →
      parse scope context (first ++ text ++ second) = .ok type ∧
      parse scope context ("List" ++ first ++ "<" ++ second ++ text ++ third ++ ">" ++ fourth) =
        .ok (.list type) ∧
      parse scope context (text ++ first ++ "?" ++ second) =
        if type.isOptional then
          .error (.malformedType (text ++ first ++ "?" ++ second) context)
        else .ok (.optional type)) ∧
    ∀ error, parse scope context text = .error error →
      ∃ fault, parse scope context
          ("List" ++ first ++ "<" ++ second ++ text ++ third ++ ">" ++ fourth) = .error fault ∧
        error.Alike fault := by
  have blankFirst := blank first (by simp)
  have blankSecond := blank second (by simp)
  have blankThird := blank third (by simp)
  have blankFourth := blank fourth (by simp)
  have listed : parse scope context
      ("List" ++ first ++ "<" ++ second ++ text ++ third ++ ">" ++ fourth) =
      (parseChars scope context (second.toList ++ text.toList ++ third.toList)).map .list := by
    rw [← parseChars_list blankFirst blankFourth]
    simp [parse]
  refine ⟨fun type read => ⟨?_, ?_, ?_⟩, fun error failed => ?_⟩
  · simpa [parse] using parseChars_spaced (Text.trim_append blankFirst blankSecond text.toList) read
  · rw [listed, parseChars_spaced (Text.trim_append blankSecond blankThird text.toList) read]
    rfl
  · simpa [parse, String.append_assoc] using parseChars_mark read blankFirst blankSecond
  · obtain ⟨fault, refused, alike⟩ :=
      alike_of_trim_eq (Text.trim_append blankSecond blankThird text.toList) failed
    exact ⟨fault, listed.trans (Checks.map_eq_error_iff.mpr refused), alike⟩

/-- One base type whose name begins like a list. -/
def listingTypes : List BaseType :=
  [⟨"Listing", [⟨"Item", [⟨"value", "Map<String, Listing>"⟩]⟩]⟩]

theorem parse_composes_listingTypes :
    parse listingTypes "item" "List <\tListing.Item ?\u2003> " =
      .ok (.list (.optional (.variant "Listing" "Item"))) ∧
    parse listingTypes "item" "Listing.Item ? ?\t" =
      .error (.malformedType "Listing.Item ? ?\t" "item") ∧
    ∃ fault, parse listingTypes "item" "List <\tListing.Part\u2003> " = .error fault ∧
      (SchemaError.unknownVariant "Listing" "Part" "item").Alike fault := by
  have blank : ∀ space ∈ [" ", "\t", "\u2003", " "], Text.Blank space := by
    simp [Text.Blank, Text.isBlank]
  have read : parse listingTypes "item" "Listing.Item ?" =
      .ok (.optional (.variant "Listing" "Item")) := by decide +kernel
  have failed : parse listingTypes "item" "Listing.Part" =
      .error (.unknownVariant "Listing" "Part" "item") := by decide +kernel
  obtain ⟨-, listed, twice⟩ := (parse_composes listingTypes "item" "Listing.Item ?" blank).1 _ read
  exact ⟨listed, twice, (parse_composes listingTypes "item" "Listing.Part" blank).2 _ failed⟩

end Source.TypeText

end NodeGen
