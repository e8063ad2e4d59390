import NodeGen.Proofs.Source.NormalForm

/-! Texts that are refused. A text is taken apart layer by layer, and what is reported is a fault of
one layer: nothing stands there, its brackets do not balance, its mark comes twice, or it begins as a
list and does not end as one. The last is not a matter of brackets: an array of lists begins as a
list too, and is refused although each of its brackets is closed. -/

set_option autoImplicit false

namespace NodeGen.Source.TypeText

open NodeGen.Text (trim trimEnd)

/-- The text itself, or the text inside one of its successive layers. -/
inductive Inside : List Char → List Char → Prop
  | here (text : List Char) : Inside text text
  | optional {text inner part : List Char} : trim text = inner ++ ['?'] → Inside inner part →
    Inside text part
  | list {text blanks item part : List Char} : (∀ char ∈ blanks, Text.isBlank char = true) →
    trim text = "List".toList ++ blanks ++ '<' :: item ++ ['>'] → Inside item part →
    Inside text part

/-- A blank text, brackets that do not balance, or two marks in a row. -/
inductive Faulty (text : List Char) : Prop
  | blank : trim text = [] → Faulty text
  | unbalanced : ¬Balanced text → Faulty text
  | doubled {inner blanks : List Char} : (∀ char ∈ blanks, Text.isBlank char = true) →
    trim text = inner ++ ['?'] ++ blanks ++ ['?'] → Faulty text

/-- The text begins as a list, and neither the bracket of a list nor a mark ends it. -/
def UnendedList (text : List Char) : Prop :=
  (∃ rest, OpensList (trim text) rest ∧ rest.getLast? ≠ some '>') ∧
    (trim text).getLast? ≠ some '?'

theorem doubled_iff {text : List Char} :
    (text.getLast? = some '?' ∧ (trimEnd text.dropLast).getLast? = some '?') ↔
      ∃ inner blanks, (∀ char ∈ blanks, Text.isBlank char = true) ∧
        text = inner ++ ['?'] ++ blanks ++ ['?'] := by
  constructor
  · rintro ⟨marked, again⟩
    obtain ⟨inner, before⟩ := List.getLast?_eq_some_iff.mp again
    have whole : trimEnd text.dropLast ++ text.dropLast.rtakeWhile Text.isBlank = text.dropLast :=
      List.rdropWhile_append_rtakeWhile
    refine ⟨inner, text.dropLast.rtakeWhile Text.isBlank,
      fun char => List.mem_rtakeWhile_imp, ?_⟩
    rw [← before, whole, List.dropLast_append_getLast? '?' marked]
  · rintro ⟨inner, blanks, blank, rfl⟩
    have ended : trimEnd (inner ++ ['?']) = inner ++ ['?'] :=
      List.rdropWhile_concat_neg _ _ _ (by decide)
    rw [List.dropLast_concat, Text.trimEnd_append blank, ended]
    exact ⟨List.getLast?_concat, List.getLast?_concat⟩

section Refusal

variable {scope : List BaseType} {context : String} {text : List Char} {error : SchemaError}

/-- What a text is refused for, and where in it. -/
inductive Rejects (scope : List BaseType) (context : String) (text : List Char) :
    SchemaError → Prop
  | malformed {part : List Char} : Inside text part → Faulty part ∨ UnendedList part →
    Rejects scope context text (.malformedType (String.ofList part) context)
  | unknown {part owner name : List Char} {base : BaseType} : Inside text part →
    trim part = owner ++ '.' :: name → declared scope owner = some base →
    String.ofList name ∉ base.variants.map (·.name) →
    Rejects scope context text
      (.unknownVariant (String.ofList owner) (String.ofList name) context)

theorem Rejects.outside {inner : List Char} (rejects : Rejects scope context inner error)
    (layer : ∀ part, Inside inner part → Inside text part) : Rejects scope context text error := by
  cases rejects with
  | malformed inside fault => exact .malformed (layer _ inside) fault
  | unknown inside parts found strange => exact .unknown (layer _ inside) parts found strange

theorem rejects_of_parseChars (failed : parseChars scope context text = .error error) :
    Rejects scope context text error := by
  fun_induction parseChars scope context text with
  | case1 text malformed blank =>
    obtain rfl := Except.error.inj failed
    exact .malformed (.here text) (.inl (.blank blank))
  | case2 text malformed present optional doubled =>
    obtain rfl := Except.error.inj failed
    obtain ⟨inner, blanks, blank, twice⟩ := doubled_iff.mp ⟨optional, doubled⟩
    exact .malformed (.here text) (.inl (.doubled blank twice))
  | case3 text present optional single ih =>
    have layer : trim text = (trim text).dropLast ++ ['?'] :=
      (List.dropLast_append_getLast? '?' optional).symm
    exact (ih (Checks.map_eq_error_iff.mp failed)).outside fun part => .optional layer
  | case4 text present plain item form ih =>
    obtain ⟨blanks, blank, layer⟩ := eq_of_listForm form
    exact (ih (Checks.map_eq_error_iff.mp failed)).outside fun part => .list blank layer
  | case5 text malformed present plain form =>
    obtain rfl := Except.error.inj failed
    obtain ⟨rest, opens⟩ := exists_opensList (by rw [form]; simp)
    refine .malformed (.here text) (.inr ⟨⟨rest, opens, fun closed => ?_⟩, plain⟩)
    rw [listForm_of_opensList opens, if_pos closed] at form
    cases form
  | case6 text malformed present plain form =>
    have reads : LeafReads scope context (.malformedType (String.ofList text) context) (trim text)
        (.error error) := parseLeaf_eq_iff.mp failed
    cases reads with
    | unbalanced unbalanced =>
      rw [isBalanced_trim] at unbalanced
      refine .malformed (.here text) (.inl (.unbalanced ?_))
      rw [← isBalanced_iff, unbalanced]
      exact Bool.false_ne_true
    | unknown plain parts first found strange => exact .unknown (.here text) parts found strange

theorem malformed_of_faulty (fault : Faulty text ∨ UnendedList text) :
    ∃ quoted, parseChars scope context text = .error (.malformedType quoted context) := by
  rcases fault with (blank | unbalanced | ⟨blank, twice⟩) | ⟨⟨rest, opens, unclosed⟩, plain⟩
  · exact ⟨_, parseChars_blank blank⟩
  · by_contra formed
    push Not at formed
    exact unbalanced (isBalanced_iff.mp (isBalanced_of_parseChars scope context text formed))
  · obtain ⟨optional, doubled⟩ := doubled_iff.mpr ⟨_, _, blank, twice⟩
    refine ⟨_, parseChars_doubled ?_ optional doubled⟩
    rw [twice]
    exact List.concat_ne_nil _ _
  · have form : listForm (trim text) = .unclosed := by
      rw [listForm_of_opensList opens, if_neg unclosed]
    obtain ⟨blanks, -, shape⟩ := opens
    exact ⟨_, parseChars_unclosed (by simp [shape]) plain form⟩

/-- A fault in any layer makes the whole text malformed: on the way to it nothing else can be the
answer. -/
theorem malformed_of_inside (scope : List BaseType) (context : String) {part : List Char}
    (inside : Inside text part)
    (fault : Faulty part ∨ UnendedList part) :
    ∃ quoted, parseChars scope context text = .error (.malformedType quoted context) := by
  induction inside with
  | here text => exact malformed_of_faulty fault
  | @optional text inner part layer inside ih =>
    obtain ⟨quoted, failed⟩ := ih fault
    have present : trim text ≠ [] := by
      rw [layer]
      exact List.concat_ne_nil _ _
    have optional : (trim text).getLast? = some '?' := by rw [layer, List.getLast?_concat]
    by_cases doubled : (trimEnd (trim text).dropLast).getLast? = some '?'
    · exact ⟨_, parseChars_doubled present optional doubled⟩
    · rw [parseChars_optional present optional doubled, layer, List.dropLast_concat]
      exact ⟨quoted, Checks.map_eq_error_iff.mpr failed⟩
  | @list text blanks item part blank layer inside ih =>
    obtain ⟨quoted, failed⟩ := ih fault
    refine ⟨quoted, ?_⟩
    rw [parseChars_item ?_ ?_ (layer ▸ listForm_eq_item blank item)]
    · exact Checks.map_eq_error_iff.mpr failed
    · simp [layer]
    · rw [layer, List.getLast?_concat]
      decide

/-- A balanced text with brackets stands for itself, unless it begins as a list or a mark ends
it. -/
theorem parseChars_generic (unwrapped : Unwrapped (trim text)) (bracketed : ¬Plain text)
    (balanced : Balanced text) :
    parseChars scope context text = .ok (.scalar (String.ofList (trim text))) := by
  obtain ⟨present, -, unmarked, notList⟩ := unwrapped
  rw [parseChars_leaf present unmarked (listForm_eq_other_iff.mpr notList)]
  refine LeafReads.parseLeaf_eq (.generic ?_ ?_)
  · rwa [← brackets_eq_nil_iff, brackets_trim, brackets_eq_nil_iff]
  · rwa [isBalanced_trim, isBalanced_iff]

end Refusal

/-- A type is reported as malformed exactly when some layer of its text is faulty or begins as a
list that it does not end as; what is quoted is such a layer. A text without one can be read, save
for a variant that its base type does not have, and brackets by themselves are no obstacle. -/
theorem parse_malformed_iff (scope : List BaseType) (context text : String) :
    ((∃ quoted place, parse scope context text = .error (.malformedType quoted place)) ↔
      ∃ part, Inside text.toList part ∧ (Faulty part ∨ UnendedList part)) ∧
    (∀ error, parse scope context text = .error error →
      Rejects scope context text.toList error) ∧
    ((∀ part, Inside text.toList part → ¬Faulty part ∧ ¬UnendedList part) →
      (∃ type, parse scope context text = .ok type) ∨
      ∃ owner name, parse scope context text = .error (.unknownVariant owner name context)) ∧
    (Unwrapped (trim text.toList) → ¬Plain text.toList → Balanced text.toList →
      parse scope context text = .ok (.scalar (String.ofList (trim text.toList)))) := by
  refine ⟨⟨?_, ?_⟩, fun error failed => rejects_of_parseChars failed, fun sound => ?_,
    fun unwrapped bracketed balanced => parseChars_generic unwrapped bracketed balanced⟩
  · rintro ⟨quoted, place, failed⟩
    cases rejects_of_parseChars failed with
    | malformed inside fault => exact ⟨_, inside, fault⟩
  · rintro ⟨part, inside, fault⟩
    obtain ⟨quoted, failed⟩ := malformed_of_inside scope context inside fault
    exact ⟨quoted, context, failed⟩
  · cases outcome : parse scope context text with
    | ok type => exact .inl ⟨type, rfl⟩
    | error error =>
      cases rejects_of_parseChars outcome with
      | malformed inside fault =>
        obtain ⟨notFaulty, ended⟩ := sound _ inside
        exact absurd fault (not_or_intro notFaulty ended)
      | unknown => exact .inr ⟨_, _, rfl⟩

/-- A mark that comes twice under two layers, and a generic type that only mentions a list. -/
theorem parse_malformed_iff_listingTypes :
    (∃ quoted place, parse listingTypes "item" "List<List <int? ?>?>" =
      .error (.malformedType quoted place)) ∧
    parse listingTypes "item" " Pair<List<Listing>, int>[] " =
      .ok (.scalar "Pair<List<Listing>, int>[]") := by
  constructor
  · have outer : trim "List<List <int? ?>?>".toList =
        "List".toList ++ [] ++ '<' :: "List <int? ?>?".toList ++ ['>'] := by decide
    have marked : trim "List <int? ?>?".toList = "List <int? ?>".toList ++ ['?'] := by decide
    have inner : trim "List <int? ?>".toList =
        "List".toList ++ [' '] ++ '<' :: "int? ?".toList ++ ['>'] := by decide
    have blank : ∀ char ∈ [' '], Text.isBlank char = true := List.forall_mem_singleton.mpr rfl
    have twice : trim "int? ?".toList = "int".toList ++ ['?'] ++ [' '] ++ ['?'] := by decide
    exact (parse_malformed_iff listingTypes "item" "List<List <int? ?>?>").1.mpr
      ⟨"int? ?".toList, .list (by simp) outer (.optional marked (.list blank inner (.here _))),
        .inl (.doubled blank twice)⟩
  · have trimmed : trim " Pair<List<Listing>, int>[] ".toList =
        "Pair<List<Listing>, int>[]".toList := by decide
    have read := (parse_malformed_iff listingTypes "item" " Pair<List<Listing>, int>[] ").2.2.2
      ⟨by rw [trimmed]; decide, Text.trim_trim _, by rw [trimmed]; decide, ?_⟩ (by decide)
      (isBalanced_iff.mp (by decide))
    · rw [read, trimmed, String.ofList_toList]
    · rintro rest ⟨blanks, -, opens⟩
      rw [trimmed] at opens
      simp at opens

/-- An array of lists: every bracket is closed, but not at the end. -/
theorem parse_arrayOfLists :
    parse [] "item" "List<int>[]" = .error (.malformedType "List<int>[]" "item") ∧
    ∀ part, Inside "List<int>[]".toList part → ¬Faulty part := by
  have trimmed : trim "List<int>[]".toList = "List<int>[]".toList := by decide
  have last {front : List Char} {char : Char}
      (shape : trim "List<int>[]".toList = front ++ [char]) : char = ']' := by
    have ends := congrArg List.getLast? shape
    rw [trimmed, List.getLast?_concat] at ends
    exact (Option.some.inj ends).symm
  refine ⟨by decide +kernel, fun part inside fault => ?_⟩
  -- The last character takes no layer off.
  cases inside with
  | here =>
    rcases fault with blank | unbalanced | ⟨-, twice⟩
    · rw [trimmed] at blank
      cases blank
    · exact unbalanced (isBalanced_iff.mp (by decide))
    · cases last twice
  | optional layer => cases last layer
  | list _ layer => cases last layer

end NodeGen.Source.TypeText
