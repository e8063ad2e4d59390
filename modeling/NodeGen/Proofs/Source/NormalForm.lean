import NodeGen.Proofs.Source.Composition

/-! The types that texts are read as. A scalar is never what another form would have been taken for:
it has no blanks around it, no mark behind it, no list's opening before it and no declared name to
stand for. These are all the types there are: each is read from the text that is written for it. -/

set_option autoImplicit false

namespace NodeGen

/-- The text of a type, with the least that has to be written. -/
def TypeRef.text : TypeRef → String
  | .scalar name | .base name => name
  | .variant owner name => owner ++ "." ++ name
  | .list item => "List" ++ "<" ++ item.text ++ ">"
  | .optional inner => inner.text ++ "?"

namespace Source.TypeText

open NodeGen.Text (trim trimStart trimEnd)

/-- The text of a leaf: visible at both ends, without a mark, and not the beginning of a list. -/
structure Unwrapped (text : List Char) : Prop where
  present : text ≠ []
  trimmed : trim text = text
  unmarked : text.getLast? ≠ some '?'
  notList : ∀ rest, ¬OpensList text rest

theorem parseChars_unwrapped {scope : List BaseType} {context : String} {text : List Char}
    (unwrapped : Unwrapped text) :
    parseChars scope context text =
      parseLeaf scope context (.malformedType (String.ofList text) context) text := by
  obtain ⟨present, trimmed, unmarked, notList⟩ := unwrapped
  have form := listForm_eq_other_iff.mpr notList
  rw [parseChars_leaf (by rwa [trimmed]) (by rwa [trimmed]) (by rwa [trimmed]), trimmed]

/-- A name of the target language: brackets balance, and no declaration accounts for it. -/
structure Foreign (scope : List BaseType) (name : String) : Prop where
  unwrapped : Unwrapped name.toList
  balanced : Balanced name.toList
  notBase : Plain name.toList → '.' ∉ name.toList → name ∉ scope.map (·.name)
  ownerNotBase : Plain name.toList → ∀ owner rest, name = owner ++ "." ++ rest →
    '.' ∉ owner.toList → owner ∉ scope.map (·.name)

/-- Leaves are told apart by their text alone, and no optional type holds another. -/
inductive Normal (scope : List BaseType) : TypeRef → Prop
  | scalar {name : String} : Foreign scope name → Normal scope (.scalar name)
  | base {name : String} : Unwrapped name.toList → Plain name.toList → '.' ∉ name.toList →
    name ∈ scope.map (·.name) → Normal scope (.base name)
  | variant {owner name : String} {base : BaseType} : Unwrapped (owner ++ "." ++ name).toList →
    Plain (owner ++ "." ++ name).toList → '.' ∉ owner.toList →
    declared scope owner.toList = some base → name ∈ base.variants.map (·.name) →
    Normal scope (.variant owner name)
  | list {item : TypeRef} : Normal scope item → Normal scope (.list item)
  | optional {inner : TypeRef} : Normal scope inner → inner.isOptional = false →
    Normal scope (.optional inner)

section Reading

variable {scope : List BaseType} {context : String} {malformed : SchemaError} {text : List Char}
  {type : TypeRef}

theorem normal_of_parseLeaf (unwrapped : Unwrapped text)
    (read : parseLeaf scope context malformed text = .ok type) : Normal scope type := by
  obtain ⟨name, rfl⟩ : ∃ name : String, text = name.toList := ⟨String.ofList text, by simp⟩
  cases parseLeaf_eq_iff.mp read with
  | generic bracketed balanced =>
    rw [String.ofList_toList]
    exact .scalar ⟨unwrapped, isBalanced_iff.mp balanced, fun plain => absurd plain bracketed,
      fun plain => absurd plain bracketed⟩
  | base plain whole found =>
    obtain ⟨member, named⟩ := mem_of_declared found
    rw [← named]
    rw [String.ofList_toList] at named
    subst named
    exact .base unwrapped plain whole (List.mem_map_of_mem member)
  | undeclared plain whole missing =>
    rw [String.ofList_toList]
    refine .scalar ⟨unwrapped, isBalanced_iff.mp (isBalanced_of_plain plain),
      fun _ _ => declared_eq_none_iff.mp missing, fun _ owner rest parts => ?_⟩
    rw [parts] at whole
    simp at whole
  | @qualified owner tail plain parts first missing =>
    rw [String.ofList_toList]
    refine .scalar ⟨unwrapped, isBalanced_iff.mp (isBalanced_of_plain plain), fun _ whole => ?_,
      fun _ other rest again early => ?_⟩
    · rw [parts] at whole
      simp at whole
    · have same : other.toList = owner := by
        rw [← takeWhile_dot first tail, ← parts, again]
        simpa using (takeWhile_dot early rest.toList).symm
      rw [← same] at missing
      exact declared_eq_none_iff.mp missing
  | @variant owner tail base plain parts first found known =>
    have whole : (String.ofList owner ++ "." ++ String.ofList tail).toList = name.toList := by
      simp [parts]
    refine .variant ?_ ?_ ?_ ?_ known
    · rwa [whole]
    · rwa [whole]
    · rwa [String.toList_ofList]
    · rwa [String.toList_ofList]

theorem normal_of_parseChars (read : parseChars scope context text = .ok type) :
    Normal scope type := by
  fun_induction parseChars scope context text generalizing type with
  | case1 => cases read
  | case2 => cases read
  | case3 text present optional single ih =>
    obtain ⟨inner, readInner, rfl⟩ := Checks.map_eq_ok_iff.mp read
    refine .optional (ih readInner) ?_
    -- What stands before the mark begins with a visible character, so only its end is trimmed.
    have begins : trimStart (trim text).dropLast = (trim text).dropLast :=
      Text.trimStart_of_begins (List.dropLast_prefix _) (Text.trimStart_trim text)
    have ended : trim (trim text).dropLast = trimEnd (trim text).dropLast := by rw [trim, begins]
    rw [← Bool.not_eq_true, isOptional_iff readInner, ended]
    exact single
  | case4 text present plain item form ih =>
    obtain ⟨element, readItem, rfl⟩ := Checks.map_eq_ok_iff.mp read
    exact .list (ih readItem)
  | case5 => cases read
  | case6 text malformed present plain =>
    rename_i form
    refine normal_of_parseLeaf ⟨present, Text.trim_trim text, plain, ?_⟩ read
    exact listForm_eq_other_iff.mp form

theorem leafReads_of_foreign {name : String} (foreign : Foreign scope name) :
    LeafReads scope context malformed name.toList (.ok (.scalar name)) := by
  obtain ⟨-, balanced, notBase, ownerNotBase⟩ := foreign
  have copied : TypeRef.scalar name = .scalar (String.ofList name.toList) := by
    rw [String.ofList_toList]
  rw [copied]
  by_cases plain : Plain name.toList
  · by_cases dotted : '.' ∈ name.toList
    · obtain ⟨owner, rest, parts, first⟩ := List.eq_append_cons_of_mem dotted
      refine .qualified plain parts first ?_
      rw [← String.toList_ofList (l := owner)] at first ⊢
      refine declared_eq_none_iff.mpr (ownerNotBase plain _ (String.ofList rest) ?_ first)
      rw [← String.toList_inj, parts]
      simp
    · exact .undeclared plain dotted (declared_eq_none_iff.mpr (notBase plain dotted))
  · exact .generic plain (isBalanced_iff.mpr balanced)

theorem parse_of_leafReads {name : String} (unwrapped : Unwrapped name.toList)
    (reads : ∀ malformed, LeafReads scope context malformed name.toList (.ok type)) :
    parse scope context name = .ok type := by
  rw [parse, parseChars_unwrapped unwrapped]
  exact (reads _).parseLeaf_eq

/-- A type in normal form is read from the text that is written for it. -/
theorem parse_text_of_normal (normal : Normal scope type) (context : String) :
    parse scope context type.text = .ok type := by
  induction normal with
  | scalar foreign => exact parse_of_leafReads foreign.unwrapped fun _ => leafReads_of_foreign foreign
  | @base name unwrapped plain whole known =>
    refine parse_of_leafReads unwrapped fun malformed => ?_
    obtain ⟨base, found⟩ : ∃ base, declared scope name.toList = some base := by
      rw [← Option.ne_none_iff_exists', ne_eq, declared_eq_none_iff]
      exact not_not.mpr known
    have reads : LeafReads scope context malformed name.toList _ := .base plain whole found
    rwa [String.ofList_toList] at reads
  | @variant owner name base unwrapped plain first found known =>
    refine parse_of_leafReads unwrapped fun malformed => ?_
    have parts : (owner ++ "." ++ name).toList = owner.toList ++ '.' :: name.toList := by simp
    have reads : LeafReads scope context malformed (owner ++ "." ++ name).toList _ :=
      .variant plain parts first found (by rwa [String.ofList_toList])
    rwa [String.ofList_toList, String.ofList_toList] at reads
  | @list item normal ih =>
    have listed := parseChars_compactList scope context item.text.toList
    rw [show parseChars scope context item.text.toList = .ok item from ih] at listed
    simpa [parse, TypeRef.text, Except.map] using listed
  | @optional inner normal once ih =>
    have blank : ∀ char ∈ ([] : List Char), Text.isBlank char = true := by simp
    have marked := parseChars_mark ih blank blank
    simpa [parse, TypeRef.text, once] using marked

/-- Only a malformed text has brackets that do not balance. The check is made at the leaf, and what
was stripped on the way closes what it opens. -/
theorem isBalanced_of_parseChars (scope : List BaseType) (context : String) (text : List Char)
    (formed : ∀ quoted, parseChars scope context text ≠ .error (.malformedType quoted context)) :
    isBalanced text = true := by
  rw [← isBalanced_trim]
  fun_induction parseChars scope context text with
  | case1 text malformed blank => exact absurd rfl (formed _)
  | case2 text malformed present optional doubled => exact absurd rfl (formed _)
  | case3 text present optional single ih =>
    rw [← List.dropLast_append_getLast? '?' optional, isBalanced_optional, ← isBalanced_trim]
    exact ih fun quoted failed => formed quoted (Checks.map_eq_error_iff.mpr failed)
  | case4 text present plain item form ih =>
    obtain ⟨blanks, blank, shape⟩ := eq_of_listForm form
    rw [shape]
    refine isBalanced_list blank ?_
    rw [← isBalanced_trim]
    exact ih fun quoted failed => formed quoted (Checks.map_eq_error_iff.mpr failed)
  | case5 text malformed present plain => exact absurd rfl (formed _)
  | case6 text malformed present plain =>
    by_contra unbalanced
    have refused : LeafReads scope context malformed (trim text) (.error malformed) :=
      .unbalanced (Bool.eq_false_iff.mpr unbalanced)
    exact formed _ refused.parseLeaf_eq

end Reading

/-- What a text reads as is in normal form, and the brackets of the text balance. Nothing more can
be said of such types: each of them is read from its own text. -/
theorem parse_normal (scope : List BaseType) (context : String) (type : TypeRef) :
    (∀ text, parse scope context text = .ok type → Balanced text.toList ∧ Normal scope type) ∧
    (Normal scope type → parse scope context type.text = .ok type) := by
  refine ⟨fun text read => ⟨?_, normal_of_parseChars read⟩,
    fun normal => parse_text_of_normal normal context⟩
  refine isBalanced_iff.mp (isBalanced_of_parseChars scope context text.toList fun quoted => ?_)
  rw [show parseChars scope context text.toList = .ok type from read]
  exact fun clash => by cases clash

/-- A scalar with brackets of its own, as optional items of an optional list. -/
theorem parse_normal_listingTypes :
    Balanced " List<Map<Listing, List<Listing>> ?> ?".toList ∧
    Foreign listingTypes "Map<Listing, List<Listing>>" ∧
    parse listingTypes "again" "List<Map<Listing, List<Listing>>?>?" =
      .ok (.optional (.list (.optional (.scalar "Map<Listing, List<Listing>>")))) := by
  have read : parse listingTypes "item" " List<Map<Listing, List<Listing>> ?> ?" =
      .ok (.optional (.list (.optional (.scalar "Map<Listing, List<Listing>>")))) := by
    decide +kernel
  obtain ⟨balanced, normal⟩ := (parse_normal listingTypes "item" _).1 _ read
  have again := (parse_normal listingTypes "again" _).2 normal
  cases normal with
  | optional list _ =>
    cases list with
    | list item =>
      cases item with
      | optional inner _ =>
        cases inner with
        | scalar foreign => exact ⟨balanced, foreign, again⟩

end Source.TypeText

end NodeGen
