import NodeGen.Proofs.Source.Composition
import NodeGen.Proofs.Source.Merging
import NodeGen.Proofs.Target.Java.Erasure

/-! Texts of types that are read again. Java output writes a type in the notation that type texts
are read in, with every mark for an optional type left out. What a text was read as is therefore
read back from the Java text, up to those marks, and is written there as before. -/

set_option autoImplicit false

namespace NodeGen

namespace Target.Java

theorem toList_typeText_list (item : TypeRef) :
    (typeText (.list item)).toList =
      "List".toList ++ [] ++ '<' :: (typeText item).toList ++ ['>'] := by
  simp [typeText]

end Target.Java

namespace Source.TypeText

open NodeGen.Target (Java.typeText Java.toList_typeText_list Java.typeText_withoutOptional)

section Leaf

variable {scope : List BaseType} {context : String} {malformed : SchemaError} {text : List Char}
  {type : TypeRef}

/-- The context and the fault only matter where a leaf is refused. -/
theorem parseLeaf_of_ok (read : parseLeaf scope context malformed text = .ok type)
    (other : String) (fault : SchemaError) : parseLeaf scope other fault text = .ok type := by
  apply LeafReads.parseLeaf_eq
  cases parseLeaf_eq_iff.mp read with
  | generic bracketed balanced => exact .generic bracketed balanced
  | base plain whole found => exact .base plain whole found
  | undeclared plain whole missing => exact .undeclared plain whole missing
  | qualified plain parts first missing => exact .qualified plain parts first missing
  | variant plain parts first found known => exact .variant plain parts first found known

/-- A leaf is written as it was read, and has no optional layer. -/
theorem typeText_of_parseLeaf (read : parseLeaf scope context malformed text = .ok type) :
    Java.typeText type = String.ofList text ∧ type.withoutOptional = type := by
  cases parseLeaf_eq_iff.mp read with
  | generic | base | undeclared | qualified => exact ⟨rfl, rfl⟩
  | variant plain parts first found known =>
    refine ⟨?_, rfl⟩
    rw [parts]
    simp [Java.typeText, String.append_assoc]

end Leaf

/-- A list is read from its Java text exactly as its items are. -/
theorem parseChars_typeText_list (scope : List BaseType) (context : String) (item : TypeRef) :
    parseChars scope context (Java.typeText (.list item)).toList =
      (parseChars scope context (Java.typeText item).toList).map .list := by
  rw [Java.toList_typeText_list]
  exact parseChars_compactList scope context (Java.typeText item).toList

theorem parseChars_typeText {scope : List BaseType} {context : String} {text : List Char}
    {type : TypeRef} (read : parseChars scope context text = .ok type) (other : String) :
    parseChars scope other (Java.typeText type).toList = .ok type.withoutOptional := by
  fun_induction parseChars scope context text generalizing type with
  | case1 => cases read
  | case2 => cases read
  | case3 text present optional single ih =>
    obtain ⟨inner, readInner, rfl⟩ := Checks.map_eq_ok_iff.mp read
    have again := ih readInner
    exact again
  | case4 text present plain item form ih =>
    obtain ⟨element, readItem, rfl⟩ := Checks.map_eq_ok_iff.mp read
    rw [parseChars_typeText_list, ih readItem]
    rfl
  | case5 => cases read
  | case6 text present plain form =>
    obtain ⟨written, bare⟩ := typeText_of_parseLeaf read
    -- The text of a leaf is trimmed, so reading it again comes to the same leaf.
    rw [written, bare, String.toList_ofList,
      parseChars_leaf (by rwa [Text.trim_trim]) (by rwa [Text.trim_trim])
        (by rwa [Text.trim_trim]), Text.trim_trim]
    exact parseLeaf_of_ok read other _

/-- The Java text of whatever a text was read as is read, in the same scope, as that type without
its optional layers, and has the same Java text. -/
theorem parse_typeText {scope : List BaseType} {context text : String} {type : TypeRef}
    (read : parse scope context text = .ok type) (other : String) :
    parse scope other (Java.typeText type) = .ok type.withoutOptional ∧
      Java.typeText type.withoutOptional = Java.typeText type :=
  ⟨parseChars_typeText read other, Java.typeText_withoutOptional type⟩

/-- No name has to be an identifier where a text is only read. -/
def phraseTypes : List BaseType :=
  [⟨"List of", [⟨"a > b", []⟩, ⟨"c?d", [⟨"next", "List of.c?d ?"⟩]⟩]⟩]

theorem parse_typeText_phraseTypes :
    parse phraseTypes "item" " List <List<List of.c?d ?>?> ? " =
      .ok (.optional (.list (.optional (.list (.optional (.variant "List of" "c?d")))))) ∧
    parse phraseTypes "again" "List<List<List of.c?d>>" =
      .ok (.list (.list (.variant "List of" "c?d"))) := by
  have read : parse phraseTypes "item" " List <List<List of.c?d ?>?> ? " =
      .ok (.optional (.list (.optional (.list (.optional (.variant "List of" "c?d")))))) := by
    decide +kernel
  exact ⟨read, (parse_typeText read "again").1⟩

end Source.TypeText

end NodeGen
