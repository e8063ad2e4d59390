import NodeGen.Proofs.Source.Resolution

/-! The scope that a type text is read in. Reading takes the text apart in the same way in every
scope and looks names up only where it comes to a leaf, so two scopes that declare the same names
read every text alike. -/

set_option autoImplicit false

namespace NodeGen.Source.TypeText

open NodeGen.Text (trim trimEnd)

section Equations

variable {scope : List BaseType} {context : String} {text : List Char}

theorem parseChars_blank (blank : trim text = []) :
    parseChars scope context text = .error (.malformedType (String.ofList text) context) := by
  rw [parseChars, dif_pos blank]

theorem parseChars_doubled (present : trim text ≠ []) (optional : (trim text).getLast? = some '?')
    (doubled : (trimEnd (trim text).dropLast).getLast? = some '?') :
    parseChars scope context text = .error (.malformedType (String.ofList text) context) := by
  rw [parseChars, dif_neg present, if_pos optional, if_pos doubled]

theorem parseChars_optional (present : trim text ≠ [])
    (optional : (trim text).getLast? = some '?')
    (single : (trimEnd (trim text).dropLast).getLast? ≠ some '?') :
    parseChars scope context text =
      (parseChars scope context (trim text).dropLast).map .optional := by
  rw [parseChars, dif_neg present, if_pos optional, if_neg single]

theorem parseChars_item (present : trim text ≠ []) (plain : (trim text).getLast? ≠ some '?')
    {item : List Char} (form : listForm (trim text) = .item item) :
    parseChars scope context text = (parseChars scope context item).map .list := by
  rw [parseChars, dif_neg present, if_neg plain]
  grind

theorem parseChars_unclosed (present : trim text ≠ []) (plain : (trim text).getLast? ≠ some '?')
    (form : listForm (trim text) = .unclosed) :
    parseChars scope context text = .error (.malformedType (String.ofList text) context) := by
  rw [parseChars, dif_neg present, if_neg plain]
  split <;> simp_all

theorem parseChars_leaf (present : trim text ≠ []) (plain : (trim text).getLast? ≠ some '?')
    (form : listForm (trim text) = .other) :
    parseChars scope context text =
      parseLeaf scope context (.malformedType (String.ofList text) context) (trim text) := by
  rw [parseChars, dif_neg present, if_neg plain]
  split <;> simp_all

end Equations

theorem declared_eq_some_iff {scope : List BaseType} (distinct : (scope.map (·.name)).Nodup)
    {name : List Char} {base : BaseType} :
    declared scope name = some base ↔ base ∈ scope ∧ base.name.toList = name := by
  constructor
  · intro found
    obtain ⟨member, named⟩ := mem_of_declared found
    exact ⟨member, by rw [named, String.toList_ofList]⟩
  · rintro ⟨member, rfl⟩
    cases found : declared scope base.name.toList with
    | none =>
      have passed := List.find?_eq_none.mp found base (List.mem_reverse.mpr member)
      simp at passed
    | some other =>
      obtain ⟨present, named⟩ := mem_of_declared found
      rw [String.ofList_toList] at named
      rw [List.inj_on_of_nodup_map distinct present member named]

theorem declared_eq_of_perm {scope other : List BaseType} (permuted : scope.Perm other)
    (distinct : (scope.map (·.name)).Nodup) (name : List Char) :
    declared scope name = declared other name := by
  have apart : (other.map (·.name)).Nodup := (permuted.map _).nodup_iff.mp distinct
  apply Option.ext
  intro base
  rw [declared_eq_some_iff distinct, declared_eq_some_iff apart, permuted.mem_iff]

theorem parseLeaf_congr {scope other : List BaseType}
    (alike : ∀ name, declared scope name = declared other name) (context : String)
    (malformed : SchemaError) (text : List Char) :
    parseLeaf scope context malformed text = parseLeaf other context malformed text := by
  simp only [parseLeaf, alike]

theorem parseChars_congr {scope other : List BaseType}
    (alike : ∀ name, declared scope name = declared other name) (context : String)
    (text : List Char) : parseChars scope context text = parseChars other context text := by
  fun_induction parseChars scope context text with
  | case1 text malformed blank => rw [parseChars_blank blank]
  | case2 text malformed present optional doubled =>
    rw [parseChars_doubled present optional doubled]
  | case3 text present optional single ih =>
    rw [parseChars_optional present optional single, ih]
  | case4 text present plain item form ih => rw [parseChars_item present plain form, ih]
  | case5 text malformed present plain form => rw [parseChars_unclosed present plain form]
  | case6 text malformed present plain form =>
    rw [parseChars_leaf present plain form, parseLeaf_congr alike]

end NodeGen.Source.TypeText

namespace NodeGen.Source

theorem WellFormed.exists_resolve {types : List BaseType} (formed : WellFormed types) :
    ∃ schema, resolve types = .ok schema := by
  obtain ⟨schema, resolves⟩ := exists_resolves_iff.mpr formed.typesRead
  exact ⟨schema, resolve_eq_ok_iff.mpr ⟨formed.basesDistinct, resolves, resolves.valid formed⟩⟩

/-- Some of the declarations are well formed by themselves if their texts can still be read. -/
theorem WellFormed.of_subset {types part : List BaseType} (formed : WellFormed types)
    (subset : part ⊆ types) (distinct : (part.map (·.name)).Nodup)
    (read : ∀ base ∈ part, ∀ variant ∈ base.variants, ∀ field ∈ variant.fields,
      ∃ type, TypeText.parse part (Context.field base.name variant.name field.name)
        field.typeText = .ok type) : WellFormed part where
  basesDistinct := distinct
  variantsDistinct base member := formed.variantsDistinct base (subset member)
  fieldsDistinct base member := formed.fieldsDistinct base (subset member)
  baseIdentifiers base member := formed.baseIdentifiers base (subset member)
  variantIdentifiers base member := formed.variantIdentifiers base (subset member)
  fieldIdentifiers base member := formed.fieldIdentifiers base (subset member)
  variantsNotBases base member variant inside other present :=
    formed.variantsNotBases base (subset member) variant inside other (subset present)
  typesRead := read

end NodeGen.Source
