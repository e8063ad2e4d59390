import NodeGen.Proofs.Source.Scope
import NodeGen.Proofs.Target.Rust.Containment

/-! Scalars that a generated type captures. A field whose text is the name of a base type becomes a
reference, but the name of a variant needs the base type before it: by itself it stays a scalar, is
copied into the unit that declares the variant's type, and means that type there. -/

set_option autoImplicit false

namespace NodeGen

namespace Source

namespace TypeText

open NodeGen.Text (trim trimStart trimEnd)

/-- The text is a name with marks for optional types and lists around it, and blanks. -/
inductive Spells (name : String) : List Char → Prop
  | bare {text : List Char} : trim text = name.toList → Spells name text
  | optional {text inner : List Char} : trim text = inner ++ ['?'] → Spells name inner →
    Spells name text
  | list {text blanks item : List Char} : (∀ char ∈ blanks, Text.isBlank char = true) →
    trim text = "List".toList ++ blanks ++ '<' :: item ++ ['>'] → Spells name item →
    Spells name text

theorem eq_of_listForm {text item : List Char} (form : listForm text = .item item) :
    ∃ blanks, (∀ char ∈ blanks, Text.isBlank char = true) ∧
      text = "List".toList ++ blanks ++ '<' :: item ++ ['>'] := by
  obtain ⟨rest, opens⟩ := exists_opensList (by rw [form]; simp)
  rw [listForm_of_opensList opens] at form
  split at form
  · next closed =>
    obtain rfl := ListForm.item.inj form
    obtain ⟨blanks, blank, rfl⟩ := opens
    refine ⟨blanks, blank, ?_⟩
    rw [List.append_assoc _ _ ['>'], List.cons_append, List.dropLast_append_getLast? '>' closed]
  · cases form

theorem listForm_eq_item {blanks : List Char} (blank : ∀ char ∈ blanks, Text.isBlank char = true)
    (item : List Char) :
    listForm ("List".toList ++ blanks ++ '<' :: item ++ ['>']) = .item item := by
  have opens : OpensList ("List".toList ++ blanks ++ '<' :: item ++ ['>']) (item ++ ['>']) :=
    ⟨blanks, blank, by simp⟩
  rw [listForm_of_opensList opens, if_pos List.getLast?_concat, List.dropLast_concat]

theorem listForm_of_notMem {text : List Char} (plain : '<' ∉ text) : listForm text = .other := by
  rw [listForm_eq_other_iff]
  rintro rest ⟨blanks, -, rfl⟩
  simp at plain

/-- A leaf that is read as a scalar is copied as it stands. -/
theorem eq_of_parseLeaf {scope : List BaseType} {context : String} {malformed : SchemaError}
    {text : List Char} {type : TypeRef} (read : parseLeaf scope context malformed text = .ok type)
    {name : String} (leaf : type.leaf = .scalar name) : text = name.toList := by
  cases parseLeaf_eq_iff.mp read with
  | base => cases leaf
  | variant => cases leaf
  | generic | undeclared | qualified =>
    obtain rfl : String.ofList text = name := TypeRef.scalar.inj leaf
    rw [String.toList_ofList]

theorem parseLeaf_of_isIdentifier {scope : List BaseType} {context : String}
    {malformed : SchemaError} {name : String} (identifier : Name.isIdentifier name = true) :
    parseLeaf scope context malformed name.toList =
      .ok (if (declared scope name.toList).isSome then .base name else .scalar name) := by
  have absent {char : Char} (other : Name.isWordChar char = false) : char ∉ name.toList :=
    Name.notMem_of_isIdentifier identifier other
  have plain : Plain name.toList := ⟨absent (by decide), absent (by decide)⟩
  have whole : '.' ∉ name.toList := absent (by decide)
  cases found : declared scope name.toList with
  | none => simpa using (LeafReads.undeclared plain whole found).parseLeaf_eq
  | some base => simpa using (LeafReads.base plain whole found).parseLeaf_eq

/-- Every scalar that is read is spelled by the text, under the layers that were read around it. -/
theorem spells_of_leaf {scope : List BaseType} {context : String} {text : List Char}
    {type : TypeRef} (read : parseChars scope context text = .ok type) {name : String}
    (leaf : type.leaf = .scalar name) : Spells name text := by
  fun_induction parseChars scope context text generalizing type with
  | case1 text blank => cases read
  | case2 text present optional doubled => cases read
  | case3 text present optional single ih =>
    obtain ⟨inner, readInner, rfl⟩ := Checks.map_eq_ok_iff.mp read
    exact .optional (List.dropLast_append_getLast? '?' optional).symm (ih readInner leaf)
  | case4 text present plain item form ih =>
    obtain ⟨inner, readInner, rfl⟩ := Checks.map_eq_ok_iff.mp read
    obtain ⟨blanks, blank, shape⟩ := eq_of_listForm form
    exact .list blank shape (ih readInner leaf)
  | case5 text present plain form => cases read
  | case6 text present plain form => exact .bare (eq_of_parseLeaf read leaf)

/-- A name that is spelled is read as the base type of that name if there is one, and as a scalar
if not; nothing else about the scope matters. -/
theorem Spells.leaf_eq {scope : List BaseType} {context : String} {text : List Char}
    {name : String} (identifier : Name.isIdentifier name = true) (spells : Spells name text)
    {type : TypeRef} (read : parseChars scope context text = .ok type) :
    type.leaf = if (declared scope name.toList).isSome then .base name else .scalar name := by
  have absent {char : Char} (other : Name.isWordChar char = false) : char ∉ name.toList :=
    Name.notMem_of_isIdentifier identifier other
  induction spells generalizing type with
  | @bare text shape =>
    obtain ⟨first, rest, visible, -, -⟩ := Name.isIdentifier_iff.mp identifier
    have present : trim text ≠ [] := by simp [shape, visible]
    have plain : (trim text).getLast? ≠ some '?' := by
      rw [shape]
      exact fun last => absent (by decide) (List.mem_of_getLast? last)
    have form : listForm (trim text) = .other := by
      rw [shape]
      exact listForm_of_notMem (absent (by decide))
    rw [parseChars_leaf present plain form, shape, parseLeaf_of_isIdentifier identifier] at read
    obtain rfl := Except.ok.inj read
    split <;> rfl
  | @optional text inner shape inside ih =>
    have present : trim text ≠ [] := by simp [shape]
    have optional : (trim text).getLast? = some '?' := by simp [shape]
    by_cases doubled : (trimEnd (trim text).dropLast).getLast? = some '?'
    · rw [parseChars_doubled present optional doubled] at read
      cases read
    · rw [parseChars_optional present optional doubled, shape, List.dropLast_concat] at read
      obtain ⟨content, readInner, rfl⟩ := Checks.map_eq_ok_iff.mp read
      have leaf : content.leaf = _ := ih readInner
      exact leaf
  | @list text blanks item blank shape inside ih =>
    have present : trim text ≠ [] := by simp [shape]
    have plain : (trim text).getLast? ≠ some '?' := by
      rw [shape, List.getLast?_concat]
      decide
    have form : listForm (trim text) = .item item := by rw [shape, listForm_eq_item blank]
    rw [parseChars_item present plain form] at read
    obtain ⟨element, readInner, rfl⟩ := Checks.map_eq_ok_iff.mp read
    have leaf : element.leaf = _ := ih readInner
    exact leaf

theorem leaf_eq_scalar_iff {scope : List BaseType} {context : String} {text : List Char}
    {type : TypeRef} (read : parseChars scope context text = .ok type) {name : String}
    (identifier : Name.isIdentifier name = true) :
    type.leaf = .scalar name ↔ Spells name text ∧ declared scope name.toList = none := by
  constructor
  · intro leaf
    have spells := spells_of_leaf read leaf
    have found := spells.leaf_eq identifier read
    cases known : declared scope name.toList with
    | none => exact ⟨spells, rfl⟩
    | some base => simp [leaf, known] at found
  · rintro ⟨spells, absent⟩
    simpa [absent] using spells.leaf_eq identifier read

end TypeText

/-- Some field is declared with the bare name of a variant of its own base type. -/
def BaseType.SpellsVariant (declared : BaseType) : Prop :=
  ∃ variant ∈ declared.variants, ∃ field ∈ variant.fields, ∃ own ∈ declared.variants,
    TypeText.Spells own.name field.typeText.toList

end Source

/-- Some scalar has the name of a variant whose type is declared in the same unit. -/
def BaseType.Captures (base : BaseType) : Prop :=
  ∃ variant ∈ base.variants, ∃ field ∈ variant.fields, ∃ own ∈ base.variants,
    field.type.leaf = .scalar own.name

namespace Source

section Resolved

variable {types : List BaseType} {schema : Schema}

theorem declared_eq_none_iff {scope : List BaseType} {name : String} :
    TypeText.declared scope name.toList = none ↔ name ∉ scope.map (·.name) := by
  simp [TypeText.declared, String.toList_inj]

theorem Resolves.leaf_eq_scalar_iff (resolves : Resolves types schema) {context text name : String}
    {type : TypeRef} (read : TypeText.parse types context text = .ok type)
    (identifier : Name.isIdentifier name = true) :
    type.leaf = .scalar name ↔
      TypeText.Spells name text.toList ∧ name ∉ schema.baseTypes.map (·.name) := by
  rw [TypeText.leaf_eq_scalar_iff read identifier, declared_eq_none_iff, resolves.names_eq]

theorem Resolves.captures_iff (resolves : Resolves types schema) (valid : schema.Valid)
    {declared : BaseType} {base : NodeGen.BaseType} (member : base ∈ schema.baseTypes)
    (related : ResolvesBase types declared base) : base.Captures ↔ declared.SpellsVariant := by
  have accepted := (valid.bases base member).variants
  -- A variant never has the name of a base type, so its bare name always stays a scalar.
  have bare {text : String} {type : TypeRef} {context : String}
      (read : TypeText.parse types context text = .ok type) {own : NodeGen.Variant}
      (ofBase : own ∈ base.variants) :
      type.leaf = .scalar own.name ↔ TypeText.Spells own.name text.toList := by
    rw [resolves.leaf_eq_scalar_iff read (accepted own ofBase).identifier,
      and_iff_left (accepted own ofBase).notBase]
  constructor
  · rintro ⟨variant, ofBase, field, ofVariant, own, chosen, leaf⟩
    obtain ⟨shape, ofDeclared, same⟩ := related.variants.exists_left ofBase
    obtain ⟨entry, ofShape, equal⟩ := same.fields.exists_left ofVariant
    obtain ⟨other, named, alike⟩ := related.variants.exists_left chosen
    exact ⟨shape, ofDeclared, entry, ofShape, other, named,
      alike.name ▸ (bare equal.type chosen).mp leaf⟩
  · rintro ⟨shape, ofDeclared, entry, ofShape, other, named, spells⟩
    obtain ⟨variant, ofBase, same⟩ := related.variants.exists_right ofDeclared
    obtain ⟨field, ofVariant, equal⟩ := same.fields.exists_right ofShape
    obtain ⟨own, chosen, alike⟩ := related.variants.exists_right named
    exact ⟨variant, ofBase, field, ofVariant, own, chosen,
      (bare equal.type chosen).mpr (alike.name ▸ spells)⟩

theorem Resolves.notMem_of_scalar (resolves : Resolves types schema) (valid : schema.Valid)
    {base : NodeGen.BaseType} (member : base ∈ schema.baseTypes) {variant : NodeGen.Variant}
    (ofBase : variant ∈ base.variants) {field : NodeGen.Field} (ofVariant : field ∈ variant.fields)
    {name : String} (leaf : field.type.leaf = .scalar name) :
    name ∉ schema.baseTypes.map (·.name) := by
  obtain ⟨declared, -, related⟩ := resolves.exists_left member
  obtain ⟨shape, -, same⟩ := related.variants.exists_left ofBase
  obtain ⟨entry, -, equal⟩ := same.fields.exists_left ofVariant
  intro inNames
  obtain ⟨other, present, rfl⟩ := List.mem_map.mp inNames
  exact ((resolves.leaf_eq_scalar_iff equal.type (valid.identifiers other present)).mp leaf).2
    inNames

/-- No scalar of a resolved schema has the name of a base type, but one has the name of a variant
of its own base type exactly where a field is declared with that name alone, up to marks for lists
and optional types. In a Rust unit no item holds itself by value as long as no scalar names an item
of the unit, alone or inside `Option`. -/
theorem resolve_captures_iff (resolved : resolve types = .ok schema) :
    (∀ base ∈ schema.baseTypes, ∀ variant ∈ base.variants, ∀ field ∈ variant.fields, ∀ name,
      field.type.leaf = .scalar name → name ∉ schema.baseTypes.map (·.name)) ∧
    List.Forall₂ (fun declared base => base.Captures ↔ declared.SpellsVariant)
      types schema.baseTypes ∧
    ∀ imports units, generate schema (.rust imports) = .ok units →
      List.Forall₂ (fun base unit =>
          unit.source = Layout.render "    " (Target.Rust.unitSteps imports base) ∧
          (¬base.SpellsItem → ∀ item, ¬Relation.TransGen (Target.Rust.Holds base
            (Outline.ofSteps [] (Target.Rust.unitSteps imports base))) item item))
        schema.baseTypes units := by
  obtain ⟨-, resolves, valid⟩ := resolve_eq_ok_iff.mp resolved
  refine ⟨?_, ?_, ?_⟩
  · intro base member variant ofBase field ofVariant name leaf
    exact resolves.notMem_of_scalar valid member ofBase ofVariant leaf
  · refine List.forall₂_iff_zip.mpr ⟨resolves.length_eq, fun {declared base} pair => ?_⟩
    have related := (List.forall₂_iff_zip.mp resolves).2 pair
    exact resolves.captures_iff valid (List.of_mem_zip pair).2 related
  · intro imports units generated
    obtain ⟨-, -, rfl⟩ := generate_eq_ok_iff.mp generated
    rw [List.forall₂_map_right_iff, List.forall₂_same]
    intro base member
    exact ⟨rfl, fun unspelled item =>
      Target.Rust.not_transGen_holds valid member unspelled item⟩

end Resolved

/-- A variant that is meant in three ways: by its full name, by its bare name, and not at all. -/
def chainTypes : List BaseType :=
  [⟨"Expr", [⟨"Node", [⟨"next", "Expr.Node?"⟩, ⟨"rest", " List <Node>"⟩, ⟨"mark", "Nodes"⟩]⟩]⟩,
    ⟨"Stmt", [⟨"Print", [⟨"value", "Expr"⟩, ⟨"node", "Node"⟩]⟩]⟩]

def chainSchema : Schema :=
  ⟨[⟨"Expr", [⟨"Node", [⟨"next", .optional (.variant "Expr" "Node")⟩,
      ⟨"rest", .list (.scalar "Node")⟩, ⟨"mark", .scalar "Nodes"⟩]⟩]⟩,
    ⟨"Stmt", [⟨"Print", [⟨"value", .base "Expr"⟩, ⟨"node", .scalar "Node"⟩]⟩]⟩]⟩

theorem resolve_captures_iff_chainTypes :
    List.Forall₂ (fun declared base => base.Captures ↔ declared.SpellsVariant)
      chainTypes chainSchema.baseTypes ∧
    ∃ base ∈ chainSchema.baseTypes, base.name = "Stmt" ∧ ∀ item,
      ¬Relation.TransGen (Target.Rust.Holds base
        (Outline.ofSteps [] (Target.Rust.unitSteps [] base))) item item := by
  have resolved : resolve chainTypes = .ok chainSchema := by decide +kernel
  obtain ⟨-, captures, sizes⟩ := resolve_captures_iff resolved
  have member : ⟨"Stmt", [⟨"Print", [⟨"value", .base "Expr"⟩, ⟨"node", .scalar "Node"⟩]⟩]⟩ ∈
      chainSchema.baseTypes := List.mem_cons_of_mem _ List.mem_cons_self
  obtain ⟨-, -, -, finite⟩ := (sizes [] _ rfl).exists_right member
  refine ⟨captures, _, member, rfl, finite ?_⟩
  rintro ⟨variant, ofBase, field, ofVariant, name, leaf, item, chosen, wraps⟩
  -- The only scalar is the name of a variant of the other base type.
  obtain rfl := List.mem_singleton.mp ofBase
  obtain rfl : name = "Node" := by
    obtain rfl | rfl : field = ⟨"value", .base "Expr"⟩ ∨ field = ⟨"node", .scalar "Node"⟩ := by
      simpa using ofVariant
    · cases leaf
    · exact (TypeRef.scalar.inj leaf).symm
  obtain rfl | ⟨inner, same, -⟩ := wraps.cases
  · simp [NodeGen.BaseType.itemNames] at chosen
  · simp [← String.toList_inj] at same

def nextTypes : List BaseType :=
  [⟨"Expr", [⟨"Node", [⟨"next", "Node"⟩]⟩]⟩]

def nextSchema : Schema :=
  ⟨[⟨"Expr", [⟨"Node", [⟨"next", .scalar "Node"⟩]⟩]⟩]⟩

/-- The struct of the only variant holds itself, and neither target objects. -/
theorem captures_nextTypes :
    resolve nextTypes = .ok nextSchema ∧
    (∃ units, generate nextSchema (.java none []) = .ok units) ∧
    (∃ units, generate nextSchema (.rust []) = .ok units) ∧
    ∃ base ∈ nextSchema.baseTypes, base.Captures ∧
      Relation.TransGen (Target.Rust.Holds base
        (Outline.ofSteps [] (Target.Rust.unitSteps [] base))) "Node" "Node" := by
  have resolved : resolve nextTypes = .ok nextSchema := by decide +kernel
  refine ⟨resolved, ⟨_, rfl⟩, ⟨_, rfl⟩, _, List.mem_cons_self, ?_, ?_⟩
  · exact ⟨_, List.mem_cons_self, _, List.mem_cons_self, _, List.mem_cons_self, rfl⟩
  · have line : "pub " ++ "next" ++ ": " ++ "Node" ++ "," ∈
        Outline.within [Target.Rust.structHeader ⟨"Node", [⟨"next", .scalar "Node"⟩]⟩]
          (Outline.ofSteps [] (Target.Rust.unitSteps []
            ⟨"Expr", [⟨"Node", [⟨"next", .scalar "Node"⟩]⟩]⟩)) := by decide +kernel
    exact .single (.member List.mem_cons_self
      (fun _ => Target.Rust.isIdentChar_of_mem (by decide)) line .bare)

end Source

end NodeGen
