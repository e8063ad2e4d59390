import NodeGen.Proofs.Schema.Valid

/-! What validation reports is so. Every error names a declaration or a reference by its place, and
the fault is found at that place; which of several faults is named depends on the order of the
checks, that it is there does not. -/

set_option autoImplicit false

namespace NodeGen

/-- What is left of a type without its optional and list layers. -/
def TypeRef.leaf : TypeRef → TypeRef
  | .list item => item.leaf
  | .optional inner => inner.leaf
  | .scalar name => .scalar name
  | .base name => .base name
  | .variant owner name => .variant owner name

theorem TypeRef.declared_leaf_iff {schema : Schema} {type : TypeRef} :
    type.leaf.Declared schema ↔ type.Declared schema := by
  induction type with
  | scalar | base | variant => rfl
  | list item ih => exact ih
  | optional inner ih => exact ih

namespace Schema

/-- A name of the schema and the place where it is declared. -/
inductive Names (schema : Schema) : String → String → Prop
  | base {base : BaseType} : base ∈ schema.baseTypes → Names schema base.name Context.baseList
  | variant {base : BaseType} {variant : Variant} : base ∈ schema.baseTypes →
    variant ∈ base.variants → Names schema variant.name base.name
  | field {base : BaseType} {variant : Variant} {field : Field} : base ∈ schema.baseTypes →
    variant ∈ base.variants → field ∈ variant.fields →
    Names schema field.name (Context.variant base.name variant.name)

/-- What a field at the place refers to, under all its layers. -/
inductive Refers (schema : Schema) : TypeRef → String → Prop
  | field {base : BaseType} {variant : Variant} {field : Field} : base ∈ schema.baseTypes →
    variant ∈ base.variants → field ∈ variant.fields →
    Refers schema field.type.leaf (Context.field base.name variant.name field.name)

end Schema

/-- The schema has this fault, and has it where the error says. -/
def SchemaError.Present (schema : Schema) : SchemaError → Prop
  | duplicateBase name => 2 ≤ (schema.baseTypes.map (·.name)).count name
  | duplicateVariant owner name =>
    ∃ base ∈ schema.baseTypes, base.name = owner ∧ 2 ≤ (base.variants.map (·.name)).count name
  | duplicateField owner node name =>
    ∃ base ∈ schema.baseTypes, base.name = owner ∧ ∃ variant ∈ base.variants,
      variant.name = node ∧ 2 ≤ (variant.fields.map (·.name)).count name
  | invalidIdentifier name context => Name.isIdentifier name = false ∧ schema.Names name context
  | variantShadowsBase owner name =>
    (∃ base ∈ schema.baseTypes, base.name = owner ∧ name ∈ base.variants.map (·.name)) ∧
      name ∈ schema.baseTypes.map (·.name)
  | malformedType text context =>
    Text.trim text.toList = [] ∧ schema.Refers (.scalar text) context
  | unknownBase name context =>
    name ∉ schema.baseTypes.map (·.name) ∧
      (schema.Refers (.base name) context ∨ ∃ node, schema.Refers (.variant name node) context)
  | unknownVariant owner name context =>
    schema.Refers (.variant owner name) context ∧ (∃ base ∈ schema.baseTypes, base.name = owner) ∧
      ∀ base ∈ schema.baseTypes, base.name = owner → name ∉ base.variants.map (·.name)
  -- These belong to targets.
  | nameCollision .. | reservedName .. => False

/-- The fault lies with the type of a field and not with a name. -/
def SchemaError.ConcernsType : SchemaError → Prop
  | malformedType _ _ | unknownBase _ _ | unknownVariant _ _ _ => True
  | _ => False

namespace Schema

section Visits

variable {Item : Type} {name : Item → String} {whole rest : List Item} {seen : List String}
  {item : Item}

/-- A loop over the whole list has `rest` before it, and has seen the names of what lies behind. -/
def Visits (name : Item → String) (whole : List Item) (seen : List String) (rest : List Item) :
    Prop :=
  ∃ front, whole = front ++ rest ∧ ∀ text ∈ seen, text ∈ front.map name

theorem visits_start : Visits name whole [] whole :=
  ⟨[], rfl, by simp⟩

theorem Visits.next (visits : Visits name whole seen (item :: rest)) :
    Visits name whole (name item :: seen) rest := by
  obtain ⟨front, rfl, known⟩ := visits
  refine ⟨front ++ [item], by simp, fun text member => ?_⟩
  rw [List.map_append, List.mem_append]
  obtain rfl | earlier := List.mem_cons.mp member
  · exact .inr (by simp)
  · exact .inl (known text earlier)

theorem Visits.mem (visits : Visits name whole seen (item :: rest)) : item ∈ whole := by
  obtain ⟨front, rfl, -⟩ := visits
  simp

/-- A name that was seen before and comes again is in the list twice. -/
theorem Visits.repeats (visits : Visits name whole seen (item :: rest))
    (again : name item ∈ seen) : 2 ≤ (whole.map name).count (name item) := by
  obtain ⟨front, rfl, known⟩ := visits
  have before : 0 < (front.map name).count (name item) :=
    List.count_pos_iff.mpr (known (name item) again)
  rw [List.map_append, List.map_cons, List.count_append, List.count_cons_self]
  omega

end Visits

variable {schema : Schema} {error : SchemaError}

theorem present_of_checkIdentifier {name context : String} (named : schema.Names name context)
    (failed : checkIdentifier name context = .error error) : error.Present schema := by
  unfold checkIdentifier at failed
  split at failed
  · cases failed
  · next invalid =>
    obtain rfl := Except.error.inj failed
    exact ⟨Bool.eq_false_iff.mpr invalid, named⟩

theorem present_of_checkBaseNames {seen : List String} {rest : List BaseType}
    (visits : Visits BaseType.name schema.baseTypes seen rest)
    (failed : checkBaseNames seen rest = .error error) : error.Present schema := by
  induction rest generalizing seen with
  | nil => simp [checkBaseNames] at failed
  | cons base rest ih =>
    rw [checkBaseNames, Checks.then_eq_error_iff] at failed
    obtain named | ⟨-, later⟩ := failed
    · exact present_of_checkIdentifier (.base visits.mem) named
    · split at later
      · next again =>
        obtain rfl := Except.error.inj later
        exact visits.repeats again
      · exact ih visits.next later

section References

variable (distinct : (schema.baseTypes.map (·.name)).Nodup)
include distinct

theorem present_of_checkRef {context : String} {type : TypeRef}
    (refers : schema.Refers type.leaf context)
    (failed : checkRef schema context type = .error error) : error.Present schema := by
  induction type with
  | scalar name =>
    rw [checkRef] at failed
    split at failed
    · next blank =>
      obtain rfl := Except.error.inj failed
      exact ⟨List.isEmpty_iff.mp blank, refers⟩
    · cases failed
  | base name =>
    rw [checkRef] at failed
    split at failed
    · cases failed
    · next missing =>
      obtain rfl := Except.error.inj failed
      exact ⟨by simpa using base?_eq_none_iff.mp missing, .inl refers⟩
  | variant owner name =>
    rw [checkRef] at failed
    split at failed
    · next missing =>
      obtain rfl := Except.error.inj failed
      exact ⟨by simpa using base?_eq_none_iff.mp missing, .inr ⟨name, refers⟩⟩
    · next target found =>
      obtain ⟨member, named⟩ := (base?_eq_some_iff distinct).mp found
      split at failed
      · cases failed
      · next missing =>
        obtain rfl := Except.error.inj failed
        refine ⟨refers, ⟨target, member, named⟩, fun base other same => ?_⟩
        -- The base type that was looked at is the only one of this name.
        obtain rfl : base = target :=
          List.inj_on_of_nodup_map distinct other member (same.trans named.symm)
        simpa [BaseType.variant?] using missing
  | list item ih => exact ih refers failed
  | optional inner ih => exact ih refers failed

theorem present_of_checkFields {base : BaseType} (member : base ∈ schema.baseTypes)
    {variant : Variant} (inside : variant ∈ base.variants) {seen : List String}
    {rest : List Field} (visits : Visits Field.name variant.fields seen rest)
    (failed : checkFields schema base.name variant.name seen rest = .error error) :
    error.Present schema := by
  induction rest generalizing seen with
  | nil => simp [checkFields] at failed
  | cons field rest ih =>
    rw [checkFields, Checks.then_eq_error_iff] at failed
    obtain named | ⟨-, later⟩ := failed
    · exact present_of_checkIdentifier (.field member inside visits.mem) named
    · split at later
      · next again =>
        obtain rfl := Except.error.inj later
        exact ⟨base, member, rfl, variant, inside, rfl, visits.repeats again⟩
      · rw [Checks.then_eq_error_iff] at later
        obtain here | ⟨-, further⟩ := later
        · exact present_of_checkRef distinct (.field member inside visits.mem) here
        · exact ih visits.next further

theorem present_of_checkVariants {base : BaseType} (member : base ∈ schema.baseTypes)
    {seen : List String} {rest : List Variant}
    (visits : Visits Variant.name base.variants seen rest)
    (failed : checkVariants schema base.name seen rest = .error error) : error.Present schema := by
  induction rest generalizing seen with
  | nil => simp [checkVariants] at failed
  | cons variant rest ih =>
    rw [checkVariants, Checks.then_eq_error_iff] at failed
    obtain named | ⟨-, later⟩ := failed
    · exact present_of_checkIdentifier (.variant member visits.mem) named
    · split at later
      · next again =>
        obtain rfl := Except.error.inj later
        exact ⟨base, member, rfl, visits.repeats again⟩
      · split at later
        · next shadows =>
          obtain rfl := Except.error.inj later
          exact ⟨⟨base, member, rfl, List.mem_map_of_mem visits.mem⟩, shadows⟩
        · rw [Checks.then_eq_error_iff] at later
          obtain here | ⟨-, further⟩ := later
          · exact present_of_checkFields distinct member visits.mem visits_start here
          · exact ih visits.next further

theorem present_of_checkBases {bases : List BaseType} (subset : bases ⊆ schema.baseTypes)
    (failed : checkBases schema bases = .error error) : error.Present schema := by
  induction bases with
  | nil => simp [checkBases] at failed
  | cons base rest ih =>
    obtain ⟨member, others⟩ := List.cons_subset.mp subset
    rw [checkBases, Checks.then_eq_error_iff] at failed
    obtain here | ⟨-, later⟩ := failed
    · exact present_of_checkVariants distinct member visits_start here
    · exact ih others later

end References

theorem present_of_validate (failed : schema.validate = .error error) : error.Present schema := by
  rw [validate, Checks.then_eq_error_iff] at failed
  obtain names | ⟨passed, bases⟩ := failed
  · exact present_of_checkBaseNames visits_start names
  -- References are looked at only where base names are known to stay apart.
  · obtain ⟨-, -, distinct⟩ := checkBaseNames_eq_ok_iff.mp passed
    exact present_of_checkBases distinct (List.Subset.refl _) bases

theorem Refers.exists_undeclared {type : TypeRef} {context : String}
    (refers : schema.Refers type context) (undeclared : ¬type.Declared schema) :
    ∃ base ∈ schema.baseTypes, ∃ variant ∈ base.variants, ∃ field ∈ variant.fields,
      ¬field.type.Declared schema := by
  obtain ⟨member, inside, held⟩ := refers
  exact ⟨_, member, _, inside, _, held, mt TypeRef.declared_leaf_iff.mpr undeclared⟩

/-- A fault with a type has a reference without declaration behind it. -/
theorem exists_undeclared_of_validate (failed : schema.validate = .error error)
    (concerns : error.ConcernsType) :
    ∃ base ∈ schema.baseTypes, ∃ variant ∈ base.variants, ∃ field ∈ variant.fields,
      ¬field.type.Declared schema := by
  have present := present_of_validate failed
  cases error with
  | malformedType text context =>
    obtain ⟨blank, refers⟩ := present
    exact refers.exists_undeclared fun declared => declared blank
  | unknownBase name context =>
    obtain ⟨missing, refers | ⟨node, refers⟩⟩ := present
    · refine refers.exists_undeclared ?_
      rintro ⟨base, member, rfl⟩
      exact missing (List.mem_map_of_mem member)
    · refine refers.exists_undeclared ?_
      rintro ⟨base, member, rfl, -⟩
      exact missing (List.mem_map_of_mem member)
  | unknownVariant owner name context =>
    obtain ⟨refers, -, missing⟩ := present
    refine refers.exists_undeclared ?_
    rintro ⟨base, member, same, variant, inside, rfl⟩
    exact missing base member same (List.mem_map_of_mem inside)
  | _ => exact concerns.elim

/-- Validation accepts the valid schemas and no others, and an error that it returns tells the
truth about the schema. -/
theorem validate_exact (schema : Schema) :
    (schema.validate = .ok () ↔ schema.Valid) ∧
    ∀ error, schema.validate = (.error error : Except _ Unit) → error.Present schema :=
  ⟨validate_eq_ok_iff, fun _ => present_of_validate⟩

/-- A reference to a variant that is declared for another base type only. -/
def strayedSchema : Schema :=
  ⟨[⟨"Stmt", [⟨"Run", [⟨"calls", .list (.optional (.variant "Stmt" "Call"))⟩]⟩]⟩,
    ⟨"Expr", [⟨"Call", []⟩, ⟨"Call", []⟩]⟩]⟩

theorem validate_exact_strayedSchema :
    strayedSchema.Refers (.variant "Stmt" "Call") "Stmt.Run.calls" ∧
      ∀ base ∈ strayedSchema.baseTypes, base.name = "Stmt" →
        "Call" ∉ base.variants.map (·.name) := by
  have failed : strayedSchema.validate =
      (.error (.unknownVariant "Stmt" "Call" "Stmt.Run.calls") : Except _ Unit) := by
    decide +kernel
  obtain ⟨refers, -, missing⟩ := (validate_exact strayedSchema).2 _ failed
  exact ⟨refers, missing⟩

end Schema

end NodeGen
