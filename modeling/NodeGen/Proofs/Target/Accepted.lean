import NodeGen.Proofs.Schema.Valid
import NodeGen.Target

/-! What the check of a target establishes about the names of a schema, and which errors it can
report. -/

set_option autoImplicit false

namespace NodeGen.Target

theorem checkReservedVariants_eq_ok_iff {target base : String} {reserved : List String}
    {variants : List Variant} :
    checkReservedVariants target reserved base variants = .ok ⟨⟩ ↔
      ∀ variant ∈ variants, variant.name ∉ reserved := by
  induction variants with
  | nil => simp [checkReservedVariants]
  | cons variant rest ih =>
    rw [checkReservedVariants, List.forall_mem_cons]
    split <;> simp_all

theorem checkReserved_eq_ok_iff {target : String} {reserved : List String}
    {bases : List BaseType} :
    checkReserved target reserved bases = .ok ⟨⟩ ↔
      ∀ base ∈ bases, base.name ∉ reserved ∧
        ∀ variant ∈ base.variants, variant.name ∉ reserved := by
  induction bases with
  | nil => simp [checkReserved]
  | cons base rest ih =>
    rw [checkReserved, List.forall_mem_cons]
    split
    · simp_all
    · rw [Checks.then_eq_ok_iff, checkReservedVariants_eq_ok_iff, ih]
      simp_all

theorem reservedName_of_checkReservedVariants {target base : String} {reserved : List String}
    {variants : List Variant} {error : SchemaError}
    (failed : checkReservedVariants target reserved base variants = .error error) :
    ∃ name context, error = .reservedName name target context := by
  induction variants with
  | nil => simp [checkReservedVariants] at failed
  | cons variant rest ih =>
    rw [checkReservedVariants] at failed
    split at failed
    · exact ⟨variant.name, base, (Except.error.inj failed).symm⟩
    · exact ih failed

theorem reservedName_of_checkReserved {target : String} {reserved : List String}
    {bases : List BaseType} {error : SchemaError}
    (failed : checkReserved target reserved bases = .error error) :
    ∃ name context, error = .reservedName name target context := by
  induction bases with
  | nil => simp [checkReserved] at failed
  | cons base rest ih =>
    rw [checkReserved] at failed
    split at failed
    · exact ⟨base.name, Context.baseList, (Except.error.inj failed).symm⟩
    · rw [Checks.then_eq_error_iff] at failed
      obtain first | ⟨-, later⟩ := failed
      · exact reservedName_of_checkReservedVariants first
      · exact ih later

namespace Java

theorem checkKeyword_eq_ok_iff {name context : String} :
    checkKeyword name context = .ok ⟨⟩ ↔ name ∉ keywords := by
  simp [checkKeyword, isKeyword]

theorem reservedName_of_checkKeyword {name context : String} {error : SchemaError}
    (failed : checkKeyword name context = .error error) :
    error = .reservedName name targetName context := by
  unfold checkKeyword at failed
  split at failed
  · exact (Except.error.inj failed).symm
  · cases failed

/-- No name of the base type is a keyword, nor is the parameter of its dispatch methods. -/
structure Speakable (base : BaseType) : Prop where
  name : base.name ∉ keywords
  parameter : visitorParameter base.name ∉ keywords
  variants : ∀ variant ∈ base.variants, variant.name ∉ keywords
  fields : ∀ variant ∈ base.variants, ∀ field ∈ variant.fields, field.name ∉ keywords

theorem checkBaseKeywords_eq_ok_iff {base : BaseType} :
    checkBaseKeywords base = .ok ⟨⟩ ↔ Speakable base := by
  simp only [checkBaseKeywords, checkVariantKeywords, Checks.then_eq_ok_iff,
    Checks.forM_eq_ok_iff, checkKeyword_eq_ok_iff]
  constructor
  · rintro ⟨name, parameter, variants⟩
    exact ⟨name, parameter, fun variant member => (variants variant member).1,
      fun variant member => (variants variant member).2⟩
  · rintro ⟨name, parameter, variants, fields⟩
    exact ⟨name, parameter, fun variant member => ⟨variants variant member, fields variant member⟩⟩

theorem check_eq_ok_iff {schema : Schema} :
    check schema = .ok ⟨⟩ ↔
      (∀ base ∈ schema.baseTypes, base.name ∉ reserved ∧
        ∀ variant ∈ base.variants, variant.name ∉ reserved) ∧
      ∀ base ∈ schema.baseTypes, Speakable base := by
  simp only [check, Checks.then_eq_ok_iff, Checks.forM_eq_ok_iff, checkReserved_eq_ok_iff,
    checkBaseKeywords_eq_ok_iff]

theorem reservedName_of_check {schema : Schema} {error : SchemaError}
    (failed : check schema = .error error) :
    ∃ name context, error = .reservedName name targetName context := by
  rw [check, Checks.then_eq_error_iff] at failed
  obtain reserved | ⟨-, keyword⟩ := failed
  · exact reservedName_of_checkReserved reserved
  · obtain ⟨base, -, inBase⟩ := Checks.exists_of_forM_eq_error keyword
    simp only [checkBaseKeywords, Checks.then_eq_error_iff] at inBase
    obtain named | ⟨-, parameter | ⟨-, inVariants⟩⟩ := inBase
    · exact ⟨_, _, reservedName_of_checkKeyword named⟩
    · exact ⟨_, _, reservedName_of_checkKeyword parameter⟩
    · obtain ⟨variant, -, inVariant⟩ := Checks.exists_of_forM_eq_error inVariants
      rw [checkVariantKeywords, Checks.then_eq_error_iff] at inVariant
      obtain called | ⟨-, inFields⟩ := inVariant
      · exact ⟨_, _, reservedName_of_checkKeyword called⟩
      · obtain ⟨field, -, inField⟩ := Checks.exists_of_forM_eq_error inFields
        exact ⟨_, _, reservedName_of_checkKeyword inField⟩

end Java

namespace Rust

theorem checkDistinct_eq_ok_iff {convert : String → String} {context : String}
    {seen : List (String × String)} {names : List String} :
    checkDistinct convert context seen names = .ok ⟨⟩ ↔
      (∀ name ∈ names, convert name ∉ seen.map (·.1)) ∧ (names.map convert).Nodup := by
  induction names generalizing seen with
  | nil => simp [checkDistinct]
  | cons name rest ih =>
    rw [checkDistinct]
    -- What was seen is kept with its spelling in the schema; only the emitted names matter here.
    cases found : seen.find? (·.1 == convert name) with
    | some entry =>
      have known : convert name ∈ seen.map (·.1) := by
        have same : entry.1 = convert name := by simpa using List.find?_some found
        exact List.mem_map.mpr ⟨entry, List.mem_of_find?_eq_some found, same⟩
      simp only [reduceCtorEq, false_iff]
      exact fun passed => passed.1 name List.mem_cons_self known
    | none =>
      have fresh : convert name ∉ seen.map (·.1) := by
        intro known
        obtain ⟨entry, member, same⟩ := List.mem_map.mp known
        exact List.find?_eq_none.mp found entry member (by simp [same])
      simp only [ih, List.map_append, List.map_cons, List.map_nil, List.mem_append,
        List.mem_singleton, not_or, List.forall_mem_cons, List.nodup_cons, List.mem_map,
        not_exists, not_and] at fresh ⊢
      grind

/-- A collision is reported with the earlier name, and both names with what they become. -/
theorem collision_of_checkDistinct {convert : String → String} {context : String}
    {seen : List (String × String)} {names : List String} {error : SchemaError}
    (failed : checkDistinct convert context seen names = .error error) :
    ∃ first second,
      error = .nameCollision first second (convert second) targetName context ∧
      [(convert second, first), (convert second, second)].Sublist
        (seen ++ names.map fun name => (convert name, name)) := by
  induction names generalizing seen with
  | nil => simp [checkDistinct] at failed
  | cons name rest ih =>
    rw [checkDistinct] at failed
    split at failed
    next emitted first found =>
      obtain rfl : emitted = convert name := by simpa using List.find?_some found
      refine ⟨first, name, (Except.error.inj failed).symm, ?_⟩
      have before := List.singleton_sublist.mpr (List.mem_of_find?_eq_some found)
      have here : [(convert name, name)].Sublist
          ((name :: rest).map fun name => (convert name, name)) := by simp
      exact before.append here
    next =>
      obtain ⟨first, second, same, order⟩ := ih failed
      exact ⟨first, second, same, by simpa using order⟩

/-- Two names of one list, in this order, that are written alike. -/
structure Alike (convert : String → String) (names : List String)
    (first second emitted : String) : Prop where
  order : [first, second].Sublist names
  ofFirst : convert first = emitted
  ofSecond : convert second = emitted

theorem alike_of_checkDistinct {convert : String → String} {context : String}
    {names : List String} {error : SchemaError}
    (failed : checkDistinct convert context [] names = .error error) :
    ∃ first second emitted, error = .nameCollision first second emitted targetName context ∧
      Alike convert names first second emitted := by
  obtain ⟨first, second, same, order⟩ := collision_of_checkDistinct failed
  obtain ⟨chosen, inOrder, pairs⟩ := List.sublist_map_iff.mp order
  -- Every pair holds a name and what it becomes, so the names alone tell which pairs were met.
  have names := congrArg (List.map Prod.snd) pairs
  simp only [List.map_map, List.map_cons, List.map_nil, Function.comp_def, List.map_id'] at names
  subst names
  have alike : convert second = convert first := (Prod.mk.inj (List.cons.inj pairs).1).1
  exact ⟨first, second, _, same, inOrder, alike.symm, rfl⟩

/-- Emitted names stay apart: methods within the base type, fields within each variant. -/
structure Separate (base : BaseType) : Prop where
  methods : ((base.variants.map (·.name)).map (methodName base.name)).Nodup
  fields : ∀ variant ∈ base.variants, ((variant.fields.map (·.name)).map ident).Nodup

theorem checkBaseNames_eq_ok_iff {base : BaseType} :
    checkBaseNames base = .ok ⟨⟩ ↔ Separate base := by
  simp only [checkBaseNames, checkFieldNames, Checks.then_eq_ok_iff, Checks.forM_eq_ok_iff,
    checkDistinct_eq_ok_iff, List.map_nil, List.not_mem_nil, not_false_iff, implies_true, true_and]
  exact ⟨fun ⟨methods, fields⟩ => ⟨methods, fields⟩, fun ⟨methods, fields⟩ => ⟨methods, fields⟩⟩

theorem check_eq_ok_iff {schema : Schema} :
    check schema = .ok ⟨⟩ ↔
      (∀ base ∈ schema.baseTypes, base.name ∉ reserved ∧
        ∀ variant ∈ base.variants, variant.name ∉ reserved) ∧
      ((schema.baseTypes.map (·.name)).map moduleName).Nodup ∧
      ∀ base ∈ schema.baseTypes, Separate base := by
  simp only [check, Checks.then_eq_ok_iff, Checks.forM_eq_ok_iff, checkReserved_eq_ok_iff,
    checkDistinct_eq_ok_iff, checkBaseNames_eq_ok_iff, List.map_nil, List.not_mem_nil,
    not_false_iff, implies_true, true_and]

/-- Two names are written alike in one scope; the last argument is the place that is reported. -/
inductive Collides (schema : Schema) (first second emitted : String) : String → Prop
  | modules : Alike moduleName (schema.baseTypes.map (·.name)) first second emitted →
    Collides schema first second emitted "module names"
  | methods {base : BaseType} : base ∈ schema.baseTypes →
    Alike (methodName base.name) (base.variants.map (·.name)) first second emitted →
    Collides schema first second emitted base.name
  | fields {base : BaseType} {variant : Variant} : base ∈ schema.baseTypes →
    variant ∈ base.variants → Alike ident (variant.fields.map (·.name)) first second emitted →
    Collides schema first second emitted (Context.variant base.name variant.name)

theorem reservedName_or_nameCollision_of_check {schema : Schema} {error : SchemaError}
    (failed : check schema = .error error) :
    (∃ name context, error = .reservedName name targetName context) ∨
      ∃ first second emitted context,
        error = .nameCollision first second emitted targetName context ∧
        Collides schema first second emitted context := by
  simp only [check, Checks.then_eq_error_iff] at failed
  obtain reserved | ⟨-, modules | ⟨-, inBases⟩⟩ := failed
  · exact .inl (reservedName_of_checkReserved reserved)
  · obtain ⟨first, second, emitted, same, alike⟩ := alike_of_checkDistinct modules
    exact .inr ⟨first, second, emitted, _, same, .modules alike⟩
  · obtain ⟨base, member, inBase⟩ := Checks.exists_of_forM_eq_error inBases
    rw [checkBaseNames, Checks.then_eq_error_iff] at inBase
    obtain methods | ⟨-, inVariants⟩ := inBase
    · obtain ⟨first, second, emitted, same, alike⟩ := alike_of_checkDistinct methods
      exact .inr ⟨first, second, emitted, _, same, .methods member alike⟩
    · obtain ⟨variant, inside, fields⟩ := Checks.exists_of_forM_eq_error inVariants
      obtain ⟨first, second, emitted, same, alike⟩ := alike_of_checkDistinct fields
      exact .inr ⟨first, second, emitted, _, same, .fields member inside alike⟩

end Rust

/-- A target refuses names only: those it keeps for itself and, where it changes their spelling,
those that it would write alike. -/
theorem refusal_of_check {target : Target} {schema : Schema} {error : SchemaError}
    (failed : target.check schema = .error error) :
    (∃ name context, error = .reservedName name target.name context) ∨
      (∃ imports, target = .rust imports) ∧ ∃ first second emitted context,
        error = .nameCollision first second emitted target.name context := by
  cases target with
  | java package imports => exact .inl (Java.reservedName_of_check failed)
  | rust imports =>
    obtain reserved | ⟨first, second, emitted, context, same, -⟩ :=
      Rust.reservedName_or_nameCollision_of_check failed
    · exact .inl reserved
    · exact .inr ⟨⟨imports, rfl⟩, first, second, emitted, context, same⟩

end NodeGen.Target

namespace NodeGen

theorem generate_eq_ok_iff {schema : Schema} {target : Target} {units : List CodeUnit} :
    generate schema target = .ok units ↔
      schema.Valid ∧ target.check schema = .ok () ∧ units = schema.baseTypes.map target.unit := by
  rw [generate, Checks.bind_eq_ok_iff]
  constructor
  · rintro ⟨_, validated, rest⟩
    obtain ⟨_, checked, same⟩ := Checks.bind_eq_ok_iff.mp rest
    exact ⟨Schema.validate_eq_ok_iff.mp validated, checked, (Except.ok.inj same).symm⟩
  · rintro ⟨valid, checked, rfl⟩
    exact ⟨⟨⟩, Schema.validate_eq_ok_iff.mpr valid, Checks.bind_eq_ok_iff.mpr ⟨⟨⟩, checked, rfl⟩⟩

theorem check_eq_error_of_generate {schema : Schema} (valid : schema.Valid) {target : Target}
    {error : SchemaError} (failed : generate schema target = .error error) :
    (target.check schema : Except SchemaError Unit) = .error error := by
  obtain invalid | ⟨_, -, rest⟩ := Checks.bind_eq_error_iff.mp failed
  · rw [Schema.validate_eq_ok_iff.mpr valid] at invalid
    cases invalid
  · obtain refused | ⟨_, -, done⟩ := Checks.bind_eq_error_iff.mp rest
    · exact refused
    · cases done

end NodeGen
