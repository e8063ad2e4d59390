import NodeGen.Name
import NodeGen.Proofs.Schema.Valid

/-! When two variants of a schema share a dispatch method. The name of a method is made of the names
of a variant and of a base type without a mark between them, so a part that ends the one may as well
begin the other. Within one base type that cannot happen. -/

set_option autoImplicit false

namespace NodeGen

namespace Name

/-- Some letters end the name of a variant here and begin the name of a base type there, and the two
pairs of names have all else in common. -/
def Shifts (variant base another other : String) : Prop :=
  ∃ middle, middle ≠ "" ∧ base = middle ++ other ∧ another = variant ++ middle

theorem shifts_iff {variant base another other : String} :
    Shifts variant base another other ↔
      ∃ middle, middle ≠ [] ∧ base.toList = middle ++ other.toList ∧
        another.toList = variant.toList ++ middle := by
  constructor
  · rintro ⟨middle, filled, rfl, rfl⟩
    exact ⟨middle.toList, by simpa using filled, by simp, by simp⟩
  · rintro ⟨middle, filled, ofBase, ofVariant⟩
    refine ⟨String.ofList middle, by simpa using filled, ?_, ?_⟩
    · rw [← String.toList_inj, ofBase, String.toList_append, String.toList_ofList]
    · rw [← String.toList_inj, ofVariant, String.toList_append, String.toList_ofList]

theorem not_shifts_same_base (variant base another : String) :
    ¬Shifts variant base another base := by
  rw [shifts_iff]
  rintro ⟨middle, filled, same, -⟩
  exact filled (List.self_eq_append_left.mp same)

theorem dispatchMethod_inj_iff {variant base another other : String} :
    dispatchMethod variant base = dispatchMethod another other ↔
      variant.toList ++ base.toList = another.toList ++ other.toList := by
  rw [← String.toList_inj]
  simp [dispatchMethod]

theorem dispatchMethod_eq_iff_shifts {variant base another other : String}
    (different : (variant, base) ≠ (another, other)) :
    dispatchMethod variant base = dispatchMethod another other ↔
      Shifts variant base another other ∨ Shifts another other variant base := by
  rw [dispatchMethod_inj_iff, shifts_iff, shifts_iff, List.append_eq_append_iff]
  -- Without letters in the middle the two pairs would be one.
  have apart : ¬(variant.toList = another.toList ∧ base.toList = other.toList) := by
    rintro ⟨sameVariant, sameBase⟩
    exact different (Prod.ext (String.toList_inj.mp sameVariant) (String.toList_inj.mp sameBase))
  constructor
  · rintro (⟨middle, longer, rest⟩ | ⟨middle, longer, rest⟩)
    · refine .inl ⟨middle, ?_, rest, longer⟩
      rintro rfl
      exact apart ⟨by simpa using longer.symm, by simpa using rest⟩
    · refine .inr ⟨middle, ?_, rest, longer⟩
      rintro rfl
      exact apart ⟨by simpa using longer, by simpa using rest.symm⟩
  · rintro (⟨middle, -, rest, longer⟩ | ⟨middle, -, rest, longer⟩)
    · exact .inl ⟨middle, longer, rest⟩
    · exact .inr ⟨middle, longer, rest⟩

end Name

/-- The variants of a valid schema are told apart by their own name and their base type's. -/
theorem Schema.Valid.eq_of_names {schema : Schema} (valid : schema.Valid) {base other : BaseType}
    (declared : base ∈ schema.baseTypes) (present : other ∈ schema.baseTypes)
    {variant another : Variant} (ofBase : variant ∈ base.variants)
    (ofOther : another ∈ other.variants)
    (same : (variant.name, base.name) = (another.name, other.name)) :
    (variant, base) = (another, other) := by
  obtain ⟨sameVariant, sameBase⟩ := Prod.mk.inj same
  obtain rfl := List.inj_on_of_nodup_map valid.distinct declared present sameBase
  obtain rfl := List.inj_on_of_nodup_map (valid.bases base declared).distinct ofBase ofOther
    sameVariant
  rfl

theorem Schema.dispatchMethod_eq_iff {schema : Schema} (valid : schema.validate = .ok ⟨⟩)
    {base other : BaseType} (declared : base ∈ schema.baseTypes)
    (present : other ∈ schema.baseTypes) {variant another : Variant}
    (ofBase : variant ∈ base.variants) (ofOther : another ∈ other.variants)
    (different : (variant, base) ≠ (another, other)) :
    (Name.dispatchMethod variant.name base.name = Name.dispatchMethod another.name other.name ↔
      Name.Shifts variant.name base.name another.name other.name ∨
        Name.Shifts another.name other.name variant.name base.name) ∧
    (base = other →
      Name.dispatchMethod variant.name base.name ≠
        Name.dispatchMethod another.name other.name) := by
  have names : (variant.name, base.name) ≠ (another.name, other.name) := by
    intro same
    exact different ((validate_eq_ok_iff.mp valid).eq_of_names declared present ofBase ofOther same)
  have shared := Name.dispatchMethod_eq_iff_shifts names
  refine ⟨shared, ?_⟩
  rintro rfl same
  obtain shifted | shifted := shared.mp same
  · exact Name.not_shifts_same_base _ _ _ shifted
  · exact Name.not_shifts_same_base _ _ _ shifted

/-- Two kinds of expressions, where one says in the name of a variant what the other says in its
own. -/
def logicSchema : Schema :=
  ⟨[⟨"Expr", [⟨"BinaryLogic", [⟨"left", .base "Expr"⟩]⟩, ⟨"Unary", []⟩]⟩,
    ⟨"LogicExpr", [⟨"Binary", []⟩]⟩]⟩

theorem Schema.dispatchMethod_eq_iff_logicSchema :
    Name.dispatchMethod "Unary" "Expr" ≠ Name.dispatchMethod "BinaryLogic" "Expr" ∧
    (Name.Shifts "BinaryLogic" "Expr" "Binary" "LogicExpr" ∨
      Name.Shifts "Binary" "LogicExpr" "BinaryLogic" "Expr") := by
  have valid : validate.{0} logicSchema = .ok ⟨⟩ := by decide +kernel
  have first : logicSchema.baseTypes[0] ∈ logicSchema.baseTypes := List.getElem_mem _
  have second : logicSchema.baseTypes[1] ∈ logicSchema.baseTypes := List.getElem_mem _
  have unary : ⟨"Unary", []⟩ ∈ logicSchema.baseTypes[0].variants :=
    List.mem_cons_of_mem _ List.mem_cons_self
  constructor
  · exact (dispatchMethod_eq_iff valid first first unary List.mem_cons_self (by decide)).2 rfl
  · exact (dispatchMethod_eq_iff valid first second List.mem_cons_self List.mem_cons_self
      (by decide)).1.mp (by decide)

/-- One method name for two variants of a valid schema. -/
theorem dispatchMethod_collides_logicSchema :
    logicSchema.validate = .ok ⟨⟩ ∧
    ∃ base ∈ logicSchema.baseTypes, ∃ other ∈ logicSchema.baseTypes,
      ∃ variant ∈ base.variants, ∃ another ∈ other.variants,
        (variant.name, base.name) ≠ (another.name, other.name) ∧
        Name.dispatchMethod variant.name base.name =
          Name.dispatchMethod another.name other.name := by
  refine ⟨by decide +kernel, _, List.mem_cons_self, _, List.mem_cons_of_mem _ List.mem_cons_self,
    _, List.mem_cons_self, _, List.mem_cons_self, by decide, by decide⟩

end NodeGen
