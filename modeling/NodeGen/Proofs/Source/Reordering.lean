import NodeGen.Proofs.Source.Scope

/-! Base types in another order. Which errors are met first depends on the order of declarations;
whether there is one does not, and neither does what is made of a base type. Resolution and
generation therefore commute with every rearrangement of the base types. -/

set_option autoImplicit false

namespace NodeGen

section Arrange

variable {Item Other : Type}

/-- The items at these positions, in this order. -/
def arrange (order : List Nat) (items : List Item) : List Item :=
  order.filterMap fun position => items[position]?

def Schema.arrange (order : List Nat) (schema : Schema) : Schema :=
  ⟨NodeGen.arrange order schema.baseTypes⟩

theorem arrange_range (items : List Item) : arrange (List.range items.length) items = items := by
  induction items with
  | nil => rfl
  | cons item rest ih =>
    rw [arrange, List.length_cons, List.range_succ_eq_map, List.filterMap_cons, List.filterMap_map]
    exact congrArg (item :: ·) ih

/-- An order that holds every position once loses nothing and repeats nothing. -/
theorem arrange_perm {order : List Nat} {items : List Item}
    (complete : order.Perm (List.range items.length)) : (arrange order items).Perm items := by
  have ordered : (arrange order items).Perm (arrange (List.range items.length) items) :=
    complete.filterMap _
  rwa [arrange_range] at ordered

theorem arrange_map (order : List Nat) (convert : Item → Other) (items : List Item) :
    arrange order (items.map convert) = (arrange order items).map convert := by
  simp only [arrange, List.getElem?_map, List.map_filterMap]

theorem forall₂_arrange {Rel : Item → Other → Prop} {left : List Item} {right : List Other}
    (related : List.Forall₂ Rel left right) (order : List Nat) :
    List.Forall₂ Rel (arrange order left) (arrange order right) := by
  have length := related.length_eq
  induction order with
  | nil => exact .nil
  | cons position rest ih =>
    by_cases inside : position < left.length
    · have within : position < right.length := length ▸ inside
      simp only [arrange, List.filterMap_cons, List.getElem?_eq_getElem inside,
        List.getElem?_eq_getElem within]
      exact .cons (related.get inside within) ih
    · have beyond : ¬position < right.length := length ▸ inside
      simp only [arrange, List.filterMap_cons, List.getElem?_eq_none (not_lt.mp inside),
        List.getElem?_eq_none (not_lt.mp beyond)]
      exact ih

end Arrange

/-- What a reference asks of a schema is that there is such a declaration, wherever it stands. -/
theorem TypeRef.Declared.of_subset {schema other : Schema} {type : TypeRef}
    (subset : schema.baseTypes ⊆ other.baseTypes) (declared : type.Declared schema) :
    type.Declared other := by
  induction type with
  | scalar name => exact declared
  | base name =>
    obtain ⟨base, member, named⟩ := declared
    exact ⟨base, subset member, named⟩
  | variant owner name =>
    obtain ⟨base, member, found⟩ := declared
    exact ⟨base, subset member, found⟩
  | list item ih => exact ih declared
  | optional inner ih => exact ih declared

theorem Schema.Valid.of_perm {schema other : Schema} (valid : schema.Valid)
    (permuted : schema.baseTypes.Perm other.baseTypes) : other.Valid where
  identifiers base member := valid.identifiers base (permuted.mem_iff.mpr member)
  distinct := (permuted.map _).nodup_iff.mp valid.distinct
  bases base member := by
    obtain ⟨variants, distinct⟩ := valid.bases base (permuted.mem_iff.mpr member)
    refine ⟨fun variant inside => ?_, distinct⟩
    obtain ⟨identifier, notBase, fields, separate⟩ := variants variant inside
    refine ⟨identifier, ?_, fun field held => ?_, separate⟩
    · rwa [← (permuted.map _).mem_iff]
    · exact ⟨(fields field held).identifier,
        (fields field held).declared.of_subset permuted.subset⟩

theorem Target.check_of_perm {target : Target} {schema other : Schema}
    (permuted : schema.baseTypes.Perm other.baseTypes) (checked : target.check schema = .ok ()) :
    target.check other = .ok () := by
  cases target with
  | java package imports =>
    obtain ⟨reserved, speakable⟩ := Java.check_eq_ok_iff.mp checked
    exact Java.check_eq_ok_iff.mpr
      ⟨fun base member => reserved base (permuted.mem_iff.mpr member),
        fun base member => speakable base (permuted.mem_iff.mpr member)⟩
  | rust imports =>
    obtain ⟨reserved, modules, separate⟩ := Rust.check_eq_ok_iff.mp checked
    -- The names seen so far differ from order to order, the verdict on all of them does not.
    exact Rust.check_eq_ok_iff.mpr
      ⟨fun base member => reserved base (permuted.mem_iff.mpr member),
        ((permuted.map _).map _).nodup_iff.mp modules,
        fun base member => separate base (permuted.mem_iff.mpr member)⟩

theorem exists_generate_of_perm {schema other : Schema} {target : Target}
    (permuted : schema.baseTypes.Perm other.baseTypes)
    (generated : ∃ units, generate schema target = .ok units) :
    ∃ units, generate other target = .ok units := by
  obtain ⟨units, made⟩ := generated
  obtain ⟨valid, checked, -⟩ := generate_eq_ok_iff.mp made
  exact ⟨_, generate_eq_ok_iff.mpr
    ⟨valid.of_perm permuted, Target.check_of_perm permuted checked, rfl⟩⟩

theorem generate_arrange {schema : Schema} {target : Target} {units : List CodeUnit}
    {order : List Nat} (complete : order.Perm (List.range schema.baseTypes.length))
    (generated : generate schema target = .ok units) :
    generate (schema.arrange order) target = .ok (arrange order units) := by
  obtain ⟨valid, checked, rfl⟩ := generate_eq_ok_iff.mp generated
  have permuted : schema.baseTypes.Perm (schema.arrange order).baseTypes :=
    (arrange_perm complete).symm
  refine generate_eq_ok_iff.mpr ⟨valid.of_perm permuted, Target.check_of_perm permuted checked, ?_⟩
  exact arrange_map order target.unit schema.baseTypes

namespace Source

theorem parse_of_perm {types others : List BaseType} (permuted : types.Perm others)
    (distinct : (types.map (·.name)).Nodup) (context text : String) :
    TypeText.parse types context text = TypeText.parse others context text :=
  TypeText.parseChars_congr (TypeText.declared_eq_of_perm permuted distinct) context text.toList

theorem WellFormed.of_perm {types others : List BaseType} (formed : WellFormed types)
    (permuted : types.Perm others) : WellFormed others := by
  have distinct := (permuted.map BaseType.name).nodup_iff.mp formed.basesDistinct
  refine formed.of_subset permuted.symm.subset distinct fun base member variant inside field held => ?_
  rw [← parse_of_perm permuted formed.basesDistinct]
  exact formed.typesRead base (permuted.mem_iff.mpr member) variant inside field held

theorem exists_resolve_of_perm {types others : List BaseType} (permuted : types.Perm others)
    (resolved : ∃ schema, resolve types = .ok schema) :
    ∃ schema, resolve others = .ok schema := by
  obtain ⟨schema, read⟩ := resolved
  obtain ⟨-, resolves, valid⟩ := resolve_eq_ok_iff.mp read
  exact ((resolves.wellFormed valid).of_perm permuted).exists_resolve

theorem ResolvesBase.of_perm {types others : List BaseType} (permuted : types.Perm others)
    (distinct : (types.map (·.name)).Nodup) {declared : BaseType} {base : NodeGen.BaseType}
    (resolves : ResolvesBase types declared base) : ResolvesBase others declared base := by
  refine ⟨resolves.name, resolves.variants.imp fun shape variant same => ?_⟩
  refine ⟨same.name, same.fields.imp fun entry field equal => ⟨equal.name, ?_⟩⟩
  rw [← parse_of_perm permuted distinct]
  exact equal.type

theorem resolve_arrange {types : List BaseType} {schema : Schema} {order : List Nat}
    (complete : order.Perm (List.range types.length)) (resolved : resolve types = .ok schema) :
    resolve (arrange order types) = .ok (schema.arrange order) := by
  obtain ⟨distinct, resolves, valid⟩ := resolve_eq_ok_iff.mp resolved
  have permuted := arrange_perm complete
  have counted : types.length = schema.baseTypes.length := resolves.length_eq
  refine resolve_eq_ok_iff.mpr ⟨(permuted.map _).nodup_iff.mpr distinct, ?_, ?_⟩
  · exact (forall₂_arrange resolves order).imp fun declared base related =>
      related.of_perm permuted.symm distinct
  · exact valid.of_perm (arrange_perm (counted ▸ complete)).symm

/-- Rearranged base types resolve and generate exactly when the given ones do. The schema and the
units are then the same, rearranged in the same way. -/
theorem order_only_arranges {types : List BaseType} {order : List Nat}
    (complete : order.Perm (List.range types.length)) :
    ((∃ schema, resolve (arrange order types) = .ok schema) ↔
      ∃ schema, resolve types = .ok schema) ∧
    ∀ schema, resolve types = .ok schema →
      resolve (arrange order types) = .ok (schema.arrange order) ∧
      ∀ target : Target,
        ((∃ units, generate (schema.arrange order) target = .ok units) ↔
          ∃ units, generate schema target = .ok units) ∧
        ∀ units, generate schema target = .ok units →
          generate (schema.arrange order) target = .ok (arrange order units) := by
  have permuted := arrange_perm complete
  refine ⟨⟨exists_resolve_of_perm permuted, exists_resolve_of_perm permuted.symm⟩, ?_⟩
  intro schema resolved
  refine ⟨resolve_arrange complete resolved, fun target => ?_⟩
  obtain ⟨-, resolves, -⟩ := resolve_eq_ok_iff.mp resolved
  have counted : types.length = schema.baseTypes.length := resolves.length_eq
  rw [counted] at complete
  have moved := arrange_perm complete
  exact ⟨⟨exists_generate_of_perm moved, exists_generate_of_perm moved.symm⟩,
    fun units generated => generate_arrange complete generated⟩

/-- Statements that mention expressions and expressions that mention statements. -/
def mutualTypes : List BaseType :=
  [⟨"Stmt", [⟨"Print", [⟨"value", "Expr?"⟩]⟩]⟩,
    ⟨"Expr", [⟨"Block", [⟨"body", "List<Stmt.Print>"⟩]⟩]⟩]

def mutualSchema : Schema :=
  ⟨[⟨"Stmt", [⟨"Print", [⟨"value", .optional (.base "Expr")⟩]⟩]⟩,
    ⟨"Expr", [⟨"Block", [⟨"body", .list (.variant "Stmt" "Print")⟩]⟩]⟩]⟩

theorem order_only_arranges_mutualTypes :
    resolve (arrange [1, 0] mutualTypes) = .ok (mutualSchema.arrange [1, 0]) ∧
      generate (mutualSchema.arrange [1, 0]) (.rust []) =
        .ok (arrange [1, 0] (mutualSchema.baseTypes.map (Target.rust []).unit)) := by
  have resolved : resolve mutualTypes = .ok mutualSchema := by decide +kernel
  have complete : [1, 0].Perm (List.range mutualTypes.length) := by decide
  obtain ⟨arranged, generated⟩ := (order_only_arranges complete).2 mutualSchema resolved
  exact ⟨arranged, (generated (.rust [])).2 _ rfl⟩

end Source

end NodeGen
