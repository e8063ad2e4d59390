import NodeGen.Proofs.Target.Accepted

/-! What Java output sees of a base type: the names, the text of each field's type, and whether a
list stands outermost in it. Base types that agree in this have one unit. -/

set_option autoImplicit false

namespace NodeGen.Target.Java

structure AlikeField (first second : Field) : Prop where
  name : first.name = second.name
  text : typeText first.type = typeText second.type
  list : first.type.usesList = second.type.usesList

structure AlikeVariant (first second : Variant) : Prop where
  name : first.name = second.name
  fields : List.Forall₂ AlikeField first.fields second.fields

structure AlikeBase (first second : BaseType) : Prop where
  name : first.name = second.name
  variants : List.Forall₂ AlikeVariant first.variants second.variants

theorem AlikeField.parameterText_eq {first second : Field} (alike : AlikeField first second) :
    parameterText first = parameterText second := by
  simp only [parameterText, alike.text, alike.name]

theorem AlikeVariant.memberSteps_eq {first second : Variant} (alike : AlikeVariant first second) :
    memberSteps first = memberSteps second := by
  have empty : first.fields.isEmpty = second.fields.isEmpty := by
    rw [Bool.eq_iff_iff, List.isEmpty_iff_length_eq_zero, List.isEmpty_iff_length_eq_zero,
      alike.fields.length_eq]
  have members : first.fields.map (fun field => Step.line ("final " ++ parameterText field ++ ";"))
      = second.fields.map (fun field => Step.line ("final " ++ parameterText field ++ ";")) :=
    alike.fields.map_eq_map fun _ _ same => by rw [same.parameterText_eq]
  rw [memberSteps, memberSteps, members, empty]

theorem AlikeVariant.constructorSteps_eq {first second : Variant}
    (alike : AlikeVariant first second) : constructorSteps first = constructorSteps second := by
  have parameters : first.fields.map parameterText = second.fields.map parameterText :=
    alike.fields.map_eq_map fun _ _ same => same.parameterText_eq
  have assigned : first.fields.map
        (fun field => Step.line ("this." ++ field.name ++ " = " ++ field.name ++ ";")) =
      second.fields.map
        (fun field => Step.line ("this." ++ field.name ++ " = " ++ field.name ++ ";")) :=
    alike.fields.map_eq_map fun _ _ same => by rw [same.name]
  rw [constructorSteps, constructorSteps, alike.name, parameters, assigned]

theorem AlikeVariant.variantSteps_eq {base other : BaseType} (named : base.name = other.name)
    {first second : Variant} (alike : AlikeVariant first second) :
    variantSteps base first = variantSteps other second := by
  rw [variantSteps, variantSteps, alike.memberSteps_eq, alike.constructorSteps_eq, acceptSteps,
    acceptSteps, alike.name, named]

namespace AlikeBase

variable {first second : BaseType}

theorem usesList_eq (alike : AlikeBase first second) : usesList first = usesList second := by
  have lists : first.variants.map (fun variant => variant.fields.any (·.type.usesList)) =
      second.variants.map (fun variant => variant.fields.any (·.type.usesList)) := by
    refine alike.variants.map_eq_map fun left right same => ?_
    have flags : left.fields.map (·.type.usesList) = right.fields.map (·.type.usesList) :=
      same.fields.map_eq_map fun _ _ equal => equal.list
    simpa [List.any_map] using congrArg (·.any id) flags
  simpa [usesList, List.any_map] using congrArg (·.any id) lists

theorem bodySteps_eq (alike : AlikeBase first second) : bodySteps first = bodySteps second := by
  have methods : first.variants.map (dispatchLine first) =
      second.variants.map (dispatchLine second) :=
    alike.variants.map_eq_map fun _ _ same => by
      rw [dispatchLine, dispatchLine, same.name, alike.name]
  have nodes : first.variants.map (fun variant => Step.blank :: variantSteps first variant) =
      second.variants.map (fun variant => Step.blank :: variantSteps second variant) :=
    alike.variants.map_eq_map fun _ _ same => by rw [same.variantSteps_eq alike.name]
  rw [bodySteps, bodySteps, dispatchSteps, dispatchSteps, methods, List.flatMap_def,
    List.flatMap_def, nodes]

theorem unit_eq (alike : AlikeBase first second) (package : Option String)
    (imports : List String) :
    (Target.java package imports).unit first = (Target.java package imports).unit second := by
  have text : unitText package imports first = unitText package imports second := by
    rw [unitText, unitText, unitSteps, unitSteps, importsFor, importsFor, alike.usesList_eq,
      alike.bodySteps_eq, alike.name]
  simp only [Target.unit, Target.fileName, fileName, Target.unitText, text, alike.name]

theorem speakable (alike : AlikeBase first second) (spoken : Speakable second) :
    Speakable first where
  name := alike.name ▸ spoken.name
  parameter := alike.name ▸ spoken.parameter
  variants variant member := by
    obtain ⟨other, present, same⟩ := alike.variants.exists_right member
    exact same.name ▸ spoken.variants other present
  fields variant member field held := by
    obtain ⟨other, present, same⟩ := alike.variants.exists_right member
    obtain ⟨twin, inside, equal⟩ := same.fields.exists_right held
    exact equal.name ▸ spoken.fields other present twin inside

end AlikeBase

/-- The check looks at names only, at each base type by itself. -/
theorem check_of_alike {schema other : Schema}
    (alike : ∀ base ∈ schema.baseTypes, ∃ twin ∈ other.baseTypes, AlikeBase base twin)
    (checked : check other = .ok ⟨⟩) : check schema = .ok ⟨⟩ := by
  obtain ⟨unreserved, spoken⟩ := check_eq_ok_iff.mp checked
  refine check_eq_ok_iff.mpr ⟨fun base member => ?_, fun base member => ?_⟩
  · obtain ⟨twin, present, same⟩ := alike base member
    refine ⟨same.name ▸ (unreserved twin present).1, fun variant inside => ?_⟩
    obtain ⟨shape, held, equal⟩ := same.variants.exists_right inside
    exact equal.name ▸ (unreserved twin present).2 shape held
  · obtain ⟨twin, present, same⟩ := alike base member
    exact same.speakable (spoken twin present)

end NodeGen.Target.Java
