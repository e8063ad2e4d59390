import NodeGen.Json.Pointer
import Mathlib.Data.List.Nodup

/-! Values in which keys come again, and what is left of them when each key is kept once. -/

set_option autoImplicit false

namespace NodeGen.Json.Tree

variable {ν : Type}

section InsertField

theorem keys_insertField (key : String) (value : Tree ν) (fields : List (String × Tree ν)) :
    (insertField key value fields).map (·.1) =
      if key ∈ fields.map (·.1) then fields.map (·.1) else fields.map (·.1) ++ [key] := by
  induction fields with
  | nil => rfl
  | cons field rest ih =>
    by_cases same : field.1 = key
    · simp [insertField, same]
    · have other : key ≠ field.1 := Ne.symm same
      simp only [insertField, same, if_false, List.map_cons, ih, List.mem_cons, other, false_or]
      split <;> rfl

theorem mem_insertField {key : String} {value : Tree ν} {fields : List (String × Tree ν)}
    {field : String × Tree ν} (member : field ∈ insertField key value fields) :
    field = (key, value) ∨ field ∈ fields := by
  induction fields with
  | nil => exact .inl (List.mem_singleton.mp member)
  | cons first rest ih =>
    by_cases same : first.1 = key
    · rw [insertField, if_pos same] at member
      obtain here | later := List.mem_cons.mp member
      · exact .inl here
      · exact .inr (List.mem_cons_of_mem _ later)
    · rw [insertField, if_neg same] at member
      obtain rfl | later := List.mem_cons.mp member
      · exact .inr List.mem_cons_self
      · exact (ih later).imp id (List.mem_cons_of_mem _)

theorem nodup_insertField {key : String} {value : Tree ν} {fields : List (String × Tree ν)}
    (apart : (fields.map (·.1)).Nodup) : ((insertField key value fields).map (·.1)).Nodup := by
  rw [keys_insertField]
  split
  · exact apart
  · next fresh =>
    refine List.nodup_append.mpr ⟨apart, List.nodup_singleton key, ?_⟩
    intro known member other single same
    rw [List.mem_singleton] at single
    exact fresh (single ▸ same ▸ member)

theorem insertField_of_notMem {key : String} {value : Tree ν} {fields : List (String × Tree ν)}
    (fresh : key ∉ fields.map (·.1)) : insertField key value fields = fields ++ [(key, value)] := by
  induction fields with
  | nil => rfl
  | cons field rest ih =>
    rw [List.map_cons, List.mem_cons, not_or] at fresh
    rw [insertField, if_neg (Ne.symm fresh.1), ih fresh.2, List.cons_append]

/-- The fields of an object that holds those of `known` already. -/
def insertAll (known fields : List (String × Tree ν)) : List (String × Tree ν) :=
  fields.foldl (fun known field => insertField field.1 field.2 known) known

theorem nodup_insertAll {known fields : List (String × Tree ν)}
    (apart : (known.map (·.1)).Nodup) : ((insertAll known fields).map (·.1)).Nodup := by
  induction fields generalizing known with
  | nil => exact apart
  | cons field rest ih => exact ih (nodup_insertField apart)

theorem mem_insertAll {known fields : List (String × Tree ν)} {field : String × Tree ν}
    (member : field ∈ insertAll known fields) : field ∈ known ∨ field ∈ fields := by
  induction fields generalizing known with
  | nil => exact .inl member
  | cons first rest ih =>
    obtain held | later := ih member
    · obtain rfl | known := mem_insertField held
      · exact .inr List.mem_cons_self
      · exact .inl known
    · exact .inr (List.mem_cons_of_mem _ later)

theorem insertAll_of_nodup {known fields : List (String × Tree ν)}
    (apart : ((known ++ fields).map (·.1)).Nodup) : insertAll known fields = known ++ fields := by
  induction fields generalizing known with
  | nil => simp [insertAll]
  | cons field rest ih =>
    have fresh : field.1 ∉ known.map (·.1) := by
      intro member
      rw [List.map_append, List.map_cons] at apart
      exact (List.nodup_append.mp apart).2.2 _ member _ List.mem_cons_self rfl
    have shape : known ++ field :: rest = known ++ [field] ++ rest := by simp
    rw [insertAll, List.foldl_cons, insertField_of_notMem fresh, ← insertAll, ih (shape ▸ apart),
      ← shape]

end InsertField

/-- No object in the value repeats a key. -/
inductive Distinct : Tree ν → Prop
  | null : Distinct .null
  | bool {value : Bool} : Distinct (.bool value)
  | number {value : ν} : Distinct (.number value)
  | string {value : String} : Distinct (.string value)
  | array {items : List (Tree ν)} : (∀ item ∈ items, item.Distinct) → Distinct (.array items)
  | object {fields : List (String × Tree ν)} : (fields.map (·.1)).Nodup →
    (∀ field ∈ fields, field.2.Distinct) → Distinct (.object fields)

theorem distinct_ofFields {fields : List (String × Tree ν)}
    (inner : ∀ field ∈ fields, field.2.Distinct) : (ofFields fields).Distinct := by
  refine .object (nodup_insertAll List.nodup_nil) fun field member => ?_
  obtain impossible | listed := mem_insertAll member
  · cases impossible
  · exact inner field listed

theorem ofFields_of_nodup {fields : List (String × Tree ν)} (apart : (fields.map (·.1)).Nodup) :
    ofFields fields = .object fields :=
  congrArg Tree.object (insertAll_of_nodup apart)

mutual

/-- The value with one entry for each key in objects at every depth. -/
def collapse : Tree ν → Tree ν
  | .null => .null
  | .bool value => .bool value
  | .number value => .number value
  | .string value => .string value
  | .array items => .array (collapseItems items)
  | .object fields => .ofFields (collapseFields fields)

def collapseItems : List (Tree ν) → List (Tree ν)
  | [] => []
  | item :: rest => item.collapse :: collapseItems rest

def collapseFields : List (String × Tree ν) → List (String × Tree ν)
  | [] => []
  | (key, value) :: rest => (key, value.collapse) :: collapseFields rest

end

theorem collapseItems_eq (items : List (Tree ν)) : collapseItems items = items.map collapse := by
  induction items with
  | nil => rfl
  | cons item rest ih => rw [collapseItems, ih, List.map_cons]

theorem collapseFields_eq (fields : List (String × Tree ν)) :
    collapseFields fields = fields.map fun field => (field.1, field.2.collapse) := by
  induction fields with
  | nil => rfl
  | cons field rest ih => rw [collapseFields, ih, List.map_cons]

theorem collapse_array (items : List (Tree ν)) :
    (Tree.array items).collapse = .array (items.map collapse) := by
  rw [collapse, collapseItems_eq]

theorem collapse_object (fields : List (String × Tree ν)) :
    (Tree.object fields).collapse =
      .ofFields (fields.map fun field => (field.1, field.2.collapse)) := by
  rw [collapse, collapseFields_eq]

theorem Distinct.collapse_eq {value : Tree ν} (distinct : value.Distinct) :
    value.collapse = value := by
  induction distinct with
  | null | bool | number | string => rfl
  | array _ ih => rw [collapse_array, List.map_congr_left ih, List.map_id']
  | @object fields apart _ ih =>
    have same : fields.map (fun field => (field.1, field.2.collapse)) = fields := by
      conv_rhs => rw [← List.map_id fields]
      exact List.map_congr_left fun field member => Prod.ext rfl (ih field member)
    rw [collapse_object, same, ofFields_of_nodup apart]

mutual

theorem distinct_collapse : ∀ value : Tree ν, value.collapse.Distinct
  | .null => .null
  | .bool _ => .bool
  | .number _ => .number
  | .string _ => .string
  | .array items => .array (distinct_collapseItems items)
  | .object fields => distinct_ofFields (distinct_collapseFields fields)

theorem distinct_collapseItems : ∀ items : List (Tree ν),
    ∀ item ∈ collapseItems items, item.Distinct
  | [], _, member => by cases member
  | first :: rest, item, member => by
    obtain rfl | later := List.mem_cons.mp member
    · exact distinct_collapse first
    · exact distinct_collapseItems rest item later

theorem distinct_collapseFields : ∀ fields : List (String × Tree ν),
    ∀ field ∈ collapseFields fields, field.2.Distinct
  | [], _, member => by cases member
  | (key, value) :: rest, field, member => by
    obtain rfl | later := List.mem_cons.mp member
    · exact distinct_collapse value
    · exact distinct_collapseFields rest field later

end

end NodeGen.Json.Tree

namespace NodeGen.Json.Pointer

theorem distinct_follow {value inner : Value} (distinct : value.Distinct) {steps : List (List Char)}
    (found : follow value steps = some inner) : inner.Distinct := by
  induction steps generalizing value with
  | nil => exact Option.some.inj found ▸ distinct
  | cons step rest ih =>
    cases distinct with
    | null | bool | number | string => simp [follow] at found
    | array inside =>
      simp only [follow, Option.bind_eq_bind, Option.bind_eq_some_iff] at found
      obtain ⟨index, -, next, here, later⟩ := found
      exact ih (inside next (List.mem_of_getElem? here)) later
    | object _ inside =>
      simp only [follow, Tree.field?, Option.bind_eq_bind, Option.bind_eq_some_iff,
        Option.map_eq_some_iff] at found
      obtain ⟨_, ⟨field, here, rfl⟩, later⟩ := found
      exact ih (inside field (List.mem_of_find?_eq_some here)) later

theorem distinct_select {pointer : String} {value inner : Value} (distinct : value.Distinct)
    (found : select pointer value = some inner) : inner.Distinct := by
  unfold select at found
  split at found
  · exact Option.some.inj found ▸ distinct
  · exact distinct_follow distinct found
  · cases found

end NodeGen.Json.Pointer
