import Mathlib.Data.List.Forall2

/-! Checks made one after another: when a sequence of them succeeds, and which of them an error
comes from. -/

set_option autoImplicit false

namespace NodeGen.Checks

universe u

variable {Error Item : Type} {Value Result : Type u}

theorem bind_eq_ok_iff {first : Except Error Value} {rest : Value → Except Error Result}
    {result : Result} :
    (first >>= rest) = .ok result ↔ ∃ value, first = .ok value ∧ rest value = .ok result := by
  cases first with
  | error error => simp [bind, Except.bind]
  | ok value => simp [bind, Except.bind]

theorem bind_eq_error_iff {first : Except Error Value} {rest : Value → Except Error Result}
    {error : Error} :
    (first >>= rest) = .error error ↔
      first = .error error ∨ ∃ value, first = .ok value ∧ rest value = .error error := by
  cases first with
  | error error => simp [bind, Except.bind]
  | ok value => simp [bind, Except.bind]

theorem map_eq_ok_iff {first : Except Error Value} {wrap : Value → Result} {result : Result} :
    first.map wrap = .ok result ↔ ∃ value, first = .ok value ∧ wrap value = result := by
  cases first with
  | error error => simp [Except.map]
  | ok value => simp [Except.map]

theorem map_eq_error_iff {first : Except Error Value} {wrap : Value → Result} {error : Error} :
    first.map wrap = .error error ↔ first = .error error := by
  cases first with
  | error error => simp [Except.map]
  | ok value => simp [Except.map]

theorem mapError_eq_ok_iff {Other : Type} {first : Except Error Value} {report : Error → Other}
    {value : Value} : first.mapError report = .ok value ↔ first = .ok value := by
  cases first with
  | error error => simp [Except.mapError]
  | ok value => simp [Except.mapError]

theorem exists_return_eq_ok_iff {first : Except Error Value} {wrap : Value → Result} :
    (∃ result, (do let value ← first; return wrap value) = .ok result) ↔
      ∃ value, first = .ok value := by
  cases first with
  | error error => simp [bind, Except.bind]
  | ok value => simp [bind, Except.bind, pure, Except.pure]

theorem then_eq_ok_iff {first second : Except Error PUnit} :
    (do first; second) = .ok ⟨⟩ ↔ first = .ok ⟨⟩ ∧ second = .ok ⟨⟩ := by
  rw [bind_eq_ok_iff]
  exact ⟨fun ⟨_, passed, rest⟩ => ⟨passed, rest⟩, fun ⟨passed, rest⟩ => ⟨⟨⟩, passed, rest⟩⟩

theorem then_eq_error_iff {first second : Except Error PUnit} {error : Error} :
    (do first; second) = .error error ↔
      first = .error error ∨ first = .ok ⟨⟩ ∧ second = .error error := by
  rw [bind_eq_error_iff]
  exact or_congr_right ⟨fun ⟨_, passed, failed⟩ => ⟨passed, failed⟩,
    fun ⟨passed, failed⟩ => ⟨⟨⟩, passed, failed⟩⟩

theorem forM_eq_ok_iff {check : Item → Except Error PUnit} {items : List Item} :
    items.forM check = .ok ⟨⟩ ↔ ∀ item ∈ items, check item = .ok ⟨⟩ := by
  induction items with
  | nil => simp [pure, Except.pure]
  | cons item rest ih =>
    rw [List.forM_eq_forM, List.forM_cons, then_eq_ok_iff, ← List.forM_eq_forM, ih,
      List.forall_mem_cons]

theorem exists_of_forM_eq_error {check : Item → Except Error PUnit} {items : List Item}
    {error : Error} (failed : items.forM check = .error error) :
    ∃ item ∈ items, check item = .error error := by
  induction items with
  | nil => simp [pure, Except.pure] at failed
  | cons item rest ih =>
    rw [List.forM_eq_forM, List.forM_cons, then_eq_error_iff] at failed
    obtain first | ⟨-, later⟩ := failed
    · exact ⟨item, List.mem_cons_self, first⟩
    · obtain ⟨other, member, found⟩ := ih later
      exact ⟨other, List.mem_cons_of_mem _ member, found⟩

theorem mapM_eq_ok_iff {convert : Item → Except Error Result} {items : List Item}
    {results : List Result} :
    items.mapM convert = .ok results ↔
      List.Forall₂ (fun item result => convert item = .ok result) items results := by
  induction items generalizing results with
  | nil => simp [pure, Except.pure, eq_comm]
  | cons item rest ih =>
    simp only [List.mapM_cons, bind_eq_ok_iff, List.forall₂_cons_left_iff, ih]
    constructor
    · rintro ⟨result, converted, tail, others, same⟩
      exact ⟨result, tail, converted, others, (Except.ok.inj same).symm⟩
    · rintro ⟨result, tail, converted, others, rfl⟩
      exact ⟨result, converted, tail, others, rfl⟩

theorem exists_mapM_eq_ok_iff {convert : Item → Except Error Result} {items : List Item} :
    (∃ results, items.mapM convert = .ok results) ↔
      ∀ item ∈ items, ∃ result, convert item = .ok result := by
  simp only [mapM_eq_ok_iff]
  induction items with
  | nil => simp
  | cons item rest ih =>
    simp only [List.forall₂_cons_left_iff, List.forall_mem_cons, ← ih]
    constructor
    · rintro ⟨_, result, results, converted, others, -⟩
      exact ⟨⟨result, converted⟩, ⟨results, others⟩⟩
    · rintro ⟨⟨result, converted⟩, ⟨results, others⟩⟩
      exact ⟨_, result, results, converted, others, rfl⟩

/-- The error of an outcome, if it is one. -/
def fault? : Except Error Value → Option Error
  | .error error => some error
  | .ok _ => none

theorem fault?_eq_some_iff {outcome : Except Error Value} {error : Error} :
    fault? outcome = some error ↔ outcome = .error error := by
  cases outcome with
  | error found => simp [fault?]
  | ok value => simp [fault?]

theorem fault?_eq_none_iff {outcome : Except Error Value} :
    fault? outcome = none ↔ ∃ value, outcome = .ok value := by
  cases outcome with
  | error found => simp [fault?]
  | ok value => simp [fault?]

theorem fault?_return (first : Except Error Value) (wrap : Value → Result) :
    fault? (do let value ← first; return wrap value) = fault? first := by
  cases first with
  | error error => rfl
  | ok value => rfl

/-- Items are converted up to the first one that fails. -/
theorem fault?_mapM (convert : Item → Except Error Result) (items : List Item) :
    fault? (items.mapM convert) = items.findSome? fun item => fault? (convert item) := by
  induction items with
  | nil => rfl
  | cons item rest ih =>
    rw [List.mapM_cons, List.findSome?_cons, ← ih]
    cases convert item with
    | error error => rfl
    | ok result => exact fault?_return (rest.mapM convert) (result :: ·)

end NodeGen.Checks

namespace List.Forall₂

variable {First Second : Type} {Rel : First → Second → Prop} {left : List First}
  {right : List Second}

theorem exists_right (related : Forall₂ Rel left right) {item : First} (member : item ∈ left) :
    ∃ other ∈ right, Rel item other := by
  induction related with
  | nil => cases member
  | cons same rest ih =>
    obtain rfl | later := List.mem_cons.mp member
    · exact ⟨_, List.mem_cons_self, same⟩
    · obtain ⟨other, inside, found⟩ := ih later
      exact ⟨other, List.mem_cons_of_mem _ inside, found⟩

theorem exists_left (related : Forall₂ Rel left right) {item : Second} (member : item ∈ right) :
    ∃ other ∈ left, Rel other item :=
  related.flip.exists_right member

theorem exists_getElem? (related : Forall₂ Rel left right) {index : Nat} {item : First}
    (found : left[index]? = some item) : ∃ other, right[index]? = some other ∧ Rel item other := by
  induction related generalizing index with
  | nil => cases found
  | cons same rest ih =>
    cases index with
    | zero => exact ⟨_, rfl, Option.some.inj found ▸ same⟩
    | succ index => exact ih found

theorem map_eq_map {Value : Type} {first : First → Value} {second : Second → Value}
    (related : Forall₂ Rel left right)
    (agree : ∀ item other, Rel item other → first item = second other) :
    left.map first = right.map second := by
  induction related with
  | nil => rfl
  | cons same rest ih => rw [List.map_cons, List.map_cons, agree _ _ same, ih]

/-- Two lists that follow one list item by item follow each other. -/
theorem common {Third : Type} {Other : First → Third → Prop} {Result : Second → Third → Prop}
    {third : List Third} (related : Forall₂ Rel left right) (others : Forall₂ Other left third)
    (join : ∀ item other next, Rel item other → Other item next → Result other next) :
    Forall₂ Result right third := by
  induction related generalizing third with
  | nil =>
    cases others
    exact .nil
  | cons same rest ih =>
    cases others with
    | cons also more => exact .cons (join _ _ _ same also) (ih more)

theorem of_map_eq_map {Value : Type} {first : First → Value} {second : Second → Value}
    (same : left.map first = right.map second)
    (relate : ∀ item ∈ left, ∀ other ∈ right, first item = second other → Rel item other) :
    Forall₂ Rel left right := by
  induction left generalizing right with
  | nil =>
    obtain rfl := List.map_eq_nil_iff.mp same.symm
    exact .nil
  | cons item rest ih =>
    obtain ⟨other, others, rfl, here, later⟩ := List.map_eq_cons_iff.mp same.symm
    refine .cons (relate item List.mem_cons_self other List.mem_cons_self here.symm) ?_
    exact ih later.symm fun item member other inside =>
      relate item (List.mem_cons_of_mem _ member) other (List.mem_cons_of_mem _ inside)

end List.Forall₂
