import NodeGen.Proofs.Source.Malformed

/-! Which fault of several is reported. A base type that is declared again comes before everything
else. After that the texts of all fields are read in the order of the document, and the first that is
refused is reported, whatever is wrong with names before or behind it; names are judged when every
text could be read. -/

set_option autoImplicit false

namespace NodeGen.Source

/-- A field and where it is declared. -/
structure Place where
  base : String
  variant : String
  field : Field
  deriving DecidableEq, Repr

namespace Place

def context (place : Place) : String :=
  Context.field place.base place.variant place.field.name

def read (scope : List BaseType) (place : Place) : Except SchemaError TypeRef :=
  TypeText.parse scope place.context place.field.typeText

end Place

/-- All fields in the order of the document. -/
def places (types : List BaseType) : List Place :=
  types.flatMap fun base => base.variants.flatMap fun variant =>
    variant.fields.map fun field => ⟨base.name, variant.name, field⟩

/-- The text of this field is refused, and that of every field before it is not. -/
def FirstRefused (types : List BaseType) (place : Place) (error : SchemaError) : Prop :=
  ∃ front rest, places types = front ++ place :: rest ∧
    (∀ earlier ∈ front, ∃ type, earlier.read types = .ok type) ∧ place.read types = .error error

/-- The first find in lists one behind the other is the first find of the first list with one. -/
theorem findSome?_flatMap {First Second Result : Type} (items : First → List Second)
    (find : Second → Option Result) (list : List First) :
    (list.flatMap items).findSome? find = list.findSome? fun item => (items item).findSome? find := by
  induction list with
  | nil => rfl
  | cons item rest ih =>
    rw [List.flatMap_cons, List.findSome?_append, ih, List.findSome?_cons]
    cases (items item).findSome? find <;> rfl

variable {types : List BaseType}

/-- Three loops that stop at an error stop where one loop over all fields would. -/
theorem fault?_mapM_resolveBase (scope types : List BaseType) :
    Checks.fault? (types.mapM (resolveBase scope)) =
      (places types).findSome? fun place => Checks.fault? (place.read scope) := by
  simp only [places, findSome?_flatMap, List.findSome?_map, resolveBase, resolveVariant,
    resolveField, Checks.fault?_mapM, Checks.fault?_return]
  rfl

/-- The base type that is found repeats a name, and no base type before it does. -/
theorem exists_repeatedBase {seen : List String} {name : String}
    (found : repeatedBase? seen types = some name) :
    ∃ front base rest, types = front ++ base :: rest ∧ base.name = name ∧
      repeatedBase? seen front = none ∧ (name ∈ seen ∨ name ∈ front.map (·.name)) := by
  induction types generalizing seen with
  | nil => cases found
  | cons base rest ih =>
    rw [repeatedBase?] at found
    split at found
    · next known =>
      obtain rfl := Option.some.inj found
      exact ⟨[], base, rest, rfl, rfl, rfl, .inl known⟩
    · next fresh =>
      obtain ⟨front, again, others, rfl, named, distinct, repeated⟩ := ih found
      refine ⟨base :: front, again, others, rfl, named, ?_, ?_⟩
      · rw [repeatedBase?, if_neg fresh, distinct]
      · simp only [List.mem_cons, List.map_cons] at repeated ⊢
        tauto

theorem resolve_of_repeatedBase {name : String} (repeated : repeatedBase? [] types = some name) :
    resolve types = .error (.duplicateBase name) := by
  rw [resolve, repeated]
  rfl

/-- Base types that stay apart are resolved first and validated afterwards. -/
theorem resolve_of_nodup (distinct : (types.map (·.name)).Nodup) :
    resolve types = (do
      let baseTypes ← types.mapM (resolveBase types)
      Schema.validate ⟨baseTypes⟩
      return ⟨baseTypes⟩) := by
  have absent := (repeatedBase?_eq_none_iff [] types).mpr ⟨by simp, distinct⟩
  rw [resolve, absent]

theorem exists_duplicateBase (repeats : ¬(types.map (·.name)).Nodup) :
    ∃ front base rest, types = front ++ base :: rest ∧ (front.map (·.name)).Nodup ∧
      base.name ∈ front.map (·.name) ∧ resolve types = .error (.duplicateBase base.name) := by
  cases found : repeatedBase? [] types with
  | none => exact absurd ((repeatedBase?_eq_none_iff [] types).mp found).2 repeats
  | some name =>
    obtain ⟨front, base, rest, split, rfl, distinct, repeated⟩ := exists_repeatedBase found
    refine ⟨front, base, rest, split, ((repeatedBase?_eq_none_iff [] front).mp distinct).2, ?_,
      resolve_of_repeatedBase found⟩
    simpa using repeated

theorem exists_firstRefused {place : Place} (member : place ∈ places types) {error : SchemaError}
    (failed : place.read types = .error error) :
    ∃ first fault, FirstRefused types first fault := by
  cases found : (places types).findSome? fun place => Checks.fault? (place.read types) with
  | none =>
    have passed := List.findSome?_eq_none_iff.mp found place member
    rw [Checks.fault?_eq_some_iff.mpr failed] at passed
    cases passed
  | some fault =>
    obtain ⟨front, first, rest, split, here, before⟩ := List.findSome?_eq_some_iff.mp found
    exact ⟨first, fault, front, rest, split,
      fun earlier inside => Checks.fault?_eq_none_iff.mp (before earlier inside),
      Checks.fault?_eq_some_iff.mp here⟩

theorem FirstRefused.rejects {place : Place} {error : SchemaError}
    (refused : FirstRefused types place error) :
    TypeText.Rejects types place.context place.field.typeText.toList error := by
  obtain ⟨-, -, -, -, failed⟩ := refused
  exact TypeText.rejects_of_parseChars failed

section Distinct

variable (distinct : (types.map (·.name)).Nodup)
include distinct

theorem FirstRefused.resolve_eq {place : Place} {error : SchemaError}
    (refused : FirstRefused types place error) : resolve types = .error error := by
  obtain ⟨front, rest, split, read, failed⟩ := refused
  have found : (places types).findSome? (fun place => Checks.fault? (place.read types)) =
      some error :=
    List.findSome?_eq_some_iff.mpr ⟨front, place, rest, split, Checks.fault?_eq_some_iff.mpr failed,
      fun earlier inside => Checks.fault?_eq_none_iff.mpr (read earlier inside)⟩
  rw [← fault?_mapM_resolveBase, Checks.fault?_eq_some_iff] at found
  rw [resolve_of_nodup distinct, found]
  rfl

/-- Once all texts are read only names are left to be wrong. -/
theorem not_concernsType_of_read
    (read : ∀ place ∈ places types, ∃ type, place.read types = .ok type) {error : SchemaError}
    (failed : resolve types = .error error) : ¬error.ConcernsType := by
  have none : Checks.fault? (types.mapM (resolveBase types)) = none := by
    rw [fault?_mapM_resolveBase, List.findSome?_eq_none_iff]
    exact fun place member => Checks.fault?_eq_none_iff.mpr (read place member)
  obtain ⟨baseTypes, resolved⟩ := Checks.fault?_eq_none_iff.mp none
  have resolves : Resolves types ⟨baseTypes⟩ := mapM_resolveBase_eq_ok_iff.mp resolved
  rw [resolve_of_nodup distinct, resolved] at failed
  have judged : (do Schema.validate ⟨baseTypes⟩; return ⟨baseTypes⟩) =
      (.error error : Except SchemaError Schema) := failed
  obtain invalid | ⟨_, -, returned⟩ := Checks.bind_eq_error_iff.mp judged
  · exact resolves.not_concernsType invalid
  · cases returned

end Distinct

theorem TypeText.Rejects.concernsType {scope : List BaseType} {context : String}
    {text : List Char} {error : SchemaError} (rejects : Rejects scope context text error) :
    error.ConcernsType := by
  cases rejects with
  | malformed => trivial
  | unknown => trivial

/-- A base type that repeats a name is reported at its earliest place, whatever else is wrong. If
there is none, the first field in the document whose text is refused is reported, with the fault of
that text and the place of that field; and what is reported is a fault with a name exactly when every
text could be read. -/
theorem resolve_reports_first (types : List BaseType) :
    (¬(types.map (·.name)).Nodup →
      ∃ front base rest, types = front ++ base :: rest ∧ (front.map (·.name)).Nodup ∧
        base.name ∈ front.map (·.name) ∧ resolve types = .error (.duplicateBase base.name)) ∧
    ((types.map (·.name)).Nodup →
      ((∃ place ∈ places types, ∃ error, place.read types = .error error) →
        ∃ place error, FirstRefused types place error ∧
          TypeText.Rejects types place.context place.field.typeText.toList error ∧
          resolve types = .error error) ∧
      ∀ error, resolve types = .error error →
        (¬error.ConcernsType ↔ ∀ place ∈ places types, ∃ type, place.read types = .ok type)) := by
  refine ⟨exists_duplicateBase, fun distinct => ⟨?_, fun error failed => ⟨?_, ?_⟩⟩⟩
  · rintro ⟨place, member, error, failed⟩
    obtain ⟨first, fault, refused⟩ := exists_firstRefused member failed
    exact ⟨first, fault, refused, refused.rejects, refused.resolve_eq distinct⟩
  · intro named place member
    cases outcome : place.read types with
    | ok type => exact ⟨type, rfl⟩
    | error fault =>
      -- The fault of a text would have been reported instead of one with a name.
      obtain ⟨first, reported, refused⟩ := exists_firstRefused member outcome
      obtain rfl : error = reported :=
        Except.error.inj (failed.symm.trans (refused.resolve_eq distinct))
      exact absurd refused.rejects.concernsType named
  · intro read
    exact not_concernsType_of_read distinct read failed

/-- Every kind of fault with names, two texts that are refused, and no base type twice. -/
def tangledTypes : List BaseType :=
  [⟨"1st", [⟨"Node", [⟨"next", "Stmt?"⟩, ⟨"next", "List<Stmt.Loop>"⟩]⟩, ⟨"Node", []⟩]⟩,
    ⟨"Stmt", [⟨"1st", [⟨"a b", "List<Stmt"⟩]⟩]⟩]

theorem resolve_reports_first_tangledTypes :
    (∃ place error, FirstRefused tangledTypes place error ∧
      TypeText.Rejects tangledTypes place.context place.field.typeText.toList error ∧
      resolve tangledTypes = .error error) ∧
    resolve tangledTypes = .error (.unknownVariant "Stmt" "Loop" "1st.Node.next") ∧
    ∃ front base rest, tangledTypes ++ tangledTypes = front ++ base :: rest ∧
      (front.map (·.name)).Nodup ∧ base.name ∈ front.map (·.name) ∧
      resolve (tangledTypes ++ tangledTypes) = .error (.duplicateBase base.name) := by
  have refused : ∃ place ∈ places tangledTypes, ∃ error,
      place.read tangledTypes = .error error :=
    ⟨⟨"Stmt", "1st", ⟨"a b", "List<Stmt"⟩⟩, by decide,
      .malformedType "List<Stmt" "Stmt.1st.a b", by decide +kernel⟩
  exact ⟨((resolve_reports_first tangledTypes).2 (by decide)).1 refused, by decide +kernel,
    (resolve_reports_first (tangledTypes ++ tangledTypes)).1 (by decide)⟩

end NodeGen.Source
