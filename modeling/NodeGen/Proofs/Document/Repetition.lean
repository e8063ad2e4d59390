import NodeGen.Proofs.Document.Encoding
import NodeGen.Proofs.Document.Selection
import NodeGen.Proofs.Source.Resolution

/-! Names that a file declares more than once. Read from the text they all come to resolution, which
refuses them. Taken from a value each name comes once, with what was declared for it last. -/

set_option autoImplicit false

namespace NodeGen

namespace Json.Grammar.Written

def fields : Written → List (List Nat × Written)
  | .object fields => fields
  | _ => []

def RepeatsKey (written : Written) : Prop :=
  ¬(written.fields.map (·.1)).Nodup

end Json.Grammar.Written

namespace Document

open Json Json.Grammar

section Members

/-- The member has what is taken from the value. -/
def Member.Takes : Member → Value → Prop
  | .package name, value => packageOfValue value = .ok name
  | .imports names, value => importsOfValue value = .ok names
  | .types found, value => typesOfValue value = .ok found

variable {document : Document}

/-- One entry of the object: it goes into its place, which was free. -/
theorem fieldsOfValue_cons {fields : Partial} {key : String} {value : Value}
    {entries : List (String × Value)}
    (taken : fieldsOfValue fields ((key, value) :: entries) = .ok document) :
    ∃ member : Member, member.key = key ∧ member.Takes value ∧ fields.has key = false ∧
      fieldsOfValue (fields.extend member) entries = .ok document := by
  rw [fieldsOfValue] at taken
  split at taken
  · cases taken
  split at taken
  · cases taken
  next known occupied =>
  have free : fields.has key = false := Bool.eq_false_iff.mpr occupied
  split at taken
  · next isPackage =>
    obtain ⟨name, converted, later⟩ := Checks.bind_eq_ok_iff.mp taken
    exact ⟨.package name, isPackage.symm, inside_eq_ok_iff.mp converted, free, later⟩
  split at taken
  · next isImports =>
    obtain ⟨names, converted, later⟩ := Checks.bind_eq_ok_iff.mp taken
    exact ⟨.imports names, isImports.symm, inside_eq_ok_iff.mp converted, free, later⟩
  · next notPackage notImports =>
    obtain ⟨types, converted, later⟩ := Checks.bind_eq_ok_iff.mp taken
    have isTypes : key = "types" := by simpa [fieldNames, notPackage, notImports] using known
    exact ⟨.types types, isTypes.symm, inside_eq_ok_iff.mp converted, free, later⟩

/-- A document that is taken from an object has one member for each entry, and no two for a field. -/
theorem fieldsOfValue_members {fields : Partial} {entries : List (String × Value)}
    (taken : fieldsOfValue fields entries = .ok document) :
    ∃ members : List Member,
      List.Forall₂ (fun entry member => member.key = entry.1 ∧ member.Takes entry.2) entries
        members ∧
      (members.map Member.key).Nodup ∧ (∀ member ∈ members, fields.has member.key = false) ∧
      (members.foldl Partial.extend fields).document = document := by
  induction entries generalizing fields with
  | nil => exact ⟨[], .nil, List.nodup_nil, nofun, Except.ok.inj taken⟩
  | cons entry entries ih =>
    obtain ⟨member, named, takes, free, later⟩ := fieldsOfValue_cons taken
    obtain ⟨members, related, apart, unread, same⟩ := ih later
    obtain ⟨distinct, unread⟩ := Partial.nodup_of_unread (named ▸ free) apart unread
    exact ⟨member :: members, .cons ⟨named, takes⟩ related, distinct, unread, same⟩

theorem types_of_fields {fields : List (String × Value)}
    (taken : fieldsOfValue .empty fields = .ok document) :
    (∀ types, ("types", types) ∈ fields → typesOfValue types = .ok document.types) ∧
    ((∀ field ∈ fields, field.1 ≠ "types") → document.types = []) := by
  obtain ⟨members, related, apart, -, rfl⟩ := fieldsOfValue_members taken
  constructor
  · intro types declared
    obtain ⟨member, inside, named, takes⟩ := related.exists_right declared
    have gives := (Partial.holds_foldl_of_mem apart .empty inside).gives
    cases member with
    | types found => exact gives ▸ takes
    | package | imports => simp [Member.key] at named
  · intro absent
    have unread : "types" ∉ members.map Member.key := by
      intro read
      obtain ⟨member, inside, named⟩ := List.mem_map.mp read
      obtain ⟨field, listed, same, -⟩ := related.exists_left inside
      exact absent field listed (same.symm.trans named)
    have free : Partial.has _ (Member.types []).key = false := Partial.has_foldl unread .empty
    exact Partial.gives_of_isEmpty free rfl

theorem types_of_places {items : List Value} (taken : positionalOfValues items = .ok document) :
    (∀ types, items[2]? = some types → typesOfValue types = .ok document.types) ∧
    (items[2]? = none → document.types = []) := by
  rcases items with _ | ⟨first, _ | ⟨second, _ | ⟨third, rest⟩⟩⟩
  · obtain rfl := Except.ok.inj taken
    exact ⟨nofun, fun _ => rfl⟩
  · obtain ⟨package, -, taken⟩ := Checks.bind_eq_ok_iff.mp taken
    obtain rfl := Except.ok.inj taken
    exact ⟨nofun, fun _ => rfl⟩
  · obtain ⟨package, -, taken⟩ := Checks.bind_eq_ok_iff.mp taken
    obtain ⟨imports, -, taken⟩ := Checks.bind_eq_ok_iff.mp taken
    obtain rfl := Except.ok.inj taken
    exact ⟨nofun, fun _ => rfl⟩
  · obtain ⟨package, -, taken⟩ := Checks.bind_eq_ok_iff.mp taken
    obtain ⟨imports, -, taken⟩ := Checks.bind_eq_ok_iff.mp taken
    obtain ⟨types, converted, taken⟩ := Checks.bind_eq_ok_iff.mp taken
    split at taken
    · obtain rfl := Except.ok.inj taken
      refine ⟨fun found same => ?_, nofun⟩
      obtain rfl := Option.some.inj same
      exact inside_eq_ok_iff.mp converted
    · cases taken

end Members

/-- No name is declared twice among base types, among the variants of a base type or among the
fields of a variant. -/
structure NamesOnce (types : List Source.BaseType) : Prop where
  bases : (types.map (·.name)).Nodup
  variants : ∀ base ∈ types, (base.variants.map (·.name)).Nodup
  fields : ∀ base ∈ types, ∀ variant ∈ base.variants, (variant.fields.map (·.name)).Nodup

theorem namesOnce_of_resolve {types : List Source.BaseType} {schema : Schema}
    (resolved : Source.resolve types = .ok schema) : NamesOnce types := by
  obtain ⟨-, resolves, valid⟩ := Source.resolve_eq_ok_iff.mp resolved
  have formed := resolves.wellFormed valid
  exact ⟨formed.basesDistinct, formed.variantsDistinct, formed.fieldsDistinct⟩

section Levels

variable {Item Other : Type} {convert : Value → Fits Item} {build : String → Item → Other}
  {value : Value} {results : List Other}
  (taken : mapOfValue (fun key value => return build key (← convert value)) value = .ok results)
include taken

theorem exists_keys (name : Other → String) (named : ∀ key item, name (build key item) = key) :
    ∃ fields, value = .object fields ∧ results.map name = fields.map (·.1) := by
  obtain ⟨fields, rfl, related⟩ := mapOfValue_eq_ok_iff.mp taken
  refine ⟨fields, rfl, (related.map_eq_map ?_).symm⟩
  rintro field _ ⟨item, -, rfl⟩
  exact (named field.1 item).symm

theorem nodup_names (distinct : value.Distinct) (name : Other → String)
    (named : ∀ key item, name (build key item) = key) : (results.map name).Nodup := by
  obtain ⟨fields, rfl, keys⟩ := exists_keys taken name named
  cases distinct with
  | object apart _ => exact keys ▸ apart

theorem exists_inner (distinct : value.Distinct) {result : Other} (member : result ∈ results) :
    ∃ inner key item, inner.Distinct ∧ convert inner = .ok item ∧ build key item = result := by
  obtain ⟨fields, rfl, related⟩ := mapOfValue_eq_ok_iff.mp taken
  obtain ⟨field, listed, item, converted, same⟩ := related.exists_left member
  cases distinct with
  | object _ inside => exact ⟨field.2, field.1, item, inside field listed, converted, same⟩

theorem not_nodup_names {written : Written} (same : written.Matches value)
    (repeated : written.RepeatsKey) (name : Other → String)
    (named : ∀ key item, name (build key item) = key) : ¬(results.map name).Nodup := by
  obtain ⟨values, rfl, keys⟩ := exists_keys taken name named
  cases same with
  | object related =>
    intro apart
    rw [keys] at apart
    have encoded := apart.map (f := fun key => codeUnits key.toList)
      fun _ _ equal => String.toList_injective (codeUnits_injective equal)
    exact repeated (keys_of_matches related ▸ encoded)

theorem exists_result {written : Written} (same : written.Matches value)
    {field : List Nat × Written} (member : field ∈ written.fields) :
    ∃ inner key item, field.2.Matches inner ∧ convert inner = .ok item ∧
      build key item ∈ results := by
  obtain ⟨values, rfl, related⟩ := mapOfValue_eq_ok_iff.mp taken
  cases same with
  | object matched =>
    obtain ⟨entry, listed, ⟨same⟩⟩ := matched.exists_right member
    obtain ⟨result, inside, item, converted, rfl⟩ := related.exists_right listed
    exact ⟨_, _, item, same, converted, inside⟩

end Levels

theorem namesOnce_of_distinct {value : Value} (distinct : value.Distinct)
    {types : List Source.BaseType} (taken : typesOfValue value = .ok types) : NamesOnce types where
  bases := nodup_names taken distinct _ fun _ _ => rfl
  variants base member := by
    obtain ⟨inner, key, variants, apart, converted, rfl⟩ := exists_inner taken distinct member
    exact nodup_names converted apart _ fun _ _ => rfl
  fields base member variant ofBase := by
    obtain ⟨inner, key, variants, apart, converted, rfl⟩ := exists_inner taken distinct member
    obtain ⟨deep, name, fields, apart, converted, rfl⟩ := exists_inner converted apart ofBase
    exact nodup_names converted apart _ fun _ _ => rfl

theorem namesOnce_nil : NamesOnce [] :=
  ⟨List.nodup_nil, nofun, nofun⟩

/-- A document taken from a value that repeats no key repeats no name. -/
theorem namesOnce_of_ofValue {value : Value} (distinct : value.Distinct) {document : Document}
    (taken : ofValue value = .ok document) : NamesOnce document.types := by
  cases distinct with
  | @object fields apart inside =>
    obtain ⟨given, missing⟩ := types_of_fields taken
    by_cases declared : ∃ types, ("types", types) ∈ fields
    · obtain ⟨types, listed⟩ := declared
      exact namesOnce_of_distinct (inside _ listed) (given types listed)
    · rw [missing]
      · exact namesOnce_nil
      · rintro ⟨key, value⟩ listed rfl
        exact declared ⟨value, listed⟩
  | @array items inside =>
    obtain ⟨given, missing⟩ := types_of_places taken
    cases third : items[2]? with
    | none => exact missing third ▸ namesOnce_nil
    | some types =>
      exact namesOnce_of_distinct (inside types (List.mem_of_getElem? third)) (given types third)
  | null | bool | number | string => cases taken

/-- A key is repeated in an object of types, in that of a base type or in that of a variant. -/
inductive RepeatsName (types : Written) : Prop
  | base : types.RepeatsKey → RepeatsName types
  | variant {base : List Nat × Written} : base ∈ types.fields → base.2.RepeatsKey →
    RepeatsName types
  | field {base variant : List Nat × Written} : base ∈ types.fields → variant ∈ base.2.fields →
    variant.2.RepeatsKey → RepeatsName types

theorem not_namesOnce_of_repeats {written : Written} {value : Value} (same : written.Matches value)
    {types : List Source.BaseType} (taken : typesOfValue value = .ok types)
    (repeats : RepeatsName written) : ¬NamesOnce types := by
  intro once
  cases repeats with
  | base repeated => exact not_nodup_names taken same repeated _ (fun _ _ => rfl) once.bases
  | variant member repeated =>
    obtain ⟨inner, key, variants, same, converted, inside⟩ := exists_result taken same member
    exact not_nodup_names converted same repeated _ (fun _ _ => rfl) (once.variants _ inside)
  | field member ofBase repeated =>
    obtain ⟨inner, key, variants, same, converted, inside⟩ := exists_result taken same member
    obtain ⟨deep, name, fields, same, converted, within⟩ := exists_result converted same ofBase
    exact not_nodup_names converted same repeated _ (fun _ _ => rfl)
      (once.fields _ inside _ within)

/-- The types of a document as it is written: in the field of that name or in the third place. -/
inductive DeclaresWith (types : Written) : Written → Prop
  | field {fields : List (List Nat × Written)} : (codeUnits "types".toList, types) ∈ fields →
    DeclaresWith types (.object fields)
  | place {items : List Written} : items[2]? = some types → DeclaresWith types (.array items)

theorem not_namesOnce_of_declares {written types : Written} (declares : DeclaresWith types written)
    (repeats : RepeatsName types) {value : Value} (same : written.Matches value)
    {document : Document} (taken : ofValue value = .ok document) : ¬NamesOnce document.types := by
  cases declares with
  | field listed =>
    cases same with
    | object related =>
      obtain ⟨⟨key, inner⟩, inside, named⟩ := related.exists_right listed
      obtain ⟨units, matched⟩ := named.parts
      obtain rfl : "types" = key := String.toList_injective (codeUnits_injective units)
      exact not_namesOnce_of_repeats matched ((types_of_fields taken).1 inner inside) repeats
  | place third =>
    cases same with
    | array related =>
      obtain ⟨inner, found, matched⟩ := related.exists_getElem? third
      exact not_namesOnce_of_repeats matched ((types_of_places taken).1 inner found) repeats

section Loading

variable {evaluator : Query.Evaluator} {tree : FileTree} {path text : String}
  (stored : tree.read path = .ok text)
include stored

/-- With a pointer a document comes from the collapsed value and has every name once, so that nothing
is left to refuse where the text repeats a name. Without one such a document is never resolved. -/
theorem load_pointer_collapses :
    (∀ pointer document, load evaluator tree ⟨some pointer, none⟩ path = .ok document ↔
      ∃ entire rest inner found, Reads depthLimit text.toList entire rest ∧ skipSpace rest = [] ∧
        Pointer.select pointer entire.collapse = some inner ∧ ofValue inner = .ok found ∧
        Document.empty.merge found = document) ∧
    (∀ pointer document, load evaluator tree ⟨some pointer, none⟩ path = .ok document →
      NamesOnce document.types) ∧
    ∀ written types : Written, written.WholeText text.toList → DeclaresWith types written →
      RepeatsName types → ∀ document schema, load evaluator tree ⟨none, none⟩ path = .ok document →
        Source.resolve document.types ≠ .ok schema := by
  refine ⟨fun pointer document => load_pointer_iff stored, ?_, ?_⟩
  · intro pointer document loaded
    obtain ⟨entire, rest, inner, found, -, -, selected, converted, rfl⟩ :=
      (load_pointer_iff stored).mp loaded
    have distinct := Pointer.distinct_select (Tree.distinct_collapse entire) selected
    change NamesOnce found.types
    exact namesOnce_of_ofValue distinct converted
  · intro written types whole declares repeats document schema loaded resolved
    obtain ⟨entire, rest, reads, converted⟩ := (load_whole_iff stored).mp loaded
    obtain ⟨-, same⟩ := reads_wholeText whole reads
    exact not_namesOnce_of_declares declares repeats same converted (namesOnce_of_resolve resolved)

end Loading

/-- A base type with a variant, and the same base type without. -/
def twiceTypes : Written :=
  .object [(codeUnits "E".toList, .object [(codeUnits "A".toList, .object [])]),
    (codeUnits "E".toList, .object [])]

def twiceWritten : Written :=
  .object [(codeUnits "types".toList, twiceTypes)]

def nestedWritten : Written :=
  .object [(codeUnits "ast".toList, twiceWritten)]

def twiceText : String :=
  "\x7b\"types\":\x7b\"E\":\x7b\"A\":\x7b\x7d\x7d,\"E\":\x7b\x7d\x7d\x7d"

def nestedText : String :=
  "\x7b\"ast\":\x7b\"types\":\x7b\"E\":\x7b\"A\":\x7b\x7d\x7d,\"E\":\x7b\x7d\x7d\x7d\x7d"

/-- The document by itself, and as a part of another object. -/
def twiceTree : FileTree :=
  ⟨[(⟨.above 0, ["a.json"]⟩, .file twiceText.toUTF8),
    (⟨.above 0, ["b.json"]⟩, .file nestedText.toUTF8)]⟩

theorem text_twice : twiceWritten.Text twiceText.toList := by
  have first : Gap true [] := .first space_nil
  have comma : Gap false [','] := .comma space_nil space_nil
  have empty : Written.Text (.object []) _ := .object (.done space_nil)
  have base : UnitsText (codeUnits "E".toList) _ := unitsText_plain (by decide)
  have variant : UnitsText (codeUnits "A".toList) _ := unitsText_plain (by decide)
  have key : UnitsText (codeUnits "types".toList) _ := unitsText_plain (by decide)
  have variants : Written.Text (.object [(codeUnits "A".toList, .object [])]) _ :=
    .object (.next first (.colon variant space_nil space_nil empty) (.done space_nil))
  have types : twiceTypes.Text _ :=
    .object (.next first (.colon base space_nil space_nil variants)
      (.next comma (.colon base space_nil space_nil empty) (.done space_nil)))
  exact .object (.next first (.colon key space_nil space_nil types) (.done space_nil))

theorem declares_twice : DeclaresWith twiceTypes twiceWritten :=
  .field List.mem_cons_self

theorem repeats_twice : RepeatsName twiceTypes :=
  .base (by simp [Written.RepeatsKey, Written.fields, twiceTypes])

theorem load_pointer_collapses_twiceTree :
    NamesOnce [⟨"E", []⟩] ∧
    ∀ schema, Source.resolve [⟨"E", [⟨"A", []⟩]⟩, ⟨"E", []⟩] ≠ .ok schema := by
  constructor
  · have loaded : load Query.common twiceTree ⟨some "/ast", none⟩ "b.json" =
        .ok ⟨none, [], [⟨"E", []⟩]⟩ := by
      decide +kernel
    exact (load_pointer_collapses rfl).2.1 "/ast" _ loaded
  · intro schema
    have whole : twiceWritten.WholeText twiceText.toList :=
      List.append_nil twiceText.toList ▸ .spaced space_nil text_twice space_nil
    have loaded : load Query.common twiceTree ⟨none, none⟩ "a.json" =
        .ok ⟨none, [], [⟨"E", [⟨"A", []⟩]⟩, ⟨"E", []⟩]⟩ := by
      decide +kernel
    exact (load_pointer_collapses rfl).2.2 twiceWritten twiceTypes whole declares_twice
      repeats_twice _ schema loaded

/-- A variant that the file declares is gone, and nothing is reported. -/
theorem load_drops_twiceTree :
    twiceTree.read "b.json" = .ok nestedText ∧ nestedWritten.WholeText nestedText.toList ∧
    (codeUnits "ast".toList, twiceWritten) ∈ nestedWritten.fields ∧
    DeclaresWith twiceTypes twiceWritten ∧ RepeatsName twiceTypes ∧
    load Query.common twiceTree ⟨some "/ast", none⟩ "b.json" = .ok ⟨none, [], [⟨"E", []⟩]⟩ ∧
    Source.resolve [⟨"E", []⟩] = .ok ⟨[⟨"E", []⟩]⟩ := by
  refine ⟨rfl, ?_, List.mem_cons_self, declares_twice, repeats_twice, by decide +kernel,
    by decide +kernel⟩
  have key : UnitsText (codeUnits "ast".toList) _ := unitsText_plain (by decide)
  have nested : nestedWritten.Text nestedText.toList :=
    .object (.next (.first space_nil) (.colon key space_nil space_nil text_twice)
      (.done space_nil))
  exact List.append_nil nestedText.toList ▸ .spaced space_nil nested space_nil

end Document

end NodeGen
