import Mathlib.Data.List.DropRight
import NodeGen.Document.OfValue
import NodeGen.Proofs.Json.Remainder

/-! Two ways to a document: read from a text, or taken from the value that stands in the text. Both
succeed on the same texts and give the same document, where the value has all its entries. -/

set_option autoImplicit false

namespace NodeGen.Document

open Json

section Parts

variable {Item Other : Type} {text rest : List Char}

/-- What a reader reads is what is taken from the value in its place. -/
def Agrees (depth : Nat) (reader : List Char → Result Item) (convert : Value → Fits Item) : Prop :=
  ∀ text item rest, taking reader text item rest ↔
    ∃ value, Reads depth text value rest ∧ convert value = .ok item

theorem refuse_ne_ok {wanted : String} {found : Item × List Char} :
    refuse wanted text ≠ .ok found := by
  intro refused
  obtain ⟨_, -, failed⟩ := Checks.bind_eq_ok_iff.mp refused
  cases failed

theorem inside_eq_ok_iff {segment : Segment} {result : Fits Item} {item : Item} :
    inside segment result = .ok item ↔ result = .ok item :=
  Checks.mapError_eq_ok_iff

theorem readText_eq_ok_iff {name : String} :
    readText text = .ok (name, rest) ↔
      ∃ inner, skipSpace text = '"' :: inner ∧ readString inner = .ok (name, rest) := by
  constructor
  · intro read
    unfold readText at read
    split at read
    · next inner opened => exact ⟨inner, opened, read⟩
    · exact absurd read refuse_ne_ok
  · rintro ⟨inner, opened, string⟩
    rw [readText, opened]
    exact string

theorem textOfValue_eq_ok_iff {value : Value} {name : String} :
    textOfValue value = .ok name ↔ value = .string name := by
  cases value <;> simp [textOfValue, misfit]

theorem agrees_readText (depth : Nat) : Agrees (depth + 1) readText textOfValue := by
  intro text name rest
  constructor
  · intro read
    exact ⟨.string name, reads_string_iff.mpr (readText_eq_ok_iff.mp read), rfl⟩
  · rintro ⟨value, reads, converted⟩
    obtain rfl := textOfValue_eq_ok_iff.mp converted
    exact readText_eq_ok_iff.mpr (reads_string_iff.mp reads)

theorem readText_skipSpace : readText (skipSpace text) = readText text := by
  rw [readText, readText, show skipSpace (skipSpace text) = skipSpace text from
    List.dropWhile_idempotent _ _]

theorem readPackage_eq_ok_iff {package : Option String} :
    readPackage text = .ok (package, rest) ↔
      package = none ∧ (∃ inner, skipSpace text = 'n' :: inner ∧
        readWord ['u', 'l', 'l'] inner = .ok rest) ∨
      ∃ name, package = some name ∧ readText text = .ok (name, rest) := by
  unfold readPackage
  constructor
  · intro read
    split at read
    · next inner opened =>
      obtain ⟨behind, word, same⟩ := Checks.map_eq_ok_iff.mp read
      obtain ⟨rfl, rfl⟩ := Prod.mk.inj same
      exact .inl ⟨rfl, inner, opened, word⟩
    · rw [readText_skipSpace] at read
      obtain ⟨⟨name, behind⟩, named, same⟩ := Checks.map_eq_ok_iff.mp read
      obtain ⟨rfl, rfl⟩ := Prod.mk.inj same
      exact .inr ⟨name, rfl, named⟩
  · rintro (⟨rfl, inner, opened, word⟩ | ⟨name, rfl, named⟩)
    · rw [opened]
      exact Checks.map_eq_ok_iff.mpr ⟨rest, word, rfl⟩
    · obtain ⟨inner, opened, -⟩ := readText_eq_ok_iff.mp named
      split
      · next noString => simp [opened] at noString
      · rw [readText_skipSpace, named]
        rfl

theorem packageOfValue_eq_ok_iff {value : Value} {package : Option String} :
    packageOfValue value = .ok package ↔
      package = none ∧ value = .null ∨ ∃ name, package = some name ∧ value = .string name := by
  cases value <;> simp [packageOfValue, textOfValue, misfit, Except.map, eq_comm]

theorem agrees_readPackage (depth : Nat) : Agrees (depth + 1) readPackage packageOfValue := by
  intro text package rest
  rw [taking, readPackage_eq_ok_iff]
  simp only [packageOfValue_eq_ok_iff]
  constructor
  · rintro (⟨rfl, word⟩ | ⟨name, rfl, named⟩)
    · exact ⟨.null, reads_null_iff.mpr word, .inl ⟨rfl, rfl⟩⟩
    · obtain ⟨value, reads, converted⟩ := (agrees_readText depth text name rest).mp named
      exact ⟨value, reads, .inr ⟨name, rfl, textOfValue_eq_ok_iff.mp converted⟩⟩
  · rintro ⟨value, reads, ⟨rfl, rfl⟩ | ⟨name, rfl, rfl⟩⟩
    · exact .inl ⟨rfl, reads_null_iff.mp reads⟩
    · exact .inr ⟨name, rfl, (agrees_readText depth text name rest).mpr ⟨_, reads, rfl⟩⟩

theorem itemsOfValues_eq_ok_iff {position : Nat} {values : List Value} {names : List String} :
    itemsOfValues position values = .ok names ↔
      List.Forall₂ (fun value name => textOfValue value = .ok name) values names := by
  induction values generalizing position names with
  | nil => simp [itemsOfValues, eq_comm]
  | cons value values ih =>
    simp only [itemsOfValues, Checks.bind_eq_ok_iff, inside_eq_ok_iff, ih,
      List.forall₂_cons_left_iff]
    constructor
    · rintro ⟨name, converted, others, related, same⟩
      exact ⟨name, others, converted, related, (Except.ok.inj same).symm⟩
    · rintro ⟨name, others, converted, related, rfl⟩
      exact ⟨name, converted, others, related, rfl⟩

theorem agrees_readImports (depth : Nat) : Agrees (depth + 2) readImports importsOfValue := by
  intro text names rest
  constructor
  · intro read
    unfold taking readImports at read
    split at read
    · next inner opened =>
      obtain ⟨_, run, rfl⟩ := readItems_eq_ok_iff.mp read
      obtain ⟨values, run, related⟩ := (listRun_iff_exists (agrees_readText depth)).mp run
      refine ⟨.array values, ⟨inner, opened, Nat.succ_ne_zero depth, run⟩, ?_⟩
      exact itemsOfValues_eq_ok_iff.mpr related
    · exact absurd read refuse_ne_ok
  · rintro ⟨value, reads, converted⟩
    cases value with
    | array values =>
      obtain ⟨inner, opened, -, run⟩ := reads
      rw [taking, readImports, opened]
      refine readItems_eq_ok_iff.mpr ⟨names, ?_, rfl⟩
      refine (listRun_iff_exists (agrees_readText depth)).mpr ⟨values, run, ?_⟩
      exact itemsOfValues_eq_ok_iff.mp converted
    | null | bool | number | string | object => cases converted

theorem mapOfValue_eq_ok_iff {convert : Value → Fits Item} {build : String → Item → Other}
    {value : Value} {results : List Other} :
    mapOfValue (fun name value => return build name (← convert value)) value = .ok results ↔
      ∃ fields, value = .object fields ∧ List.Forall₂
        (fun field result => ∃ item, convert field.2 = .ok item ∧ build field.1 item = result)
        fields results := by
  cases value with
  | object fields =>
    simp [mapOfValue, Checks.mapM_eq_ok_iff, inside_eq_ok_iff, Checks.bind_eq_ok_iff, pure,
      Except.pure]
  | null | bool | number | string | array => simp [mapOfValue, misfit]

theorem forall₂_build_iff {convert : Value → Fits Item} {build : String → Item → Other}
    {fields : List (String × Value)} {results : List Other} :
    List.Forall₂
        (fun field result => ∃ item, convert field.2 = .ok item ∧ build field.1 item = result)
        fields results ↔
      ∃ entries : List (String × Item),
        List.Forall₂ (fun field entry => field.1 = entry.1 ∧ convert field.2 = .ok entry.2) fields
          entries ∧ (entries.map fun entry => build entry.1 entry.2) = results := by
  induction fields generalizing results with
  | nil => simp [List.forall₂_nil_left_iff, eq_comm]
  | cons field fields ih =>
    simp only [List.forall₂_cons_left_iff, ih]
    constructor
    · rintro ⟨_, _, ⟨item, converted, rfl⟩, ⟨entries, related, rfl⟩, rfl⟩
      exact ⟨_, ⟨(field.1, item), entries, ⟨rfl, converted⟩, related, rfl⟩, rfl⟩
    · rintro ⟨_, ⟨⟨key, item⟩, entries, ⟨rfl, converted⟩, related, rfl⟩, rfl⟩
      exact ⟨_, _, ⟨item, converted, rfl⟩, ⟨entries, related, rfl⟩, rfl⟩

/-- An object whose values are read in turn, each built into an item with its key. -/
theorem agrees_readMap {depth : Nat} {reader : List Char → Result Item}
    {convert : Value → Fits Item} (agree : Agrees (depth + 1) reader convert)
    (build : String → Item → Other) :
    Agrees (depth + 2)
      (fun text => (readMap reader text).map fun (entries, rest) =>
        (entries.map fun entry => build entry.1 entry.2, rest))
      (mapOfValue fun name value => return build name (← convert value)) := by
  intro text results rest
  rw [taking, Checks.map_eq_ok_iff]
  simp only [mapOfValue_eq_ok_iff, forall₂_build_iff]
  constructor
  · rintro ⟨⟨entries, behind⟩, read, same⟩
    obtain ⟨rfl, rfl⟩ := Prod.mk.inj same
    unfold readMap at read
    split at read
    · next inner opened =>
      obtain ⟨_, run, rfl⟩ := readEntries_eq_ok_iff.mp read
      obtain ⟨fields, run, related⟩ := (objectRun_iff_exists agree).mp run
      refine ⟨.object fields, ⟨inner, opened, Nat.succ_ne_zero depth, run⟩, fields, rfl, ?_⟩
      exact ⟨_, related, rfl⟩
    · exact absurd read refuse_ne_ok
  · rintro ⟨_, reads, fields, rfl, entries, related, rfl⟩
    obtain ⟨inner, opened, -, run⟩ := reads
    refine ⟨(entries, rest), ?_, rfl⟩
    rw [readMap, opened]
    refine readEntries_eq_ok_iff.mpr ⟨entries, ?_, rfl⟩
    exact (objectRun_iff_exists agree).mpr ⟨fields, run, related⟩

theorem agrees_readVariant (depth : Nat) : Agrees (depth + 2) readVariant variantOfValue :=
  agrees_readMap (agrees_readText depth) Source.Field.mk

theorem agrees_readBase (depth : Nat) : Agrees (depth + 3) readBase baseOfValue :=
  agrees_readMap (agrees_readVariant depth) Source.Variant.mk

theorem agrees_readTypes (depth : Nat) : Agrees (depth + 4) readTypes typesOfValue :=
  agrees_readMap (agrees_readBase depth) Source.BaseType.mk

end Parts

section Documents

variable {depth : Nat} {text rest : List Char} {document : Document}

section Fields

variable {fuel : Nat}
  (later : ∀ fields text, readFields fuel false fields text = .ok (document, rest) ↔
    ∃ entries, ObjectRun (Reads (depth + 4)) fuel false text entries rest ∧
      fieldsOfValue fields entries = .ok document)
include later

/-- One field of a document on both ways, where they agree on its value and on what comes after. -/
theorem readField_iff {Item : Type} {reader : List Char → Result Item}
    {convert : Value → Fits Item} (agree : Agrees (depth + 4) reader convert)
    (extend : Item → Partial) (segment : Segment) (start : List Char) :
    (do
      let (item, behind) ← within segment (reader start)
      readFields fuel false (extend item) behind) = .ok (document, rest) ↔
    ∃ value behind entries, Reads (depth + 4) start value behind ∧
      ObjectRun (Reads (depth + 4)) fuel false behind entries rest ∧
      (do
        let item ← inside segment (convert value)
        fieldsOfValue (extend item) entries) = .ok document := by
  simp only [Checks.bind_eq_ok_iff, within_eq_ok_iff, inside_eq_ok_iff]
  constructor
  · rintro ⟨⟨item, behind⟩, read, continued⟩
    obtain ⟨value, reads, converted⟩ := (agree start item behind).mp read
    obtain ⟨entries, run, taken⟩ := (later _ _).mp continued
    exact ⟨value, behind, entries, reads, run, item, converted, taken⟩
  · rintro ⟨value, behind, entries, reads, run, item, converted, taken⟩
    refine ⟨(item, behind), (agree start item behind).mpr ⟨value, reads, converted⟩, ?_⟩
    exact (later _ _).mpr ⟨entries, run, taken⟩

theorem readFields_key_iff {first : Bool} {fields : Partial} {key : String} {behind : List Char}
    (started : nextKey first text = .ok (some key, behind)) :
    readFields (fuel + 1) first fields text = .ok (document, rest) ↔
      ∃ start, readColon behind = .ok start ∧ ∃ value after entries,
        Reads (depth + 4) start value after ∧
        ObjectRun (Reads (depth + 4)) fuel false after entries rest ∧
        fieldsOfValue fields ((key, value) :: entries) = .ok document := by
  rw [readFields, started, Checks.bind_eq_ok_iff]
  simp only [within_eq_ok_iff, Except.ok.injEq, exists_eq_left', fieldsOfValue]
  by_cases unknown : key ∉ fieldNames
  · simp [unknown, within, inside, Except.mapError]
  by_cases known : fields.has key = true
  · simp [unknown, known]
  simp only [unknown, known, if_false, Bool.false_eq_true]
  rw [Checks.bind_eq_ok_iff]
  refine exists_congr fun start => and_congr_right fun _ => ?_
  by_cases isPackage : key = "package"
  · simp only [if_pos isPackage]
    exact readField_iff later (agrees_readPackage (depth + 3))
      (fun package => { fields with package := some package }) _ start
  by_cases isImports : key = "imports"
  · simp only [if_neg isPackage, if_pos isImports]
    exact readField_iff later (agrees_readImports (depth + 2))
      (fun imports => { fields with imports := some imports }) _ start
  · simp only [if_neg isPackage, if_neg isImports]
    exact readField_iff later (agrees_readTypes depth)
      (fun types => { fields with types := some types }) _ start

end Fields

theorem readFields_iff {fuel : Nat} {first : Bool} {fields : Partial} :
    readFields fuel first fields text = .ok (document, rest) ↔
      ∃ entries, ObjectRun (Reads (depth + 4)) fuel first text entries rest ∧
        fieldsOfValue fields entries = .ok document := by
  induction fuel generalizing first fields text with
  | zero =>
    constructor
    · intro failed
      cases failed
    · rintro ⟨_, ⟨⟩, _⟩
  | succ fuel ih =>
    have later := fun fields text => @ih text false fields
    constructor
    · intro read
      obtain ⟨⟨_ | key, behind⟩, started, continued⟩ := Checks.bind_eq_ok_iff.mp read
      · obtain ⟨rfl, rfl⟩ := Prod.mk.inj (Except.ok.inj continued)
        exact ⟨[], .done (within_eq_ok_iff.mp started), rfl⟩
      · rw [within_eq_ok_iff] at started
        obtain ⟨start, colon, value, after, entries, reads, run, taken⟩ :=
          (readFields_key_iff later started).mp read
        exact ⟨(key, value) :: entries, .next ⟨behind, start, started, colon, reads⟩ run, taken⟩
    · rintro ⟨entries, run, taken⟩
      cases run with
      | done ended =>
        rw [readFields, show nextKey first text = .ok (none, rest) from ended, ← Except.ok.inj taken]
        rfl
      | @next _ _ _ after _ entry entries step run =>
        obtain ⟨behind, start, started, colon, reads⟩ := step
        refine (readFields_key_iff later started).mpr ?_
        exact ⟨start, colon, entry.2, after, entries, reads, run, taken⟩

section Positional

/-- The items of a list up to its end give the document. -/
def Listed (depth : Nat) (first : Bool) (text rest : List Char)
    (take : List Value → Fits Document) (document : Document) : Prop :=
  ∃ fuel items, ListRun (Reads depth) fuel first text items rest ∧ take items = .ok document

/-- One place in the list on both ways: it may be absent, and otherwise they agree on its value and
on what comes after. -/
theorem readPlace_iff {Item : Type} {reader : List Char → Result Item}
    {convert : Value → Fits Item} (agree : Agrees (depth + 4) reader convert) {first : Bool}
    {segment : Segment} {absent : Document}
    {goOn : Bool × List Char → Except Fault (Document × List Char)}
    {next : Item × List Char → Except Fault (Document × List Char)}
    {take : List Value → Fits Document}
    {takeNext : Item → List Value → Fits Document}
    (ends : ∀ rest, goOn (false, rest) = .ok (absent, rest))
    (goes : ∀ start, goOn (true, start) = within segment (reader start) >>= next)
    (takesNone : take [] = .ok absent)
    (takes : ∀ value items, take (value :: items) =
      inside segment (convert value) >>= fun item => takeNext item items)
    (later : ∀ item behind, next (item, behind) = .ok (document, rest) ↔
      Listed (depth + 4) false behind rest (takeNext item) document) :
    (show Except Fault _ from nextItem first text) >>= goOn = .ok (document, rest) ↔
      Listed (depth + 4) first text rest take document := by
  rw [Checks.bind_eq_ok_iff]
  constructor
  · rintro ⟨⟨_ | _, start⟩, started, continued⟩
    · obtain ⟨rfl, rfl⟩ := Prod.mk.inj (Except.ok.inj ((ends start).symm.trans continued))
      exact ⟨1, [], .done started, takesNone⟩
    · rw [goes, Checks.bind_eq_ok_iff] at continued
      obtain ⟨⟨item, behind⟩, read, continued⟩ := continued
      obtain ⟨value, reads, converted⟩ := (agree _ _ _).mp (within_eq_ok_iff.mp read)
      obtain ⟨fuel, items, run, taken⟩ := (later item behind).mp continued
      refine ⟨fuel + 1, value :: items, .next ⟨start, started, reads⟩ run, ?_⟩
      rw [takes, Checks.bind_eq_ok_iff]
      exact ⟨item, inside_eq_ok_iff.mpr converted, taken⟩
  · rintro ⟨_, _, ended | ⟨⟨start, started, reads⟩, run⟩, taken⟩
    · rw [takesNone] at taken
      exact ⟨_, ended, Except.ok.inj taken ▸ ends rest⟩
    · rw [takes, Checks.bind_eq_ok_iff] at taken
      obtain ⟨item, converted, taken⟩ := taken
      have read := (agree start item _).mpr ⟨_, reads, inside_eq_ok_iff.mp converted⟩
      refine ⟨_, started, ?_⟩
      rw [goes, Checks.bind_eq_ok_iff]
      exact ⟨_, within_eq_ok_iff.mpr read, (later item _).mpr ⟨_, _, run, taken⟩⟩

theorem readListEnd_eq_ok_iff : readListEnd text = .ok rest ↔ skipSpace text = ']' :: rest := by
  constructor
  · intro read
    unfold readListEnd at read
    split at read
    · cases read
    · next opened => rw [opened, Except.ok.inj read]
    · split at read <;> cases read
    · cases read
  · intro opened
    rw [readListEnd, opened]
    rfl

theorem readPositional_iff :
    readPositional text = .ok (document, rest) ↔
      ∃ items, ListRun (Reads (depth + 4)) (text.length + 1) true text items rest ∧
        positionalOfValues items = .ok document := by
  have bounded : Listed (depth + 4) true text rest positionalOfValues document ↔
      ∃ items, ListRun (Reads (depth + 4)) (text.length + 1) true text items rest ∧
        positionalOfValues items = .ok document := by
    constructor
    · rintro ⟨fuel, items, run, taken⟩
      exact ⟨items, run.of_fuel, taken⟩
    · rintro ⟨items, run, taken⟩
      exact ⟨_, items, run, taken⟩
  rw [← bounded]
  refine readPlace_iff (agrees_readPackage (depth + 3)) (fun _ => rfl) (fun _ => rfl) rfl
    (fun _ _ => rfl) fun package behind => ?_
  refine readPlace_iff (agrees_readImports (depth + 2)) (fun _ => rfl) (fun _ => rfl) rfl
    (fun _ _ => rfl) fun imports after => ?_
  refine readPlace_iff (agrees_readTypes depth) (fun _ => rfl) (fun _ => rfl) rfl
    (fun _ _ => rfl) fun types last => ?_
  rw [Checks.bind_eq_ok_iff]
  constructor
  · rintro ⟨ended, ending, same⟩
    obtain ⟨rfl, rfl⟩ := Prod.mk.inj (Except.ok.inj same)
    exact ⟨1, [], .done (nextItem_end_iff.mpr (readListEnd_eq_ok_iff.mp ending)), rfl⟩
  · rintro ⟨_, _, ended | ⟨-, -⟩, taken⟩
    · refine ⟨rest, readListEnd_eq_ok_iff.mpr (nextItem_end_iff.mp ended), ?_⟩
      rw [← Except.ok.inj taken]
    · cases taken

end Positional

theorem read_iff :
    read text = .ok (document, rest) ↔
      ∃ value, Reads (depth + 5) text value rest ∧ ofValue value = .ok document := by
  constructor
  · intro taken
    unfold read at taken
    split at taken
    · next inner opened =>
      obtain ⟨fields, run, converted⟩ := readFields_iff.mp taken
      exact ⟨.object fields, ⟨inner, opened, Nat.succ_ne_zero _, run⟩, converted⟩
    · next inner opened =>
      obtain ⟨items, run, converted⟩ := readPositional_iff.mp taken
      exact ⟨.array items, ⟨inner, opened, Nat.succ_ne_zero _, run⟩, converted⟩
    · exact absurd taken refuse_ne_ok
  · rintro ⟨value, reads, converted⟩
    cases value with
    | object fields =>
      obtain ⟨inner, opened, -, run⟩ := reads
      rw [read, opened]
      exact readFields_iff.mpr ⟨fields, run, converted⟩
    | array items =>
      obtain ⟨inner, opened, -, run⟩ := reads
      rw [read, opened]
      exact readPositional_iff.mpr ⟨items, run, converted⟩
    | null | bool | number | string => cases converted

/-- A document is at the head of a text if an entire value is there that gives the document. -/
theorem parse_eq_ok_iff {text : String} :
    parse text = .ok document ↔
      ∃ value rest, Reads depthLimit text.toList value rest ∧ ofValue value = .ok document := by
  -- The limit is far above the five levels that a document may have.
  have levels : depthLimit = 123 + 5 := rfl
  rw [levels]
  constructor
  · intro parsed
    unfold parse at parsed
    split at parsed
    · next found rest taken =>
      obtain rfl := Except.ok.inj parsed
      obtain ⟨value, reads, converted⟩ := read_iff.mp taken
      exact ⟨value, rest, reads, converted⟩
    · cases parsed
  · rintro ⟨value, rest, reads, converted⟩
    rw [parse, read_iff.mpr ⟨value, reads, converted⟩]

end Documents

end NodeGen.Document
