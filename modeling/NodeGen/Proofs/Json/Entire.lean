import NodeGen.Json.Reader
import NodeGen.Proofs.Checks
import NodeGen.Proofs.Json.Collapse

/-! Reading with nothing left out. A reader of JSON values keeps one entry for each key of an object;
what it has read before that is the entire value, in which keys come as often as in the text. Every
reading is a collapsed reading of the entire value. -/

set_option autoImplicit false

namespace NodeGen.Json

theorem within_eq_ok_iff {Value : Type} {segment : Segment} {result : Except Fault Value}
    {value : Value} : within segment result = .ok value ↔ result = .ok value :=
  Checks.mapError_eq_ok_iff

/-- What a reader reads: a value at the head of a text, and the rest of the text. -/
def taking {Item : Type} (item : List Char → Result Item) (text : List Char) (value : Item)
    (rest : List Char) : Prop :=
  item text = .ok (value, rest)

section Runs

variable {Part Other Item : Type}

/-- The parts of a list or an object one after another up to its end, in at most so many steps. The
first part differs from the others in what stands before it. -/
inductive Run (step : Bool → List Char → Part → List Char → Prop)
    (ends : Bool → List Char → List Char → Prop) :
    Nat → Bool → List Char → List Part → List Char → Prop
  | done {fuel : Nat} {first : Bool} {text rest : List Char} :
    ends first text rest → Run step ends (fuel + 1) first text [] rest
  | next {fuel : Nat} {first : Bool} {text middle rest : List Char} {part : Part}
    {parts : List Part} :
    step first text part middle → Run step ends fuel false middle parts rest →
    Run step ends (fuel + 1) first text (part :: parts) rest

/-- Runs whose parts are read in two ways are related part by part. -/
theorem Run.iff_exists_of_step {step : Bool → List Char → Part → List Char → Prop}
    {base : Bool → List Char → Other → List Char → Prop}
    {ends : Bool → List Char → List Char → Prop} {Means : Other → Part → Prop}
    (steps : ∀ first text part rest,
      step first text part rest ↔ ∃ other, base first text other rest ∧ Means other part)
    {fuel : Nat} {first : Bool} {text rest : List Char} {parts : List Part} :
    Run step ends fuel first text parts rest ↔
      ∃ others, Run base ends fuel first text others rest ∧ List.Forall₂ Means others parts := by
  constructor
  · intro run
    induction run with
    | done ended => exact ⟨[], .done ended, .nil⟩
    | next taken _ ih =>
      obtain ⟨other, here, means⟩ := (steps _ _ _ _).mp taken
      obtain ⟨others, later, related⟩ := ih
      exact ⟨other :: others, .next here later, .cons means related⟩
  · rintro ⟨others, run, related⟩
    induction run generalizing parts with
    | done ended =>
      obtain rfl := List.forall₂_nil_left_iff.mp related
      exact .done ended
    | next here _ ih =>
      obtain ⟨part, rest, means, later, rfl⟩ := List.forall₂_cons_left_iff.mp related
      exact .next ((steps _ _ _ _).mpr ⟨_, here, means⟩) (ih later)

/-- More fuel does no harm. -/
theorem Run.refuel {step : Bool → List Char → Part → List Char → Prop}
    {ends : Bool → List Char → List Char → Prop} {fuel : Nat} {first : Bool}
    {text rest : List Char} {parts : List Part} (run : Run step ends fuel first text parts rest)
    {more : Nat} (enough : parts.length < more) : Run step ends more first text parts rest := by
  induction run generalizing more with
  | done ended =>
    obtain ⟨more, rfl⟩ : ∃ less, more = less + 1 := ⟨more - 1, by simp at enough; omega⟩
    exact .done ended
  | next taken _ ih =>
    obtain ⟨more, rfl⟩ : ∃ less, more = less + 1 := ⟨more - 1, by simp at enough; omega⟩
    exact .next taken (ih (by simpa using enough))

def ItemStep (item : List Char → Item → List Char → Prop) (first : Bool) (text : List Char)
    (value : Item) (rest : List Char) : Prop :=
  ∃ start, nextItem first text = .ok (true, start) ∧ item start value rest

def ItemsEnd (first : Bool) (text rest : List Char) : Prop :=
  nextItem first text = .ok (false, rest)

def EntryStep (item : List Char → Item → List Char → Prop) (first : Bool) (text : List Char)
    (entry : String × Item) (rest : List Char) : Prop :=
  ∃ behind start, nextKey first text = .ok (some entry.1, behind) ∧ readColon behind = .ok start ∧
    item start entry.2 rest

def EntriesEnd (first : Bool) (text rest : List Char) : Prop :=
  nextKey first text = .ok (none, rest)

theorem nextItem_end_iff {first : Bool} {text rest : List Char} :
    nextItem first text = .ok (false, rest) ↔ skipSpace text = ']' :: rest := by
  constructor
  · intro read
    unfold nextItem at read
    split at read
    · cases read
    · next opened => rw [opened, (Prod.mk.inj (Except.ok.inj read)).2]
    · split at read
      · cases read
      · split at read
        · split at read <;> cases read
        · cases read
  · intro opened
    rw [nextItem, opened]
    rfl

theorem nextKey_end_iff {first : Bool} {text rest : List Char} :
    nextKey first text = .ok (none, rest) ↔ skipSpace text = '\x7d' :: rest := by
  have named (inner : List Char) :
      (readString inner).map (fun read => (some read.1, read.2)) ≠ .ok (none, rest) := by
    intro read
    obtain ⟨_, -, same⟩ := Checks.map_eq_ok_iff.mp read
    cases same
  constructor
  · intro read
    unfold nextKey at read
    split at read
    · cases read
    · next opened => rw [opened, (Prod.mk.inj (Except.ok.inj read)).2]
    · split at read
      · split at read
        · exact absurd read (named _)
        · cases read
      · split at read
        · split at read
          · cases read
          · exact absurd read (named _)
          · cases read
          · cases read
        · cases read
  · intro opened
    rw [nextKey, opened]
    rfl

/-- The items of a list after its opening bracket. -/
abbrev ListRun (item : List Char → Item → List Char → Prop) :
    Nat → Bool → List Char → List Item → List Char → Prop :=
  Run (ItemStep item) ItemsEnd

/-- The entries of an object after its opening brace. -/
abbrev ObjectRun (item : List Char → Item → List Char → Prop) :
    Nat → Bool → List Char → List (String × Item) → List Char → Prop :=
  Run (EntryStep item) EntriesEnd

theorem readItems_eq_ok_iff {item : List Char → Result Item} {fuel : Nat} {done : List Item}
    {text rest : List Char} {values : List Item} :
    readItems item fuel done text = .ok (values, rest) ↔
      ∃ read, ListRun (taking item) fuel done.isEmpty text read rest ∧
        values = done.reverse ++ read := by
  induction fuel generalizing done text with
  | zero =>
    constructor
    · intro failed
      cases failed
    · rintro ⟨_, ⟨⟩, _⟩
  | succ fuel ih =>
    rw [readItems, Checks.bind_eq_ok_iff]
    constructor
    · rintro ⟨⟨_ | _, start⟩, started, continued⟩
      · obtain ⟨rfl, rfl⟩ := Prod.mk.inj (Except.ok.inj continued)
        exact ⟨[], .done started, by simp⟩
      · obtain ⟨⟨value, middle⟩, taken, later⟩ := Checks.bind_eq_ok_iff.mp continued
        obtain ⟨read, run, rfl⟩ := ih.mp later
        exact ⟨value :: read, .next ⟨start, started, within_eq_ok_iff.mp taken⟩ run, by simp⟩
    · rintro ⟨read, run, rfl⟩
      cases run with
      | done ended => exact ⟨(false, rest), ended, by simp⟩
      | @next _ _ _ middle _ value read step run =>
        obtain ⟨start, started, taken⟩ := step
        refine ⟨(true, start), started, Checks.bind_eq_ok_iff.mpr ⟨(value, middle), ?_, ?_⟩⟩
        · exact within_eq_ok_iff.mpr taken
        · exact ih.mpr ⟨read, run, by simp⟩

theorem readEntries_eq_ok_iff {item : List Char → Result Item} {fuel : Nat}
    {done : List (String × Item)} {text rest : List Char} {entries : List (String × Item)} :
    readEntries item fuel done text = .ok (entries, rest) ↔
      ∃ read, ObjectRun (taking item) fuel done.isEmpty text read rest ∧
        entries = done.reverse ++ read := by
  induction fuel generalizing done text with
  | zero =>
    constructor
    · intro failed
      cases failed
    · rintro ⟨_, ⟨⟩, _⟩
  | succ fuel ih =>
    rw [readEntries, Checks.bind_eq_ok_iff]
    simp only [within_eq_ok_iff]
    constructor
    · rintro ⟨⟨_ | key, behind⟩, started, continued⟩
      · obtain ⟨rfl, rfl⟩ := Prod.mk.inj (Except.ok.inj continued)
        exact ⟨[], .done started, by simp⟩
      · obtain ⟨start, colon, continued⟩ := Checks.bind_eq_ok_iff.mp continued
        obtain ⟨⟨value, middle⟩, taken, later⟩ := Checks.bind_eq_ok_iff.mp continued
        obtain ⟨read, run, rfl⟩ := ih.mp later
        exact ⟨(key, value) :: read,
          .next ⟨behind, start, started, colon, within_eq_ok_iff.mp taken⟩ run, by simp⟩
    · rintro ⟨read, run, rfl⟩
      cases run with
      | done ended => exact ⟨(none, rest), ended, by simp⟩
      | @next _ _ _ middle _ entry read step run =>
        obtain ⟨behind, start, started, colon, taken⟩ := step
        refine ⟨(some entry.1, behind), started, Checks.bind_eq_ok_iff.mpr ⟨start, colon, ?_⟩⟩
        refine Checks.bind_eq_ok_iff.mpr ⟨(entry.2, middle), within_eq_ok_iff.mpr taken, ?_⟩
        exact ih.mpr ⟨read, run, by simp⟩

variable {item : List Char → Item → List Char → Prop} {base : List Char → Other → List Char → Prop}
  {Means : Other → Item → Prop}

theorem listRun_iff_exists
    (items : ∀ text value rest,
      item text value rest ↔ ∃ other, base text other rest ∧ Means other value)
    {fuel : Nat} {first : Bool} {text rest : List Char} {values : List Item} :
    ListRun item fuel first text values rest ↔
      ∃ others, ListRun base fuel first text others rest ∧ List.Forall₂ Means others values := by
  refine Run.iff_exists_of_step fun first text value rest => ?_
  simp only [ItemStep, items]
  constructor
  · rintro ⟨start, started, other, read, means⟩
    exact ⟨other, ⟨start, started, read⟩, means⟩
  · rintro ⟨other, ⟨start, started, read⟩, means⟩
    exact ⟨start, started, other, read, means⟩

theorem objectRun_iff_exists
    (items : ∀ text value rest,
      item text value rest ↔ ∃ other, base text other rest ∧ Means other value)
    {fuel : Nat} {first : Bool} {text rest : List Char} {entries : List (String × Item)} :
    ObjectRun item fuel first text entries rest ↔
      ∃ others, ObjectRun base fuel first text others rest ∧
        List.Forall₂ (fun other entry => other.1 = entry.1 ∧ Means other.2 entry.2) others
          entries := by
  refine Run.iff_exists_of_step fun first text entry rest => ?_
  simp only [EntryStep, items]
  constructor
  · rintro ⟨behind, start, started, colon, other, read, means⟩
    exact ⟨(entry.1, other), ⟨behind, start, started, colon, read⟩, rfl, means⟩
  · rintro ⟨⟨key, other⟩, ⟨behind, start, started, colon, read⟩, rfl, means⟩
    exact ⟨behind, start, started, colon, other, read, means⟩

end Runs

/-- A value stands at the head of a text with all its entries. Fewer than `depth` lists and objects
are open in it at a time. -/
def Reads : Nat → List Char → Value → List Char → Prop
  | 0, _, _, _ => False
  | depth + 1, text, .array items, rest =>
    ∃ inner, skipSpace text = '[' :: inner ∧ depth ≠ 0 ∧
      ListRun (Reads depth) (inner.length + 1) true inner items rest
  | depth + 1, text, .object fields, rest =>
    ∃ inner, skipSpace text = '\x7b' :: inner ∧ depth ≠ 0 ∧
      ObjectRun (Reads depth) (inner.length + 1) true inner fields rest
  | _ + 1, text, scalar, rest => readKind (skipSpace text) = .ok (scalar.kind, rest)

/-- What stands at the head of the text, by the kind that is found in it, and what is left. -/
def Kind.Opens (text rest : List Char) : Kind → Prop
  | .null => ∃ inner, text = 'n' :: inner ∧ readWord ['u', 'l', 'l'] inner = .ok rest
  | .boolean true => ∃ inner, text = 't' :: inner ∧ readWord ['r', 'u', 'e'] inner = .ok rest
  | .boolean false => ∃ inner, text = 'f' :: inner ∧ readWord ['a', 'l', 's', 'e'] inner = .ok rest
  | .number value =>
    (∃ inner, text = '-' :: inner ∧ readNumber true inner = .ok (value, rest)) ∨
      readNumber false text = .ok (value, rest)
  | .string value => ∃ inner, text = '"' :: inner ∧ readString inner = .ok (value, rest)
  | .sequence => ∃ inner, text = '[' :: inner ∧ rest = text
  | .map => ∃ inner, text = '\x7b' :: inner ∧ rest = text

theorem opens_of_readKind {text rest : List Char} {kind : Kind}
    (read : readKind text = .ok (kind, rest)) : kind.Opens text rest := by
  unfold readKind at read
  split at read
  · obtain ⟨behind, word, same⟩ := Checks.map_eq_ok_iff.mp read
    obtain ⟨rfl, rfl⟩ := Prod.mk.inj same
    exact ⟨_, rfl, word⟩
  · obtain ⟨behind, word, same⟩ := Checks.map_eq_ok_iff.mp read
    obtain ⟨rfl, rfl⟩ := Prod.mk.inj same
    exact ⟨_, rfl, word⟩
  · obtain ⟨behind, word, same⟩ := Checks.map_eq_ok_iff.mp read
    obtain ⟨rfl, rfl⟩ := Prod.mk.inj same
    exact ⟨_, rfl, word⟩
  · obtain ⟨⟨value, behind⟩, string, same⟩ := Checks.map_eq_ok_iff.mp read
    obtain ⟨rfl, rfl⟩ := Prod.mk.inj same
    exact ⟨_, rfl, string⟩
  · obtain ⟨rfl, rfl⟩ := Prod.mk.inj (Except.ok.inj read)
    exact ⟨_, rfl, rfl⟩
  · obtain ⟨rfl, rfl⟩ := Prod.mk.inj (Except.ok.inj read)
    exact ⟨_, rfl, rfl⟩
  · obtain ⟨⟨value, behind⟩, number, same⟩ := Checks.map_eq_ok_iff.mp read
    obtain ⟨rfl, rfl⟩ := Prod.mk.inj same
    exact .inl ⟨_, rfl, number⟩
  · cases read
  · split at read
    · obtain ⟨⟨value, behind⟩, number, same⟩ := Checks.map_eq_ok_iff.mp read
      obtain ⟨rfl, rfl⟩ := Prod.mk.inj same
      exact .inr number
    · cases read

section Reads

variable {depth : Nat} {text inner rest : List Char} {value : Value}

theorem reads_null_iff :
    Reads (depth + 1) text .null rest ↔
      ∃ inner, skipSpace text = 'n' :: inner ∧ readWord ['u', 'l', 'l'] inner = .ok rest := by
  constructor
  · intro read
    exact opens_of_readKind read
  · rintro ⟨inner, opened, word⟩
    change readKind (skipSpace text) = _
    rw [opened, readKind, word]
    rfl

theorem reads_string_iff {string : String} :
    Reads (depth + 1) text (.string string) rest ↔
      ∃ inner, skipSpace text = '"' :: inner ∧ readString inner = .ok (string, rest) := by
  constructor
  · intro read
    exact opens_of_readKind read
  · rintro ⟨inner, opened, found⟩
    change readKind (skipSpace text) = _
    rw [opened, readKind, found]
    rfl

theorem reads_list_iff (opened : skipSpace text = '[' :: inner) :
    Reads (depth + 1) text value rest ↔
      depth ≠ 0 ∧ ∃ items, ListRun (Reads depth) (inner.length + 1) true inner items rest ∧
        value = .array items := by
  constructor
  · intro read
    cases value with
    | array items =>
      obtain ⟨start, same, nested, run⟩ := read
      obtain rfl := (List.cons.inj (opened.symm.trans same)).2
      exact ⟨nested, items, run, rfl⟩
    | object fields =>
      obtain ⟨start, same, -⟩ := read
      simp [opened] at same
    | null | bool value | number value | string value =>
      rw [Reads, opened] at read
      · cases read
      all_goals simp
  · rintro ⟨nested, items, run, rfl⟩
    exact ⟨inner, opened, nested, run⟩

theorem reads_object_iff (opened : skipSpace text = '\x7b' :: inner) :
    Reads (depth + 1) text value rest ↔
      depth ≠ 0 ∧ ∃ fields, ObjectRun (Reads depth) (inner.length + 1) true inner fields rest ∧
        value = .object fields := by
  constructor
  · intro read
    cases value with
    | array items =>
      obtain ⟨start, same, -⟩ := read
      simp [opened] at same
    | object fields =>
      obtain ⟨start, same, nested, run⟩ := read
      obtain rfl := (List.cons.inj (opened.symm.trans same)).2
      exact ⟨nested, fields, run, rfl⟩
    | null | bool value | number value | string value =>
      rw [Reads, opened] at read
      · cases read
      all_goals simp
  · rintro ⟨nested, fields, run, rfl⟩
    exact ⟨inner, opened, nested, run⟩

theorem reads_scalar_iff (noList : ∀ inner, skipSpace text ≠ '[' :: inner)
    (noObject : ∀ inner, skipSpace text ≠ '\x7b' :: inner) :
    Reads (depth + 1) text value rest ↔ readKind (skipSpace text) = .ok (value.kind, rest) := by
  cases value with
  | array items =>
    constructor
    · rintro ⟨inner, same, -⟩
      exact absurd same (noList inner)
    · intro read
      obtain ⟨inner, same, -⟩ := opens_of_readKind read
      exact absurd same (noList inner)
  | object fields =>
    constructor
    · rintro ⟨inner, same, -⟩
      exact absurd same (noObject inner)
    · intro read
      obtain ⟨inner, same, -⟩ := opens_of_readKind read
      exact absurd same (noObject inner)
  | null | bool value | number value | string value => rfl

end Reads

section Collapse

variable {depth : Nat}
  (values : ∀ text value rest, taking (readValue depth) text value rest ↔
    ∃ entire, Reads depth text entire rest ∧ entire.collapse = value)
include values

theorem readItems_collapse {fuel : Nat} {text rest : List Char} {items : List Value} :
    readItems (readValue depth) fuel [] text = .ok (items, rest) ↔
      ∃ entire, ListRun (Reads depth) fuel true text entire rest ∧
        entire.map Tree.collapse = items := by
  simp only [readItems_eq_ok_iff, List.isEmpty_nil, listRun_iff_exists values, List.reverse_nil,
    List.nil_append]
  constructor
  · rintro ⟨_, ⟨entire, run, related⟩, rfl⟩
    exact ⟨entire, run, List.forall₂_eq_eq_eq ▸ List.forall₂_map_left_iff.mpr related⟩
  · rintro ⟨entire, run, rfl⟩
    refine ⟨_, ⟨entire, run, ?_⟩, rfl⟩
    exact List.forall₂_map_right_iff.mpr (List.forall₂_same.mpr fun _ _ => rfl)

theorem readEntries_collapse {fuel : Nat} {text rest : List Char}
    {fields : List (String × Value)} :
    readEntries (readValue depth) fuel [] text = .ok (fields, rest) ↔
      ∃ entire, ObjectRun (Reads depth) fuel true text entire rest ∧
        entire.map (fun field => (field.1, field.2.collapse)) = fields := by
  simp only [readEntries_eq_ok_iff, List.isEmpty_nil, objectRun_iff_exists values,
    List.reverse_nil, List.nil_append]
  constructor
  · rintro ⟨_, ⟨entire, run, related⟩, rfl⟩
    refine ⟨entire, run, ?_⟩
    rw [← List.forall₂_eq_eq_eq, List.forall₂_map_left_iff]
    exact related.imp fun _ _ same => Prod.ext same.1 same.2
  · rintro ⟨entire, run, rfl⟩
    refine ⟨_, ⟨entire, run, ?_⟩, rfl⟩
    exact List.forall₂_map_right_iff.mpr (List.forall₂_same.mpr fun _ _ => ⟨rfl, rfl⟩)

theorem readValue_list_iff {text inner rest : List Char} {value : Value}
    (opened : skipSpace text = '[' :: inner) :
    readValue (depth + 1) text = .ok (value, rest) ↔
      ∃ entire, Reads (depth + 1) text entire rest ∧ entire.collapse = value := by
  simp only [reads_list_iff opened]
  rw [readValue, opened]
  by_cases deepest : depth = 0
  · simp [deepest]
  · simp only [deepest, if_false, Checks.map_eq_ok_iff, Prod.exists, readItems_collapse values]
    constructor
    · rintro ⟨_, _, ⟨items, run, rfl⟩, same⟩
      obtain ⟨rfl, rfl⟩ := Prod.mk.inj same
      exact ⟨_, ⟨deepest, items, run, rfl⟩, Tree.collapse_array items⟩
    · rintro ⟨_, ⟨-, items, run, rfl⟩, rfl⟩
      exact ⟨_, _, ⟨items, run, rfl⟩, by rw [Tree.collapse_array]⟩

theorem readValue_object_iff {text inner rest : List Char} {value : Value}
    (opened : skipSpace text = '\x7b' :: inner) :
    readValue (depth + 1) text = .ok (value, rest) ↔
      ∃ entire, Reads (depth + 1) text entire rest ∧ entire.collapse = value := by
  simp only [reads_object_iff opened]
  rw [readValue, opened]
  by_cases deepest : depth = 0
  · simp [deepest]
  · simp only [deepest, if_false, Checks.map_eq_ok_iff, Prod.exists, readEntries_collapse values]
    constructor
    · rintro ⟨_, _, ⟨fields, run, rfl⟩, same⟩
      obtain ⟨rfl, rfl⟩ := Prod.mk.inj same
      exact ⟨_, ⟨deepest, fields, run, rfl⟩, Tree.collapse_object fields⟩
    · rintro ⟨_, ⟨-, fields, run, rfl⟩, rfl⟩
      exact ⟨_, _, ⟨fields, run, rfl⟩, by rw [Tree.collapse_object]⟩

end Collapse

theorem readValue_scalar_iff {depth : Nat} {text rest : List Char} {value : Value}
    (noList : ∀ inner, skipSpace text ≠ '[' :: inner)
    (noObject : ∀ inner, skipSpace text ≠ '\x7b' :: inner) :
    readValue (depth + 1) text = .ok (value, rest) ↔ Reads (depth + 1) text value rest := by
  rw [readValue, reads_scalar_iff noList noObject]
  split
  · next same => exact absurd same (noList _)
  · next same => exact absurd same (noObject _)
  · rw [Checks.bind_eq_ok_iff]
    constructor
    · rintro ⟨⟨kind, behind⟩, read, continued⟩
      have opens := opens_of_readKind read
      cases kind with
      | sequence =>
        obtain ⟨inner, same, -⟩ := opens
        exact absurd same (noList inner)
      | map =>
        obtain ⟨inner, same, -⟩ := opens
        exact absurd same (noObject inner)
      | null | boolean found | number found | string found =>
        obtain ⟨rfl, rfl⟩ := Prod.mk.inj (Except.ok.inj continued)
        exact read
    · intro read
      refine ⟨_, read, ?_⟩
      have opens := opens_of_readKind read
      cases value with
      | array items =>
        obtain ⟨inner, same, -⟩ := opens
        exact absurd same (noList inner)
      | object fields =>
        obtain ⟨inner, same, -⟩ := opens
        exact absurd same (noObject inner)
      | null | bool value | number value | string value => rfl

theorem collapse_eq_of_reads {depth : Nat} {text rest : List Char} {value : Value}
    (noList : ∀ inner, skipSpace text ≠ '[' :: inner)
    (noObject : ∀ inner, skipSpace text ≠ '\x7b' :: inner)
    (read : Reads (depth + 1) text value rest) : value.collapse = value := by
  cases value with
  | array items =>
    obtain ⟨inner, same, -⟩ := read
    exact absurd same (noList inner)
  | object fields =>
    obtain ⟨inner, same, -⟩ := read
    exact absurd same (noObject inner)
  | null | bool value | number value | string value => rfl

theorem readValue_eq_ok_iff {depth : Nat} {text rest : List Char} {value : Value} :
    readValue depth text = .ok (value, rest) ↔
      ∃ entire, Reads depth text entire rest ∧ entire.collapse = value := by
  induction depth generalizing text rest value with
  | zero =>
    constructor
    · intro failed
      cases failed
    · rintro ⟨_, impossible, -⟩
      exact impossible.elim
  | succ depth ih =>
    have values : ∀ text value rest, taking (readValue depth) text value rest ↔
        ∃ entire, Reads depth text entire rest ∧ entire.collapse = value := fun _ _ _ => ih
    by_cases isList : ∃ inner, skipSpace text = '[' :: inner
    · obtain ⟨inner, opened⟩ := isList
      exact readValue_list_iff values opened
    by_cases isObject : ∃ inner, skipSpace text = '\x7b' :: inner
    · obtain ⟨inner, opened⟩ := isObject
      exact readValue_object_iff values opened
    · have noList := not_exists.mp isList
      have noObject := not_exists.mp isObject
      rw [readValue_scalar_iff noList noObject]
      constructor
      · intro read
        exact ⟨value, read, collapse_eq_of_reads noList noObject read⟩
      · rintro ⟨entire, read, rfl⟩
        rw [collapse_eq_of_reads noList noObject read]
        exact read

/-- A text is accepted if one value is its whole but for space, and what counts is the collapsed
value. -/
theorem parse_eq_ok_iff {text : String} {value : Value} :
    parse text = .ok value ↔
      ∃ entire rest, Reads depthLimit text.toList entire rest ∧ skipSpace rest = [] ∧
        entire.collapse = value := by
  rw [parse, Checks.mapError_eq_ok_iff, parseWithin, Checks.bind_eq_ok_iff]
  constructor
  · rintro ⟨⟨found, rest⟩, read, ended⟩
    obtain ⟨entire, reads, rfl⟩ := readValue_eq_ok_iff.mp read
    dsimp only at ended
    split at ended
    · next blank => exact ⟨entire, rest, reads, blank, Except.ok.inj ended⟩
    · cases ended
  · rintro ⟨entire, rest, reads, blank, rfl⟩
    refine ⟨(entire.collapse, rest), readValue_eq_ok_iff.mpr ⟨entire, reads, rfl⟩, ?_⟩
    dsimp only
    rw [blank]

end NodeGen.Json
