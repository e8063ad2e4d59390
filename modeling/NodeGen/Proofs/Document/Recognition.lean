import NodeGen.Proofs.Document.Agreement
import NodeGen.Proofs.Document.Encoding
import NodeGen.Proofs.Json.Soundness

/-! Texts that are recognised as documents. A document is written as an object with its fields, or
as a list of the first of them in their order. A reader that gives a document has found one of its
texts; what follows the text is left, and it does not matter what that is. -/

set_option autoImplicit false

namespace NodeGen.Document

open Json Json.Grammar

section Readers

theorem derives_readText : Derives readText StringText := by
  intro text value rest read
  unfold readText at read
  split at read
  · next opened =>
    obtain ⟨space, blank, rfl⟩ := exists_space opened
    obtain ⟨inner, form, rfl⟩ := exists_stringText read
    exact ⟨space, '"' :: inner, blank, form, rfl⟩
  · exact absurd read refuse_ne_ok

theorem derives_readPackage : Derives readPackage PackageText := by
  intro text value rest read
  unfold readPackage at read
  split at read
  · next opened =>
    obtain ⟨space, blank, rfl⟩ := exists_space opened
    obtain ⟨behind, word, same⟩ := Checks.map_eq_ok_iff.mp read
    obtain ⟨rfl, rfl⟩ := Prod.mk.inj same
    exact ⟨space, ['n', 'u', 'l', 'l'], blank, .null, by rw [eq_of_readWord word]; rfl⟩
  · obtain ⟨⟨name, behind⟩, named, same⟩ := Checks.map_eq_ok_iff.mp read
    obtain ⟨rfl, rfl⟩ := Prod.mk.inj same
    rw [readText_skipSpace] at named
    obtain ⟨space, inner, blank, form, rfl⟩ := derives_readText named
    exact ⟨space, inner, blank, .named form, rfl⟩

theorem derives_readImports : Derives readImports (ArrayText StringText) := by
  intro text value rest read
  unfold readImports at read
  split at read
  · next opened =>
    obtain ⟨space, blank, rfl⟩ := exists_space opened
    obtain ⟨inner, form, rfl⟩ := exists_arrayText derives_readText read
    exact ⟨space, '[' :: inner, blank, form, rfl⟩
  · exact absurd read refuse_ne_ok

variable {Item Value : Type} {item : List Char → Result Item} {form : Item → List Char → Prop}

theorem derives_readMap (derives : Derives item form) :
    Derives (readMap item) (ObjectText form) := by
  intro text value rest read
  unfold readMap at read
  split at read
  · next opened =>
    obtain ⟨space, blank, rfl⟩ := exists_space opened
    obtain ⟨inner, form, rfl⟩ := exists_objectText derives read
    exact ⟨space, '\x7b' :: inner, blank, form, rfl⟩
  · exact absurd read refuse_ne_ok

/-- A reader whose value is another form of what was read. -/
theorem Derives.map (derives : Derives item form) {encode : Value → Item} {decode : Item → Value}
    (inverse : ∀ read, encode (decode read) = read) :
    Derives (fun text => (item text).map fun read => (decode read.1, read.2))
      (fun value => form (encode value)) := by
  intro text value rest read
  obtain ⟨⟨found, behind⟩, taken, same⟩ := Checks.map_eq_ok_iff.mp read
  obtain ⟨rfl, rfl⟩ := Prod.mk.inj same
  obtain ⟨space, inner, blank, ofFound, rfl⟩ := derives taken
  refine ⟨space, inner, blank, ?_, rfl⟩
  simpa only [inverse] using ofFound

theorem derives_readVariant : Derives readVariant FieldsText :=
  Derives.map (derives_readMap derives_readText) fun entries => by
    rw [List.map_map]
    exact List.map_id entries

theorem derives_readBase : Derives readBase VariantsText :=
  Derives.map (derives_readMap derives_readVariant) fun entries => by
    rw [List.map_map]
    exact List.map_id entries

theorem derives_readTypes : Derives readTypes TypesText :=
  Derives.map (derives_readMap derives_readBase) fun entries => by
    rw [List.map_map]
    exact List.map_id entries

end Readers

section Objects

variable {fuel : Nat} {first : Bool} {fields : Partial} {text rest : List Char}
  {document : Document}

/-- A field whose value was read, as a member of the document. -/
theorem exists_memberText {Item : Type} {reader : List Char → Result Item} (wrap : Item → Member)
    (derives : Derives reader fun item => (wrap item).ValueText) {item : Item}
    {behind start : List Char} (started : nextKey first text = .ok (some (wrap item).key, behind))
    (colon : readColon behind = .ok start) (read : reader start = .ok (item, rest)) :
    ∃ gap inner, Gap first gap ∧ (wrap item).Text inner ∧ text = gap ++ (inner ++ rest) := by
  have step : EntryStep (taking reader) first text ((wrap item).key, item) rest :=
    ⟨behind, start, started, colon, read⟩
  obtain ⟨gap, inner, ofGap, ofEntry, rfl⟩ := exists_entryText derives step
  obtain ⟨ofKey, before, after, ofValue⟩ := ofEntry
  exact ⟨gap, _, ofGap, .colon ofKey before after ofValue, rfl⟩

/-- What a step over an object does: it ends, or a member goes into its place, which was free. -/
theorem readFields_cases (read : readFields (fuel + 1) first fields text = .ok (document, rest)) :
    (skipSpace text = '\x7d' :: rest ∧ fields.document = document) ∨
    ∃ (member : Member) (gap inner behind : List Char), Gap first gap ∧ member.Text inner ∧
      text = gap ++ (inner ++ behind) ∧ fields.has member.key = false ∧
      readFields fuel false (fields.extend member) behind = .ok (document, rest) := by
  obtain ⟨⟨_ | key, behind⟩, started, continued⟩ := Checks.bind_eq_ok_iff.mp read
  · obtain ⟨rfl, rfl⟩ := Prod.mk.inj (Except.ok.inj continued)
    exact .inl ⟨nextKey_end_iff.mp (within_eq_ok_iff.mp started), rfl⟩
  rw [within_eq_ok_iff] at started
  dsimp only at continued
  split at continued
  · cases continued
  split at continued
  · cases continued
  next known occupied =>
  have free : fields.has key = false := Bool.eq_false_iff.mpr occupied
  obtain ⟨start, colon, continued⟩ := Checks.bind_eq_ok_iff.mp continued
  refine .inr ?_
  split at continued
  · next isPackage =>
    obtain rfl := isPackage
    obtain ⟨⟨package, after⟩, taken, later⟩ := Checks.bind_eq_ok_iff.mp continued
    obtain ⟨gap, inner, ofGap, form, rfl⟩ := exists_memberText .package
      derives_readPackage started colon (within_eq_ok_iff.mp taken)
    exact ⟨.package package, gap, inner, after, ofGap, form, rfl, free, later⟩
  split at continued
  · next isImports =>
    obtain rfl := isImports
    obtain ⟨⟨imports, after⟩, taken, later⟩ := Checks.bind_eq_ok_iff.mp continued
    obtain ⟨gap, inner, ofGap, form, rfl⟩ := exists_memberText .imports
      derives_readImports started colon (within_eq_ok_iff.mp taken)
    exact ⟨.imports imports, gap, inner, after, ofGap, form, rfl, free, later⟩
  · next notPackage notImports =>
    obtain rfl : key = "types" := by simpa [fieldNames, notPackage, notImports] using known
    obtain ⟨⟨types, after⟩, taken, later⟩ := Checks.bind_eq_ok_iff.mp continued
    obtain ⟨gap, inner, ofGap, form, rfl⟩ := exists_memberText .types
      derives_readTypes started colon (within_eq_ok_iff.mp taken)
    exact ⟨.types types, gap, inner, after, ofGap, form, rfl, free, later⟩

theorem exists_members (read : readFields fuel first fields text = .ok (document, rest)) :
    ∃ (listed : List Member) (inner : List Char), Items Member.Text first listed inner ∧
      text = inner ++ '\x7d' :: rest ∧ (listed.map Member.key).Nodup ∧
      (∀ member ∈ listed, fields.has member.key = false) ∧
      (listed.foldl Partial.extend fields).document = document := by
  induction fuel generalizing first fields text with
  | zero => cases read
  | succ fuel ih =>
    obtain ⟨ended, same⟩ | ⟨member, gap, inner, behind, ofGap, form, rfl, free, later⟩ :=
      readFields_cases read
    · obtain ⟨space, blank, rfl⟩ := exists_space ended
      exact ⟨[], space, .done blank, rfl, List.nodup_nil, nofun, same⟩
    · obtain ⟨listed, others, items, rfl, apart, unread, same⟩ := ih later
      obtain ⟨distinct, unread⟩ := Partial.nodup_of_unread free apart unread
      exact ⟨member :: listed, gap ++ (inner ++ others), .next ofGap form items, by simp, distinct,
        unread, same⟩

theorem Partial.Gives.mem {fields : Partial} {member : Member} (gives : fields.Gives member) :
    member ∈ fields.document.members := by
  cases member with
  | package value => simp [members, show fields.document.package = value from gives]
  | imports values => simp [members, show fields.document.imports = values from gives]
  | types values => simp [members, show fields.document.types = values from gives]

/-- A field that was not read is empty in the document. -/
theorem Partial.isEmpty_of_mem {fields : Partial} {member : Member}
    (inside : member ∈ fields.document.members) (absent : fields.has member.key = false) :
    member.IsEmpty := by
  simp only [members, List.mem_cons, List.not_mem_nil, or_false] at inside
  obtain rfl | rfl | rfl := inside <;>
    simp_all [has, Member.key, Member.IsEmpty, Partial.document]

theorem eq_of_key_eq {member other : Member} (inside : member ∈ document.members)
    (present : other ∈ document.members) (same : member.key = other.key) : member = other := by
  have apart : (document.members.map Member.key).Nodup := by simp [members, Member.key]
  exact List.inj_on_of_nodup_map apart inside present same

/-- The members that were read and those that were not make up the document. -/
theorem exists_omitted {listed : List Member} (distinct : (listed.map Member.key).Nodup) :
    ∃ omitted, (listed ++ omitted).Perm (listed.foldl Partial.extend .empty).document.members ∧
      ∀ member ∈ omitted, member.IsEmpty := by
  generalize whole : listed.foldl Partial.extend .empty = fields
  have given : ∀ member ∈ listed, member ∈ fields.document.members := by
    intro member inside
    exact whole ▸ (Partial.holds_foldl_of_mem distinct .empty inside).gives.mem
  have membersApart : fields.document.members.Nodup := by
    have keys : (fields.document.members.map Member.key).Nodup := by simp [members, Member.key]
    exact keys.of_map
  refine ⟨fields.document.members.filter fun member => member.key ∉ listed.map Member.key, ?_, ?_⟩
  · refine (List.perm_ext_iff_of_nodup ?_ membersApart).mpr fun member => ?_
    · refine List.nodup_append.mpr ⟨distinct.of_map, membersApart.filter _, ?_⟩
      rintro member read _ left rfl
      exact of_decide_eq_true (List.mem_filter.mp left).2 (List.mem_map_of_mem read)
    · rw [List.mem_append, List.mem_filter, decide_eq_true_iff]
      constructor
      · rintro (read | ⟨inside, -⟩)
        · exact given member read
        · exact inside
      · intro inside
        by_cases known : member.key ∈ listed.map Member.key
        · obtain ⟨other, read, same⟩ := List.mem_map.mp known
          exact .inl (eq_of_key_eq (given other read) inside same ▸ read)
        · exact .inr ⟨inside, known⟩
  · intro member left
    obtain ⟨inside, unread⟩ := List.mem_filter.mp left
    refine Partial.isEmpty_of_mem inside ?_
    rw [← whole, Partial.has_foldl (of_decide_eq_true unread)]
    cases member <;> rfl

end Objects

/-- The text of a list with the first fields of the document in their order; the others are
empty. -/
inductive ListText (document : Document) : List Char → Prop
  | bracketed {listed omitted : List Member} {before inner after : List Char} :
    listed ++ omitted = document.members → (∀ member ∈ omitted, member.IsEmpty) →
    Space before → Items Member.ValueText true listed inner → Space after →
    ListText document (before ++ '[' :: (inner ++ ']' :: after))

section Lists

variable {text rest : List Char} {document : Document}

/-- A place in the list: the list ends before it, or it is filled and more may follow. -/
theorem readPlace_cases {Item : Type} {reader : List Char → Result Item} (wrap : Item → Member)
    (derives : Derives reader fun item => (wrap item).ValueText) {first : Bool} {segment : Segment}
    {absent : Document} {goOn : Bool × List Char → Except Fault (Document × List Char)}
    {next : Item × List Char → Except Fault (Document × List Char)}
    (ends : ∀ rest, goOn (false, rest) = .ok (absent, rest))
    (goes : ∀ start, goOn (true, start) = within segment (reader start) >>= next)
    (read : (show Except Fault _ from nextItem first text) >>= goOn = .ok (document, rest)) :
    (∃ space, Space space ∧ text = space ++ ']' :: rest ∧ absent = document) ∨
    ∃ item gap inner behind, Gap first gap ∧ (wrap item).ValueText inner ∧
      text = gap ++ (inner ++ behind) ∧ next (item, behind) = .ok (document, rest) := by
  obtain ⟨⟨_ | _, start⟩, started, continued⟩ := Checks.bind_eq_ok_iff.mp read
  · obtain ⟨same, rfl⟩ := Prod.mk.inj (Except.ok.inj ((ends start).symm.trans continued))
    obtain ⟨space, blank, rfl⟩ := exists_space (nextItem_end_iff.mp started)
    exact .inl ⟨space, blank, rfl, same⟩
  · rw [goes, Checks.bind_eq_ok_iff] at continued
    obtain ⟨⟨item, behind⟩, taken, later⟩ := continued
    obtain ⟨gap, ofGap, rfl⟩ := exists_gap started
    obtain ⟨space, inner, blank, ofValue, rfl⟩ := derives (within_eq_ok_iff.mp taken)
    exact .inr ⟨item, gap ++ space, inner, behind, Gap.append ofGap blank, ofValue, by simp, later⟩

theorem exists_places (read : readPositional text = .ok (document, rest)) :
    ∃ (listed omitted : List Member) (inner : List Char), listed ++ omitted = document.members ∧
      (∀ member ∈ omitted, member.IsEmpty) ∧ Items Member.ValueText true listed inner ∧
      text = inner ++ ']' :: rest := by
  -- The list may end before each of the three places, and has to end behind the last.
  obtain ⟨space, blank, rfl, rfl⟩ | ⟨package, gap, _, _, afterGap, ofPackage, rfl, fromImports⟩ :=
    readPlace_cases .package derives_readPackage (fun _ => rfl) (fun _ => rfl) read
  · exact ⟨[], _, space, rfl, by simp [Member.IsEmpty, empty], .done blank, rfl⟩
  obtain ⟨space, blank, rfl, rfl⟩ | ⟨imports, comma, _, _, afterComma, ofImports, rfl, fromTypes⟩ :=
    readPlace_cases .imports derives_readImports (fun _ => rfl) (fun _ => rfl) fromImports
  · exact ⟨[_], _, _, rfl, by simp [Member.IsEmpty], .next afterGap ofPackage (.done blank),
      by simp⟩
  obtain ⟨space, blank, rfl, rfl⟩ | ⟨types, mark, _, _, afterMark, ofTypes, rfl, fromEnd⟩ :=
    readPlace_cases .types derives_readTypes (fun _ => rfl) (fun _ => rfl) fromTypes
  · exact ⟨[_, _], _, _, rfl, by simp [Member.IsEmpty],
      .next afterGap ofPackage (.next afterComma ofImports (.done blank)), by simp⟩
  obtain ⟨after, ended, same⟩ := Checks.bind_eq_ok_iff.mp fromEnd
  obtain ⟨rfl, rfl⟩ := Prod.mk.inj (Except.ok.inj same)
  obtain ⟨space, blank, rfl⟩ := exists_space (readListEnd_eq_ok_iff.mp ended)
  exact ⟨[_, _, _], [], _, rfl, by simp,
    .next afterGap ofPackage (.next afterComma ofImports (.next afterMark ofTypes (.done blank))),
    by simp⟩

/-- A place that is filled is read, and what follows it is left for the next. -/
theorem readPlace_eq {Item : Type} {reader : List Char → Result Item}
    {form : Item → List Char → Prop} (accepts : Accepts reader form) {first : Bool}
    {segment : Segment} {goOn : Bool × List Char → Except Fault (Document × List Char)}
    {next : Item × List Char → Except Fault (Document × List Char)}
    (goes : ∀ start, goOn (true, start) = within segment (reader start) >>= next)
    {gap : List Char} (ofGap : Gap first gap) {item : Item} (ofItem : form item text) :
    (show Except Fault _ from nextItem first (gap ++ (text ++ rest))) >>= goOn =
      next (item, rest) := by
  have read : reader (text ++ rest) = .ok (item, rest) := accepts.reads space_nil ofItem rest
  rw [nextItem_accepts accepts ofGap ofItem]
  change goOn (true, text ++ rest) = _
  rw [goes, read]
  rfl

theorem readPositional_eq_ok {listed omitted : List Member} {inner : List Char}
    (complete : listed ++ omitted = document.members)
    (empty : ∀ member ∈ omitted, member.IsEmpty)
    (items : Items Member.ValueText true listed inner) (rest : List Char) :
    readPositional (inner ++ ']' :: rest) = .ok (document, rest) := by
  obtain ⟨package, imports, types⟩ := document
  cases items with
  | done blank =>
    obtain rfl : omitted = _ := complete
    obtain ⟨rfl, rfl, rfl⟩ : package = none ∧ imports = [] ∧ types = [] := by
      simpa [members, Member.IsEmpty] using empty
    rw [readPositional, nextItem_end true blank]
    rfl
  | next ofGap ofPackage items =>
    obtain ⟨rfl, fromImports⟩ := List.cons.inj complete
    rw [List.append_assoc, List.append_assoc]
    refine (readPlace_eq accepts_readPackage (fun _ => rfl) ofGap ofPackage).trans ?_
    cases items with
    | done blank =>
      obtain rfl : omitted = _ := fromImports
      obtain ⟨rfl, rfl⟩ : imports = [] ∧ types = [] := by
        simpa [Member.IsEmpty] using empty
      dsimp only
      rw [nextItem_end false blank]
      rfl
    | next ofGap ofImports items =>
      obtain ⟨rfl, fromTypes⟩ := List.cons.inj fromImports
      rw [List.append_assoc, List.append_assoc]
      refine (readPlace_eq accepts_readImports (fun _ => rfl) ofGap ofImports).trans ?_
      cases items with
      | done blank =>
        obtain rfl : omitted = _ := fromTypes
        obtain rfl : types = [] := by simpa [Member.IsEmpty] using empty
        dsimp only
        rw [nextItem_end false blank]
        rfl
      | next ofGap ofTypes items =>
        obtain ⟨rfl, fromEnd⟩ := List.cons.inj fromTypes
        rw [List.append_assoc, List.append_assoc]
        refine (readPlace_eq accepts_readTypes (fun _ => rfl) ofGap ofTypes).trans ?_
        cases items with
        | done blank =>
          have ended := nextItem_end_iff.mp (nextItem_end false blank rest)
          dsimp only
          rw [readListEnd_eq_ok_iff.mpr ended]
          rfl
        | next _ _ _ => cases fromEnd

end Lists

/-- The text as a whole is the document in one of its two forms, with nothing but space around
it. -/
def EntireText (document : Document) (text : List Char) : Prop :=
  document.Text text ∨ document.ListText text

section Recognition

variable {text rest : List Char} {document : Document}

theorem read_listText_append (form : document.ListText text) (rest : List Char) :
    ∃ after, Space after ∧ read (text ++ rest) = .ok (document, after ++ rest) := by
  obtain ⟨complete, empty, blank, items, behind⟩ := form
  refine ⟨_, behind, ?_⟩
  rw [List.append_assoc, List.cons_append, List.append_assoc, List.cons_append, read,
    skipSpace_append blank, skipSpace_cons (by decide)]
  exact readPositional_eq_ok complete empty items _

theorem read_entireText_append (form : document.EntireText text) (rest : List Char) :
    ∃ after, Space after ∧ read (text ++ rest) = .ok (document, after ++ rest) :=
  form.elim (read_text_append · rest) (read_listText_append · rest)

theorem exists_entireText (found : read text = .ok (document, rest)) :
    ∃ front, document.EntireText front ∧ text = front ++ rest := by
  unfold read at found
  split at found
  · next opened =>
    obtain ⟨space, blank, rfl⟩ := exists_space opened
    obtain ⟨listed, inner, items, rfl, distinct, -, rfl⟩ := exists_members found
    obtain ⟨omitted, complete, empty⟩ := exists_omitted distinct
    exact ⟨_, .inl (.braced complete empty blank items space_nil), by simp⟩
  · next opened =>
    obtain ⟨space, blank, rfl⟩ := exists_space opened
    obtain ⟨listed, omitted, inner, complete, empty, items, rfl⟩ := exists_places found
    exact ⟨_, .inr (.bracketed complete empty blank items space_nil), by simp⟩
  · exact absurd found refuse_ne_ok

/-- A text is read as a document if it begins with a whole text of the document. -/
theorem parse_eq_ok_iff_begins {text : String} :
    parse text = .ok document ↔
      ∃ front rest, text.toList = front ++ rest ∧ document.EntireText front := by
  constructor
  · intro parsed
    unfold parse at parsed
    split at parsed
    · next found =>
      obtain rfl := Except.ok.inj parsed
      obtain ⟨front, form, whole⟩ := exists_entireText found
      exact ⟨front, _, whole, form⟩
    · cases parsed
  · rintro ⟨front, rest, whole, form⟩
    obtain ⟨after, -, found⟩ := read_entireText_append form rest
    rw [parse, whole, found]

end Recognition

end NodeGen.Document
