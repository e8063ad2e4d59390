import NodeGen.Document.Reader
import NodeGen.Proofs.Json.Completeness

/-! Documents and their JSON texts. A document has many texts: its fields come in any order, what is
empty may be left out, space and escapes are free; repeated names stand in the text as often as in
the document. Every one of these texts is read back as the document. -/

set_option autoImplicit false

namespace NodeGen.Document

open Json Json.Grammar

def FieldsText (fields : List Source.Field) : List Char → Prop :=
  ObjectText StringText (fields.map fun field => (field.name, field.typeText))

def VariantsText (variants : List Source.Variant) : List Char → Prop :=
  ObjectText FieldsText (variants.map fun variant => (variant.name, variant.fields))

def TypesText (types : List Source.BaseType) : List Char → Prop :=
  ObjectText VariantsText (types.map fun base => (base.name, base.variants))

/-- A package that is absent may be written as null. -/
inductive PackageText : Option String → List Char → Prop
  | null : PackageText none ['n', 'u', 'l', 'l']
  | named {name : String} {text : List Char} : StringText name text → PackageText (some name) text

/-- A field of a document with its value. -/
inductive Member where
  | package (value : Option String)
  | imports (values : List String)
  | types (values : List Source.BaseType)

namespace Member

def key : Member → String
  | package _ => "package"
  | imports _ => "imports"
  | types _ => "types"

def ValueText : Member → List Char → Prop
  | package value => PackageText value
  | imports values => ArrayText StringText values
  | types values => TypesText values

def Text (member : Member) : List Char → Prop :=
  EntryText ValueText (member.key, member)

def IsEmpty : Member → Prop
  | package value => value = none
  | imports values => values = []
  | types values => values = []

end Member

def members (document : Document) : List Member :=
  [.package document.package, .imports document.imports, .types document.types]

theorem nodup_keys {document : Document} {listed omitted : List Member}
    (complete : (listed ++ omitted).Perm document.members) :
    (listed.map Member.key ++ omitted.map Member.key).Nodup := by
  rw [← List.map_append]
  exact (complete.map _).nodup_iff.mpr (by simp [members, Member.key])

/-- The text of an object with the fields of the document, in some order; fields that are left out
are empty. -/
inductive Text (document : Document) : List Char → Prop
  | braced {listed omitted : List Member} {before inner after : List Char} :
    (listed ++ omitted).Perm document.members → (∀ member ∈ omitted, member.IsEmpty) →
    Space before → Items Member.Text true listed inner → Space after →
    Text document (before ++ '\x7b' :: (inner ++ '\x7d' :: after))

section Readers

theorem accepts_readText : Accepts readText StringText where
  reads blank form rest := by
    obtain ⟨chars⟩ := form
    rw [readText, skipSpace_append blank, List.cons_append, List.cons_append, List.append_assoc,
      skipSpace_cons (by decide)]
    exact readString_eq_ok chars rest
  opens form := by
    obtain ⟨chars⟩ := form
    exact ⟨_, _, rfl, by decide, by decide⟩

variable {Item Value : Type} {item : List Char → Result Item} {form : Item → List Char → Prop}

theorem accepts_readMap (accepts : Accepts item form) : Accepts (readMap item) (ObjectText form) where
  reads blank ofObject rest := by
    obtain ⟨listed⟩ := ofObject
    rw [readMap, skipSpace_append blank, List.cons_append, List.cons_append, List.append_assoc,
      skipSpace_cons (by decide)]
    refine readEntries_eq_ok accepts listed ?_ rfl rest
    simp only [List.length_append, List.length_cons]
    omega
  opens ofObject := by
    obtain ⟨listed⟩ := ofObject
    exact ⟨_, _, rfl, by decide, by decide⟩

theorem accepts_readPackage : Accepts readPackage PackageText where
  reads blank ofPackage rest := by
    cases ofPackage with
    | null =>
      rw [readPackage, skipSpace_append blank]
      rfl
    | named ofName =>
      have read := accepts_readText.reads space_nil ofName rest
      obtain ⟨chars⟩ := ofName
      rw [readPackage, skipSpace_append blank, List.cons_append, List.cons_append,
        skipSpace_cons (by decide)]
      exact congrArg (Except.map _) read
  opens ofPackage := by
    cases ofPackage with
    | null => exact ⟨_, _, rfl, by decide, by decide⟩
    | named ofName => exact accepts_readText.opens ofName

theorem accepts_readImports : Accepts readImports (ArrayText StringText) where
  reads blank ofArray rest := by
    obtain ⟨listed⟩ := ofArray
    rw [readImports, skipSpace_append blank, List.cons_append, List.cons_append, List.append_assoc,
      skipSpace_cons (by decide)]
    refine readItems_eq_ok accepts_readText listed ?_ rfl rest
    simp only [List.length_append, List.length_cons]
    omega
  opens ofArray := by
    obtain ⟨listed⟩ := ofArray
    exact ⟨_, _, rfl, by decide, by decide⟩

/-- A reader whose value is another form of what was read. -/
theorem Accepts.map (accepts : Accepts item form) {encode : Value → Item} {decode : Item → Value}
    (inverse : ∀ value, decode (encode value) = value) :
    Accepts (fun text => (item text).map fun read => (decode read.1, read.2))
      (fun value => form (encode value)) where
  reads blank ofValue rest := by
    simp only [accepts.reads blank ofValue rest, Except.map, inverse]
  opens ofValue := accepts.opens ofValue

theorem accepts_readVariant : Accepts readVariant FieldsText :=
  Accepts.map (accepts_readMap accepts_readText) fun fields => by
    rw [List.map_map]
    exact List.map_id fields

theorem accepts_readBase : Accepts readBase VariantsText :=
  Accepts.map (accepts_readMap accepts_readVariant) fun variants => by
    rw [List.map_map]
    exact List.map_id variants

theorem accepts_readTypes : Accepts readTypes TypesText :=
  Accepts.map (accepts_readMap accepts_readBase) fun types => by
    rw [List.map_map]
    exact List.map_id types

end Readers

namespace Partial

/-- The fields read so far and one more. -/
def extend (fields : Partial) : Member → Partial
  | .package value => { fields with package := some value }
  | .imports values => { fields with imports := some values }
  | .types values => { fields with types := some values }

def Holds (fields : Partial) : Member → Prop
  | .package value => fields.package = some value
  | .imports values => fields.imports = some values
  | .types values => fields.types = some values

theorem holds_extend_self (fields : Partial) (member : Member) :
    (fields.extend member).Holds member := by
  cases member <;> rfl

theorem Holds.extend {fields : Partial} {member other : Member} (holds : fields.Holds member)
    (different : member.key ≠ other.key) : (fields.extend other).Holds member := by
  cases member <;> cases other <;> first | exact holds | exact absurd rfl different

theorem has_extend_of_ne (fields : Partial) {key : String} {member : Member}
    (different : key ≠ member.key) : (fields.extend member).has key = fields.has key := by
  cases member <;> simp_all [extend, has, Member.key]

theorem has_extend_self (fields : Partial) (member : Member) :
    (fields.extend member).has member.key = true := by
  cases member <;> rfl

/-- Members that find their places free one after another are of different fields. -/
theorem nodup_of_unread {fields : Partial} {member : Member} {others : List Member}
    (free : fields.has member.key = false) (apart : (others.map Member.key).Nodup)
    (unread : ∀ other ∈ others, (fields.extend member).has other.key = false) :
    ((member :: others).map Member.key).Nodup ∧
      ∀ other ∈ member :: others, fields.has other.key = false := by
  have fresh : ∀ other ∈ others, other.key ≠ member.key := by
    intro other inside equal
    have read := has_extend_self fields member
    rw [← equal, unread other inside] at read
    cases read
  constructor
  · refine List.nodup_cons.mpr ⟨fun again => ?_, apart⟩
    obtain ⟨other, inside, equal⟩ := List.mem_map.mp again
    exact fresh other inside equal
  · refine List.forall_mem_cons.mpr ⟨free, fun other inside => ?_⟩
    rw [← has_extend_of_ne fields (fresh other inside), unread other inside]

theorem Holds.foldl {fields : Partial} {member : Member} (holds : fields.Holds member)
    {listed : List Member} (absent : member.key ∉ listed.map Member.key) :
    (listed.foldl Partial.extend fields).Holds member := by
  induction listed generalizing fields with
  | nil => exact holds
  | cons first rest ih =>
    rw [List.map_cons, List.mem_cons, not_or] at absent
    exact ih (holds.extend absent.1) absent.2

theorem holds_foldl_of_mem {listed : List Member} (distinct : (listed.map Member.key).Nodup)
    (fields : Partial) {member : Member} (inside : member ∈ listed) :
    (listed.foldl extend fields).Holds member := by
  induction listed generalizing fields with
  | nil => cases inside
  | cons first rest ih =>
    obtain ⟨fresh, apart⟩ := List.nodup_cons.mp distinct
    obtain rfl | later := List.mem_cons.mp inside
    · exact (holds_extend_self fields member).foldl fresh
    · exact ih apart (fields.extend first) later

theorem has_foldl {listed : List Member} {key : String} (absent : key ∉ listed.map Member.key)
    (fields : Partial) : (listed.foldl extend fields).has key = fields.has key := by
  induction listed generalizing fields with
  | nil => rfl
  | cons first rest ih =>
    rw [List.map_cons, List.mem_cons, not_or] at absent
    rw [List.foldl_cons, ih absent.2, has_extend_of_ne fields absent.1]

/-- The document has the member's value in its place. -/
def Gives (fields : Partial) : Member → Prop
  | .package value => fields.document.package = value
  | .imports values => fields.document.imports = values
  | .types values => fields.document.types = values

theorem Holds.gives {fields : Partial} {member : Member} (holds : fields.Holds member) :
    fields.Gives member := by
  cases member with
  | package value => exact congrArg (·.getD none) holds
  | imports values => exact congrArg (·.getD []) holds
  | types values => exact congrArg (·.getD []) holds

theorem gives_of_isEmpty {fields : Partial} {member : Member} (absent : fields.has member.key = false)
    (empty : member.IsEmpty) : fields.Gives member := by
  cases member <;>
    simp_all [has, Member.key, Member.IsEmpty, Gives, document]

theorem document_foldl {document : Document} {listed omitted : List Member}
    (complete : (listed ++ omitted).Perm document.members)
    (empty : ∀ member ∈ omitted, member.IsEmpty) :
    (listed.foldl extend .empty).document = document := by
  obtain ⟨apart, -, separate⟩ := List.nodup_append.mp (nodup_keys complete)
  have gives : ∀ member ∈ document.members, (listed.foldl extend .empty).Gives member := by
    intro member inside
    obtain held | left := List.mem_append.mp (complete.mem_iff.mpr inside)
    · exact (holds_foldl_of_mem apart _ held).gives
    · have unread : member.key ∉ listed.map Member.key := by
        intro read
        exact separate _ read _ (List.mem_map_of_mem left) rfl
      refine gives_of_isEmpty ?_ (empty member left)
      rw [has_foldl unread]
      cases member <;> rfl
  have package : Gives _ (.package document.package) := gives _ (by simp [members])
  have imports : Gives _ (.imports document.imports) := gives _ (by simp [members])
  have types : Gives _ (.types document.types) := gives _ (by simp [members])
  exact congr (congr (congrArg Document.mk package) imports) types

end Partial

/-- One field of the object: it goes into its place, which was free. -/
theorem readFields_step {member : Member} {first : Bool} {gap text : List Char}
    (ofGap : Gap first gap) (ofMember : member.Text text) {fields : Partial}
    (free : fields.has member.key = false) (fuel : Nat) (rest : List Char) :
    readFields (fuel + 1) first fields (gap ++ (text ++ rest)) =
      readFields fuel false (fields.extend member) rest := by
  obtain ⟨behind, space, inner, found, colon, blank, ofValue⟩ := read_key ofGap ofMember rest
  have known : member.key ∈ fieldNames := by cases member <;> simp [Member.key, fieldNames]
  rw [readFields, found]
  simp only [within_ok, bind, Except.bind, known, not_true_eq_false, if_false, free,
    Bool.false_eq_true, colon]
  cases member with
  | package value =>
    simp [Member.key, Partial.extend, accepts_readPackage.reads blank ofValue rest]
  | imports values =>
    simp [Member.key, Partial.extend, accepts_readImports.reads blank ofValue rest]
  | types values =>
    simp [Member.key, Partial.extend, accepts_readTypes.reads blank ofValue rest]

theorem readFields_eq_ok {first : Bool} {listed : List Member} {text : List Char}
    (items : Items Member.Text first listed text) {fuel : Nat} (enough : text.length < fuel)
    {fields : Partial} (distinct : (listed.map Member.key).Nodup)
    (free : ∀ member ∈ listed, fields.has member.key = false) (rest : List Char) :
    readFields fuel first fields (text ++ '\x7d' :: rest) =
      .ok ((listed.foldl Partial.extend fields).document, rest) := by
  induction items generalizing fuel fields with
  | done blank =>
    obtain ⟨fuel, rfl⟩ : ∃ less, fuel = less + 1 := ⟨fuel - 1, by omega⟩
    rw [readFields, nextKey_end _ blank]
    simp [bind, Except.bind]
  | @next first member listed gap text others ofGap ofMember _ ih =>
    obtain ⟨fuel, rfl⟩ : ∃ less, fuel = less + 1 := ⟨fuel - 1, by omega⟩
    obtain ⟨fresh, apart⟩ := List.nodup_cons.mp distinct
    obtain ⟨here, later⟩ := List.forall_mem_cons.mp free
    have shorter : others.length < fuel := by
      have taken := EntryText.length_pos ofMember
      simp only [List.length_append] at enough
      omega
    rw [List.append_assoc, List.append_assoc, readFields_step ofGap ofMember here]
    refine ih shorter apart fun other inside => ?_
    have different : other.key ≠ member.key := by
      intro same
      exact fresh (same ▸ List.mem_map_of_mem inside)
    rw [Partial.has_extend_of_ne fields different, later other inside]

/-- Space behind the object and whatever else follows it is left. -/
theorem read_text_append {document : Document} {text : List Char} (form : document.Text text)
    (rest : List Char) :
    ∃ after, Space after ∧ read (text ++ rest) = .ok (document, after ++ rest) := by
  cases form with
  | @braced listed omitted before inner after complete empty blank items behind =>
    have distinct := (List.nodup_append.mp (nodup_keys complete)).1
    have free : ∀ member ∈ listed, Partial.empty.has member.key = false := by
      intro member _
      cases member <;> rfl
    have enough : inner.length < (inner ++ '\x7d' :: (after ++ rest)).length + 1 := by
      rw [List.length_append]
      omega
    refine ⟨after, behind, ?_⟩
    rw [List.append_assoc, List.cons_append, List.append_assoc, List.cons_append, read,
      skipSpace_append blank, skipSpace_cons (by decide)]
    exact (readFields_eq_ok items enough distinct free (after ++ rest)).trans
      (by rw [Partial.document_foldl complete empty])

theorem read_text {document : Document} {text : List Char} (form : document.Text text) :
    ∃ rest, read text = .ok (document, rest) := by
  obtain ⟨after, -, found⟩ := read_text_append form []
  rw [List.append_nil] at found
  exact ⟨_, found⟩

/-- Every JSON text of a document is read back as that document: nothing is lost, merged or put in
another order. -/
theorem parse_text {document : Document} {text : String} (form : document.Text text.toList) :
    parse text = .ok document := by
  obtain ⟨rest, found⟩ := read_text form
  rw [parse, found]

/-- A variant with two fields of one name. -/
def repeatedFields : Document :=
  ⟨none, [], [⟨"E", [⟨"V", [⟨"f", "T"⟩, ⟨"f", "😀"⟩]⟩]⟩]⟩

/-- The fields of the document in another order and without the package. -/
def repeatedFieldsText : String :=
  "\t\x7b \"types\" : \x7b\"E\":\x7b\"V\":\x7b\"f\":\"T\",\"f\":\"\\uD83d\\ude00\"" ++
    "\x7d\x7d\x7d,\n\"imports\":[ ]\x7d\n"

theorem charsText_plain {chars : List Char}
    (plain : chars.all fun char => char ≠ '"' ∧ char ≠ '\\' ∧ 0x20 ≤ char.toNat) :
    CharsText chars chars := by
  induction chars with
  | nil => exact .nil
  | cons char rest ih =>
    rw [List.all_cons, Bool.and_eq_true, decide_eq_true_iff] at plain
    obtain ⟨⟨notQuote, notSlash, printed⟩, others⟩ := plain
    exact .cons (.plain notQuote notSlash printed) (ih others)

theorem text_repeatedFields : repeatedFields.Text repeatedFieldsText.toList := by
  have blank : Space [' '] := by simp [Space]
  have line : Space ['\n'] := by simp [Space]
  have tab : Space ['\t'] := by simp [Space]
  have first : Gap true [] := .first space_nil
  have comma : Gap false [','] := .comma space_nil space_nil
  have fieldName : StringText "f" _ := .quoted (charsText_plain (by decide))
  have typeName : StringText "T" _ := .quoted (charsText_plain (by decide))
  have variantName : StringText "V" _ := .quoted (charsText_plain (by decide))
  have baseName : StringText "E" _ := .quoted (charsText_plain (by decide))
  have typesKey : StringText "types" _ := .quoted (charsText_plain (by decide))
  have importsKey : StringText "imports" _ := .quoted (charsText_plain (by decide))
  have high : HexUnit (0xD800 + ('😀'.toNat - 0x10000) / 0x400) ['D', '8', '3', 'd'] :=
    @HexUnit.digits 13 8 3 13 _ _ _ _ (.inr rfl) (.inl rfl) (.inl rfl) (.inl rfl)
  have low : HexUnit (0xDC00 + ('😀'.toNat - 0x10000) % 0x400) ['d', 'e', '0', '0'] :=
    @HexUnit.digits 13 14 0 0 _ _ _ _ (.inl rfl) (.inl rfl) (.inl rfl) (.inl rfl)
  have emoji : StringText "😀" _ := .quoted (.cons (.pair (by decide) high low) .nil)
  have fields : FieldsText [⟨"f", "T"⟩, ⟨"f", "😀"⟩] _ :=
    .braced (.next first (.colon fieldName space_nil space_nil typeName)
      (.next comma (.colon fieldName space_nil space_nil emoji) (.done space_nil)))
  have variants : VariantsText [⟨"V", [⟨"f", "T"⟩, ⟨"f", "😀"⟩]⟩] _ :=
    .braced (.next first (.colon variantName space_nil space_nil fields) (.done space_nil))
  have types : (Member.types repeatedFields.types).Text _ :=
    .colon typesKey blank blank
      (.braced (.next first (.colon baseName space_nil space_nil variants) (.done space_nil)))
  have imports : (Member.imports repeatedFields.imports).Text _ :=
    .colon importsKey space_nil space_nil (.bracketed (.done blank))
  have order : ([Member.types repeatedFields.types, Member.imports repeatedFields.imports] ++
      [Member.package none]).Perm repeatedFields.members :=
    List.reverse_perm repeatedFields.members
  exact .braced order (by simp [Member.IsEmpty]) tab
    (.next (.first blank) types (.next (.comma space_nil line) imports (.done space_nil))) line

theorem parse_text_repeatedFields : parse repeatedFieldsText = .ok repeatedFields :=
  parse_text text_repeatedFields

end NodeGen.Document
