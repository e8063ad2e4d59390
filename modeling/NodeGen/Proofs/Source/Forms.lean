import NodeGen.Proofs.Source.Brackets

/-! Forms of type texts. How a text that begins as a list is told from the others, and every way one
that does not can be read as a leaf, with what the text has to be for it. What is proved about lists
and leaves rests on these and does not look at the reader itself. -/

set_option autoImplicit false

namespace NodeGen.Source

theorem eq_of_dropWhile_dot {text tail : List Char} {mark : Char}
    (divided : text.dropWhile (· != '.') = mark :: tail) :
    text = text.takeWhile (· != '.') ++ '.' :: tail := by
  have stopped := List.head?_dropWhile_not (· != '.') text
  have dot : mark = '.' := by simpa [divided] using stopped
  rw [dot] at divided
  rw [← divided, List.takeWhile_append_dropWhile]

theorem forall_ne_dot_iff {text : List Char} :
    (∀ char ∈ text, (char != '.') = true) ↔ '.' ∉ text := by
  simp only [bne_iff_ne]
  exact ⟨fun every member => every _ member rfl, fun absent _ member same => absent (same ▸ member)⟩

/-- A text is cut at its first dot. -/
theorem dropWhile_dot {owner : List Char} (first : '.' ∉ owner) (name : List Char) :
    (owner ++ '.' :: name).dropWhile (· != '.') = '.' :: name := by
  rw [List.dropWhile_append_of_pos (forall_ne_dot_iff.mpr first)]
  exact List.dropWhile_cons_of_neg (by simp)

theorem takeWhile_dot {owner : List Char} (first : '.' ∉ owner) (name : List Char) :
    (owner ++ '.' :: name).takeWhile (· != '.') = owner := by
  rw [List.takeWhile_append_of_pos (forall_ne_dot_iff.mpr first),
    List.takeWhile_cons_of_neg (by simp), List.append_nil]

namespace TypeText

open NodeGen.Text (trimStart)

/-- `List`, blanks and an opening bracket begin the text. -/
def OpensList (text rest : List Char) : Prop :=
  ∃ blanks, (∀ char ∈ blanks, Text.isBlank char = true) ∧
    text = "List".toList ++ blanks ++ '<' :: rest

theorem listForm_of_opensList {text rest : List Char} (opens : OpensList text rest) :
    listForm text = if rest.getLast? = some '>' then .item rest.dropLast else .unclosed := by
  obtain ⟨blanks, blank, rfl⟩ := opens
  have opened : trimStart (blanks ++ '<' :: rest) = '<' :: rest := by
    rw [Text.trimStart_append blank, Text.trimStart_eq_self (by decide)]
  simp [listForm, opened]

theorem exists_opensList {text : List Char} (form : listForm text ≠ .other) :
    ∃ rest, OpensList text rest := by
  unfold listForm at form
  split at form
  · next rest =>
    split at form
    · next inner opened =>
      refine ⟨inner, rest.takeWhile Text.isBlank, fun char => List.mem_takeWhile_imp, ?_⟩
      have parts := List.takeWhile_append_dropWhile (p := Text.isBlank) (l := rest)
      rw [show rest.dropWhile Text.isBlank = '<' :: inner from opened] at parts
      rw [List.append_assoc, parts]
      rfl
    · exact absurd rfl form
  · exact absurd rfl form

theorem listForm_eq_other_iff {text : List Char} :
    listForm text = .other ↔ ∀ rest, ¬OpensList text rest := by
  constructor
  · intro form rest opens
    rw [listForm_of_opensList opens] at form
    split at form <;> cases form
  · intro closed
    by_contra form
    obtain ⟨rest, opens⟩ := exists_opensList form
    exact closed rest opens

section Leaf

variable {scope : List BaseType} {context : String} {malformed : SchemaError} {text : List Char}

/-- What reading a leaf comes to. A text with brackets is never looked up; one without is looked up
as a whole if it has no dot, and by what stands before its first dot if it has one. -/
inductive LeafReads (scope : List BaseType) (context : String) (malformed : SchemaError)
    (text : List Char) : Except SchemaError TypeRef → Prop
  | generic : ¬Plain text → isBalanced text = true →
    LeafReads scope context malformed text (.ok (.scalar (String.ofList text)))
  | unbalanced : isBalanced text = false →
    LeafReads scope context malformed text (.error malformed)
  | base {base : BaseType} : Plain text → '.' ∉ text → declared scope text = some base →
    LeafReads scope context malformed text (.ok (.base (String.ofList text)))
  | undeclared : Plain text → '.' ∉ text → declared scope text = none →
    LeafReads scope context malformed text (.ok (.scalar (String.ofList text)))
  | qualified {owner name : List Char} : Plain text → text = owner ++ '.' :: name →
    '.' ∉ owner → declared scope owner = none →
    LeafReads scope context malformed text (.ok (.scalar (String.ofList text)))
  | variant {owner name : List Char} {base : BaseType} : Plain text →
    text = owner ++ '.' :: name → '.' ∉ owner → declared scope owner = some base →
    String.ofList name ∈ base.variants.map (·.name) →
    LeafReads scope context malformed text
      (.ok (.variant (String.ofList owner) (String.ofList name)))
  | unknown {owner name : List Char} {base : BaseType} : Plain text →
    text = owner ++ '.' :: name → '.' ∉ owner → declared scope owner = some base →
    String.ofList name ∉ base.variants.map (·.name) →
    LeafReads scope context malformed text
      (.error (.unknownVariant (String.ofList owner) (String.ofList name) context))

theorem any_bracket_iff :
    (text.any fun char => char == '<' || char == '>') = true ↔ ¬Plain text := by
  simp only [List.any_eq_true, Bool.or_eq_true, beq_iff_eq, Plain]
  grind

theorem any_name_iff {base : BaseType} {name : List Char} :
    (base.variants.any fun variant => variant.name.toList == name) = true ↔
      String.ofList name ∈ base.variants.map (·.name) := by
  simp only [List.any_eq_true, beq_iff_eq, List.mem_map]
  refine exists_congr fun variant => and_congr_right fun _ => ?_
  rw [← String.toList_inj, String.toList_ofList]

theorem leafReads_parseLeaf :
    LeafReads scope context malformed text (parseLeaf scope context malformed text) := by
  unfold parseLeaf
  split
  · next bracketed =>
    split
    · next balanced => exact .generic (any_bracket_iff.mp bracketed) balanced
    · next unbalanced => exact .unbalanced (Bool.eq_false_iff.mpr unbalanced)
  · next unbracketed =>
    have plain : Plain text := not_not.mp (mt any_bracket_iff.mpr unbracketed)
    split
    · next undivided =>
      have whole : '.' ∉ text := forall_ne_dot_iff.mp (List.dropWhile_eq_nil_iff.mp undivided)
      split
      · next base found => exact .base plain whole found
      · next missing => exact .undeclared plain whole missing
    · next mark name divided =>
      have parts := eq_of_dropWhile_dot divided
      have first : '.' ∉ text.takeWhile (· != '.') := by
        intro member
        simpa using List.mem_takeWhile_imp member
      dsimp only
      split
      · next missing => exact .qualified plain parts first missing
      · next base found =>
        split
        · next known => exact .variant plain parts first found (any_name_iff.mp known)
        · next strange => exact .unknown plain parts first found (mt any_name_iff.mpr strange)

theorem LeafReads.parseLeaf_eq {outcome : Except SchemaError TypeRef}
    (reads : LeafReads scope context malformed text outcome) :
    parseLeaf scope context malformed text = outcome := by
  have unbracketed (plain : Plain text) :
      ¬(text.any fun char => char == '<' || char == '>') = true :=
    fun bracketed => any_bracket_iff.mp bracketed plain
  have undivided (whole : '.' ∉ text) : text.dropWhile (· != '.') = [] :=
    List.dropWhile_eq_nil_iff.mpr (forall_ne_dot_iff.mpr whole)
  cases reads with
  | generic bracketed balanced =>
    rw [parseLeaf, if_pos (any_bracket_iff.mpr bracketed), if_pos balanced]
  | unbalanced unbalanced =>
    have bracketed : ¬Plain text := by
      intro plain
      rw [isBalanced_of_plain plain] at unbalanced
      cases unbalanced
    rw [parseLeaf, if_pos (any_bracket_iff.mpr bracketed), if_neg (by simp [unbalanced])]
  | base plain whole found =>
    rw [parseLeaf, if_neg (unbracketed plain), undivided whole]
    simp only [found]
  | undeclared plain whole missing =>
    rw [parseLeaf, if_neg (unbracketed plain), undivided whole]
    simp only [missing]
  | qualified plain parts first missing =>
    rw [parseLeaf, if_neg (unbracketed plain)]
    simp only [parts, dropWhile_dot first, takeWhile_dot first, missing]
  | variant plain parts first found known =>
    rw [parseLeaf, if_neg (unbracketed plain)]
    simp only [parts, dropWhile_dot first, takeWhile_dot first, found,
      if_pos (any_name_iff.mpr known)]
  | unknown plain parts first found strange =>
    rw [parseLeaf, if_neg (unbracketed plain)]
    simp only [parts, dropWhile_dot first, takeWhile_dot first, found,
      if_neg (mt any_name_iff.mp strange)]

theorem parseLeaf_eq_iff {outcome : Except SchemaError TypeRef} :
    parseLeaf scope context malformed text = outcome ↔
      LeafReads scope context malformed text outcome :=
  ⟨fun same => same ▸ leafReads_parseLeaf, LeafReads.parseLeaf_eq⟩

end Leaf

end TypeText

end NodeGen.Source
