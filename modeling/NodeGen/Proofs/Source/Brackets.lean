import NodeGen.Proofs.Text.Trim
import NodeGen.Source.TypeText

/-! Angle brackets in the text of a type. The counter that is kept while a text is read says how its
beginnings compare: a text passes if none of them closes more than it opens and the whole of it
closes everything. Other characters do not matter, blanks and marks for optional types among
them. -/

set_option autoImplicit false

namespace NodeGen.Source.TypeText

open NodeGen.Text (trim)

/-- No beginning closes more brackets than it opens, and the whole text closes as many. -/
structure Balanced (text : List Char) : Prop where
  opened : ∀ front, front <+: text → front.count '>' ≤ front.count '<'
  settled : text.count '>' = text.count '<'

theorem forall_prefix_cons_iff {char : Char} {rest : List Char} {holds : List Char → Prop} :
    (∀ front, front <+: char :: rest → holds front) ↔
      holds [] ∧ ∀ front, front <+: rest → holds (char :: front) := by
  simp only [List.prefix_cons_iff]
  constructor
  · intro every
    exact ⟨every [] (.inl rfl), fun front begins => every _ (.inr ⟨front, rfl, begins⟩)⟩
  · rintro ⟨empty, longer⟩ front (rfl | ⟨tail, rfl, begins⟩)
    · exact empty
    · exact longer tail begins

/-- The counter at any depth: so many brackets more may be closed than opened on the way, and at
the end all of them are. -/
theorem closes_iff {depth : Nat} {text : List Char} :
    closes depth text = true ↔
      (∀ front, front <+: text → front.count '>' ≤ front.count '<' + depth) ∧
        text.count '>' = text.count '<' + depth := by
  fun_induction closes depth text with
  | case1 depth =>
    simp only [beq_iff_eq, List.prefix_nil, forall_eq, List.count_nil]
    omega
  | case2 depth rest ih =>
    simp [ih, forall_prefix_cons_iff, Nat.add_assoc, Nat.add_comm 1 depth]
  | case3 rest =>
    -- A bracket that closes at depth zero is itself a beginning that closes too much.
    simp only [forall_prefix_cons_iff, Bool.false_eq_true, false_iff]
    rintro ⟨⟨-, longer⟩, -⟩
    simpa using longer [] List.nil_prefix
  | case4 rest depth ih => simp [ih, forall_prefix_cons_iff, ← Nat.add_assoc]
  | case5 depth char rest notOpen notClose ih =>
    have plain : char ≠ '<' ∧ char ≠ '>' := ⟨notOpen, notClose⟩
    simp [ih, forall_prefix_cons_iff, List.count_cons_of_ne plain.1, List.count_cons_of_ne plain.2]

theorem isBalanced_iff {text : List Char} : isBalanced text = true ↔ Balanced text := by
  rw [isBalanced, closes_iff]
  exact ⟨fun ⟨opened, settled⟩ => ⟨opened, settled⟩, fun ⟨opened, settled⟩ => ⟨opened, settled⟩⟩

def isBracket (char : Char) : Bool :=
  char == '<' || char == '>'

/-- The brackets of a text, with everything else erased. -/
def brackets (text : List Char) : List Char :=
  text.filter isBracket

theorem closes_brackets (depth : Nat) (text : List Char) :
    closes depth (brackets text) = closes depth text := by
  fun_induction closes depth text with
  | case1 depth => simp [brackets, closes]
  | case2 depth rest ih => simpa [brackets, isBracket, closes] using ih
  | case3 rest => simp [brackets, isBracket, closes]
  | case4 rest depth ih => simpa [brackets, isBracket, closes] using ih
  | case5 depth char rest notOpen notClose ih =>
    have plain : char ≠ '<' ∧ char ≠ '>' := ⟨notOpen, notClose⟩
    simpa [brackets, isBracket, plain] using ih

theorem isBalanced_congr {text other : List Char} (same : brackets text = brackets other) :
    isBalanced text = isBalanced other := by
  rw [isBalanced, isBalanced, ← closes_brackets, same, closes_brackets]

theorem brackets_append (first second : List Char) :
    brackets (first ++ second) = brackets first ++ brackets second :=
  List.filter_append ..

/-- No bracket stands in the text. -/
def Plain (text : List Char) : Prop :=
  '<' ∉ text ∧ '>' ∉ text

instance (text : List Char) : Decidable (Plain text) :=
  inferInstanceAs (Decidable ('<' ∉ text ∧ '>' ∉ text))

theorem brackets_eq_nil_iff {text : List Char} : brackets text = [] ↔ Plain text := by
  simp only [Plain, brackets, isBracket, List.filter_eq_nil_iff, Bool.or_eq_true, beq_iff_eq,
    not_or]
  constructor
  · intro plain
    exact ⟨fun member => (plain _ member).1 rfl, fun member => (plain _ member).2 rfl⟩
  · rintro ⟨notOpen, notClose⟩ char member
    exact ⟨fun same => notOpen (same ▸ member), fun same => notClose (same ▸ member)⟩

theorem brackets_of_blank {blanks : List Char} (blank : ∀ char ∈ blanks, Text.isBlank char = true) :
    brackets blanks = [] := by
  rw [brackets_eq_nil_iff]
  exact ⟨fun member => absurd (blank _ member) (by decide),
    fun member => absurd (blank _ member) (by decide)⟩

theorem isBalanced_of_plain {text : List Char} (plain : Plain text) : isBalanced text = true := by
  rw [isBalanced, ← closes_brackets, brackets_eq_nil_iff.mpr plain]
  rfl

theorem brackets_trim (text : List Char) : brackets (trim text) = brackets text := by
  obtain ⟨before, after, blankBefore, blankAfter, whole⟩ := Text.exists_blanks text
  conv_rhs => rw [whole]
  simp [brackets_append, brackets_of_blank blankBefore, brackets_of_blank blankAfter]

theorem isBalanced_trim (text : List Char) : isBalanced (trim text) = isBalanced text :=
  isBalanced_congr (brackets_trim text)

theorem isBalanced_optional (inner : List Char) :
    isBalanced (inner ++ ['?']) = isBalanced inner := by
  have mark : brackets ['?'] = [] := brackets_eq_nil_iff.mpr (by decide)
  apply isBalanced_congr
  rw [brackets_append, mark, List.append_nil]

/-- A list is balanced as soon as its item is. The other way round does not hold: the brackets of
`List<A>.Node<B>` are not those of one item. -/
theorem isBalanced_list {blanks item : List Char}
    (blank : ∀ char ∈ blanks, Text.isBlank char = true) (balanced : isBalanced item = true) :
    isBalanced ("List".toList ++ blanks ++ '<' :: item ++ ['>']) = true := by
  have opening : brackets ("List".toList ++ blanks) = [] := by
    rw [brackets_append, brackets_of_blank blank, brackets_eq_nil_iff.mpr (by decide)]
    rfl
  have same : brackets ("List".toList ++ blanks ++ '<' :: item ++ ['>']) =
      brackets ('<' :: (item ++ ['>'])) := by
    rw [List.append_assoc, brackets_append, opening, List.nil_append, List.cons_append]
  rw [isBalanced_congr same, isBalanced, closes]
  simpa [closes] using closes_append balanced 1 ['>']

end NodeGen.Source.TypeText
