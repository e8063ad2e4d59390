import NodeGen.Proofs.Name
import NodeGen.Target.Rust.Ident

/-! Identifiers of Rust output for names that are identifiers: the characters they hold, and the
stem that is left when the mark of a raw identifier is dropped. The stem names the file of a module,
and it determines the identifier. -/

set_option autoImplicit false

namespace NodeGen.Target.Rust

/-- A character of an identifier that may carry the mark of a raw one. -/
def isIdentChar (char : Char) : Bool :=
  Name.isWordChar char || char == '#'

theorem isIdentChar_of_mem {name : String} (identifier : Name.isIdentifier name = true)
    {char : Char} (member : char ∈ name.toList) : isIdentChar char = true := by
  simp [isIdentChar, Name.isWordChar_of_mem identifier member]

theorem hash_notMem_snakeCase {name : String} (identifier : Name.isIdentifier name = true) :
    '#' ∉ (Name.snakeCase name).toList := by
  intro member
  exact absurd (Name.isWordChar_of_mem_snakeCase identifier member) (by decide)

theorem ident_eq (name : String) :
    ident name =
      if Name.snakeCase name ∈ pathKeywords then Name.snakeCase name ++ "_"
      else if Name.snakeCase name ∈ keywords then rawMark ++ Name.snakeCase name
      else Name.snakeCase name := by
  simp only [ident, List.contains_iff_mem]

theorem isIdentChar_of_mem_ident {name : String} (identifier : Name.isIdentifier name = true)
    {char : Char} (member : char ∈ (ident name).toList) : isIdentChar char = true := by
  have ofSnake {char : Char} (inside : char ∈ (Name.snakeCase name).toList) :
      isIdentChar char = true := by
    simp [isIdentChar, Name.isWordChar_of_mem_snakeCase identifier inside]
  rw [ident_eq] at member
  split at member
  · obtain inside | rfl : char ∈ (Name.snakeCase name).toList ∨ char = '_' := by
      simpa using member
    · exact ofSnake inside
    · decide
  · split at member
    · obtain rfl | rfl | inside : char = 'r' ∨ char = '#' ∨
          char ∈ (Name.snakeCase name).toList := by simpa [rawMark] using member
      · decide
      · decide
      · exact ofSnake inside
    · exact ofSnake member

theorem dropRawMarks_of_notMem {text : List Char} (unmarked : '#' ∉ text) :
    dropRawMarks text = text := by
  unfold dropRawMarks
  split
  · simp at unmarked
  · rfl

/-- An identifier without the mark of a raw one. -/
def stem (name : String) : String :=
  String.ofList (dropRawMarks (ident name).toList)

theorem moduleFile_eq (base : String) : moduleFile base = stem base ++ ".rs" :=
  rfl

/-- Which case of the escape applies can be told from the stem alone. -/
theorem stem_cases {name : String} (identifier : Name.isIdentifier name = true) :
    '#' ∉ (stem name).toList ∧
      (stem name ∈ keywords ∧ ident name = rawMark ++ stem name ∨
        stem name ∉ keywords ∧ ident name = stem name) := by
  have unmarked := hash_notMem_snakeCase identifier
  have spelled : ∀ {text : String}, ident name = text → '#' ∉ text.toList → stem name = text := by
    intro text same plain
    rw [stem, same, dropRawMarks_of_notMem plain, String.ofList_toList]
  by_cases path : Name.snakeCase name ∈ pathKeywords
  · have written : ident name = Name.snakeCase name ++ "_" := by rw [ident_eq, if_pos path]
    have plain : '#' ∉ (Name.snakeCase name ++ "_").toList := by simpa using unmarked
    have whole := spelled written plain
    -- A keyword with an underscore is not a keyword, so the stem is not taken for a raw one.
    have free : ∀ word ∈ pathKeywords, word ++ "_" ∉ keywords := by decide
    rw [whole, written]
    exact ⟨plain, .inr ⟨free _ path, rfl⟩⟩
  · by_cases keyword : Name.snakeCase name ∈ keywords
    · have written : ident name = rawMark ++ Name.snakeCase name := by
        rw [ident_eq, if_neg path, if_pos keyword]
      have whole : stem name = Name.snakeCase name := by
        have mark : rawMark.toList = ['r', '#'] := by simp [rawMark]
        rw [stem, written, String.toList_append, mark, List.cons_append, List.cons_append,
          List.nil_append, dropRawMarks, dropRawMarks_of_notMem unmarked, String.ofList_toList]
      rw [whole, written]
      exact ⟨unmarked, .inl ⟨keyword, rfl⟩⟩
    · have written : ident name = Name.snakeCase name := by
        rw [ident_eq, if_neg path, if_neg keyword]
      have whole := spelled written unmarked
      rw [whole, written]
      exact ⟨unmarked, .inr ⟨keyword, rfl⟩⟩

theorem isWordChar_of_mem_stem {name : String} (identifier : Name.isIdentifier name = true)
    {char : Char} (member : char ∈ (stem name).toList) : Name.isWordChar char = true := by
  obtain ⟨unmarked, escaped⟩ := stem_cases identifier
  have inside : char ∈ (ident name).toList := by
    obtain ⟨-, marked⟩ | ⟨-, plain⟩ := escaped
    · rw [marked, String.toList_append]
      exact List.mem_append_right _ member
    · rw [plain]
      exact member
  have allowed := isIdentChar_of_mem_ident identifier inside
  rw [isIdentChar, Bool.or_eq_true, beq_iff_eq] at allowed
  refine allowed.resolve_right ?_
  rintro rfl
  exact unmarked member

theorem ident_eq_of_stem {first second : String} (ofFirst : Name.isIdentifier first = true)
    (ofSecond : Name.isIdentifier second = true) (same : stem first = stem second) :
    ident first = ident second := by
  obtain ⟨-, ⟨marked, left⟩ | ⟨plain, left⟩⟩ := stem_cases ofFirst
  · obtain ⟨-, ⟨-, right⟩ | ⟨plain, -⟩⟩ := stem_cases ofSecond
    · rw [left, right, same]
    · rw [same] at marked
      exact absurd marked plain
  · obtain ⟨-, ⟨marked, -⟩ | ⟨-, right⟩⟩ := stem_cases ofSecond
    · rw [← same] at marked
      exact absurd marked plain
    · rw [left, right, same]

end NodeGen.Target.Rust
