import NodeGen.Proofs.Target.Rust.Ident

/-! How names are spelled in Rust output. Every identifier gets a spelling that the language
accepts: a keyword with the mark of a raw identifier, or an identifier that is no keyword at all. Two
names get one spelling when their lower-case forms are equal, and otherwise only where the underscore
behind a word that cannot be raw makes the form of the other. -/

set_option autoImplicit false

namespace NodeGen.Target.Rust

/-- The words that cannot be raw, without the one that has a capital. -/
def underscored : List String :=
  ["self", "super", "crate", "_"]

/-- The first text is one of these words, the second is the same word with an underscore. -/
def Underscores (word escaped : String) : Prop :=
  word ∈ underscored ∧ escaped = word ++ "_"

/-- A text that names something in Rust. -/
def Usable (text : String) : Prop :=
  (∃ word ∈ keywords, text = rawMark ++ word) ∨
    Name.isIdentifier text = true ∧ text ∉ keywords ∧ text ∉ pathKeywords

theorem snakeCase_mem_pathKeywords_iff (name : String) :
    Name.snakeCase name ∈ pathKeywords ↔ Name.snakeCase name ∈ underscored := by
  have small : Name.snakeCase name ≠ "Self" := by
    intro same
    have capital : 'S' ∈ (Name.snakeCase name).toList := by simp [same]
    exact absurd (Name.isUpper_of_mem_snakeCase capital) (by decide)
  simp [pathKeywords, underscored, small]

theorem ident_cases (name : String) :
    Name.snakeCase name ∈ underscored ∧ ident name = Name.snakeCase name ++ "_" ∨
    Name.snakeCase name ∈ keywords ∧ ident name = rawMark ++ Name.snakeCase name ∨
    Name.snakeCase name ∉ pathKeywords ∧ Name.snakeCase name ∉ keywords ∧
      ident name = Name.snakeCase name := by
  rw [ident_eq, ← snakeCase_mem_pathKeywords_iff]
  split
  · next path => exact .inl ⟨path, rfl⟩
  · next path =>
    split
    · next keyword => exact .inr (.inl ⟨keyword, rfl⟩)
    · next free => exact .inr (.inr ⟨path, free, rfl⟩)

theorem usable_ident {name : String} (identifier : Name.isIdentifier name = true) :
    Usable (ident name) := by
  rcases ident_cases name with ⟨path, spelled⟩ | ⟨keyword, spelled⟩ | ⟨path, free, spelled⟩
  · have escaped : ∀ word ∈ underscored, Name.isIdentifier (word ++ "_") = true ∧
        word ++ "_" ∉ keywords ∧ word ++ "_" ∉ pathKeywords := by
      decide
    rw [spelled]
    exact .inr (escaped _ path)
  · exact .inl ⟨_, keyword, spelled⟩
  · rw [spelled]
    exact .inr ⟨Name.isIdentifier_snakeCase identifier, free, path⟩

theorem ident_of_underscores {first second : String}
    (escapes : Underscores (Name.snakeCase first) (Name.snakeCase second)) :
    ident first = ident second := by
  obtain ⟨word, escaped⟩ := escapes
  have plain : ∀ word ∈ underscored, word ∈ pathKeywords ∧ word ++ "_" ∉ pathKeywords ∧
      word ++ "_" ∉ keywords := by
    decide
  obtain ⟨path, notPath, notKeyword⟩ := plain _ word
  rw [ident_eq, ident_eq, if_pos path, escaped, if_neg notPath, if_neg notKeyword]

theorem rawMark_append_ne {text : String} (plain : '#' ∉ text.toList) (word : String) :
    rawMark ++ word ≠ text := by
  rintro rfl
  simp [rawMark] at plain

theorem ident_eq_iff {first second : String} (ofFirst : Name.isIdentifier first = true)
    (ofSecond : Name.isIdentifier second = true) :
    ident first = ident second ↔
      Name.snakeCase first = Name.snakeCase second ∨
      Underscores (Name.snakeCase first) (Name.snakeCase second) ∨
      Underscores (Name.snakeCase second) (Name.snakeCase first) := by
  -- A raw identifier holds a mark that no other spelling does.
  have plain {name : String} (identifier : Name.isIdentifier name = true) :
      '#' ∉ (Name.snakeCase name).toList ∧ '#' ∉ (Name.snakeCase name ++ "_").toList := by
    have unmarked := hash_notMem_snakeCase identifier
    simpa using unmarked
  constructor
  · intro same
    rcases ident_cases first with ⟨path, left⟩ | ⟨-, left⟩ | ⟨-, -, left⟩ <;>
      rcases ident_cases second with ⟨other, right⟩ | ⟨-, right⟩ | ⟨-, -, right⟩ <;>
      rw [left, right] at same
    · exact .inl (String.append_left_inj _ |>.mp same)
    · exact absurd same.symm (rawMark_append_ne (plain ofFirst).2 _)
    · exact .inr (.inl ⟨path, same.symm⟩)
    · exact absurd same (rawMark_append_ne (plain ofSecond).2 _)
    · exact .inl (String.append_right_inj _ |>.mp same)
    · exact absurd same (rawMark_append_ne (plain ofSecond).1 _)
    · exact .inr (.inr ⟨other, same⟩)
    · exact absurd same.symm (rawMark_append_ne (plain ofFirst).1 _)
    · exact .inl same
  · rintro (same | escapes | escapes)
    · rw [ident_eq, ident_eq, same]
    · exact ident_of_underscores escapes
    · exact (ident_of_underscores escapes).symm

/-- An identifier is spelled so that it can be used, two are spelled alike exactly where their
lower-case forms are equal or an underscore makes them so, and the files of two modules are the same
exactly when the modules are. -/
theorem ident_spelling {first second : String} (ofFirst : Name.isIdentifier first = true)
    (ofSecond : Name.isIdentifier second = true) :
    Usable (ident first) ∧
    (ident first = ident second ↔
      Name.snakeCase first = Name.snakeCase second ∨
      Underscores (Name.snakeCase first) (Name.snakeCase second) ∨
      Underscores (Name.snakeCase second) (Name.snakeCase first)) ∧
    (moduleFile first = moduleFile second ↔ moduleName first = moduleName second) := by
  refine ⟨usable_ident ofFirst, ident_eq_iff ofFirst ofSecond, ?_, ?_⟩
  · intro same
    rw [moduleFile_eq, moduleFile_eq, String.append_left_inj] at same
    exact ident_eq_of_stem ofFirst ofSecond same
  · intro same
    rw [moduleFile, moduleFile, same]

/-- A word that cannot be raw beside a name that already ends in an underscore, and an underscore
beside two of them; a keyword beside itself with an underscore is no collision. -/
theorem ident_spelling_super :
    ident "Super" = ident "super_" ∧ ident "_" = ident "__" ∧ ident "Type" ≠ ident "type_" ∧
      Usable (ident "Type") ∧ Usable (ident "Super") ∧
      moduleFile "Super" = moduleFile "super_" ∧ moduleFile "Type" ≠ moduleFile "type_" := by
  obtain ⟨usable, alike, files⟩ := @ident_spelling "Super" "super_" (by decide) (by decide)
  obtain ⟨-, marks, -⟩ := @ident_spelling "_" "__" (by decide) (by decide)
  obtain ⟨raw, apart, kept⟩ := @ident_spelling "Type" "type_" (by decide) (by decide)
  have same := alike.mpr (by unfold Underscores; decide)
  have differ := mt apart.mp (by unfold Underscores; decide)
  exact ⟨same, marks.mpr (by unfold Underscores; decide), differ, raw, usable, files.mpr same,
    mt kept.mp differ⟩

end NodeGen.Target.Rust
