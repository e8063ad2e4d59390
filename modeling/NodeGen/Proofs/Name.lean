import NodeGen.Name
import NodeGen.Text.Blank
import NodeGen.Text.Lowercase

/-! Characters of names: what identifiers are made of, and what the lower-case forms keep of
them. -/

set_option autoImplicit false

namespace NodeGen.Name

/-- A character that may stand in an identifier. -/
def isWordChar (char : Char) : Bool :=
  isLetter char || char.isDigit

theorem isUpper_iff {char : Char} : char.isUpper = true ↔ 65 ≤ char.toNat ∧ char.toNat ≤ 90 := by
  delta Char.isUpper
  simp [UInt32.le_iff_toNat_le, ← Char.toNat_val]

theorem isLower_iff {char : Char} : char.isLower = true ↔ 97 ≤ char.toNat ∧ char.toNat ≤ 122 := by
  delta Char.isLower
  simp [UInt32.le_iff_toNat_le, ← Char.toNat_val]

theorem isDigit_iff {char : Char} : char.isDigit = true ↔ 48 ≤ char.toNat ∧ char.toNat ≤ 57 := by
  delta Char.isDigit
  simp [UInt32.le_iff_toNat_le, ← Char.toNat_val]

theorem isAlphanum_iff {char : Char} :
    char.isAlphanum = true ↔ char.isUpper = true ∨ char.isLower = true ∨ char.isDigit = true := by
  delta Char.isAlphanum Char.isAlpha
  simp [or_assoc]

theorem toNat_toLower {char : Char} (upper : char.isUpper = true) :
    char.toLower.toNat = char.toNat + 32 := by
  have range := isUpper_iff.mp upper
  have capital : char.val ≥ 'A'.val ∧ char.val ≤ 'Z'.val := of_decide_eq_true upper
  have added : (char.val + ('a'.val - 'A'.val)).toNat = char.val.toNat + 32 := by
    rw [UInt32.toNat_add, Nat.mod_eq_of_lt]
    · rfl
    · have bound : char.val.toNat ≤ 90 := range.2
      have step : ('a'.val - 'A'.val).toNat = 32 := rfl
      omega
  have lowered : char.toLower = _ := dif_pos capital
  rw [lowered]
  exact added

theorem isLower_toLower {char : Char} (upper : char.isUpper = true) :
    char.toLower.isLower = true := by
  have range := isUpper_iff.mp upper
  rw [isLower_iff, toNat_toLower upper]
  omega

theorem toLower_of_not_isUpper {char : Char} (other : char.isUpper = false) :
    char.toLower = char :=
  dif_neg (of_decide_eq_false other)

theorem isWordChar_iff {char : Char} :
    isWordChar char = true ↔
      char.isUpper = true ∨ char.isLower = true ∨ char = '_' ∨ char.isDigit = true := by
  simp [isWordChar, isLetter, or_assoc]

/-- The characters of identifiers are printed ones of the first half of a byte. -/
theorem toNat_of_isWordChar {char : Char} (word : isWordChar char = true) :
    33 ≤ char.toNat ∧ char.toNat < 128 := by
  obtain upper | lower | rfl | digit := isWordChar_iff.mp word
  · have range := isUpper_iff.mp upper
    omega
  · have range := isLower_iff.mp lower
    omega
  · decide
  · have range := isDigit_iff.mp digit
    omega

theorem isBlank_of_isWordChar {char : Char} (word : isWordChar char = true) :
    Text.isBlank char = false := by
  have range := toNat_of_isWordChar word
  simp only [Text.isBlank]
  grind

theorem isWordChar_toLower {char : Char} (word : isWordChar char = true) :
    isWordChar char.toLower = true := by
  cases upper : char.isUpper with
  | true => exact isWordChar_iff.mpr (.inr (.inl (isLower_toLower upper)))
  | false => rwa [toLower_of_not_isUpper upper]

/-- Two runs of one class of characters that end at different marks do not begin alike. -/
theorem not_prefix_of_marks {inRun : Char → Bool} {first second : List Char} {mark other : Char}
    {tail rest : List Char} (ofFirst : ∀ char ∈ first, inRun char = true)
    (ofSecond : ∀ char ∈ second, inRun char = true) (ends : inRun mark = false)
    (stops : inRun other = false) (differ : mark ≠ other) :
    ¬first ++ mark :: tail <+: second ++ other :: rest := by
  induction first generalizing second with
  | nil =>
    cases second with
    | nil => simp [differ]
    | cons char second =>
      have inside := ofSecond char List.mem_cons_self
      simp only [List.nil_append, List.cons_append, List.cons_prefix_cons, not_and]
      rintro rfl
      simp [ends] at inside
  | cons char first ih =>
    have inside := ofFirst char List.mem_cons_self
    cases second with
    | nil =>
      simp only [List.nil_append, List.cons_append, List.cons_prefix_cons, not_and]
      rintro rfl
      simp [stops] at inside
    | cons next second =>
      simp only [List.cons_append, List.cons_prefix_cons, not_and]
      rintro -
      exact ih (fun other member => ofFirst other (List.mem_cons_of_mem _ member))
        (fun other member => ofSecond other (List.mem_cons_of_mem _ member))

theorem isIdentifier_iff {name : String} :
    isIdentifier name = true ↔
      ∃ first rest, name.toList = first :: rest ∧ isLetter first = true ∧
        ∀ char ∈ rest, isWordChar char = true := by
  unfold isIdentifier
  cases shape : name.toList with
  | nil => simp [isIdentifierChars]
  | cons first rest =>
    simp only [isIdentifierChars, Bool.and_eq_true, List.all_eq_true, List.cons.injEq]
    constructor
    · rintro ⟨letter, others⟩
      exact ⟨first, rest, ⟨rfl, rfl⟩, letter, others⟩
    · rintro ⟨_, _, ⟨rfl, rfl⟩, letter, others⟩
      exact ⟨letter, others⟩

theorem isWordChar_of_mem {name : String} (identifier : isIdentifier name = true) {char : Char}
    (member : char ∈ name.toList) : isWordChar char = true := by
  obtain ⟨first, rest, shape, letter, others⟩ := isIdentifier_iff.mp identifier
  rw [shape] at member
  obtain rfl | later := List.mem_cons.mp member
  · simp [isWordChar, letter]
  · exact others char later

/-- No character outside the class occurs in an identifier. -/
theorem notMem_of_isIdentifier {name : String} (identifier : isIdentifier name = true)
    {char : Char} (other : isWordChar char = false) : char ∉ name.toList := by
  intro member
  rw [isWordChar_of_mem identifier member] at other
  cases other

theorem mem_snakeChars {previous : Option Char} {text : List Char} {char : Char}
    (member : char ∈ snakeChars previous text) :
    char = '_' ∨ ∃ origin ∈ text, char = origin ∨ char = origin.toLower := by
  induction text generalizing previous with
  | nil => simp [snakeChars] at member
  | cons first rest ih =>
    have later : char ∈ snakeChars (some first) rest →
        char = '_' ∨ ∃ origin ∈ first :: rest, char = origin ∨ char = origin.toLower := by
      intro inside
      obtain mark | ⟨origin, present, same⟩ := ih inside
      · exact .inl mark
      · exact .inr ⟨origin, List.mem_cons_of_mem _ present, same⟩
    have here : char = first ∨ char = first.toLower →
        char = '_' ∨ ∃ origin ∈ first :: rest, char = origin ∨ char = origin.toLower :=
      fun same => .inr ⟨first, List.mem_cons_self, same⟩
    simp only [snakeChars] at member
    split at member
    · split at member
      · obtain mark | lowered | inside : char = '_' ∨ char = first.toLower ∨ _ := by
          simpa using member
        · exact .inl mark
        · exact here (.inr lowered)
        · exact later inside
      · obtain lowered | inside := List.mem_cons.mp member
        · exact here (.inr lowered)
        · exact later inside
    · obtain same | inside := List.mem_cons.mp member
      · exact here (.inl same)
      · exact later inside

theorem isWordChar_of_mem_snakeCase {name : String} (identifier : isIdentifier name = true)
    {char : Char} (member : char ∈ (snakeCase name).toList) : isWordChar char = true := by
  rw [snakeCase, String.toList_ofList] at member
  obtain rfl | ⟨origin, present, rfl | rfl⟩ := mem_snakeChars member
  · decide
  · exact isWordChar_of_mem identifier present
  · exact isWordChar_toLower (isWordChar_of_mem identifier present)

theorem isUpper_eq_false_of_isLower {char : Char} (lower : char.isLower = true) :
    char.isUpper = false := by
  rw [Bool.eq_false_iff, Ne, isUpper_iff]
  have range := isLower_iff.mp lower
  omega

theorem isUpper_eq_false_of_isDigit {char : Char} (digit : char.isDigit = true) :
    char.isUpper = false := by
  rw [Bool.eq_false_iff, Ne, isUpper_iff]
  have range := isDigit_iff.mp digit
  omega

theorem isUpper_of_mem_snakeChars {previous : Option Char} {text : List Char} {char : Char}
    (member : char ∈ snakeChars previous text) : char.isUpper = false := by
  induction text generalizing previous with
  | nil => simp [snakeChars] at member
  | cons first rest ih =>
    simp only [snakeChars] at member
    split at member
    · next capital =>
      have lowered := isUpper_eq_false_of_isLower (isLower_toLower capital)
      split at member
      · obtain rfl | rfl | later : char = '_' ∨ char = first.toLower ∨ _ := by simpa using member
        · decide
        · exact lowered
        · exact ih later
      · obtain rfl | later := List.mem_cons.mp member
        · exact lowered
        · exact ih later
    · next other =>
      obtain rfl | later := List.mem_cons.mp member
      · exact eq_false_of_ne_true other
      · exact ih later

theorem isUpper_of_mem_snakeCase {name : String} {char : Char}
    (member : char ∈ (snakeCase name).toList) : char.isUpper = false := by
  rw [snakeCase, String.toList_ofList] at member
  exact isUpper_of_mem_snakeChars member

/-- No underscore is put before the first character. -/
theorem snakeChars_none_cons (char : Char) (rest : List Char) :
    snakeChars none (char :: rest) = char.toLower :: snakeChars (some char) rest := by
  cases upper : char.isUpper with
  | true => simp [snakeChars, upper, startsWord]
  | false => simp [snakeChars, upper, toLower_of_not_isUpper upper]

theorem isLetter_toLower {char : Char} (letter : isLetter char = true) :
    isLetter char.toLower = true := by
  cases upper : char.isUpper with
  | true => simp [isLetter, isLower_toLower upper]
  | false => rwa [toLower_of_not_isUpper upper]

theorem isIdentifier_snakeCase {name : String} (identifier : isIdentifier name = true) :
    isIdentifier (snakeCase name) = true := by
  obtain ⟨first, rest, shape, letter, -⟩ := isIdentifier_iff.mp identifier
  have lowered : (snakeCase name).toList = first.toLower :: snakeChars (some first) rest := by
    rw [snakeCase, String.toList_ofList, shape, snakeChars_none_cons]
  refine isIdentifier_iff.mpr ⟨_, _, lowered, isLetter_toLower letter, fun char member => ?_⟩
  apply isWordChar_of_mem_snakeCase identifier
  rw [lowered]
  exact List.mem_cons_of_mem _ member

theorem lowercaseAfter_of_lt {before text : List Char} (ascii : ∀ char ∈ text, char.toNat < 128) :
    Text.lowercaseAfter before text = text.map Char.toLower := by
  induction text generalizing before with
  | nil => rfl
  | cons char rest ih =>
    have small := ascii char List.mem_cons_self
    -- Only the capital sigma is lowered with regard to its place in a word.
    have notSigma : (char == 'Σ') = false := by
      rw [beq_eq_false_iff_ne]
      rintro rfl
      exact absurd small (by decide)
    rw [Text.lowercaseAfter, ih fun other member => ascii other (List.mem_cons_of_mem _ member)]
    simp [notSigma, Text.lowerChar, small]

theorem isIdentifier_lowercase {name : String} (identifier : isIdentifier name = true) :
    isIdentifier (Text.lowercase name) = true := by
  obtain ⟨first, rest, shape, letter, others⟩ := isIdentifier_iff.mp identifier
  have lowered : (Text.lowercase name).toList = first.toLower :: rest.map Char.toLower := by
    rw [Text.lowercase, String.toList_ofList, lowercaseAfter_of_lt, shape, List.map_cons]
    intro char member
    exact (toNat_of_isWordChar (isWordChar_of_mem identifier member)).2
  refine isIdentifier_iff.mpr ⟨_, _, lowered, ?_, fun char member => ?_⟩
  · exact isLetter_toLower letter
  · obtain ⟨origin, present, rfl⟩ := List.mem_map.mp member
    exact isWordChar_toLower (others origin present)

end NodeGen.Name
