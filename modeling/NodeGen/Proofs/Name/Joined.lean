import NodeGen.Proofs.Name

/-! Lower-case forms of joined names. A capital is set apart or not by the characters on both sides
of it, so the lower-case form of a joined text depends on more than its parts. Where every part but
the first begins with a capital, the neighbours matter at the seams only: each part keeps its own
form, and an underscore stands before it or does not. -/

set_option autoImplicit false

namespace NodeGen.Name

def StartsUpper (text : List Char) : Prop :=
  text.head?.any Char.isUpper = true

theorem startsUpper_cons_iff {char : Char} {rest : List Char} :
    StartsUpper (char :: rest) ↔ char.isUpper = true := by
  simp [StartsUpper]

theorem startsUpper_append {first : List Char} (upper : StartsUpper first) (second : List Char) :
    StartsUpper (first ++ second) := by
  cases first with
  | nil => simp [StartsUpper] at upper
  | cons char rest => exact startsUpper_cons_iff.mpr (startsUpper_cons_iff.mp upper)

theorem isLower_eq_false_of_isUpper {char : Char} (upper : char.isUpper = true) :
    char.isLower = false := by
  rw [Bool.eq_false_iff, Ne, isLower_iff]
  have range := isUpper_iff.mp upper
  omega

theorem startsWord_iff {previous next : Option Char} :
    startsWord previous next = true ↔
      ∃ char, previous = some char ∧ (char.isLower = true ∨ char.isDigit = true ∨
        char.isUpper = true ∧ ∃ follower, next = some follower ∧ follower.isLower = true) := by
  cases previous with
  | none => simp [startsWord]
  | some char => cases next <;> simp [startsWord, or_assoc]

/-- A capital is no small letter, so before another capital a word starts as at the end. -/
theorem startsWord_of_startsUpper {text : List Char} (upper : StartsUpper text)
    (previous : Option Char) : startsWord previous text.head? = startsWord previous none := by
  cases text with
  | nil => rfl
  | cons char rest =>
    have other := isLower_eq_false_of_isUpper (startsUpper_cons_iff.mp upper)
    cases previous <;> simp [startsWord, other]

/-- What goes between a text that ends with `previous` and a text that begins with a capital. -/
def seam (previous : Option Char) (text : List Char) : List Char :=
  if startsWord previous text.tail.head? then ['_'] else []

theorem snakeChars_of_startsUpper {text : List Char} (upper : StartsUpper text)
    (previous : Option Char) :
    snakeChars previous text = seam previous text ++ snakeChars none text := by
  cases text with
  | nil => simp [StartsUpper] at upper
  | cons char rest =>
    have capital := startsUpper_cons_iff.mp upper
    have first : startsWord none rest.head? = false := rfl
    by_cases starts : startsWord previous rest.head? = true <;>
      simp [snakeChars, seam, capital, first, starts]

/-- The first part of a joined text has its own form, and the second is formed after its end. -/
theorem snakeChars_append {second : List Char} (upper : StartsUpper second) (first : List Char)
    (previous : Option Char) :
    snakeChars previous (first ++ second) =
      snakeChars previous first ++ snakeChars (first.getLast?.or previous) second := by
  induction first generalizing previous with
  | nil => simp [snakeChars]
  | cons char rest ih =>
    -- Of the second part only the first character is seen from here, at the end of the first part.
    have follower :
        startsWord previous (rest ++ second).head? = startsWord previous rest.head? := by
      cases rest with
      | nil => exact startsWord_of_startsUpper upper previous
      | cons next rest => rfl
    have last : (char :: rest).getLast?.or previous = rest.getLast?.or (some char) := by
      cases rest <;> simp [List.getLast?_cons]
    rw [List.cons_append, snakeChars, snakeChars, ih, follower, last]
    split
    · split <;> rfl
    · rfl

theorem snakeChars_append_seam {second : List Char} (upper : StartsUpper second)
    (first : List Char) (previous : Option Char) :
    snakeChars previous (first ++ second) =
      snakeChars previous first ++ seam (first.getLast?.or previous) second ++
        snakeChars none second := by
  rw [snakeChars_append upper, snakeChars_of_startsUpper upper, List.append_assoc]

/-- The base type starts a new word behind the variant: the variant ends with a small letter or a
digit, or it ends with a capital and a small letter follows the first one of the base type. -/
def WordBreak (variant base : String) : Prop :=
  ∃ last, variant.toList.getLast? = some last ∧ (last.isLower = true ∨ last.isDigit = true ∨
    last.isUpper = true ∧ ∃ second, base.toList[1]? = some second ∧ second.isLower = true)

theorem wordBreak_iff {variant base : String} :
    WordBreak variant base ↔
      startsWord variant.toList.getLast? base.toList.tail.head? = true := by
  rw [startsWord_iff, List.head?_tail]
  rfl

section Dispatch

variable {variant base : String}

theorem toList_snakeCase_dispatchMethod (ofVariant : StartsUpper variant.toList)
    (ofBase : StartsUpper base.toList) :
    (snakeCase (dispatchMethod variant base)).toList =
      "visit_".toList ++ (snakeCase variant).toList ++ seam variant.toList.getLast? base.toList ++
        (snakeCase base).toList := by
  have joined := startsUpper_append ofVariant base.toList
  have verb : snakeChars none "visit".toList ++
      seam ("visit".toList.getLast?.or none) (variant.toList ++ base.toList) =
      "visit_".toList := by
    have ends : "visit".toList.getLast?.or none = some 't' := by decide
    have starts (next : Option Char) : startsWord (some 't') next = true := rfl
    rw [ends, seam, if_pos (starts _)]
    decide
  calc (snakeCase (dispatchMethod variant base)).toList
      = snakeChars none ("visit".toList ++ (variant.toList ++ base.toList)) := by
        rw [snakeCase, dispatchMethod, String.toList_ofList, String.toList_append,
          String.toList_append, List.append_assoc]
    _ = "visit_".toList ++ snakeChars none (variant.toList ++ base.toList) := by
        rw [snakeChars_append_seam joined, verb]
    _ = "visit_".toList ++ (snakeChars none variant.toList ++
          seam variant.toList.getLast? base.toList ++ snakeChars none base.toList) := by
        rw [snakeChars_append_seam ofBase, Option.or_none]
    _ = _ := by
        simp only [snakeCase, String.toList_ofList, List.append_assoc]

/-- For names that begin with capitals, the lower-case form of a dispatch method has an underscore
before the base type exactly at a break between words, and otherwise only lacks that underscore. -/
theorem snakeCase_dispatchMethod_iff (ofVariant : StartsUpper variant.toList)
    (ofBase : StartsUpper base.toList) :
    (snakeCase (dispatchMethod variant base) =
        "visit_" ++ snakeCase variant ++ "_" ++ snakeCase base ↔ WordBreak variant base) ∧
      (¬WordBreak variant base →
        snakeCase (dispatchMethod variant base) =
          "visit_" ++ snakeCase variant ++ snakeCase base) := by
  have form := toList_snakeCase_dispatchMethod ofVariant ofBase
  rw [wordBreak_iff]
  by_cases starts : startsWord variant.toList.getLast? base.toList.tail.head? = true
  · rw [seam, if_pos starts] at form
    refine ⟨iff_of_true (String.toList_injective ?_) starts, fun unbroken => absurd starts unbroken⟩
    simpa using form
  · rw [seam, if_neg starts] at form
    have plain : snakeCase (dispatchMethod variant base) =
        "visit_" ++ snakeCase variant ++ snakeCase base := by
      apply String.toList_injective
      simpa using form
    refine ⟨iff_of_false ?_ starts, fun _ => plain⟩
    -- The two forms differ in length.
    intro spaced
    have lengths := congrArg String.length (plain.symm.trans spaced)
    simp only [String.length_append] at lengths
    have one : "_".length = 1 := rfl
    omega

/-- A name that ends with a capital, before a word and before a single letter. -/
theorem snakeCase_dispatchMethod_iff_vec3D :
    snakeCase (dispatchMethod "Vec3D" "Expr") = "visit_" ++ snakeCase "Vec3D" ++ "_" ++
        snakeCase "Expr" ∧
      snakeCase (dispatchMethod "Vec3D" "E") = "visit_" ++ snakeCase "Vec3D" ++ snakeCase "E" := by
  have capital : StartsUpper "Vec3D".toList ∧ StartsUpper "Expr".toList ∧
      StartsUpper "E".toList := by
    unfold StartsUpper
    decide
  constructor
  · apply (snakeCase_dispatchMethod_iff capital.1 capital.2.1).1.mpr
    exact wordBreak_iff.mpr (by decide)
  · apply (snakeCase_dispatchMethod_iff capital.1 capital.2.2).2
    exact mt wordBreak_iff.mp (by decide)

end Dispatch

end NodeGen.Name
