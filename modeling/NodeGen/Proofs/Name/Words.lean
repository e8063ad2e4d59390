import Mathlib.Data.List.Chain
import NodeGen.Proofs.Name.Joined

/-! The words of a name. The lower-case form lowers every letter and adds underscores, and where it
adds them can be told from the text: it falls into words, and one underscore goes between a word and
the next. A word is cut off before a capital and behind a letter or a digit, so that an added
underscore stands at no end of the text and beside no other underscore. -/

set_option autoImplicit false

namespace NodeGen.Name

/-- A word ends and another begins: a capital follows a letter or a digit, and if that is a capital
too, a small letter comes next. -/
structure Cut (before after : List Char) : Prop where
  capital : StartsUpper after
  behind : before.getLast?.any Char.isAlphanum = true
  acronym : before.getLast?.any Char.isUpper = true → after.tail.head?.any Char.isLower = true

theorem cut_iff {before after : List Char} :
    Cut before after ↔
      StartsUpper after ∧ startsWord before.getLast? after.tail.head? = true := by
  constructor
  · rintro ⟨capital, behind, acronym⟩
    refine ⟨capital, ?_⟩
    cases last : before.getLast? with
    | none => simp [last] at behind
    | some char =>
      rw [last, Option.any_some] at behind acronym
      obtain upper | lower | digit := isAlphanum_iff.mp behind
      · simp only [startsWord, upper, acronym upper, Bool.and_self, Bool.or_true]
      · simp [startsWord, lower]
      · simp [startsWord, digit]
  · rintro ⟨capital, starts⟩
    obtain ⟨char, last, lower | digit | ⟨upper, follower, next, small⟩⟩ := startsWord_iff.mp starts
    · refine ⟨capital, ?_, fun upper => ?_⟩
      · simp [last, isAlphanum_iff, lower]
      · simp [last, isUpper_eq_false_of_isLower lower] at upper
    · refine ⟨capital, ?_, fun upper => ?_⟩
      · simp [last, isAlphanum_iff, digit]
      · simp [last, isUpper_eq_false_of_isDigit digit] at upper
    · refine ⟨capital, ?_, fun _ => ?_⟩
      · simp [last, isAlphanum_iff, upper]
      · simp [next, small]

theorem not_cut_nil (after : List Char) : ¬Cut [] after := by
  rintro ⟨-, behind, -⟩
  simp at behind

theorem not_cut_to_nil (before : List Char) : ¬Cut before [] := by
  rintro ⟨capital, -, -⟩
  simp [StartsUpper] at capital

/-- Only the last character in front of a cut counts. -/
theorem cut_cons_cons_iff {first second : Char} {before after : List Char} :
    Cut (first :: second :: before) after ↔ Cut (second :: before) after := by
  rw [cut_iff, cut_iff, List.getLast?_cons_cons]

/-- A cut stays one in a longer text. -/
theorem Cut.extend {before after : List Char} (cut : Cut before after) (front back : List Char) :
    Cut (front ++ before) (after ++ back) := by
  obtain ⟨capital, behind, acronym⟩ := cut
  have last : (front ++ before).getLast? = before.getLast? := by
    cases shape : before.getLast? with
    | none => simp [shape] at behind
    | some char => simp [shape]
  refine ⟨startsUpper_append capital back, last ▸ behind, fun upper => ?_⟩
  have small := acronym (last ▸ upper)
  cases after with
  | nil => simp at small
  | cons char rest =>
    cases rest with
    | nil => simp at small
    | cons next rest => exact small

theorem toLower_ne_underscore {char : Char} (alphanum : char.isAlphanum = true) :
    char.toLower ≠ '_' := by
  intro same
  cases upper : char.isUpper with
  | true =>
    have lower := isLower_toLower upper
    rw [same] at lower
    exact absurd lower (by decide)
  | false =>
    rw [toLower_of_not_isUpper upper] at same
    rw [same] at alphanum
    exact absurd alphanum (by decide)

theorem ne_underscore_of_cut {before after : List Char} (cut : Cut before after) :
    (before.getLast?.map Char.toLower).any (· != '_') = true ∧
      (after.head?.map Char.toLower).any (· != '_') = true := by
  obtain ⟨capital, behind, -⟩ := cut
  constructor
  · cases last : before.getLast? with
    | none => simp [last] at behind
    | some char =>
      rw [last, Option.any_some] at behind
      simpa using toLower_ne_underscore behind
  · cases after with
    | nil => simp [StartsUpper] at capital
    | cons char rest =>
      have alphanum := isAlphanum_iff.mpr (.inl (startsUpper_cons_iff.mp capital))
      simpa using toLower_ne_underscore alphanum

/-- The words in small letters, with an underscore between each and the next. -/
def joinWords (words : List (List Char)) : List Char :=
  ['_'].intercalate (words.map (List.map Char.toLower))

theorem joinWords_cons {words : List (List Char)} (more : words ≠ []) (word : List Char) :
    joinWords (word :: words) = word.map Char.toLower ++ '_' :: joinWords words := by
  rw [joinWords, List.map_cons, List.intercalate_cons_of_ne_nil (by simpa using more)]
  simp [joinWords]

theorem joinWords_cons_char (char : Char) (word : List Char) (words : List (List Char)) :
    joinWords ((char :: word) :: words) = char.toLower :: joinWords (word :: words) := by
  cases words with
  | nil => simp [joinWords]
  | cons next words => simp [joinWords_cons]

theorem joinWords_append {front back : List (List Char)} (begun : front ≠ []) (more : back ≠ []) :
    joinWords (front ++ back) = joinWords front ++ '_' :: joinWords back := by
  induction front with
  | nil => exact absurd rfl begun
  | cons word front ih =>
    rw [List.cons_append, joinWords_cons (by simp [more])]
    by_cases last : front = []
    · subst last
      simp [joinWords]
    · rw [ih last, joinWords_cons last, List.append_assoc, List.cons_append]

section Ends

variable {words : List (List Char)}

theorem head?_joinWords (present : [] ∉ words) :
    (joinWords words).head? = words.flatten.head?.map Char.toLower := by
  cases words with
  | nil => rfl
  | cons word words =>
    cases word with
    | nil => simp at present
    | cons char word => simp [joinWords_cons_char]

theorem getLast?_joinWords (present : [] ∉ words) :
    (joinWords words).getLast? = words.flatten.getLast?.map Char.toLower := by
  induction words with
  | nil => rfl
  | cons word words ih =>
    have later : [] ∉ words := fun member => present (List.mem_cons_of_mem _ member)
    cases words with
    | nil => simp [joinWords]
    | cons next words =>
      -- The last word is not empty, so it and not the underscore before it gives the last letter.
      have filled : (next :: words).flatten ≠ [] := by
        rw [List.flatten_cons]
        exact List.append_ne_nil_of_left_ne_nil
          (fun empty => later (empty ▸ List.mem_cons_self)) _
      have ends := List.getLast?_eq_some_getLast filled
      rw [joinWords_cons (List.cons_ne_nil _ _), List.flatten_cons, List.getLast?_append,
        List.getLast?_append, List.getLast?_cons, ih later, ends]
      rfl

end Ends

/-- A text in words: none of them is empty, between each and the next there is a cut, and there is
none inside a word. -/
structure Divides (words : List (List Char)) (text : List Char) : Prop where
  whole : words.flatten = text
  present : [] ∉ words
  cut : words.IsChain Cut
  uncut : ∀ word ∈ words, ∀ front back, word = front ++ back → ¬Cut front back

section Division

variable {char previous : Char} {word rest : List Char} {words : List (List Char)}

theorem divides_singleton (char : Char) : Divides [[char]] [char] := by
  refine ⟨rfl, by simp, .singleton _, fun word member front back shape => ?_⟩
  obtain rfl := List.mem_singleton.mp member
  obtain ⟨rfl, -⟩ | ⟨-, rfl⟩ := List.singleton_eq_append_iff.mp shape
  · exact not_cut_nil back
  · exact not_cut_to_nil front

/-- Whether there is a cut before a word can be told from the word alone: if it is a single letter,
what follows is a capital or nothing. -/
theorem Divides.cut_iff_word (divides : Divides ((char :: word) :: words) (char :: rest))
    (before : List Char) : Cut before (char :: rest) ↔ Cut before (char :: word) := by
  have shape : rest = word ++ words.flatten := by simpa using divides.whole.symm
  have follower (last : Option Char) :
      startsWord last rest.head? = startsWord last word.head? := by
    rw [shape]
    cases word with
    | cons next word => rfl
    | nil =>
      cases words with
      | nil => rfl
      | cons next words =>
        have capital := (List.isChain_cons_cons.mp divides.cut).1.capital
        exact startsWord_of_startsUpper (startsUpper_append capital words.flatten) last
  rw [cut_iff, cut_iff, startsUpper_cons_iff, startsUpper_cons_iff, List.tail_cons, List.tail_cons,
    follower]

theorem Divides.prepend_word (divides : Divides ((char :: word) :: words) (char :: rest))
    (cut : Cut [previous] (char :: rest)) :
    Divides ([previous] :: (char :: word) :: words) (previous :: char :: rest) := by
  have alone := divides_singleton previous
  refine ⟨congrArg (previous :: ·) divides.whole, ?_, ?_, ?_⟩
  · simpa using divides.present
  · exact List.isChain_cons_cons.mpr ⟨(divides.cut_iff_word _).mp cut, divides.cut⟩
  · intro part member
    obtain rfl | later := List.mem_cons.mp member
    · exact alone.uncut _ List.mem_cons_self
    · exact divides.uncut part later

theorem Divides.prepend_char (divides : Divides ((char :: word) :: words) (char :: rest))
    (joined : ¬Cut [previous] (char :: rest)) :
    Divides ((previous :: char :: word) :: words) (previous :: char :: rest) := by
  refine ⟨congrArg (previous :: ·) divides.whole, ?_, ?_, ?_⟩
  · simpa using divides.present
  · have chain := divides.cut
    cases words with
    | nil => exact .singleton _
    | cons next words =>
      rw [List.isChain_cons_cons] at chain ⊢
      exact ⟨cut_cons_cons_iff.mpr chain.1, chain.2⟩
  · intro part member front back shape
    obtain rfl | later := List.mem_cons.mp member
    · -- A cut inside the longer word is in front of the old one or inside it.
      obtain ⟨rfl, -⟩ | ⟨front, rfl, old⟩ := List.cons_eq_append_iff.mp shape
      · exact not_cut_nil back
      · obtain ⟨rfl, rfl⟩ | ⟨front, rfl, -⟩ := List.cons_eq_append_iff.mp old
        · exact fun cut => joined ((divides.cut_iff_word _).mpr cut)
        · rw [cut_cons_cons_iff]
          exact divides.uncut _ List.mem_cons_self _ _ old
    · exact divides.uncut part (List.mem_cons_of_mem _ later) front back shape

/-- Every place between two words is a cut of the whole text. -/
theorem Divides.cut_flatten {front back : List (List Char)} {text : List Char}
    (divides : Divides (front ++ back) text) (begun : front ≠ []) (more : back ≠ []) :
    Cut front.flatten back.flatten := by
  obtain ⟨front, last, rfl⟩ := List.eq_nil_or_concat front |>.resolve_left begun
  obtain ⟨next, back, rfl⟩ := List.exists_cons_of_ne_nil more
  have cut : Cut last next :=
    (List.isChain_append.mp divides.cut).2.2 last (by simp) next (by simp)
  simpa using cut.extend front.flatten back.flatten

end Division

theorem snakeChars_of_cut {previous char : Char} {rest : List Char}
    (cut : Cut [previous] (char :: rest)) :
    snakeChars (some previous) (char :: rest) =
      '_' :: char.toLower :: snakeChars (some char) rest := by
  obtain ⟨upper, starts⟩ := cut_iff.mp cut
  rw [List.getLast?_singleton] at starts
  rw [snakeChars_of_startsUpper upper, snakeChars_none_cons, seam, if_pos starts,
    List.singleton_append]

theorem snakeChars_of_not_cut {previous char : Char} {rest : List Char}
    (joined : ¬Cut [previous] (char :: rest)) :
    snakeChars (some previous) (char :: rest) = char.toLower :: snakeChars (some char) rest := by
  cases upper : char.isUpper with
  | true =>
    have starts : ¬startsWord (some previous) rest.head? = true := fun starts =>
      joined (cut_iff.mpr ⟨startsUpper_cons_iff.mpr upper, starts⟩)
    simp [snakeChars, upper, starts]
  | false => simp [snakeChars, upper, toLower_of_not_isUpper upper]

/-- The lower-case form goes through the text from the left. What it makes of the characters after
`previous` are the rest of the word that `previous` stands in, and the words after it. -/
theorem exists_words_after (previous : Char) (text : List Char) :
    ∃ word words, Divides ((previous :: word) :: words) (previous :: text) ∧
      snakeChars (some previous) text = joinWords (word :: words) := by
  induction text generalizing previous with
  | nil => exact ⟨[], [], divides_singleton previous, by simp [snakeChars, joinWords]⟩
  | cons char rest ih =>
    obtain ⟨word, words, divides, form⟩ := ih char
    by_cases cut : Cut [previous] (char :: rest)
    · refine ⟨[], (char :: word) :: words, divides.prepend_word cut, ?_⟩
      rw [snakeChars_of_cut cut, form, joinWords_cons (List.cons_ne_nil _ _), joinWords_cons_char]
      rfl
    · refine ⟨char :: word, words, divides.prepend_char cut, ?_⟩
      rw [snakeChars_of_not_cut cut, form, joinWords_cons_char]

theorem exists_words (text : List Char) :
    ∃ words, Divides words text ∧ snakeChars none text = joinWords words := by
  cases text with
  | nil => exact ⟨[], ⟨rfl, by simp, .nil, by simp⟩, by simp [snakeChars, joinWords]⟩
  | cons char rest =>
    obtain ⟨word, words, divides, form⟩ := exists_words_after char rest
    refine ⟨(char :: word) :: words, divides, ?_⟩
    rw [snakeChars_none_cons, form, joinWords_cons_char]

theorem snakeChars_of_small {text : List Char} (small : ∀ char ∈ text, char.isUpper = false)
    (previous : Option Char) : snakeChars previous text = text := by
  induction text generalizing previous with
  | nil => rfl
  | cons char rest ih =>
    have later := ih (fun other member => small other (List.mem_cons_of_mem _ member)) (some char)
    simp [snakeChars, small char List.mem_cons_self, later]

theorem snakeCase_snakeCase (name : String) : snakeCase (snakeCase name) = snakeCase name := by
  rw [snakeCase, snakeChars_of_small fun char => isUpper_of_mem_snakeCase, String.ofList_toList]

/-- The lower-case form has no capitals, and forming it again changes nothing. It is the text in
small letters with one underscore between each word and the next; no such underscore stands at an
end or beside another one. It keeps identifiers identifiers. -/
theorem snakeCase_separates (name : String) :
    (∀ char ∈ (snakeCase name).toList, char.isUpper = false) ∧
    snakeCase (snakeCase name) = snakeCase name ∧
    (∃ words, Divides words name.toList ∧ (snakeCase name).toList = joinWords words ∧
      ∀ front back, words = front ++ back → front ≠ [] → back ≠ [] →
        (snakeCase name).toList = joinWords front ++ '_' :: joinWords back ∧
        (joinWords front).getLast?.any (· != '_') = true ∧
        (joinWords back).head?.any (· != '_') = true) ∧
    (snakeCase name).toList.head? = name.toList.head?.map Char.toLower ∧
    (snakeCase name).toList.getLast? = name.toList.getLast?.map Char.toLower ∧
    (isIdentifier name = true → isIdentifier (snakeCase name) = true) := by
  obtain ⟨words, divides, form⟩ := exists_words name.toList
  have spelled : (snakeCase name).toList = joinWords words := by
    rw [snakeCase, String.toList_ofList, form]
  refine ⟨fun char => isUpper_of_mem_snakeCase, snakeCase_snakeCase name,
    ⟨words, divides, spelled, ?_⟩, ?_, ?_, isIdentifier_snakeCase⟩
  · rintro front back rfl begun more
    have present := divides.present
    rw [List.mem_append, not_or] at present
    rw [getLast?_joinWords present.1, head?_joinWords present.2]
    exact ⟨spelled.trans (joinWords_append begun more),
      ne_underscore_of_cut (divides.cut_flatten begun more)⟩
  · rw [spelled, head?_joinWords divides.present, divides.whole]
  · rw [spelled, getLast?_joinWords divides.present, divides.whole]

/-- An acronym before a word, a capital behind a digit, and an underscore of the name's own. -/
theorem snakeCase_separates_httpBody :
    snakeCase "parseHTTPBody_v2X" = "parse_http_body_v2_x" ∧
      snakeCase "parse_http_body_v2_x" = "parse_http_body_v2_x" ∧
      isIdentifier "parse_http_body_v2_x" = true := by
  have form : snakeCase "parseHTTPBody_v2X" = "parse_http_body_v2_x" := by decide
  obtain ⟨-, again, -, -, -, keeps⟩ := snakeCase_separates "parseHTTPBody_v2X"
  rw [form] at again keeps
  exact ⟨form, again, keeps (by decide)⟩

end NodeGen.Name
