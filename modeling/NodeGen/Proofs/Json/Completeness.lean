import NodeGen.Json.Scan
import NodeGen.Proofs.Json.Grammar

/-! What the grammar derives, the readers accept: each gives back the value that a text stands for
and leaves what follows the text. Readers that run on fuel have enough of it, since every step takes
at least one character. -/

set_option autoImplicit false

namespace NodeGen.Json

open Grammar

theorem isSpace_of_mem {char : Char} (member : char ∈ [' ', '\t', '\n', '\r']) :
    isSpace char = true := by
  simp only [List.mem_cons, List.not_mem_nil, or_false] at member
  obtain rfl | rfl | rfl | rfl := member <;> rfl

theorem skipSpace_append {space : List Char} (blank : Space space) (text : List Char) :
    skipSpace (space ++ text) = skipSpace text :=
  List.dropWhile_append_of_pos fun char member => isSpace_of_mem (blank char member)

theorem skipSpace_cons {char : Char} (visible : isSpace char = false) (rest : List Char) :
    skipSpace (char :: rest) = char :: rest :=
  List.dropWhile_cons_of_neg (by simp [visible])

section Strings

theorem hexDigit?_eq_some {value : Nat} {digit : Char} (form : HexDigit value digit) :
    hexDigit? digit = some value := by
  have small : ∀ place : Fin 16, hexDigit? ("0123456789abcdef".toList.get place) = some place.val := by
    decide
  have capital : ∀ place : Fin 16,
      hexDigit? ("0123456789ABCDEF".toList.get place) = some place.val := by
    decide
  obtain found | found := form
  · obtain ⟨bound, rfl⟩ := List.getElem?_eq_some_iff.mp found
    exact small ⟨value, bound⟩
  · obtain ⟨bound, rfl⟩ := List.getElem?_eq_some_iff.mp found
    exact capital ⟨value, bound⟩

theorem hexUnit?_eq_some {unit : Nat} {digits : List Char} (form : HexUnit unit digits)
    (rest : List Char) : hexUnit? (digits ++ rest) = some (unit, rest) := by
  cases form with
  | @digits a b c d first second third fourth ofFirst ofSecond ofThird ofFourth =>
    have sum : ((a * 16 + b) * 16 + c) * 16 + d = 4096 * a + 256 * b + 16 * c + d := by omega
    simp [hexUnit?, hexDigit?_eq_some ofFirst, hexDigit?_eq_some ofSecond,
      hexDigit?_eq_some ofThird, hexDigit?_eq_some ofFourth, sum]

theorem readHexUnit_eq_ok {unit : Nat} {digits : List Char} (form : HexUnit unit digits)
    (rest : List Char) : readHexUnit (digits ++ rest) = .ok (unit, rest) := by
  rw [readHexUnit, hexUnit?_eq_some form]

/-- A character is never a surrogate. -/
theorem not_isSurrogate (char : Char) :
    isLowSurrogate char.toNat = false ∧ isHighSurrogate char.toNat = false := by
  have valid : char.toNat < 0xD800 ∨ 0xDFFF < char.toNat ∧ char.toNat < 0x110000 := char.valid
  simp only [isLowSurrogate, isHighSurrogate, Bool.and_eq_false_iff, decide_eq_false_iff_not]
  omega

theorem readCodePoint_unit {char : Char} {digits : List Char} (form : HexUnit char.toNat digits)
    (rest : List Char) : readCodePoint (digits ++ rest) = .ok (char, rest) := by
  obtain ⟨notLow, notHigh⟩ := not_isSurrogate char
  simp [readCodePoint, readHexUnit_eq_ok form, bind, Except.bind, notLow, notHigh]

theorem readCodePoint_pair {char : Char} {high low : List Char} (beyond : 0x10000 ≤ char.toNat)
    (ofHigh : HexUnit (0xD800 + (char.toNat - 0x10000) / 0x400) high)
    (ofLow : HexUnit (0xDC00 + (char.toNat - 0x10000) % 0x400) low) (rest : List Char) :
    readCodePoint (high ++ '\\' :: 'u' :: low ++ rest) = .ok (char, rest) := by
  have valid : char.toNat < 0xD800 ∨ 0xDFFF < char.toNat ∧ char.toNat < 0x110000 := char.valid
  have first : isLowSurrogate (0xD800 + (char.toNat - 0x10000) / 0x400) = false := by
    simp only [isLowSurrogate, Bool.and_eq_false_iff, decide_eq_false_iff_not]
    omega
  have leads : isHighSurrogate (0xD800 + (char.toNat - 0x10000) / 0x400) = true := by
    simp only [isHighSurrogate, Bool.and_eq_true, decide_eq_true_eq]
    omega
  have second : isLowSurrogate (0xDC00 + (char.toNat - 0x10000) % 0x400) = true := by
    simp only [isLowSurrogate, Bool.and_eq_true, decide_eq_true_eq]
    omega
  -- The quotient and the remainder by a thousand and twenty-four make up the offset again.
  have whole : 0x10000 + (0xD800 + (char.toNat - 0x10000) / 0x400 - 0xD800) * 0x400 +
      (0xDC00 + (char.toNat - 0x10000) % 0x400 - 0xDC00) = char.toNat := by omega
  have readHigh := readHexUnit_eq_ok ofHigh ('\\' :: 'u' :: (low ++ rest))
  have readLow := readHexUnit_eq_ok ofLow rest
  rw [List.append_assoc]
  simp only [List.cons_append, readCodePoint, readHigh, bind, Except.bind, first, leads, readLow,
    second, whole, Char.ofNat_toNat, if_true, Bool.false_eq_true, if_false]

theorem escaped?_of_mem {letter char : Char} (member : (letter, char) ∈ shortEscapes) :
    letter ≠ 'u' ∧ escaped? letter = some char := by
  have all : ∀ entry ∈ shortEscapes, entry.1 ≠ 'u' ∧ escaped? entry.1 = some entry.2 := by decide
  exact all _ member

theorem readEscape_short {letter char : Char} (member : (letter, char) ∈ shortEscapes)
    (rest : List Char) : readEscape (letter :: rest) = .ok (char, rest) := by
  obtain ⟨notUnit, found⟩ := escaped?_of_mem member
  rw [readEscape.eq_def]
  split
  · next same => cases same
  · next same => exact absurd (List.cons.inj same).1 notUnit
  · next same =>
    obtain ⟨rfl, rfl⟩ := List.cons.inj same
    rw [found]

theorem readEscape_unit (text : List Char) : readEscape ('u' :: text) = readCodePoint text :=
  rfl

theorem readStringLoop_escape {char : Char} {text after : List Char}
    (read : readEscape text = .ok (char, after)) (fuel : Nat) (done : List Char) :
    readStringLoop (fuel + 1) done ('\\' :: text) = readStringLoop fuel (char :: done) after := by
  simp [readStringLoop, read]

/-- One character of a string, however it is written. -/
theorem readStringLoop_char {char : Char} {text : List Char} (form : CharText char text)
    (fuel : Nat) (done rest : List Char) :
    readStringLoop (fuel + 1) done (text ++ rest) = readStringLoop fuel (char :: done) rest := by
  cases form with
  | plain notQuote notSlash printed =>
    have allowed : ¬char.toNat < 0x20 := by omega
    simp [readStringLoop, notQuote, notSlash, allowed]
  | short member => exact readStringLoop_escape (readEscape_short member rest) fuel done
  | unit digits =>
    exact readStringLoop_escape ((readEscape_unit _).trans (readCodePoint_unit digits rest)) fuel
      done
  | pair beyond high low =>
    exact readStringLoop_escape
      ((readEscape_unit _).trans (readCodePoint_pair beyond high low rest)) fuel done

theorem CharText.length_pos {char : Char} {text : List Char} (form : CharText char text) :
    0 < text.length := by
  cases form <;> simp

theorem readStringLoop_chars {chars text : List Char} (form : CharsText chars text) {fuel : Nat}
    (enough : text.length < fuel) (done rest : List Char) :
    readStringLoop fuel done (text ++ '"' :: rest) =
      .ok (String.ofList (done.reverse ++ chars), rest) := by
  induction form generalizing fuel done with
  | nil =>
    obtain ⟨fuel, rfl⟩ : ∃ less, fuel = less + 1 := ⟨fuel - 1, by omega⟩
    simp [readStringLoop]
  | @cons char chars text others first _ ih =>
    obtain ⟨fuel, rfl⟩ : ∃ less, fuel = less + 1 := ⟨fuel - 1, by omega⟩
    have taken := CharText.length_pos first
    rw [List.length_append] at enough
    rw [List.append_assoc, readStringLoop_char first, ih (by omega)]
    simp

theorem readString_eq_ok {value : String} {inner : List Char}
    (form : CharsText value.toList inner) (rest : List Char) :
    readString (inner ++ '"' :: rest) = .ok (value, rest) := by
  have enough : inner.length < (inner ++ '"' :: rest).length + 1 := by
    rw [List.length_append]
    omega
  rw [readString, readStringLoop_chars form enough, List.reverse_nil, List.nil_append,
    String.ofList_toList]

end Strings

theorem space_nil : Space [] := by
  simp [Space]

/-- A reader gives back every value from each of its texts, with space before it or without. The
texts begin with something other than space or the end of a list, so that a reader of items can tell
that there is one. -/
structure Accepts {Item : Type} (item : List Char → Result Item)
    (form : Item → List Char → Prop) : Prop where
  reads : ∀ {value : Item} {space text : List Char}, Space space → form value text →
    ∀ rest, item (space ++ (text ++ rest)) = .ok (value, rest)
  opens : ∀ {value : Item} {text : List Char}, form value text →
    ∃ first others, text = first :: others ∧ isSpace first = false ∧ first ≠ ']'

@[simp] theorem within_ok {Value : Type} (segment : Segment) (value : Value) :
    within segment (.ok value) = .ok value :=
  rfl

section Containers

variable {Item : Type} {item : List Char → Result Item} {form : Item → List Char → Prop}

theorem nextItem_end (first : Bool) {space : List Char} (blank : Space space) (rest : List Char) :
    nextItem first (space ++ ']' :: rest) = .ok (false, rest) := by
  rw [nextItem, skipSpace_append blank, skipSpace_cons (by decide)]
  rfl

theorem nextItem_next {first : Bool} {gap text : List Char} (ofGap : Gap first gap) {char : Char}
    (visible : isSpace char = false) (inside : char ≠ ']') :
    nextItem first (gap ++ char :: text) = .ok (true, char :: text) := by
  cases ofGap with
  | first blank =>
    rw [nextItem, skipSpace_append blank, skipSpace_cons visible]
    split <;> simp_all
  | @comma before after blank behind =>
    have skipped : skipSpace (after ++ char :: text) = char :: text := by
      rw [skipSpace_append behind, skipSpace_cons visible]
    rw [List.append_assoc, List.cons_append, nextItem, skipSpace_append blank,
      skipSpace_cons (by decide)]
    split
    · next same => cases same
    · next same => simp at same
    · next same =>
      obtain ⟨rfl, rfl⟩ := List.cons.inj same
      rw [skipped]
      split <;> simp_all

/-- Where an item follows, the reader of items stands before its text. -/
theorem nextItem_accepts (accepts : Accepts item form) {first : Bool} {gap text : List Char}
    (ofGap : Gap first gap) {value : Item} (ofItem : form value text) (rest : List Char) :
    nextItem first (gap ++ (text ++ rest)) = .ok (true, text ++ rest) := by
  obtain ⟨char, tail, rfl, visible, inside⟩ := accepts.opens ofItem
  exact nextItem_next ofGap visible inside

theorem nextKey_end (first : Bool) {space : List Char} (blank : Space space) (rest : List Char) :
    nextKey first (space ++ '\x7d' :: rest) = .ok (none, rest) := by
  rw [nextKey, skipSpace_append blank, skipSpace_cons (by decide)]
  rfl

theorem nextKey_quote {first : Bool} {gap : List Char} (ofGap : Gap first gap)
    (text : List Char) :
    nextKey first (gap ++ '"' :: text) =
      (readString text).map fun (key, rest) => (some key, rest) := by
  cases ofGap with
  | first blank =>
    rw [nextKey, skipSpace_append blank, skipSpace_cons (by decide)]
    rfl
  | @comma before after blank behind =>
    have skipped : skipSpace (after ++ '"' :: text) = '"' :: text := by
      rw [skipSpace_append behind, skipSpace_cons (by decide)]
    rw [List.append_assoc, List.cons_append, nextKey, skipSpace_append blank,
      skipSpace_cons (by decide)]
    split
    · next same => cases same
    · next same => simp at same
    · next same =>
      obtain ⟨rfl, rfl⟩ := List.cons.inj same
      rw [skipped]
      rfl

theorem nextKey_next {first : Bool} {gap name : List Char} (ofGap : Gap first gap) {key : String}
    (ofKey : StringText key name) (rest : List Char) :
    nextKey first (gap ++ (name ++ rest)) = .ok (some key, rest) := by
  obtain ⟨chars⟩ := ofKey
  rename_i inner
  have shape : '"' :: inner ++ ['"'] ++ rest = '"' :: (inner ++ '"' :: rest) := by simp
  rw [shape, nextKey_quote ofGap, readString_eq_ok chars]
  rfl

theorem readColon_eq_ok {space : List Char} (blank : Space space) (rest : List Char) :
    readColon (space ++ ':' :: rest) = .ok rest := by
  rw [readColon, skipSpace_append blank, skipSpace_cons (by decide)]
  rfl

theorem readItems_eq_ok (accepts : Accepts item form) {first : Bool} {values : List Item}
    {text : List Char} (listed : Items form first values text) {fuel : Nat}
    (enough : text.length < fuel) {done : List Item} (started : done.isEmpty = first)
    (rest : List Char) :
    readItems item fuel done (text ++ ']' :: rest) = .ok (done.reverse ++ values, rest) := by
  induction listed generalizing fuel done with
  | done blank =>
    obtain ⟨fuel, rfl⟩ : ∃ less, fuel = less + 1 := ⟨fuel - 1, by omega⟩
    rw [readItems, nextItem_end _ blank]
    simp [bind, Except.bind]
  | @next first value values gap text others ofGap ofItem _ ih =>
    obtain ⟨fuel, rfl⟩ : ∃ less, fuel = less + 1 := ⟨fuel - 1, by omega⟩
    have shorter : others.length < fuel := by
      obtain ⟨char, tail, rfl, -⟩ := accepts.opens ofItem
      simp only [List.length_append, List.length_cons] at enough
      omega
    have read : item (text ++ (others ++ ']' :: rest)) = .ok (value, others ++ ']' :: rest) :=
      accepts.reads space_nil ofItem _
    rw [readItems, started, List.append_assoc, List.append_assoc,
      nextItem_accepts accepts ofGap ofItem]
    simp only [bind, Except.bind, read, within_ok]
    rw [ih shorter rfl]
    simp

/-- The key of an entry that an object goes on with, and where its value begins. -/
theorem read_key {first : Bool} {gap : List Char} (ofGap : Gap first gap) {key : String}
    {value : Item} {text : List Char} (ofEntry : EntryText form (key, value) text)
    (rest : List Char) :
    ∃ behind space inner, nextKey first (gap ++ (text ++ rest)) = .ok (some key, behind) ∧
      readColon behind = .ok (space ++ (inner ++ rest)) ∧ Space space ∧ form value inner := by
  cases ofEntry with
  | @colon _ _ name before after inner ofKey blank behind ofValue =>
    refine ⟨before ++ ':' :: (after ++ (inner ++ rest)), after, inner, ?_,
      readColon_eq_ok blank _, behind, ofValue⟩
    simpa using nextKey_next ofGap ofKey (before ++ ':' :: (after ++ (inner ++ rest)))

theorem EntryText.length_pos {entry : String × Item} {text : List Char}
    (ofEntry : EntryText form entry text) : 0 < text.length := by
  obtain ⟨ofKey, -, -, -⟩ := ofEntry
  obtain ⟨-⟩ := ofKey
  simp

theorem readEntries_eq_ok (accepts : Accepts item form) {first : Bool}
    {entries : List (String × Item)} {text : List Char}
    (listed : Items (EntryText form) first entries text) {fuel : Nat}
    (enough : text.length < fuel) {done : List (String × Item)} (started : done.isEmpty = first)
    (rest : List Char) :
    readEntries item fuel done (text ++ '\x7d' :: rest) = .ok (done.reverse ++ entries, rest) := by
  induction listed generalizing fuel done with
  | done blank =>
    obtain ⟨fuel, rfl⟩ : ∃ less, fuel = less + 1 := ⟨fuel - 1, by omega⟩
    rw [readEntries, nextKey_end _ blank]
    simp [bind, Except.bind]
  | @next first entry entries gap text others ofGap ofEntry _ ih =>
    obtain ⟨fuel, rfl⟩ : ∃ less, fuel = less + 1 := ⟨fuel - 1, by omega⟩
    have shorter : others.length < fuel := by
      have taken := EntryText.length_pos ofEntry
      simp only [List.length_append] at enough
      omega
    obtain ⟨behind, space, inner, found, colon, blank, ofValue⟩ :=
      read_key ofGap ofEntry (others ++ '\x7d' :: rest)
    rw [readEntries, started, List.append_assoc, List.append_assoc, found]
    simp only [bind, Except.bind, within_ok, colon, accepts.reads blank ofValue]
    rw [ih shorter rfl]
    simp

end Containers

end NodeGen.Json
