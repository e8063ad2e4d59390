import Mathlib.Data.List.TakeWhile
import NodeGen.Proofs.Json.Extent
import NodeGen.Proofs.Name

/-! What the readers accept, the grammar derives: a reader that gives a value has found one of the
texts of the value behind space, and leaves what follows it. -/

set_option autoImplicit false

namespace NodeGen.Json

open Grammar

variable {text rest : List Char}

theorem mem_of_isSpace {char : Char} (blank : isSpace char = true) :
    char ∈ [' ', '\t', '\n', '\r'] := by
  simp only [isSpace, Bool.or_eq_true, beq_iff_eq] at blank
  obtain ((rfl | rfl) | rfl) | rfl := blank <;> decide

theorem exists_space {found : List Char} (skipped : skipSpace text = found) :
    ∃ space, Space space ∧ text = space ++ found := by
  refine ⟨text.takeWhile isSpace, fun char member => ?_, ?_⟩
  · exact mem_of_isSpace (List.mem_takeWhile_imp member)
  · rw [← skipped]
    exact List.takeWhile_append_dropWhile.symm

theorem space_of_skipSpace (skipped : skipSpace text = []) : Space text := by
  obtain ⟨space, blank, rfl⟩ := exists_space skipped
  rwa [List.append_nil]

theorem space_append {space : List Char} (blank : Space space) (behind : Space rest) :
    Space (space ++ rest) :=
  fun char member => (List.mem_append.mp member).elim (blank char) (behind char)

theorem Gap.append {first : Bool} {gap space : List Char} (ofGap : Gap first gap)
    (blank : Space space) : Gap first (gap ++ space) := by
  cases ofGap with
  | first before => exact .first (space_append before blank)
  | comma before after =>
    rw [List.append_assoc, List.cons_append]
    exact .comma before (space_append after blank)

theorem eq_of_readWord {letters : List Char} (read : readWord letters text = .ok rest) :
    text = letters ++ rest := by
  induction letters generalizing text with
  | nil => exact Except.ok.inj read
  | cons letter letters ih =>
    cases text with
    | nil => cases read
    | cons char text =>
      rw [readWord] at read
      split at read
      · next same => rw [same, ih read, List.cons_append]
      · cases read

section Strings

theorem hexDigit_of_eq_some {digit : Char} {value : Nat} (found : hexDigit? digit = some value) :
    HexDigit value digit := by
  have decimal : ∀ place : Fin 10,
      "0123456789abcdef".toList[place.val]? = some (Char.ofNat (48 + place.val)) := by decide
  have small : ∀ place : Fin 6,
      "0123456789abcdef".toList[place.val + 10]? = some (Char.ofNat (97 + place.val)) := by decide
  have capital : ∀ place : Fin 6,
      "0123456789ABCDEF".toList[place.val + 10]? = some (Char.ofNat (65 + place.val)) := by decide
  -- In each range the place of a digit is its distance from the first one.
  have shifted {start : Nat} (above : start ≤ digit.toNat) :
      Char.ofNat (start + (digit.toNat - start)) = digit := by
    rw [Nat.add_sub_cancel' above, Char.ofNat_toNat]
  have bounds {low high : Char} (between : (low ≤ digit && digit ≤ high) = true) :
      low.toNat ≤ digit.toNat ∧ digit.toNat ≤ high.toNat := by
    simpa [Char.le_def, UInt32.le_iff_toNat_le] using between
  unfold hexDigit? at found
  split at found
  · next isDigit =>
    obtain rfl := Option.some.inj found
    obtain ⟨above, below⟩ := Name.isDigit_iff.mp isDigit
    have place := decimal ⟨digit.toNat - 48, by omega⟩
    exact .inl (place.trans (congrArg some (shifted above)))
  · split at found
    · next isSmall =>
      obtain rfl := Option.some.inj found
      obtain ⟨above, below⟩ := bounds isSmall
      have limits : 97 ≤ digit.toNat ∧ digit.toNat ≤ 102 := ⟨above, below⟩
      have place := small ⟨digit.toNat - 97, by omega⟩
      exact .inl (place.trans (congrArg some (shifted above)))
    · split at found
      · next isCapital =>
        obtain rfl := Option.some.inj found
        obtain ⟨above, below⟩ := bounds isCapital
        have limits : 65 ≤ digit.toNat ∧ digit.toNat ≤ 70 := ⟨above, below⟩
        have place := capital ⟨digit.toNat - 65, by omega⟩
        exact .inr (place.trans (congrArg some (shifted above)))
      · cases found

theorem exists_hexUnit {unit : Nat} (read : readHexUnit text = .ok (unit, rest)) :
    ∃ digits, HexUnit unit digits ∧ text = digits ++ rest := by
  unfold readHexUnit at read
  split at read
  · next found =>
    obtain rfl := Except.ok.inj read
    unfold hexUnit? at found
    split at found
    · simp only [Option.bind_eq_bind, Option.bind_eq_some_iff] at found
      obtain ⟨a, ofA, b, ofB, c, ofC, d, ofD, same⟩ := found
      obtain ⟨sum, rfl⟩ := Prod.mk.inj (Option.some.inj same)
      have value : unit = 4096 * a + 256 * b + 16 * c + d := by omega
      rw [value]
      exact ⟨_, .digits (hexDigit_of_eq_some ofA) (hexDigit_of_eq_some ofB)
        (hexDigit_of_eq_some ofC) (hexDigit_of_eq_some ofD), rfl⟩
    · cases found
  · split at read <;> cases read

/-- The escape of a unit that is a character by itself. -/
theorem charText_unit {unit : Nat} {digits : List Char} (ofUnit : HexUnit unit digits)
    (notLow : ¬isLowSurrogate unit = true) (notHigh : ¬isHighSurrogate unit = true) :
    CharText (Char.ofNat unit) ('\\' :: 'u' :: digits) := by
  have units := charUnits_unit (HexUnit.lt ofUnit) notLow notHigh
  unfold charUnits at units
  split at units
  · exact .unit ((List.cons.inj units).1.symm ▸ ofUnit)
  · simp at units

theorem charText_pair {high low : Nat} {first second : List Char} (ofHigh : HexUnit high first)
    (ofLow : HexUnit low second) (isHigh : isHighSurrogate high = true)
    (isLow : isLowSurrogate low = true) :
    CharText (Char.ofNat (0x10000 + (high - 0xD800) * 0x400 + (low - 0xDC00)))
      ('\\' :: 'u' :: first ++ '\\' :: 'u' :: second) := by
  have units := charUnits_pair isHigh isLow
  unfold charUnits at units
  split at units
  · simp at units
  · next beyond =>
    obtain ⟨upper, rest⟩ := List.cons.inj units
    obtain ⟨lower, -⟩ := List.cons.inj rest
    exact .pair (Nat.le_of_not_lt beyond) (upper.symm ▸ ofHigh) (lower.symm ▸ ofLow)

theorem exists_codePoint {char : Char} (read : readCodePoint text = .ok (char, rest)) :
    ∃ inner, CharText char ('\\' :: 'u' :: inner) ∧ text = inner ++ rest := by
  obtain ⟨⟨unit, behind⟩, ofUnit, continued⟩ := Checks.bind_eq_ok_iff.mp read
  obtain ⟨digits, form, rfl⟩ := exists_hexUnit ofUnit
  dsimp only at continued
  split at continued
  · cases continued
  next notLow =>
  split at continued
  · next isHigh =>
    split at continued
    · cases continued
    · cases continued
    · next more =>
      obtain ⟨⟨low, after⟩, ofLow, ended⟩ := Checks.bind_eq_ok_iff.mp continued
      obtain ⟨others, second, rfl⟩ := exists_hexUnit ofLow
      dsimp only at ended
      split at ended
      · next isLow =>
        obtain ⟨rfl, rfl⟩ := Prod.mk.inj (Except.ok.inj ended)
        exact ⟨digits ++ '\\' :: 'u' :: others, charText_pair form second isHigh isLow, by simp⟩
      · cases ended
    · cases continued
    · cases continued
  · next notHigh =>
    obtain ⟨rfl, rfl⟩ := Prod.mk.inj (Except.ok.inj continued)
    exact ⟨digits, charText_unit form notLow notHigh, rfl⟩

theorem mem_shortEscapes {letter char : Char} (found : escaped? letter = some char) :
    (letter, char) ∈ shortEscapes := by
  unfold escaped? at found
  split at found <;> cases found <;> decide

theorem exists_escape {char : Char} (read : readEscape text = .ok (char, rest)) :
    ∃ inner, CharText char ('\\' :: inner) ∧ text = inner ++ rest := by
  unfold readEscape at read
  split at read
  · cases read
  · obtain ⟨inner, form, rfl⟩ := exists_codePoint read
    exact ⟨'u' :: inner, form, rfl⟩
  · next letter _ _ =>
    split at read
    · next found =>
      obtain ⟨rfl, rfl⟩ := Prod.mk.inj (Except.ok.inj read)
      exact ⟨[letter], .short (mem_shortEscapes found), rfl⟩
    · cases read

theorem exists_chars {fuel : Nat} {done : List Char} {value : String}
    (read : readStringLoop fuel done text = .ok (value, rest)) :
    ∃ chars inner, CharsText chars inner ∧ text = inner ++ '"' :: rest ∧
      value = String.ofList (done.reverse ++ chars) := by
  induction fuel generalizing done text with
  | zero => cases read
  | succ fuel ih =>
    cases text with
    | nil => cases read
    | cons char text =>
      rw [readStringLoop] at read
      split at read
      · next isQuote =>
        obtain ⟨rfl, rfl⟩ := Prod.mk.inj (Except.ok.inj read)
        exact ⟨[], [], .nil, by rw [isQuote]; rfl, by rw [List.append_nil]⟩
      next notQuote =>
      split at read
      · next isSlash =>
        split at read
        · next escaped =>
          obtain ⟨first, form, rfl⟩ := exists_escape escaped
          obtain ⟨chars, inner, later, rfl, rfl⟩ := ih read
          exact ⟨_ :: chars, '\\' :: first ++ inner, .cons form later, by simp [isSlash], by simp⟩
        · cases read
      next notSlash =>
      split at read
      · cases read
      · next printed =>
        obtain ⟨chars, inner, later, rfl, rfl⟩ := ih read
        have form : CharText char [char] := .plain notQuote notSlash (by omega)
        exact ⟨char :: chars, [char] ++ inner, .cons form later, by simp, by simp⟩

theorem exists_stringText {value : String} (read : readString text = .ok (value, rest)) :
    ∃ inner, StringText value ('"' :: inner) ∧ text = inner ++ rest := by
  obtain ⟨chars, inner, form, rfl, rfl⟩ := exists_chars read
  refine ⟨inner ++ ['"'], .quoted ?_, by simp⟩
  simpa using form

end Strings

/-- Whatever the reader reads is one of the texts of the value, with space before it. -/
def Derives {Item : Type} (item : List Char → Result Item) (form : Item → List Char → Prop) :
    Prop :=
  ∀ {text : List Char} {value : Item} {rest : List Char}, item text = .ok (value, rest) →
    ∃ space inner, Space space ∧ form value inner ∧ text = space ++ (inner ++ rest)

section Containers

variable {Item : Type} {item : List Char → Result Item} {form : Item → List Char → Prop}
  {first : Bool}

theorem exists_gap {start : List Char} (read : nextItem first text = .ok (true, start)) :
    ∃ gap, Gap first gap ∧ text = gap ++ start := by
  unfold nextItem at read
  split at read
  · cases read
  · cases read
  · next char inner _ opened =>
    obtain ⟨space, blank, rfl⟩ := exists_space opened
    split at read
    · next isFirst =>
      obtain ⟨-, rfl⟩ := Prod.mk.inj (Except.ok.inj read)
      exact ⟨space, isFirst ▸ .first blank, rfl⟩
    next notFirst =>
    obtain rfl := Bool.eq_false_iff.mpr notFirst
    split at read
    · next isComma =>
      obtain ⟨after, behind, whole⟩ := exists_space (Eq.refl (skipSpace inner))
      split at read
      · cases read
      · cases read
      · obtain ⟨-, rfl⟩ := Prod.mk.inj (Except.ok.inj read)
        exact ⟨space ++ ',' :: after, .comma blank behind, by simp [isComma, ← whole]⟩
    · cases read

theorem exists_key {key : String} {behind : List Char}
    (read : nextKey first text = .ok (some key, behind)) :
    ∃ gap name, Gap first gap ∧ StringText key name ∧ text = gap ++ (name ++ behind) := by
  have named {inner : List Char} (found : (readString inner).map
      (fun read => (some read.1, read.2)) = .ok (some key, behind)) :
      ∃ name, StringText key name ∧ '"' :: inner = name ++ behind := by
    obtain ⟨⟨word, after⟩, string, same⟩ := Checks.map_eq_ok_iff.mp found
    obtain ⟨ofWord, rfl⟩ := Prod.mk.inj same
    obtain rfl := Option.some.inj ofWord
    obtain ⟨name, form, rfl⟩ := exists_stringText string
    exact ⟨'"' :: name, form, rfl⟩
  unfold nextKey at read
  split at read
  · cases read
  · cases read
  · next char inner _ opened =>
    obtain ⟨space, blank, rfl⟩ := exists_space opened
    split at read
    · next isFirst =>
      split at read
      · next isQuote =>
        obtain ⟨name, form, whole⟩ := named read
        exact ⟨space, name, isFirst ▸ .first blank, form, by rw [isQuote, whole]⟩
      · cases read
    next notFirst =>
    obtain rfl := Bool.eq_false_iff.mpr notFirst
    split at read
    · next isComma =>
      split at read
      · cases read
      · next skipped =>
        obtain ⟨after, behind, rfl⟩ := exists_space skipped
        obtain ⟨name, form, whole⟩ := named read
        exact ⟨space ++ ',' :: after, name, .comma blank behind, form, by simp [isComma, whole]⟩
      · cases read
      · cases read
    · cases read

theorem exists_colon {start : List Char} (read : readColon text = .ok start) :
    ∃ space, Space space ∧ text = space ++ ':' :: start := by
  unfold readColon at read
  split at read
  · cases read
  · next opened =>
    obtain rfl := Except.ok.inj read
    exact exists_space opened
  · cases read

theorem ListRun.exists_items (derives : Derives item form) {fuel : Nat} {values : List Item}
    (run : ListRun (taking item) fuel first text values rest) :
    ∃ inner, Items form first values inner ∧ text = inner ++ ']' :: rest := by
  induction run with
  | done ended =>
    obtain ⟨space, blank, rfl⟩ := exists_space (nextItem_end_iff.mp ended)
    exact ⟨space, .done blank, rfl⟩
  | next taken _ ih =>
    obtain ⟨start, started, read⟩ := taken
    obtain ⟨gap, ofGap, rfl⟩ := exists_gap started
    obtain ⟨space, inner, blank, ofItem, rfl⟩ := derives read
    obtain ⟨others, listed, rfl⟩ := ih
    exact ⟨gap ++ space ++ (inner ++ others), .next (Gap.append ofGap blank) ofItem listed,
      by simp⟩

/-- The key of an entry and its value, as the object goes on with it. -/
theorem exists_entryText (derives : Derives item form) {entry : String × Item}
    (taken : EntryStep (taking item) first text entry rest) :
    ∃ gap inner, Gap first gap ∧ EntryText form entry inner ∧ text = gap ++ (inner ++ rest) := by
  obtain ⟨behind, start, started, colon, read⟩ := taken
  obtain ⟨gap, name, ofGap, ofKey, rfl⟩ := exists_key started
  obtain ⟨before, blank, rfl⟩ := exists_colon colon
  obtain ⟨after, inner, behind, ofValue, rfl⟩ := derives read
  exact ⟨gap, name ++ (before ++ ':' :: (after ++ inner)), ofGap,
    .colon ofKey blank behind ofValue, by simp⟩

theorem ObjectRun.exists_items (derives : Derives item form) {fuel : Nat}
    {entries : List (String × Item)}
    (run : ObjectRun (taking item) fuel first text entries rest) :
    ∃ inner, Items (EntryText form) first entries inner ∧ text = inner ++ '\x7d' :: rest := by
  induction run with
  | done ended =>
    obtain ⟨space, blank, rfl⟩ := exists_space (nextKey_end_iff.mp ended)
    exact ⟨space, .done blank, rfl⟩
  | next taken _ ih =>
    obtain ⟨gap, inner, ofGap, ofEntry, rfl⟩ := exists_entryText derives taken
    obtain ⟨others, listed, rfl⟩ := ih
    exact ⟨gap ++ (inner ++ others), .next ofGap ofEntry listed, by simp⟩

theorem exists_arrayText (derives : Derives item form) {fuel : Nat} {values : List Item}
    (read : readItems item fuel [] text = .ok (values, rest)) :
    ∃ inner, ArrayText form values ('[' :: inner) ∧ text = inner ++ rest := by
  obtain ⟨_, run, rfl⟩ := readItems_eq_ok_iff.mp read
  obtain ⟨inner, listed, rfl⟩ := ListRun.exists_items derives run
  exact ⟨inner ++ [']'], .bracketed listed, by simp⟩

theorem exists_objectText (derives : Derives item form) {fuel : Nat}
    {entries : List (String × Item)}
    (read : readEntries item fuel [] text = .ok (entries, rest)) :
    ∃ inner, ObjectText form entries ('\x7b' :: inner) ∧ text = inner ++ rest := by
  obtain ⟨_, run, rfl⟩ := readEntries_eq_ok_iff.mp read
  obtain ⟨inner, listed, rfl⟩ := ObjectRun.exists_items derives run
  exact ⟨inner ++ ['\x7d'], .braced listed, by simp⟩

end Containers

end NodeGen.Json
