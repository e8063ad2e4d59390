import NodeGen.Proofs.Json.Completeness
import NodeGen.Proofs.Json.Remainder
import NodeGen.Proofs.Json.Written

/-! What is read of a written value is the value, to the end of its text and no further. A reader may
still refuse the value: for half a surrogate pair, for a number out of range or for its depth. -/

set_option autoImplicit false

namespace NodeGen.Json

open Grammar

section Strings

theorem toNat_ofNat {code : Nat} (valid : code.isValidChar) : (Char.ofNat code).toNat = code := by
  rw [Char.ofNat, dif_pos valid]
  rfl

theorem HexUnit.lt {unit : Nat} {digits : List Char} (form : HexUnit unit digits) :
    unit < 0x10000 := by
  have small : ∀ {value : Nat} {digit : Char}, HexDigit value digit → value < 16 := by
    intro value digit form
    obtain found | found := form
    · exact (List.getElem?_eq_some_iff.mp found).1
    · exact (List.getElem?_eq_some_iff.mp found).1
  obtain ⟨first, second, third, fourth⟩ := form
  have := small first
  have := small second
  have := small third
  have := small fourth
  omega

theorem charUnits_unit {unit : Nat} (bound : unit < 0x10000) (notLow : ¬isLowSurrogate unit = true)
    (notHigh : ¬isHighSurrogate unit = true) : charUnits (Char.ofNat unit) = [unit] := by
  simp only [isLowSurrogate, isHighSurrogate, Bool.and_eq_true, decide_eq_true_eq] at notLow notHigh
  have valid : unit.isValidChar := by
    unfold Nat.isValidChar
    omega
  rw [charUnits, toNat_ofNat valid, if_pos bound]

theorem charUnits_pair {high low : Nat} (isHigh : isHighSurrogate high = true)
    (isLow : isLowSurrogate low = true) :
    charUnits (Char.ofNat (0x10000 + (high - 0xD800) * 0x400 + (low - 0xDC00))) = [high, low] := by
  simp only [isLowSurrogate, isHighSurrogate, Bool.and_eq_true, decide_eq_true_eq] at isHigh isLow
  generalize whole : 0x10000 + (high - 0xD800) * 0x400 + (low - 0xDC00) = code
  have valid : code.isValidChar := by
    unfold Nat.isValidChar
    omega
  have beyond : ¬code < 0x10000 := by omega
  have first : 0xD800 + (code - 0x10000) / 0x400 = high := by omega
  have second : 0xDC00 + (code - 0x10000) % 0x400 = low := by omega
  rw [charUnits, toNat_ofNat valid, if_neg beyond, first, second]

/-- An escape of four digits takes the next one with it if they are a pair. -/
theorem readCodePoint_units {unit : Nat} {digits : List Char} (ofUnit : HexUnit unit digits)
    {units : List Nat} {text : List Char} (form : UnitsText units text) {rest behind : List Char}
    {char : Char} (read : readCodePoint (digits ++ (text ++ '"' :: rest)) = .ok (char, behind)) :
    ∃ units' text', UnitsText units' text' ∧ behind = text' ++ '"' :: rest ∧
      unit :: units = charUnits char ++ units' := by
  rw [readCodePoint, readHexUnit_eq_ok ofUnit] at read
  simp only [bind, Except.bind] at read
  by_cases isLow : isLowSurrogate unit = true
  · simp [isLow] at read
  by_cases isHigh : isHighSurrogate unit = true
  · simp only [isLow, isHigh, if_true] at read
    cases form with
    | nil => simp at read
    | plain notQuote notSlash => simp [notSlash] at read
    | @short letter _ _ text member =>
      have notUnit := (escaped?_of_mem member).1
      simp [notUnit] at read
    | @escape low digits units text ofLow later =>
      simp only [List.cons_append, List.append_assoc, readHexUnit_eq_ok ofLow] at read
      by_cases isLow : isLowSurrogate low = true
      · simp only [isLow, if_true] at read
        obtain ⟨rfl, rfl⟩ := Prod.mk.inj (Except.ok.inj read)
        exact ⟨units, text, later, rfl, by rw [charUnits_pair isHigh isLow]; rfl⟩
      · simp [isLow] at read
  · simp only [isLow, isHigh] at read
    obtain ⟨rfl, rfl⟩ := Prod.mk.inj (Except.ok.inj read)
    exact ⟨units, text, form, rfl, by rw [charUnits_unit (HexUnit.lt ofUnit) isLow isHigh]; rfl⟩

theorem codeUnits_reverse_cons (char : Char) (done : List Char) :
    codeUnits (char :: done).reverse = codeUnits done.reverse ++ charUnits char := by
  simp [codeUnits]

theorem readStringLoop_units {units : List Nat} {text : List Char} (form : UnitsText units text)
    {fuel : Nat} {done rest behind : List Char} {value : String}
    (read : readStringLoop fuel done (text ++ '"' :: rest) = .ok (value, behind)) :
    behind = rest ∧ codeUnits value.toList = codeUnits done.reverse ++ units := by
  -- Not by induction on the form, since a pair of surrogates is two steps of it.
  induction fuel generalizing units text done with
  | zero => cases read
  | succ fuel ih =>
    cases form with
    | nil =>
      obtain ⟨rfl, rfl⟩ := Prod.mk.inj (Except.ok.inj read)
      simp
    | plain notQuote notSlash printed later =>
      rw [List.cons_append, ← List.singleton_append,
        readStringLoop_char (.plain notQuote notSlash printed)] at read
      obtain ⟨ended, same⟩ := ih later read
      exact ⟨ended, by rw [same, codeUnits_reverse_cons, List.append_assoc]⟩
    | short member later =>
      rw [List.cons_append, List.cons_append, readStringLoop_escape (readEscape_short member _)]
        at read
      obtain ⟨ended, same⟩ := ih later read
      exact ⟨ended, by rw [same, codeUnits_reverse_cons, List.append_assoc]⟩
    | @escape unit digits units text ofUnit later =>
      rw [List.cons_append, List.cons_append, List.append_assoc] at read
      cases point : readCodePoint (digits ++ (text ++ '"' :: rest)) with
      | error fault => simp [readStringLoop, readEscape_unit, point] at read
      | ok found =>
        rw [readStringLoop_escape ((readEscape_unit _).trans point)] at read
        obtain ⟨units', text', form, after, split⟩ := readCodePoint_units ofUnit later point
        rw [after] at read
        obtain ⟨ended, same⟩ := ih form read
        exact ⟨ended, by rw [same, codeUnits_reverse_cons, List.append_assoc, split]⟩

theorem readString_units {units : List Nat} {text : List Char} (form : UnitsText units text)
    {rest behind : List Char} {value : String}
    (read : readString (text ++ '"' :: rest) = .ok (value, behind)) :
    behind = rest ∧ units = codeUnits value.toList := by
  obtain ⟨ended, same⟩ := readStringLoop_units form read
  exact ⟨ended, same.symm⟩

end Strings

section Numbers

/-- The text has no digit at its head. -/
def Stops (text : List Char) : Prop :=
  ∀ char ∈ text.head?, char.isDigit = false

theorem dropWhile_digits {digits rest : List Char} (all : ∀ char ∈ digits, char.isDigit = true)
    (stops : Stops rest) : (digits ++ rest).dropWhile Char.isDigit = rest := by
  rw [List.dropWhile_append_of_pos all]
  cases rest with
  | nil => rfl
  | cons char rest => exact List.dropWhile_cons_of_neg (by simp [stops char rfl])

/-- Digits that a significand does not take are left. -/
theorem absorbDigits_append {digits : List Char} (all : ∀ char ∈ digits, char.isDigit = true)
    {rest : List Char} (stops : Stops rest) (significand count : Nat) :
    ∃ left, (∀ char ∈ left, char.isDigit = true) ∧
      (absorbDigits significand count (digits ++ rest)).2.2 = left ++ rest := by
  induction digits generalizing significand count with
  | nil =>
    refine ⟨[], by simp, ?_⟩
    cases rest with
    | nil => rfl
    | cons char rest => simp [absorbDigits, stops char rfl]
  | cons digit digits ih =>
    rw [List.cons_append, absorbDigits]
    split
    · exact ih (fun char member => all char (List.mem_cons_of_mem _ member)) _ _
    · exact ⟨digit :: digits, all, rfl⟩

theorem absorbExponent_append {digits : List Char} (all : ∀ char ∈ digits, char.isDigit = true)
    {rest : List Char} (stops : Stops rest) (exponent : Nat) :
    ∃ left, (∀ char ∈ left, char.isDigit = true) ∧
      (absorbExponent exponent (digits ++ rest)).2 = left ++ rest := by
  induction digits generalizing exponent with
  | nil =>
    refine ⟨[], by simp, ?_⟩
    cases rest with
    | nil => rfl
    | cons char rest => simp [absorbExponent, stops char rfl]
  | cons digit digits ih =>
    rw [List.cons_append, absorbExponent]
    split
    · exact ih (fun char member => all char (List.mem_cons_of_mem _ member)) _
    · exact ⟨digit :: digits, all, rfl⟩

/-- The text is at its end or goes on with what may stand behind a value. -/
def Delimited (text : List Char) : Prop :=
  ∀ char ∈ text.head?, char ∈ [' ', '\t', '\n', '\r', ',', ']', '\x7d']

theorem Delimited.head {char : Char} {rest : List Char} (delimited : Delimited (char :: rest)) :
    char.isDigit = false ∧ char ≠ '.' ∧ char ≠ 'e' ∧ char ≠ 'E' := by
  have mark := delimited char rfl
  simp only [List.mem_cons, List.not_mem_nil, or_false] at mark
  obtain rfl | rfl | rfl | rfl | rfl | rfl | rfl := mark <;> decide

theorem Delimited.stops {rest : List Char} (delimited : Delimited rest) : Stops rest := by
  intro char head
  cases rest with
  | nil => cases head
  | cons first rest =>
    obtain rfl := Option.some.inj head
    exact delimited.head.1

variable {negative : Bool} {significand : Nat} {shift : Int} {rest behind : List Char}
  {value : Number}

theorem readExponent_unsigned {digit : Char} (isDigit : digit.isDigit = true) (text : List Char) :
    readExponent negative significand shift (digit :: text) =
      readExponent negative significand shift ('+' :: digit :: text) := by
  have notPlus : digit ≠ '+' := by
    rintro rfl
    cases isDigit
  have notMinus : digit ≠ '-' := by
    rintro rfl
    cases isDigit
  simp [readExponent, notPlus, notMinus]

theorem readExponent_signed_rest {sign : Char} (signed : sign = '+' ∨ sign = '-')
    {digits : List Char} (ofDigits : DigitsText digits) (stops : Stops rest)
    (read : readExponent negative significand shift (sign :: (digits ++ rest)) =
      .ok (value, behind)) : behind = rest := by
  obtain ⟨filled, all⟩ := ofDigits
  obtain ⟨digit, digits, rfl⟩ := List.exists_cons_of_ne_nil filled
  have isDigit : digit.isDigit = true := all digit List.mem_cons_self
  obtain ⟨left, allLeft, absorbed⟩ := absorbExponent_append all stops 0
  generalize found : absorbExponent 0 (digit :: digits ++ rest) = pair at absorbed
  obtain ⟨exponent, remaining⟩ := pair
  obtain rfl := absorbed
  rw [List.cons_append] at found
  obtain rfl | rfl := signed
  all_goals
    simp only [readExponent, List.cons_append, isDigit, Bool.not_true, Bool.false_eq_true,
      if_false, found] at read
    cases left with
    | nil =>
      cases rest with
      | nil => exact floatResult_rest read
      | cons char rest =>
        simp only [List.nil_append, stops char rfl, Bool.false_eq_true, if_false] at read
        exact floatResult_rest read
    | cons first left =>
      obtain ⟨isFirst, others⟩ := List.forall_mem_cons.mp allLeft
      simp only [List.cons_append, isFirst, if_true] at read
      split at read
      · cases read
      · exact (Prod.mk.inj (Except.ok.inj read)).2.symm.trans (dropWhile_digits others stops)

theorem readExponent_rest {sign digits : List Char} (signed : sign ∈ [[], ['+'], ['-']])
    (ofDigits : DigitsText digits) (stops : Stops rest)
    (read : readExponent negative significand shift (sign ++ (digits ++ rest)) =
      .ok (value, behind)) : behind = rest := by
  simp only [List.mem_cons, List.not_mem_nil, or_false] at signed
  obtain rfl | rfl | rfl := signed
  · obtain ⟨digit, digits, rfl⟩ := List.exists_cons_of_ne_nil ofDigits.1
    rw [List.nil_append, List.cons_append,
      readExponent_unsigned (ofDigits.2 digit List.mem_cons_self)] at read
    exact readExponent_signed_rest (.inl rfl) ofDigits stops read
  · exact readExponent_signed_rest (.inl rfl) ofDigits stops read
  · exact readExponent_signed_rest (.inr rfl) ofDigits stops read

theorem readScaled_rest {exponent : List Char} (ofExponent : ExponentText exponent)
    (delimited : Delimited rest)
    (read : readScaled negative significand shift (exponent ++ rest) = .ok (value, behind)) :
    behind = rest := by
  cases ofExponent with
  | absent =>
    cases rest with
    | nil => exact floatResult_rest read
    | cons char rest =>
      obtain ⟨-, -, small, capital⟩ := delimited.head
      rw [List.nil_append, readScaled, if_neg (by simp [small, capital])] at read
      exact floatResult_rest read
  | @digits mark sign digits marked signed ofDigits =>
    rw [List.cons_append, List.append_assoc, readScaled, if_pos (by simpa using marked)] at read
    exact readExponent_rest signed ofDigits delimited.stops read

theorem stops_exponent {exponent : List Char} (ofExponent : ExponentText exponent)
    (delimited : Delimited rest) : Stops (exponent ++ rest) := by
  cases ofExponent with
  | absent => exact delimited.stops
  | digits marked =>
    intro char head
    obtain rfl := Option.some.inj head
    simp only [List.mem_cons, List.not_mem_nil, or_false] at marked
    obtain rfl | rfl := marked <;> rfl

theorem readFraction_rest {digits exponent : List Char} (ofDigits : DigitsText digits)
    (ofExponent : ExponentText exponent) (delimited : Delimited rest)
    (read : readFraction negative significand shift (digits ++ (exponent ++ rest)) =
      .ok (value, behind)) : behind = rest := by
  obtain ⟨filled, all⟩ := ofDigits
  have stops := stops_exponent ofExponent delimited
  obtain ⟨left, allLeft, absorbed⟩ := absorbDigits_append all stops significand 0
  obtain ⟨digit, digits, rfl⟩ := List.exists_cons_of_ne_nil filled
  have isDigit : digit.isDigit = true := all digit List.mem_cons_self
  rw [List.cons_append] at absorbed read
  simp only [readFraction, isDigit, Bool.not_true, Bool.false_eq_true, if_false, absorbed,
    dropWhile_digits allLeft stops] at read
  exact readScaled_rest ofExponent delimited read

theorem readTail_mark {mark : Char} (marked : mark ∈ ['e', 'E']) (dropped : Nat)
    (text : List Char) :
    readTail negative significand dropped (mark :: text) =
      readExponent negative significand dropped text := by
  simp only [List.mem_cons, List.not_mem_nil, or_false] at marked
  obtain rfl | rfl := marked <;> rfl

/-- A number without fraction and exponent. -/
theorem readTail_ends {dropped : Nat} (delimited : Delimited rest)
    (read : readTail negative significand dropped rest = .ok (value, behind)) : behind = rest := by
  have ended : (if dropped = 0 then .ok (integerResult negative significand, rest)
      else floatResult negative significand dropped rest) = Except.ok (value, behind) := by
    cases rest with
    | nil => exact read
    | cons char rest =>
      obtain ⟨-, notPoint, small, capital⟩ := delimited.head
      simpa [readTail, notPoint, small, capital] using read
  split at ended
  · exact (Prod.mk.inj (Except.ok.inj ended)).2.symm
  · exact floatResult_rest ended

theorem readTail_rest {dropped : Nat} {fraction exponent : List Char}
    (ofFraction : FractionText fraction) (ofExponent : ExponentText exponent)
    (delimited : Delimited rest)
    (read : readTail negative significand dropped (fraction ++ (exponent ++ rest)) =
      .ok (value, behind)) : behind = rest := by
  cases ofFraction with
  | digits ofDigits => exact readFraction_rest ofDigits ofExponent delimited read
  | absent =>
    cases ofExponent with
    | digits marked signed ofDigits =>
      rw [List.nil_append, List.cons_append, List.append_assoc, readTail_mark marked] at read
      exact readExponent_rest signed ofDigits delimited.stops read
    | absent => exact readTail_ends delimited read

theorem stops_fraction {fraction exponent : List Char} (ofFraction : FractionText fraction)
    (ofExponent : ExponentText exponent) (delimited : Delimited rest) :
    Stops (fraction ++ (exponent ++ rest)) := by
  cases ofFraction with
  | absent => exact List.nil_append _ ▸ stops_exponent ofExponent delimited
  | digits =>
    intro char head
    obtain rfl := Option.some.inj head
    rfl

theorem readNumber_zero {text : List Char} (stops : Stops text) :
    readNumber negative (['0'] ++ text) = readTail negative 0 0 text := by
  cases text with
  | nil => rfl
  | cons char text => simp [readNumber, stops char rfl]

theorem readNumber_rest {whole fraction exponent : List Char} (ofWhole : WholeText whole)
    (ofFraction : FractionText fraction) (ofExponent : ExponentText exponent)
    (delimited : Delimited rest)
    (read : readNumber negative (whole ++ (fraction ++ (exponent ++ rest))) =
      .ok (value, behind)) : behind = rest := by
  have stops := stops_fraction ofFraction ofExponent delimited
  obtain rfl | ⟨⟨filled, all⟩, leading⟩ := ofWhole
  · rw [readNumber_zero stops] at read
    exact readTail_rest ofFraction ofExponent delimited read
  · obtain ⟨left, allLeft, absorbed⟩ := absorbDigits_append all stops 0 0
    obtain ⟨digit, digits, rfl⟩ := List.exists_cons_of_ne_nil filled
    have isDigit : digit.isDigit = true := all digit List.mem_cons_self
    have notZero : digit ≠ '0' := fun same => leading (congrArg some same)
    rw [List.cons_append] at absorbed read
    simp only [readNumber, isDigit, notZero, Bool.not_true, Bool.false_eq_true, if_false, absorbed,
      dropWhile_digits allLeft stops] at read
    exact readTail_rest ofFraction ofExponent delimited read

theorem WholeText.opens {text : List Char} (form : WholeText text) :
    ∃ digit others, text = digit :: others ∧ digit.isDigit = true := by
  obtain rfl | ⟨⟨filled, all⟩, -⟩ := form
  · exact ⟨'0', [], rfl, rfl⟩
  · obtain ⟨digit, digits, rfl⟩ := List.exists_cons_of_ne_nil filled
    exact ⟨digit, digits, rfl, all digit List.mem_cons_self⟩

theorem NumberText.opens {text : List Char} (form : NumberText text) :
    ∃ first others, text = first :: others ∧ (first = '-' ∨ first.isDigit = true) := by
  obtain ⟨signed, ofWhole, -, -⟩ := form
  simp only [List.mem_cons, List.not_mem_nil, or_false] at signed
  obtain rfl | rfl := signed
  · obtain ⟨digit, digits, rfl, isDigit⟩ := WholeText.opens ofWhole
    exact ⟨digit, _, rfl, .inr isDigit⟩
  · exact ⟨'-', _, rfl, .inl rfl⟩

theorem readKind_digit {digit : Char} (isDigit : digit.isDigit = true) (text : List Char) :
    readKind (digit :: text) =
      (readNumber false (digit :: text)).map fun (value, rest) => (.number value, rest) := by
  unfold readKind
  split
  case h_9 same => rw [if_pos ((List.cons.inj same).1 ▸ isDigit), same]
  all_goals
    next same => cases same <;> cases isDigit

theorem readKind_number {text : List Char} (form : NumberText text) (delimited : Delimited rest)
    {kind : Kind} (read : readKind (text ++ rest) = .ok (kind, behind)) :
    behind = rest ∧ ∃ value, kind = .number value := by
  obtain ⟨signed, ofWhole, ofFraction, ofExponent⟩ := form
  rename_i sign whole fraction exponent
  have parts : ∃ negative, (readNumber negative (whole ++ (fraction ++ (exponent ++ rest)))).map
      (fun (value, rest) => (Kind.number value, rest)) = .ok (kind, behind) := by
    simp only [List.mem_cons, List.not_mem_nil, or_false] at signed
    obtain rfl | rfl := signed
    · obtain ⟨digit, digits, rfl, isDigit⟩ := WholeText.opens ofWhole
      exact ⟨false, by simpa [readKind_digit isDigit] using read⟩
    · exact ⟨true, by simpa [readKind] using read⟩
  obtain ⟨negative, numeric⟩ := parts
  obtain ⟨⟨value, behind⟩, number, same⟩ := Checks.map_eq_ok_iff.mp numeric
  obtain ⟨rfl, rfl⟩ := Prod.mk.inj same
  exact ⟨readNumber_rest ofWhole ofFraction ofExponent delimited number, value, rfl⟩

end Numbers

section Containers

theorem delimited_space {space : List Char} (blank : Space space) {mark : Char}
    (marks : mark ∈ [',', ']', '\x7d']) (rest : List Char) : Delimited (space ++ mark :: rest) := by
  intro char head
  cases space with
  | nil =>
    obtain rfl := Option.some.inj head
    exact List.mem_append_right [' ', '\t', '\n', '\r'] marks
  | cons first space =>
    obtain rfl := Option.some.inj head
    exact List.mem_append_left [',', ']', '\x7d'] (blank _ List.mem_cons_self)

theorem delimited_items {Item : Type} {form : Item → List Char → Prop} {items : List Item}
    {text : List Char} (listed : Items form false items text) {mark : Char}
    (marks : mark ∈ [']', '\x7d']) (rest : List Char) : Delimited (text ++ mark :: rest) := by
  cases listed with
  | done blank => exact delimited_space blank (List.mem_cons_of_mem _ marks) rest
  | next ofGap _ _ =>
    obtain _ | ⟨before, after⟩ := ofGap
    simp only [List.append_assoc, List.cons_append]
    exact delimited_space before List.mem_cons_self _

theorem isSpace_digit {digit : Char} (isDigit : digit.isDigit = true) : isSpace digit = false := by
  by_contra space
  simp only [isSpace, Bool.not_eq_false, Bool.or_eq_true, beq_iff_eq] at space
  obtain ((rfl | rfl) | rfl) | rfl := space <;> cases isDigit

theorem Written.opens {written : Written} {text : List Char} (form : written.Text text) :
    ∃ first others, text = first :: others ∧ isSpace first = false ∧ first ≠ ']' := by
  cases form with
  | null | true | false | string _ | array _ | object _ =>
    exact ⟨_, _, rfl, by decide, by decide⟩
  | number form =>
    obtain ⟨first, others, rfl, sign | digit⟩ := NumberText.opens form
    · exact ⟨first, others, rfl, by subst sign; decide, by subst sign; decide⟩
    · refine ⟨first, others, rfl, ?_, ?_⟩
      · exact isSpace_digit digit
      · rintro rfl
        cases digit

/-- The key of a member is read to its end, and its value begins behind the colon. -/
theorem nextKey_member {form : Written → List Char → Prop} {first : Bool} {gap : List Char}
    (ofGap : Gap first gap) {field : List Nat × Written} {text : List Char}
    (ofField : MemberText form field text) (rest : List Char) {found : Option String}
    {behind : List Char} (read : nextKey first (gap ++ (text ++ rest)) = .ok (found, behind)) :
    ∃ key space inner, found = some key ∧ field.1 = codeUnits key.toList ∧
      readColon behind = .ok (space ++ (inner ++ rest)) ∧ Space space ∧ form field.2 inner := by
  cases ofField with
  | @colon _ _ name before after inner ofKey blank space ofValue =>
    have shape : '"' :: (name ++ '"' :: (before ++ ':' :: (after ++ inner))) ++ rest =
        '"' :: (name ++ '"' :: (before ++ ':' :: (after ++ (inner ++ rest)))) := by simp
    rw [shape, nextKey_quote ofGap] at read
    obtain ⟨⟨key, after⟩, string, same⟩ := Checks.map_eq_ok_iff.mp read
    obtain ⟨rfl, rfl⟩ := Prod.mk.inj same
    obtain ⟨rfl, units⟩ := readString_units ofKey string
    exact ⟨key, _, inner, rfl, units, readColon_eq_ok blank _, space, ofValue⟩

/-- What is read of a written value is what is written, to its end, where something stands behind it
that is no part of a number. -/
def ReadsWritten (depth : Nat) : Prop :=
  ∀ {text rest behind space : List Char} {value : Value} {written : Written},
    written.Text text → Space space → Delimited rest →
    Reads depth (space ++ (text ++ rest)) value behind → behind = rest ∧ written.Matches value

variable {depth : Nat} (each : ReadsWritten depth)
include each

theorem listRun_written {first : Bool} {items : List Written} {text : List Char}
    (listed : Items Written.Text first items text) {fuel : Nat} {rest behind : List Char}
    {values : List Value}
    (run : ListRun (Reads depth) fuel first (text ++ ']' :: rest) values behind) :
    behind = rest ∧ List.Forall₂ Written.Matches items values := by
  induction listed generalizing fuel values with
  | done blank =>
    cases run with
    | done ended =>
      rw [ItemsEnd, nextItem_end _ blank] at ended
      exact ⟨(Prod.mk.inj (Except.ok.inj ended)).2.symm, .nil⟩
    | next step _ =>
      obtain ⟨start, started, -⟩ := step
      rw [nextItem_end _ blank] at started
      cases started
  | @next first item items gap text others ofGap ofItem later ih =>
    obtain ⟨char, tail, rfl, visible, inside⟩ := Written.opens ofItem
    have found : nextItem first (gap ++ (char :: tail ++ others) ++ ']' :: rest) =
        .ok (true, char :: tail ++ (others ++ ']' :: rest)) := by
      simpa using nextItem_next ofGap visible inside
    cases run with
    | done ended =>
      rw [ItemsEnd, found] at ended
      cases ended
    | next step run =>
      obtain ⟨start, started, read⟩ := step
      rw [found] at started
      obtain ⟨-, rfl⟩ := Prod.mk.inj (Except.ok.inj started)
      obtain ⟨rfl, same⟩ :=
        each ofItem space_nil (delimited_items later List.mem_cons_self rest) read
      obtain ⟨ended, related⟩ := ih run
      exact ⟨ended, .cons same related⟩

theorem objectRun_written {first : Bool} {fields : List (List Nat × Written)} {text : List Char}
    (listed : Items (MemberText Written.Text) first fields text) {fuel : Nat}
    {rest behind : List Char} {values : List (String × Value)}
    (run : ObjectRun (Reads depth) fuel first (text ++ '\x7d' :: rest) values behind) :
    behind = rest ∧ List.Forall₂ (Written.MemberMatches Written.Matches) fields values := by
  induction listed generalizing fuel values with
  | done blank =>
    cases run with
    | done ended =>
      rw [EntriesEnd, nextKey_end _ blank] at ended
      exact ⟨(Prod.mk.inj (Except.ok.inj ended)).2.symm, .nil⟩
    | next step _ =>
      obtain ⟨start, behind, started, -⟩ := step
      rw [nextKey_end _ blank] at started
      cases started
  | @next first field fields gap text others ofGap ofField later ih =>
    rw [List.append_assoc, List.append_assoc] at run
    cases run with
    | done ended =>
      obtain ⟨key, -, -, same, -⟩ := nextKey_member ofGap ofField _ ended
      cases same
    | next step run =>
      obtain ⟨behind, start, started, colon, read⟩ := step
      obtain ⟨key, space, inner, same, units, opened, blank, ofValue⟩ :=
        nextKey_member ofGap ofField _ started
      obtain rfl := Option.some.inj same
      obtain rfl := Except.ok.inj (colon.symm.trans opened)
      obtain ⟨rfl, matched⟩ := each ofValue blank
        (delimited_items later (List.mem_cons_of_mem _ List.mem_cons_self) rest) read
      obtain ⟨ended, related⟩ := ih run
      obtain ⟨name, written⟩ := field
      obtain rfl : name = _ := units
      exact ⟨ended, .cons (.named matched) related⟩

end Containers

section Values

variable {depth : Nat} {text rest behind whole : List Char} {value : Value} {written : Written}

theorem eq_of_kind_eq {scalar : Value} (same : value.kind = scalar.kind)
    (noList : scalar.kind ≠ .sequence) (noObject : scalar.kind ≠ .map) : value = scalar := by
  cases scalar with
  | array => exact absurd rfl noList
  | object => exact absurd rfl noObject
  | null | bool | number | string => cases value <;> simp_all [Tree.kind]

theorem readKind_of_reads {char : Char} {others : List Char}
    (opened : skipSpace whole = char :: others) (noList : char ≠ '[') (noObject : char ≠ '\x7b')
    (read : Reads (depth + 1) whole value behind) :
    readKind (char :: others) = .ok (value.kind, behind) := by
  rw [reads_scalar_iff (by simp [opened, noList]) (by simp [opened, noObject]), opened] at read
  exact read

theorem matches_word (scalar : Value) (noList : scalar.kind ≠ .sequence)
    (noObject : scalar.kind ≠ .map) (same : written.Matches scalar) {char : Char}
    {others : List Char} (opened : skipSpace whole = char :: others)
    (found : readKind (char :: others) = .ok (scalar.kind, rest))
    (read : Reads (depth + 1) whole value behind) : behind = rest ∧ written.Matches value := by
  have notBracket : char ≠ '[' := by
    rintro rfl
    exact noList (Prod.mk.inj (Except.ok.inj found)).1.symm
  have notBrace : char ≠ '\x7b' := by
    rintro rfl
    exact noObject (Prod.mk.inj (Except.ok.inj found)).1.symm
  have kind := readKind_of_reads opened notBracket notBrace read
  obtain ⟨kinds, rfl⟩ := Prod.mk.inj (Except.ok.inj (kind.symm.trans found))
  obtain rfl := eq_of_kind_eq kinds noList noObject
  exact ⟨rfl, same⟩

theorem matches_number {literal : List Char} (form : NumberText literal)
    (delimited : Delimited rest) (opened : skipSpace whole = literal ++ rest)
    (read : Reads (depth + 1) whole value behind) :
    behind = rest ∧ (Written.number literal).Matches value := by
  obtain ⟨first, others, rfl, sign⟩ := NumberText.opens form
  have noList : first ≠ '[' := by
    rintro rfl
    simp at sign
  have noObject : first ≠ '\x7b' := by
    rintro rfl
    simp at sign
  obtain ⟨ended, number, kinds⟩ :=
    readKind_number form delimited (readKind_of_reads opened noList noObject read)
  obtain rfl : value = .number number := eq_of_kind_eq kinds nofun nofun
  exact ⟨ended, .number⟩

theorem matches_string {units : List Nat} {inner : List Char} (form : UnitsText units inner)
    (opened : skipSpace whole = '"' :: (inner ++ '"' :: rest))
    (read : Reads (depth + 1) whole value behind) :
    behind = rest ∧ (Written.string units).Matches value := by
  have kind := readKind_of_reads opened (by decide) (by decide) read
  obtain ⟨⟨string, after⟩, inside, same⟩ := Checks.map_eq_ok_iff.mp kind
  obtain ⟨kinds, rfl⟩ := Prod.mk.inj same
  obtain rfl : value = .string string := eq_of_kind_eq kinds.symm nofun nofun
  obtain ⟨ended, rfl⟩ := readString_units form inside
  exact ⟨ended, .string⟩

theorem reads_written_succ (each : ReadsWritten depth) (form : written.Text text)
    (delimited : Delimited rest) (opened : skipSpace whole = text ++ rest)
    (read : Reads (depth + 1) whole value behind) :
    behind = rest ∧ written.Matches value := by
  cases form with
  | null => exact matches_word .null nofun nofun .null opened rfl read
  | true => exact matches_word (.bool true) nofun nofun .bool opened rfl read
  | false => exact matches_word (.bool false) nofun nofun .bool opened rfl read
  | number number => exact matches_number number delimited opened read
  | string units =>
    rw [List.cons_append, List.append_assoc] at opened
    exact matches_string units opened read
  | array listed =>
    rw [List.cons_append, List.append_assoc] at opened
    obtain ⟨-, values, run, rfl⟩ := (reads_list_iff opened).mp read
    obtain ⟨ended, related⟩ := listRun_written each listed run
    exact ⟨ended, .array related⟩
  | object listed =>
    rw [List.cons_append, List.append_assoc] at opened
    obtain ⟨-, values, run, rfl⟩ := (reads_object_iff opened).mp read
    obtain ⟨ended, related⟩ := objectRun_written each listed run
    exact ⟨ended, .object related⟩

theorem readsWritten (depth : Nat) : ReadsWritten depth := by
  induction depth with
  | zero =>
    intro text rest behind space value written _ _ _ read
    exact read.elim
  | succ depth ih =>
    intro text rest behind space value written form blank delimited read
    obtain ⟨first, others, shape, visible, -⟩ := Written.opens form
    have opened : skipSpace (space ++ (text ++ rest)) = text ++ rest := by
      rw [skipSpace_append blank, shape]
      exact skipSpace_cons visible _
    exact reads_written_succ ih form delimited opened read

theorem delimited_of_space {space : List Char} (blank : Space space) : Delimited space := by
  intro char head
  exact List.mem_append_left [',', ']', '\x7d'] (blank char (List.mem_of_mem_head? head))

theorem reads_wholeText (form : written.WholeText text) (read : Reads depth text value rest) :
    skipSpace rest = [] ∧ written.Matches value := by
  obtain ⟨before, inner, after⟩ := form
  obtain ⟨rfl, same⟩ := readsWritten depth inner before (delimited_of_space after) read
  refine ⟨?_, same⟩
  rw [← List.append_nil rest, skipSpace_append after]
  rfl

end Values

theorem keys_of_matches {fields : List (List Nat × Written)} {values : List (String × Value)}
    (related : List.Forall₂ (Written.MemberMatches Written.Matches) fields values) :
    fields.map (·.1) = (values.map (·.1)).map fun key => codeUnits key.toList := by
  rw [List.map_map]
  exact related.map_eq_map fun _ _ same => same.parts.1

theorem Written.Distinct.of_matches {written : Written} (distinct : written.Distinct) {value : Value}
    (same : written.Matches value) : value.Distinct := by
  induction distinct generalizing value with
  | null | bool | number | string =>
    cases same
    constructor
  | array _ ih =>
    cases same with
    | array related =>
      refine .array fun item member => ?_
      obtain ⟨written, inside, same⟩ := related.exists_left member
      exact ih written inside same
  | object apart _ ih =>
    cases same with
    | object related =>
      refine .object ((keys_of_matches related ▸ apart).of_map _) fun field member => ?_
      obtain ⟨entry, inside, same⟩ := related.exists_left member
      exact ih entry inside same.parts.2

end NodeGen.Json
