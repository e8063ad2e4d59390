import NodeGen.Proofs.Json.Entire

/-! What a reader leaves is an end of the text that it was given. -/

set_option autoImplicit false

namespace NodeGen.Json

variable {text rest : List Char}

theorem skipSpace_suffix (text : List Char) : skipSpace text <:+ text :=
  List.dropWhile_suffix _

theorem readWord_suffix {letters : List Char} (read : readWord letters text = .ok rest) :
    rest <:+ text := by
  induction letters generalizing text with
  | nil => exact Except.ok.inj read ▸ List.suffix_refl text
  | cons letter letters ih =>
    cases text with
    | nil => cases read
    | cons char text =>
      rw [readWord] at read
      split at read
      · exact (ih read).trans (List.suffix_cons char text)
      · cases read

section Strings

theorem readHexUnit_suffix {unit : Nat} (read : readHexUnit text = .ok (unit, rest)) :
    rest <:+ text := by
  unfold readHexUnit at read
  split at read
  · next found =>
    obtain rfl := Except.ok.inj read
    unfold hexUnit? at found
    split at found
    · simp only [Option.bind_eq_bind, Option.bind_eq_some_iff] at found
      obtain ⟨_, -, _, -, _, -, _, -, same⟩ := found
      obtain ⟨-, rfl⟩ := Prod.mk.inj (Option.some.inj same)
      exact List.suffix_append [_, _, _, _] _
    · cases found
  · split at read <;> cases read

theorem readCodePoint_suffix {char : Char} (read : readCodePoint text = .ok (char, rest)) :
    rest <:+ text := by
  obtain ⟨⟨unit, behind⟩, ofUnit, continued⟩ := Checks.bind_eq_ok_iff.mp read
  have first := readHexUnit_suffix ofUnit
  dsimp only at continued
  split at continued
  · cases continued
  · split at continued
    · split at continued
      · cases continued
      · cases continued
      · next more =>
        obtain ⟨⟨low, after⟩, ofLow, ended⟩ := Checks.bind_eq_ok_iff.mp continued
        have second : after <:+ '\\' :: 'u' :: more :=
          (readHexUnit_suffix ofLow).trans (List.suffix_append ['\\', 'u'] more)
        dsimp only at ended
        split at ended
        · obtain ⟨-, rfl⟩ := Prod.mk.inj (Except.ok.inj ended)
          exact second.trans first
        · cases ended
      · cases continued
      · cases continued
    · obtain ⟨-, rfl⟩ := Prod.mk.inj (Except.ok.inj continued)
      exact first

theorem readEscape_suffix {char : Char} (read : readEscape text = .ok (char, rest)) :
    rest <:+ text := by
  unfold readEscape at read
  split at read
  · cases read
  · exact (readCodePoint_suffix read).trans (List.suffix_cons _ _)
  · split at read
    · obtain ⟨-, rfl⟩ := Prod.mk.inj (Except.ok.inj read)
      exact List.suffix_cons _ _
    · cases read

theorem readStringLoop_suffix {fuel : Nat} {done : List Char} {value : String}
    (read : readStringLoop fuel done text = .ok (value, rest)) : rest <:+ text := by
  induction fuel generalizing done text with
  | zero => cases read
  | succ fuel ih =>
    cases text with
    | nil => cases read
    | cons char text =>
      have behind := List.suffix_cons char text
      rw [readStringLoop] at read
      split at read
      · obtain ⟨-, rfl⟩ := Prod.mk.inj (Except.ok.inj read)
        exact behind
      · split at read
        · split at read
          · next escaped => exact ((ih read).trans (readEscape_suffix escaped)).trans behind
          · cases read
        · split at read
          · cases read
          · exact (ih read).trans behind

theorem readString_suffix {value : String} (read : readString text = .ok (value, rest)) :
    rest <:+ text :=
  readStringLoop_suffix read

end Strings

section Numbers

theorem absorbDigits_suffix (significand count : Nat) (text : List Char) :
    (absorbDigits significand count text).2.2 <:+ text := by
  induction text generalizing significand count with
  | nil => exact List.suffix_refl []
  | cons char text ih =>
    rw [absorbDigits]
    split
    · exact (ih _ _).trans (List.suffix_cons char text)
    · exact List.suffix_refl _

theorem absorbExponent_suffix (exponent : Nat) (text : List Char) :
    (absorbExponent exponent text).2 <:+ text := by
  induction text generalizing exponent with
  | nil => exact List.suffix_refl []
  | cons char text ih =>
    rw [absorbExponent]
    split
    · exact (ih _).trans (List.suffix_cons char text)
    · exact List.suffix_refl _

variable {negative : Bool} {significand : Nat} {shift : Int} {value : Number}

theorem floatResult_rest {behind : List Char}
    (read : floatResult negative significand shift rest = .ok (value, behind)) : behind = rest := by
  unfold floatResult at read
  split at read
  · exact (Prod.mk.inj (Except.ok.inj read)).2.symm
  · cases read

theorem readExponent_suffix
    (read : readExponent negative significand shift text = .ok (value, rest)) : rest <:+ text := by
  unfold readExponent at read
  split at read
  next minus digits signed =>
    have unsigned : digits <:+ text := by
      split at signed
      · exact (Prod.mk.inj signed).2 ▸ List.suffix_cons _ _
      · exact (Prod.mk.inj signed).2 ▸ List.suffix_cons _ _
      · exact (Prod.mk.inj signed).2 ▸ List.suffix_refl _
    refine List.IsSuffix.trans ?_ unsigned
    have absorbed := absorbExponent_suffix 0 digits
    split at read
    · cases read
    split at read
    · cases read
    split at read
    next exponent behind found =>
      rw [found] at absorbed
      refine List.IsSuffix.trans ?_ absorbed
      split at read
      · split at read
        · split at read
          · cases read
          · obtain ⟨-, rfl⟩ := Prod.mk.inj (Except.ok.inj read)
            exact (List.dropWhile_suffix _).trans (List.suffix_cons _ _)
        · exact floatResult_rest read ▸ List.suffix_refl _
      · exact floatResult_rest read ▸ List.suffix_refl _

theorem readScaled_suffix
    (read : readScaled negative significand shift text = .ok (value, rest)) : rest <:+ text := by
  unfold readScaled at read
  split at read
  · split at read
    · exact (readExponent_suffix read).trans (List.suffix_cons _ _)
    · exact floatResult_rest read ▸ List.suffix_refl _
  · exact floatResult_rest read ▸ List.suffix_refl _

theorem readFraction_suffix
    (read : readFraction negative significand shift text = .ok (value, rest)) : rest <:+ text := by
  have absorbed := absorbDigits_suffix significand 0 text
  unfold readFraction at read
  split at read
  · cases read
  split at read
  · cases read
  · exact ((readScaled_suffix read).trans (List.dropWhile_suffix _)).trans absorbed

theorem readTail_suffix {dropped : Nat}
    (read : readTail negative significand dropped text = .ok (value, rest)) : rest <:+ text := by
  unfold readTail at read
  split at read
  · exact (readFraction_suffix read).trans (List.suffix_cons _ _)
  · split at read
    · exact (readExponent_suffix read).trans (List.suffix_cons _ _)
    · split at read
      · exact (Prod.mk.inj (Except.ok.inj read)).2 ▸ List.suffix_refl _
      · exact floatResult_rest read ▸ List.suffix_refl _
  · split at read
    · exact (Prod.mk.inj (Except.ok.inj read)).2 ▸ List.suffix_refl _
    · exact floatResult_rest read ▸ List.suffix_refl _

theorem readNumber_suffix (read : readNumber negative text = .ok (value, rest)) :
    rest <:+ text := by
  have absorbed := absorbDigits_suffix 0 0 text
  unfold readNumber at read
  split at read
  · cases read
  split at read
  · cases read
  split at read
  · split at read
    · exact (readTail_suffix read).trans (List.suffix_cons _ _)
    · split at read
      · cases read
      · exact (readTail_suffix read).trans (List.suffix_cons _ _)
  · exact ((readTail_suffix read).trans (List.dropWhile_suffix _)).trans absorbed

end Numbers

theorem readKind_suffix {kind : Kind} (read : readKind text = .ok (kind, rest)) :
    rest <:+ text := by
  have opens := opens_of_readKind read
  cases kind with
  | null =>
    obtain ⟨inner, rfl, word⟩ := opens
    exact (readWord_suffix word).trans (List.suffix_cons _ _)
  | boolean value =>
    cases value with
    | true | false =>
      obtain ⟨inner, rfl, word⟩ := opens
      exact (readWord_suffix word).trans (List.suffix_cons _ _)
  | number value =>
    obtain ⟨inner, rfl, number⟩ | number := opens
    · exact (readNumber_suffix number).trans (List.suffix_cons _ _)
    · exact readNumber_suffix number
  | string value =>
    obtain ⟨inner, rfl, string⟩ := opens
    exact (readString_suffix string).trans (List.suffix_cons _ _)
  | sequence | map =>
    obtain ⟨inner, -, rfl⟩ := opens
    exact List.suffix_refl _

section Containers

theorem nextItem_suffix {first more : Bool} (read : nextItem first text = .ok (more, rest)) :
    rest <:+ text ∧ (first = false ∨ more = false → rest.length < text.length) := by
  have skipped := skipSpace_suffix text
  unfold nextItem at read
  split at read
  · cases read
  · next opened =>
    obtain ⟨-, rfl⟩ := Prod.mk.inj (Except.ok.inj read)
    rw [opened] at skipped
    exact ⟨(List.suffix_cons _ _).trans skipped, fun _ => skipped.length_le⟩
  · next char behind _ opened =>
    rw [opened] at skipped
    split at read
    · next isFirst =>
      obtain ⟨rfl, rfl⟩ := Prod.mk.inj (Except.ok.inj read)
      exact ⟨skipped, by simp [isFirst]⟩
    · split at read
      · split at read
        · cases read
        · cases read
        · obtain ⟨-, rfl⟩ := Prod.mk.inj (Except.ok.inj read)
          have after := skipSpace_suffix behind
          refine ⟨(after.trans (List.suffix_cons _ _)).trans skipped, fun _ => ?_⟩
          exact Nat.lt_of_lt_of_le (Nat.lt_succ_of_le after.length_le) skipped.length_le
      · cases read

theorem nextKey_suffix {first : Bool} {key : Option String}
    (read : nextKey first text = .ok (key, rest)) : rest <:+ text := by
  refine List.IsSuffix.trans ?_ (skipSpace_suffix text)
  unfold nextKey at read
  split at read
  · cases read
  · next opened =>
    obtain ⟨-, rfl⟩ := Prod.mk.inj (Except.ok.inj read)
    exact opened ▸ List.suffix_cons _ _
  · next char behind _ opened =>
    rw [opened]
    split at read
    · split at read
      · obtain ⟨⟨string, after⟩, found, same⟩ := Checks.map_eq_ok_iff.mp read
        obtain ⟨-, rfl⟩ := Prod.mk.inj same
        exact (readString_suffix found).trans (List.suffix_cons _ _)
      · cases read
    · split at read
      · refine List.IsSuffix.trans ?_ (List.suffix_cons char behind)
        refine List.IsSuffix.trans ?_ (skipSpace_suffix behind)
        split at read
        · cases read
        · next quoted =>
          obtain ⟨⟨string, after⟩, found, same⟩ := Checks.map_eq_ok_iff.mp read
          obtain ⟨-, rfl⟩ := Prod.mk.inj same
          exact quoted ▸ (readString_suffix found).trans (List.suffix_cons _ _)
        · cases read
        · cases read
      · cases read

theorem readColon_suffix (read : readColon text = .ok rest) : rest <:+ text := by
  refine List.IsSuffix.trans ?_ (skipSpace_suffix text)
  unfold readColon at read
  split at read
  · cases read
  · next opened => exact Except.ok.inj read ▸ opened ▸ List.suffix_cons _ _
  · cases read

variable {Item : Type} {item : List Char → Item → List Char → Prop}
  (leaves : ∀ text value rest, item text value rest → rest <:+ text)
include leaves

/-- A list takes at least one character for each item. -/
theorem ListRun.length_le {fuel : Nat} {first : Bool} {items : List Item}
    (run : ListRun item fuel first text items rest) :
    rest.length + items.length ≤ text.length ∧
      (first = false → rest.length + items.length < text.length) := by
  induction run with
  | done ended =>
    have shorter := (nextItem_suffix ended).2 (.inr rfl)
    simp only [List.length_nil]
    omega
  | next step _ ih =>
    obtain ⟨start, started, taken⟩ := step
    have ⟨before, shorter⟩ := nextItem_suffix started
    have := before.length_le
    have := (leaves _ _ _ taken).length_le
    have := ih.2 rfl
    refine ⟨by rw [List.length_cons]; omega, fun later => ?_⟩
    have := shorter (.inl later)
    rw [List.length_cons]
    omega

theorem ListRun.suffix {fuel : Nat} {first : Bool} {items : List Item}
    (run : ListRun item fuel first text items rest) : rest <:+ text := by
  induction run with
  | done ended => exact (nextItem_suffix ended).1
  | next step _ ih =>
    obtain ⟨start, started, taken⟩ := step
    exact (ih.trans (leaves _ _ _ taken)).trans (nextItem_suffix started).1

theorem ObjectRun.suffix {fuel : Nat} {first : Bool} {entries : List (String × Item)}
    (run : ObjectRun item fuel first text entries rest) : rest <:+ text := by
  induction run with
  | done ended => exact nextKey_suffix ended
  | next step _ ih =>
    obtain ⟨behind, start, started, colon, taken⟩ := step
    exact ((ih.trans (leaves _ _ _ taken)).trans (readColon_suffix colon)).trans
      (nextKey_suffix started)

end Containers

theorem reads_suffix {depth : Nat} (text : List Char) (value : Value) (rest : List Char)
    (read : Reads depth text value rest) : rest <:+ text := by
  induction depth generalizing text value rest with
  | zero => exact read.elim
  | succ depth ih =>
    refine List.IsSuffix.trans ?_ (skipSpace_suffix text)
    cases value with
    | array items =>
      obtain ⟨inner, opened, -, run⟩ := read
      exact opened ▸ (ListRun.suffix ih run).trans (List.suffix_cons _ _)
    | object fields =>
      obtain ⟨inner, opened, -, run⟩ := read
      exact opened ▸ (ObjectRun.suffix ih run).trans (List.suffix_cons _ _)
    | null | bool | number | string => exact readKind_suffix read

/-- A list may take as many steps as its text has characters, and needs no more. -/
theorem ListRun.of_fuel {depth fuel : Nat} {first : Bool} {items : List Value}
    (run : ListRun (Reads depth) fuel first text items rest) :
    ListRun (Reads depth) (text.length + 1) first text items rest := by
  have bound := (ListRun.length_le reads_suffix run).1
  exact run.refuel (by omega)

end NodeGen.Json
