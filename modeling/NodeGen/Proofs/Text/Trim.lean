import NodeGen.Text.Blank
import Mathlib.Data.List.DropRight

/-! Laws of trimming. -/

set_option autoImplicit false

namespace NodeGen.Text

theorem trimStart_eq_self {char : Char} {rest : List Char} (visible : isBlank char = false) :
    trimStart (char :: rest) = char :: rest := by
  simp [trimStart, visible]

theorem trimStart_append {blanks : List Char} (blank : ∀ char ∈ blanks, isBlank char = true)
    (rest : List Char) : trimStart (blanks ++ rest) = trimStart rest := by
  simp [trimStart, List.dropWhile_append_of_pos blank]

theorem trimEnd_prefix (text : List Char) : trimEnd text <+: text :=
  List.rdropWhile_prefix isBlank text

theorem trimEnd_trimEnd (text : List Char) : trimEnd (trimEnd text) = trimEnd text :=
  List.rdropWhile_idempotent isBlank text

/-- A beginning of a text that starts with a visible character does so too. -/
theorem trimStart_of_begins {front text : List Char} (begins : front <+: text)
    (kept : trimStart text = text) : trimStart front = front := by
  cases front with
  | nil => rfl
  | cons char front =>
    obtain ⟨rest, rfl⟩ := begins
    unfold trimStart at kept ⊢
    rw [List.dropWhile_eq_self_iff] at kept ⊢
    exact fun _ => kept (by simp)

/-- Nothing is left to strip at the front once both ends are stripped. -/
theorem trimStart_trim (text : List Char) : trimStart (trim text) = trim text := by
  have begins : trim text <+: trimStart text := trimEnd_prefix (trimStart text)
  exact trimStart_of_begins begins (List.dropWhile_idempotent isBlank text)

theorem trim_trim (text : List Char) : trim (trim text) = trim text := by
  rw [trim, trimStart_trim]
  exact trimEnd_trimEnd _

theorem trim_eq_self {first last : Char} (opened : isBlank first = false)
    (closed : isBlank last = false) (inner : List Char) :
    trim (first :: inner ++ [last]) = first :: inner ++ [last] := by
  have started : trimStart (first :: inner ++ [last]) = first :: inner ++ [last] :=
    trimStart_eq_self opened
  rw [trim, started]
  exact List.rdropWhile_concat_neg _ _ _ (by simp [closed])

theorem trimEnd_append {blanks : List Char} (blank : ∀ char ∈ blanks, isBlank char = true)
    (text : List Char) : trimEnd (text ++ blanks) = trimEnd text := by
  unfold trimEnd
  rw [List.reverse_append, List.dropWhile_append_of_pos]
  simpa using blank

/-- Blanks around a text are stripped with those at its ends. -/
theorem trim_append {before after : List Char} (blankBefore : ∀ char ∈ before, isBlank char = true)
    (blankAfter : ∀ char ∈ after, isBlank char = true) (text : List Char) :
    trim (before ++ text ++ after) = trim text := by
  have started : trimStart (before ++ text ++ after) = trimStart (text ++ after) := by
    rw [List.append_assoc, trimStart_append blankBefore]
  rw [trim, started, trim, trimStart, List.dropWhile_append]
  split
  · next empty =>
    have blank : List.dropWhile isBlank text = [] := List.isEmpty_iff.mp empty
    rw [trimStart, blank, List.dropWhile_eq_nil_iff.mpr blankAfter]
  · exact trimEnd_append blankAfter _

/-- Blanks at the ends are all that is stripped. -/
theorem exists_blanks (text : List Char) :
    ∃ before after, (∀ char ∈ before, isBlank char = true) ∧
      (∀ char ∈ after, isBlank char = true) ∧ text = before ++ trim text ++ after := by
  refine ⟨text.takeWhile isBlank, (trimStart text).rtakeWhile isBlank,
    fun char => List.mem_takeWhile_imp, fun char => List.mem_rtakeWhile_imp, ?_⟩
  have ended : trim text ++ (trimStart text).rtakeWhile isBlank = trimStart text :=
    List.rdropWhile_append_rtakeWhile
  rw [List.append_assoc, ended]
  exact List.takeWhile_append_dropWhile.symm

/-- A visible character behind a text keeps what stands before it, blanks included. -/
theorem trim_append_visible {text : List Char} (present : trim text ≠ []) (blanks : List Char)
    {last : Char} (visible : isBlank last = false) :
    trim (text ++ blanks ++ [last]) = trimStart text ++ blanks ++ [last] := by
  have started : trimStart text ≠ [] := by
    intro empty
    apply present
    rw [trim, empty]
    rfl
  have kept : trimStart (text ++ blanks ++ [last]) = trimStart text ++ blanks ++ [last] := by
    rw [List.append_assoc, trimStart, List.dropWhile_append, if_neg, List.append_assoc]
    · rfl
    · rwa [List.isEmpty_iff]
  rw [trim, kept]
  exact List.rdropWhile_concat_neg _ _ _ (by simp [visible])

end NodeGen.Text
