import NodeGen.FileTree
import Mathlib.Data.List.DropRight

/-! The components of paths: those of a joined path, and those of the directory that holds a path.
Components say which place a path leads to. -/

set_option autoImplicit false

namespace NodeGen.FileTree

theorem splitSlashes_slash (rest : List Char) :
    splitSlashes ('/' :: rest) = [] :: splitSlashes rest := by
  rw [splitSlashes]
  split
  · next empty => exact absurd empty (splitSlashes_ne_nil rest)
  · next cut => rw [if_pos rfl, cut]

theorem splitSlashes_append_slash (text rest : List Char) :
    splitSlashes (text ++ '/' :: rest) = splitSlashes text ++ splitSlashes rest := by
  induction text with
  | nil => exact splitSlashes_slash rest
  | cons char text ih =>
    rw [List.cons_append, splitSlashes, ih, splitSlashes]
    cases cut : splitSlashes text with
    | nil => exact absurd cut (splitSlashes_ne_nil text)
    | cons piece pieces =>
      simp only [List.cons_append]
      split <;> simp

theorem splitSlashes_of_notMem {text : List Char} (plain : '/' ∉ text) :
    splitSlashes text = [text] := by
  induction text with
  | nil => rfl
  | cons char text ih =>
    rw [List.mem_cons, not_or] at plain
    rw [splitSlashes, ih plain.2]
    exact if_neg (Ne.symm plain.1)

theorem notMem_of_mem_splitSlashes {text piece : List Char} (member : piece ∈ splitSlashes text) :
    '/' ∉ piece := by
  induction text generalizing piece with
  | nil =>
    rw [List.mem_singleton.mp member]
    exact List.not_mem_nil
  | cons char text ih =>
    rw [splitSlashes] at member
    cases cut : splitSlashes text with
    | nil => exact absurd cut (splitSlashes_ne_nil text)
    | cons first others =>
      rw [cut] at member ih
      simp only at member
      split at member
      · obtain rfl | later := List.mem_cons.mp member
        · exact List.not_mem_nil
        · exact ih later
      · next other =>
        obtain rfl | later := List.mem_cons.mp member
        · rw [List.mem_cons, not_or]
          exact ⟨Ne.symm other, ih List.mem_cons_self⟩
        · exact ih (List.mem_cons_of_mem _ later)

theorem joinPieces_append {pieces others : List (List Char)} (some : pieces ≠ [])
    (more : others ≠ []) :
    joinPieces (pieces ++ others) = joinPieces pieces ++ '/' :: joinPieces others := by
  induction pieces with
  | nil => exact absurd rfl some
  | cons piece pieces ih =>
    by_cases last : pieces = []
    · subst last
      rw [List.singleton_append, joinPieces_cons piece more]
      simp [joinPieces]
    · have longer : pieces ++ others ≠ [] := by simp [last]
      rw [List.cons_append, joinPieces_cons piece longer, joinPieces_cons piece last, ih last,
        List.append_assoc, List.cons_append]

/-- The pieces of a text that name something. -/
def namedPieces (text : List Char) : List (List Char) :=
  (splitSlashes text).filter (· ≠ [])

theorem components_eq (path : String) : components path = (namedPieces path.toList).map String.ofList :=
  rfl

theorem namedPieces_append_slash (text rest : List Char) :
    namedPieces (text ++ '/' :: rest) = namedPieces text ++ namedPieces rest := by
  rw [namedPieces, splitSlashes_append_slash, List.filter_append]
  rfl

theorem namedPieces_joinPieces {pieces : List (List Char)} (plain : ∀ piece ∈ pieces, '/' ∉ piece) :
    namedPieces (joinPieces pieces) = pieces.filter (· ≠ []) := by
  induction pieces with
  | nil => rfl
  | cons piece pieces ih =>
    obtain ⟨here, later⟩ := List.forall_mem_cons.mp plain
    by_cases last : pieces = []
    · subst last
      simp [joinPieces, namedPieces, splitSlashes_of_notMem here]
    · rw [joinPieces_cons piece last, namedPieces_append_slash, ih later, namedPieces,
        splitSlashes_of_notMem here, ← List.filter_append, List.singleton_append]

theorem namedPieces_slash (rest : List Char) : namedPieces ('/' :: rest) = namedPieces rest :=
  namedPieces_append_slash [] rest

/-- The first pieces of a text name what comes first in it. -/
theorem namedPieces_isPrefix {pieces : List (List Char)} {text : List Char}
    (first : pieces <+: splitSlashes text) : namedPieces (joinPieces pieces) <+: namedPieces text := by
  rw [namedPieces_joinPieces fun piece member => notMem_of_mem_splitSlashes (first.subset member)]
  exact first.filter _

theorem joinPieces_isPrefix {pieces : List (List Char)} {text : List Char}
    (first : pieces <+: splitSlashes text) : joinPieces pieces <+: text := by
  obtain ⟨others, all⟩ := first
  have whole : joinPieces (pieces ++ others) = text := by
    rw [all, joinPieces_splitSlashes]
  by_cases none : pieces = []
  · subst none
    exact List.nil_prefix
  by_cases last : others = []
  · rw [last, List.append_nil] at whole
    exact ⟨[], by rw [whole, List.append_nil]⟩
  · rw [← whole, joinPieces_append none last]
    exact List.prefix_append _ _

theorem dropUnnamed_isPrefix (pieces : List (List Char)) : dropUnnamed pieces <+: pieces :=
  List.rdropWhile_prefix _ pieces

/-- What is left of the pieces of a path when its last component is taken away. -/
theorem dropUnnamed_dropLast_isPrefix (pieces : List (List Char)) :
    dropUnnamed (dropUnnamed pieces).dropLast <+: pieces := by
  have shorter : (dropUnnamed pieces).dropLast <+: dropUnnamed pieces := List.dropLast_prefix _
  exact (dropUnnamed_isPrefix _).trans (shorter.trans (dropUnnamed_isPrefix pieces))

theorem components_isPrefix {path other : String}
    (first : namedPieces path.toList <+: namedPieces other.toList) :
    components path <+: components other := by
  rw [components_eq, components_eq]
  exact first.map _

/-- The spellings of a start. A dot is one only where a slash or the end follows. -/
theorem splitStart_cases (text : List Char) :
    (∃ body, text = '/' :: body ∧ splitStart text = (['/'], body)) ∨
    (∃ body pieces, text = '.' :: body ∧ splitStart text = (['.'], body) ∧
      splitSlashes body = [] :: pieces) ∨
    (text.head? ≠ some '/' ∧ splitStart text = ([], text)) := by
  rw [splitStart.eq_def]
  split
  · next body => exact .inl ⟨body, rfl, rfl⟩
  · exact .inr (.inl ⟨[], [], rfl, rfl, rfl⟩)
  · next rest => exact .inr (.inl ⟨'/' :: rest, splitSlashes rest, rfl, rfl, splitSlashes_slash rest⟩)
  · next noSlash _ _ =>
    refine .inr (.inr ⟨?_, rfl⟩)
    intro slash
    obtain ⟨rest, same⟩ := List.head?_eq_some_iff.mp slash
    exact noSlash rest same

/-- A parent is the start of the path with the first pieces of its body, or the empty path. -/
theorem parent?_cases {path parent : String} (held : parent? path = some parent) :
    (parent = "" ∧ (splitStart path.toList).1 = ['.']) ∨
    ∃ pieces, pieces <+: splitSlashes (splitStart path.toList).2 ∧
      parent.toList = (splitStart path.toList).1 ++ joinPieces pieces := by
  rw [parent?] at held
  simp only at held
  split at held
  · split at held
    · next dotted => exact .inl ⟨(Option.some.inj held).symm, dotted⟩
    · cases held
  · refine .inr ⟨_, dropUnnamed_dropLast_isPrefix _, ?_⟩
    rw [← Option.some.inj held, String.toList_ofList]

theorem namedPieces_dot_isPrefix {body : List Char} {pieces first : List (List Char)}
    (cut : splitSlashes body = [] :: pieces) (early : first <+: splitSlashes body) :
    namedPieces ('.' :: joinPieces first) <+: namedPieces ('.' :: body) := by
  have whole : splitSlashes ('.' :: body) = ['.'] :: pieces := by
    rw [splitSlashes, cut]
    exact if_neg (by decide)
  rw [cut] at early
  obtain ⟨others, dotted, later⟩ :
      ∃ others, '.' :: joinPieces first = joinPieces (['.'] :: others) ∧ others <+: pieces := by
    obtain rfl | ⟨others, rfl, later⟩ := List.prefix_cons_iff.mp early
    · exact ⟨[], rfl, List.nil_prefix⟩
    · refine ⟨others, ?_, later⟩
      by_cases last : others = []
      · rw [last]
        rfl
      · rw [joinPieces_cons _ last, joinPieces_cons _ last]
        rfl
  rw [dotted]
  apply namedPieces_isPrefix
  rw [whole, List.cons_prefix_cons]
  exact ⟨rfl, later⟩

theorem isAbsolute_of_isPrefix {path first : String} (early : first.toList <+: path.toList)
    (absolute : isAbsolute first) : isAbsolute path := by
  rw [isAbsolute, beq_iff_eq] at *
  obtain ⟨rest, spelled⟩ := List.head?_eq_some_iff.mp absolute
  rw [spelled] at early
  obtain ⟨others, whole⟩ := early
  rw [← whole]
  rfl

/-- The directory that holds a path starts where the path does and comes first on the way to it. -/
theorem components_parent? {path parent : String} (held : parent? path = some parent) :
    isAbsolute parent = isAbsolute path ∧ components parent <+: components path := by
  have spellings := parent?_cases held
  obtain ⟨body, text, start⟩ | ⟨body, rest, text, start, cut⟩ | ⟨relative, start⟩ :=
    splitStart_cases path.toList
  · rw [start] at spellings
    obtain ⟨-, dotted⟩ | ⟨pieces, first, spelled⟩ := spellings
    · cases dotted
    refine ⟨by rw [isAbsolute, isAbsolute, spelled, text]; rfl, components_isPrefix ?_⟩
    rw [spelled, text, List.singleton_append, namedPieces_slash, namedPieces_slash]
    exact namedPieces_isPrefix first
  · rw [start] at spellings
    have relative : isAbsolute path = false := by
      rw [isAbsolute, text]
      rfl
    obtain ⟨rfl, -⟩ | ⟨pieces, first, spelled⟩ := spellings
    · exact ⟨relative.symm, List.nil_prefix⟩
    refine ⟨by rw [relative, isAbsolute, spelled]; rfl, components_isPrefix ?_⟩
    rw [spelled, text]
    exact namedPieces_dot_isPrefix cut first
  · rw [start] at spellings
    obtain ⟨-, dotted⟩ | ⟨pieces, first, spelled⟩ := spellings
    · cases dotted
    rw [List.nil_append] at spelled
    have early : parent.toList <+: path.toList := by
      rw [spelled]
      exact joinPieces_isPrefix first
    have absent : ¬ isAbsolute path := by
      rw [isAbsolute, beq_iff_eq]
      exact relative
    refine ⟨?_, components_isPrefix ?_⟩
    · rw [eq_false_of_ne_true absent, eq_false_of_ne_true (mt (isAbsolute_of_isPrefix early) absent)]
    · rw [spelled]
      exact namedPieces_isPrefix first

theorem isAbsolute_of_notMem {name : String} (single : '/' ∉ name.toList) :
    isAbsolute name = false := by
  rw [isAbsolute, beq_eq_false_iff_ne]
  intro slash
  exact single (List.mem_of_head? slash)

/-- What a name without slashes is joined to: nothing, a path that ends in a slash, or a path and a
slash. -/
theorem join_cases (path : String) {name : String} (single : '/' ∉ name.toList) :
    (path = "" ∧ join path name = name) ∨
    (∃ body, path.toList = body ++ ['/'] ∧ (join path name).toList = path.toList ++ name.toList) ∨
    (path ≠ "" ∧ (join path name).toList = path.toList ++ '/' :: name.toList) := by
  simp only [join, isAbsolute_of_notMem single, Bool.false_eq_true, if_false]
  by_cases bare : path = ""
  · exact .inl ⟨bare, by simp [bare]⟩
  · by_cases slash : endsInSlash path = true
    · have last : path.toList.getLast? = some '/' := by
        simpa [endsInSlash] using slash
      obtain ⟨body, ends⟩ := List.getLast?_eq_some_iff.mp last
      exact .inr (.inl ⟨body, ends, by simp [slash]⟩)
    · exact .inr (.inr ⟨bare, by simp [slash, bare]⟩)

theorem isAbsolute_join (path : String) {name : String} (single : '/' ∉ name.toList) :
    isAbsolute (join path name) = isAbsolute path := by
  obtain ⟨rfl, joined⟩ | ⟨body, ends, joined⟩ | ⟨present, joined⟩ := join_cases path single
  · rw [joined, isAbsolute_of_notMem single]
    rfl
  · have present : path.toList ≠ [] := by simp [ends]
    rw [isAbsolute, isAbsolute, joined, List.head?_append_of_ne_nil _ present]
  · have named : path.toList ≠ [] := by simpa using present
    rw [isAbsolute, isAbsolute, joined, List.head?_append_of_ne_nil _ named]

/-- A name without slashes is one more component. -/
theorem components_join (path : String) {name : String} (single : '/' ∉ name.toList)
    (visible : name ≠ "") : components (join path name) = components path ++ [name] := by
  have own : namedPieces name.toList = [name.toList] := by
    simp [namedPieces, splitSlashes_of_notMem single, visible]
  have pieces : namedPieces (join path name).toList =
      namedPieces path.toList ++ [name.toList] := by
    obtain ⟨rfl, joined⟩ | ⟨body, ends, joined⟩ | ⟨-, joined⟩ := join_cases path single
    · rw [joined, own]
      rfl
    · have nothing : namedPieces [] = [] := rfl
      rw [joined, ends, List.append_assoc, List.singleton_append, namedPieces_append_slash,
        namedPieces_append_slash, own, nothing, List.append_nil]
    · rw [joined, namedPieces_append_slash, own]
  rw [components_eq, pieces, List.map_append, ← components_eq]
  simp

end NodeGen.FileTree
