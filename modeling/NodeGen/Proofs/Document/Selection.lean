import NodeGen.Proofs.Document.Agreement
import NodeGen.Proofs.Document.Grouping
import NodeGen.Proofs.Json.Extent

/-! What a pointer makes of a file. With a pointer the file is read as a value first, without one the
document is read from the text; where no key is repeated, the pointer to the top gives what the text
gives. -/

set_option autoImplicit false

namespace NodeGen.Document

open Json Json.Grammar

variable {evaluator : Query.Evaluator} {tree : FileTree} {path text : String}
  (stored : tree.read path = .ok text)
include stored

theorem load_eq_ofText (selection : Selection) :
    load evaluator tree selection path = ofText evaluator path selection text := by
  rw [load, stored]
  rfl

theorem load_whole_iff {document : Document} :
    load evaluator tree ⟨none, none⟩ path = .ok document ↔
      ∃ entire rest, Reads depthLimit text.toList entire rest ∧ ofValue entire = .ok document := by
  rw [load_eq_ofText stored, ← Document.parse_eq_ok_iff]
  exact Checks.mapError_eq_ok_iff

theorem load_pointer_eq (pointer : String) :
    load evaluator tree ⟨some pointer, none⟩ path = (do
      let value ← (Json.parse text).mapError (.parse path)
      match Pointer.select pointer value with
      | none => .error (.pointer pointer path)
      | some inner =>
        ((ofValue inner).mapError fun misfit => .parse path misfit.report).map
          Document.empty.merge) := by
  rw [load_eq_ofText stored]
  cases parsed : Json.parse text with
  | error report => simp [ofText, Selection.isWhole, parsed, Except.mapError, bind, Except.bind]
  | ok value =>
    cases selected : Pointer.select pointer value with
    | none =>
      simp [ofText, Selection.isWhole, parsed, Except.mapError, bind, Except.bind,
        Selection.pointed, selected]
    | some inner =>
      simp only [ofText, Selection.isWhole, parsed, Except.mapError, bind, Except.bind,
        Selection.pointed, selected, Selection.queried, mergeValues]
      cases ofValue inner <;> rfl

theorem load_pointer_iff {pointer : String} {document : Document} :
    load evaluator tree ⟨some pointer, none⟩ path = .ok document ↔
      ∃ entire rest inner found, Reads depthLimit text.toList entire rest ∧ skipSpace rest = [] ∧
        Pointer.select pointer entire.collapse = some inner ∧ ofValue inner = .ok found ∧
        Document.empty.merge found = document := by
  rw [load_pointer_eq stored, Checks.bind_eq_ok_iff]
  simp only [Checks.mapError_eq_ok_iff, Json.parse_eq_ok_iff]
  constructor
  · rintro ⟨_, ⟨entire, rest, reads, blank, rfl⟩, taken⟩
    split at taken
    · cases taken
    · next inner selected =>
      obtain ⟨found, converted, same⟩ := Checks.map_eq_ok_iff.mp taken
      exact ⟨entire, rest, inner, found, reads, blank, selected,
        Checks.mapError_eq_ok_iff.mp converted, same⟩
  · rintro ⟨entire, rest, inner, found, reads, blank, selected, converted, rfl⟩
    refine ⟨_, ⟨entire, rest, reads, blank, rfl⟩, ?_⟩
    rw [selected]
    dsimp only
    rw [converted]
    rfl

/-- The pointer to the top always leads somewhere. -/
theorem load_top_error {error : LoadError}
    (failed : load evaluator tree ⟨some "", none⟩ path = .error error) :
    ∃ report, error = .parse path report := by
  rw [load_pointer_eq stored] at failed
  cases parsed : Json.parse text with
  | error report =>
    rw [parsed] at failed
    exact ⟨report, (Except.error.inj failed).symm⟩
  | ok value =>
    rw [parsed] at failed
    change ((ofValue value).mapError _).map _ = _ at failed
    cases converted : ofValue value with
    | error misfit =>
      rw [converted] at failed
      exact ⟨misfit.report, (Except.error.inj failed).symm⟩
    | ok found =>
      rw [converted] at failed
      cases failed

/-- A file that is one value without repeated keys gives the same document on both ways, but for
repeated imports, and what is refused on one way is refused on the other. -/
theorem load_top_agrees {written : Written} (whole : written.WholeText text.toList)
    (distinct : written.Distinct) :
    (∀ document, load evaluator tree ⟨none, none⟩ path = .ok document →
      load evaluator tree ⟨some "", none⟩ path =
        .ok { document with imports := document.imports.eraseDups }) ∧
    ∀ report, load evaluator tree ⟨none, none⟩ path = .error (.parse path report) →
      ∃ other, load evaluator tree ⟨some "", none⟩ path = .error (.parse path other) := by
  constructor
  · intro document loaded
    obtain ⟨entire, rest, reads, converted⟩ := (load_whole_iff stored).mp loaded
    obtain ⟨blank, same⟩ := reads_wholeText whole reads
    have unchanged := (Written.Distinct.of_matches distinct same).collapse_eq
    refine (load_pointer_iff stored).mpr
      ⟨entire, rest, entire, document, reads, blank, ?_, converted, ?_⟩
    · rw [unchanged]
      rfl
    · simp [merge, Document.empty, distinct_eq_eraseDups]
  · intro report refused
    cases loaded : load evaluator tree ⟨some "", none⟩ path with
    | error error =>
      obtain ⟨other, rfl⟩ := load_top_error stored loaded
      exact ⟨other, rfl⟩
    | ok document =>
      obtain ⟨entire, rest, inner, found, reads, -, selected, converted, -⟩ :=
        (load_pointer_iff stored).mp loaded
      obtain ⟨-, same⟩ := reads_wholeText whole reads
      rw [(Written.Distinct.of_matches distinct same).collapse_eq] at selected
      obtain rfl : entire = inner := Option.some.inj selected
      have accepted : load evaluator tree ⟨none, none⟩ path = .ok found :=
        (load_whole_iff stored).mpr ⟨entire, rest, reads, converted⟩
      rw [refused] at accepted
      cases accepted

omit stored

/-- A file with an import that is repeated, and one whose types are not an object. -/
def topTree : FileTree :=
  ⟨[(⟨.above 0, ["a.json"]⟩, .file " \x7b\"imports\": [\"x\",\"x\"]\x7d\n".toUTF8),
    (⟨.above 0, ["b.json"]⟩, .file "\x7b\"types\":[]\x7d".toUTF8)]⟩

theorem wholeText_imports :
    (Written.object [(codeUnits "imports".toList,
      .array [.string (codeUnits "x".toList), .string (codeUnits "x".toList)])]).WholeText
      " \x7b\"imports\": [\"x\",\"x\"]\x7d\n".toList := by
  have blank : Space [' '] := by simp [Space]
  have line : Space ['\n'] := by simp [Space]
  have name : Written.Text (.string (codeUnits "x".toList)) _ := .string (unitsText_plain (by decide))
  have names : Written.Text (.array [.string (codeUnits "x".toList),
      .string (codeUnits "x".toList)]) _ :=
    .array (.next (.first space_nil) name
      (.next (.comma space_nil space_nil) name (.done space_nil)))
  exact .spaced blank (.object (.next (.first space_nil)
    (.colon (unitsText_plain (by decide)) space_nil blank names) (.done space_nil))) line

theorem wholeText_types :
    (Written.object [(codeUnits "types".toList, .array [])]).WholeText
      "\x7b\"types\":[]\x7d".toList :=
  .spaced space_nil (.object (.next (.first space_nil)
    (.colon (unitsText_plain (by decide)) space_nil space_nil (.array (.done space_nil)))
    (.done space_nil))) space_nil

theorem load_top_agrees_topTree :
    load Query.common topTree ⟨some "", none⟩ "a.json" = .ok ⟨none, ["x"], []⟩ ∧
    ∃ other, load Query.common topTree ⟨some "", none⟩ "b.json" =
      .error (.parse "b.json" other) := by
  constructor
  · have loaded : load Query.common topTree ⟨none, none⟩ "a.json" = .ok ⟨none, ["x", "x"], []⟩ := by
      decide +kernel
    refine (load_top_agrees rfl wholeText_imports (.object (by decide) ?_)).1 _ loaded
    intro field only
    obtain rfl := List.mem_singleton.mp only
    refine .array fun item member => ?_
    simp only [List.mem_cons, List.not_mem_nil, or_false, or_self] at member
    exact member ▸ .string
  · refine (load_top_agrees rfl wholeText_types (.object (by decide) ?_)).2 _ rfl
    intro field only
    obtain rfl := List.mem_singleton.mp only
    exact .array nofun

end NodeGen.Document
