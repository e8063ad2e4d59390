import NodeGen.Proofs.FileTree.Writing
import NodeGen.Proofs.Layout.Emission
import NodeGen.Proofs.Target.Scopes

/-! The listing of all units cut up again. The lines that name files are the only ones that begin as
they do: at the left margin a unit has a few kinds of lines, and every other line begins with its
margin. So a listing shows where each unit begins and ends. -/

set_option autoImplicit false

namespace NodeGen

namespace Layout

mutual

theorem depth_of_mem_stepLines {depth : Nat} {line : Line} :
    (step : Step) → line ∈ stepLines depth step →
      depth < line.depth ∨ line.depth = depth ∧ line.text ∈ Outline.surfaceStep step
  | .line text, member => by
    obtain rfl := List.mem_singleton.mp member
    simp
  | .blank, member => by
    obtain rfl := List.mem_singleton.mp member
    simp
  | .indented body, member => by
    rcases depth_of_mem_lines body member with deeper | ⟨here, -⟩ <;> exact .inl (by omega)
  | .block opening closing body, member => by
    obtain rfl | inside | rfl : line = ⟨depth, opening⟩ ∨ line ∈ lines (depth + 1) body ∨
        line = ⟨depth, closing⟩ := by simpa [stepLines] using member
    · simp
    · rcases depth_of_mem_lines body inside with deeper | ⟨here, -⟩ <;> exact .inl (by omega)
    · simp

/-- A line that is not on the surface of its steps is deeper than they are. -/
theorem depth_of_mem_lines {depth : Nat} {line : Line} :
    (steps : List Step) → line ∈ lines depth steps →
      depth < line.depth ∨ line.depth = depth ∧ line.text ∈ Outline.surface steps
  | [], member => by cases member
  | step :: rest, member => by
    obtain here | later := List.mem_append.mp member
    · obtain deeper | ⟨same, shown⟩ := depth_of_mem_stepLines step here
      · exact .inl deeper
      · exact .inr ⟨same, List.mem_append_left _ shown⟩
    · obtain deeper | ⟨same, shown⟩ := depth_of_mem_lines rest later
      · exact .inl deeper
      · exact .inr ⟨same, List.mem_append_right _ shown⟩

end

/-- Behind the last line there is nothing but the break that ends it. -/
theorem segments_renderLines {unit : String} (margin : '\n' ∉ unit.toList) {lines : List Line}
    (unbroken : ∀ line ∈ lines, '\n' ∉ line.text.toList) :
    Text.segments (renderLines unit lines) = lines.map (·.shown unit) ++ [""] := by
  induction lines with
  | nil => exact Text.segments_of_unbroken (by simp [renderLines])
  | cons line rest ih =>
    obtain ⟨first, others⟩ := List.forall_mem_cons.mp unbroken
    rw [renderLines_cons, Text.segments_append,
      Text.segments_of_unbroken (line.unbroken_shown margin first), ih others]
    rfl

end Layout

namespace CodeUnit

/-- What a line begins with that names a file. -/
def marker : String := "// ==> "

def isMarker (line : String) : Bool :=
  line.startsWith marker

/-- The lines below each line that names a file, with the name. -/
def sections : List String → List (String × List String)
  | [] => []
  | line :: rest =>
    if isMarker line then
      (String.ofList (line.toList.drop marker.length), rest.takeWhile (!isMarker ·)) ::
        sections rest
    else sections rest

/-- A listing cut at the lines that name files. The break before such a line belongs to none of the
parts. -/
def split (text : String) : List (String × String) :=
  (sections (Text.segments text)).map fun (name, lines) => (name, String.intercalate "\n" lines)

theorem listing_cons_cons (unit next : CodeUnit) (rest : List CodeUnit) :
    listing (unit :: next :: rest) =
      marker ++ unit.fileName ++ "\n" ++ (unit.source ++ "\n" ++ listing (next :: rest)) := by
  simp only [listing, List.map_cons, String.intercalate_cons_cons, listingEntry, marker,
    String.append_assoc]

theorem isMarker_eq_false_iff {line : String} :
    isMarker line = false ↔ ¬marker.toList <+: line.toList := by
  rw [Bool.eq_false_iff, isMarker, Ne, String.startsWith_string_iff]

theorem isMarker_marker (name : String) : isMarker (marker ++ name) = true := by
  simp [isMarker]

theorem drop_marker (name : String) :
    String.ofList ((marker ++ name).toList.drop marker.length) = name := by
  apply String.toList_injective
  rw [String.toList_ofList, String.toList_append, ← String.length_toList, List.drop_left]

theorem sections_append {plain : List String} (unmarked : ∀ line ∈ plain, isMarker line = false)
    (rest : List String) : sections (plain ++ rest) = sections rest := by
  induction plain with
  | nil => rfl
  | cons line plain ih =>
    obtain ⟨first, others⟩ := List.forall_mem_cons.mp unmarked
    rw [List.cons_append, sections, first]
    exact ih others

theorem sections_flatMap {entries : List (String × List String)}
    (unmarked : ∀ entry ∈ entries, ∀ line ∈ entry.2, isMarker line = false) :
    sections (entries.flatMap fun entry => (marker ++ entry.1) :: entry.2) = entries := by
  induction entries with
  | nil => rfl
  | cons entry rest ih =>
    obtain ⟨first, others⟩ := List.forall_mem_cons.mp unmarked
    have body : (entry.2 ++ rest.flatMap fun entry => (marker ++ entry.1) :: entry.2).takeWhile
        (!isMarker ·) = entry.2 := by
      rw [List.takeWhile_append_of_pos fun line member => by rw [first line member]; rfl]
      -- What follows is the line of the next file, if there is one.
      cases rest with
      | nil => simp
      | cons next rest => simp [isMarker_marker]
    rw [List.flatMap_cons, List.cons_append, sections, isMarker_marker, if_pos rfl, drop_marker,
      body, sections_append first, ih others]

/-- A unit that can be told apart in a listing. -/
structure Listable (unit : CodeUnit) : Prop where
  named : Unbroken unit.fileName
  unmarked : ∀ line ∈ Text.segments unit.source, isMarker line = false

variable {units : List CodeUnit}

theorem segments_listing (named : ∀ unit ∈ units, Unbroken unit.fileName) (visible : units ≠ []) :
    Text.segments (listing units) =
      units.flatMap fun unit => (marker ++ unit.fileName) :: Text.segments unit.source := by
  have heading {unit : CodeUnit} (named : Unbroken unit.fileName) :
      Text.segments (marker ++ unit.fileName) = [marker ++ unit.fileName] := by
    apply Text.segments_of_unbroken
    rw [String.toList_append, List.mem_append, not_or]
    exact ⟨by decide, named⟩
  induction units with
  | nil => exact absurd rfl visible
  | cons unit rest ih =>
    obtain ⟨first, others⟩ := List.forall_mem_cons.mp named
    cases rest with
    | nil =>
      have single : listing [unit] = marker ++ unit.fileName ++ "\n" ++ unit.source := by
        simp [listing, listingEntry, marker]
      rw [single, Text.segments_append, heading first]
      simp
    | cons next rest =>
      rw [listing_cons_cons, Text.segments_append, Text.segments_append, heading first,
        ih others (by simp)]
      rfl

theorem sections_listing (listable : ∀ unit ∈ units, unit.Listable) :
    sections (Text.segments (listing units)) =
      units.map fun unit => (unit.fileName, Text.segments unit.source) := by
  by_cases visible : units = []
  · rw [visible]
    decide
  · rw [segments_listing (fun unit member => (listable unit member).named) visible]
    have cut := @sections_flatMap (units.map fun unit => (unit.fileName, Text.segments unit.source))
      (by simpa using fun unit member => (listable unit member).unmarked)
    rwa [List.flatMap_map] at cut

theorem split_listing (listable : ∀ unit ∈ units, unit.Listable) :
    split (listing units) = units.map fun unit => (unit.fileName, unit.source) := by
  rw [split, sections_listing listable, List.map_map]
  refine List.map_congr_left fun unit member => ?_
  simp [Text.intercalate_segments]

theorem filter_listing (listable : ∀ unit ∈ units, unit.Listable) :
    (Text.segments (listing units)).filter isMarker = units.map (marker ++ ·.fileName) := by
  by_cases visible : units = []
  · rw [visible]
    decide
  · rw [segments_listing (fun unit member => (listable unit member).named) visible,
      List.filter_flatMap, List.map_eq_flatMap]
    refine List.flatMap_congr fun unit member => ?_
    have unmarked : (Text.segments unit.source).filter isMarker = [] :=
      List.filter_eq_nil_iff.mpr fun line inside => by
        simp [(listable unit member).unmarked line inside]
    rw [List.filter_cons_of_pos (isMarker_marker unit.fileName), unmarked]

end CodeUnit

namespace Target

open CodeUnit Outline

namespace Java

theorem isMarker_surface (package : Option String) (imports : List String) (base : BaseType)
    {text : String} (shown : text ∈ surface (unitSteps package imports base)) :
    isMarker text = false := by
  have ofPackage : ∀ text ∈ surface (packageSteps package), isMarker text = false := by
    cases package <;> simp [packageSteps, isMarker_eq_false_iff, marker]
  have ofImports (names : List String) :
      ∀ text ∈ surface (importSteps names), isMarker text = false := by
    cases names <;> simp [importSteps, isMarker_eq_false_iff, marker, or_imp, forall_and]
  revert text
  rw [unitSteps, surface_append, surface_append, surface_append]
  simp only [List.forall_mem_append]
  refine ⟨⟨⟨?_, ofPackage⟩, ofImports _⟩, ?_⟩ <;> simp [isMarker_eq_false_iff, marker]

end Java

namespace Rust

theorem isMarker_surface (imports : List String) (base : BaseType) {text : String}
    (shown : text ∈ surface (unitSteps imports base)) : isMarker text = false := by
  have ofImports : ∀ text ∈ surface (importSteps imports), isMarker text = false := by
    cases imports <;> simp [importSteps, isMarker_eq_false_iff, marker, or_imp, forall_and]
  revert text
  rw [surface_unitSteps, headSteps, surface_append]
  simp only [List.forall_mem_append, List.forall_mem_flatMap]
  refine ⟨⟨⟨?_, ofImports⟩, ?_⟩, ?_⟩
  · simp [isMarker_eq_false_iff, marker]
  · simp [isMarker_eq_false_iff, marker, enumHeader, implHeader, traitHeader]
  · simp [isMarker_eq_false_iff, marker, structHeader, implHeader]

end Rust

theorem isMarker_surface (target : Target) (base : BaseType) {text : String}
    (shown : text ∈ surface (target.steps base)) : isMarker text = false := by
  cases target with
  | java package imports => exact Java.isMarker_surface package imports base shown
  | rust imports => exact Rust.isMarker_surface imports base shown

theorem unbroken_margin (target : Target) : '\n' ∉ target.margin.toList := by
  cases target <;> simp [margin]

/-- A line that is not at the left margin begins with a blank. -/
theorem isMarker_shown (target : Target) {line : Layout.Line} (deeper : 0 < line.depth) :
    isMarker (line.shown target.margin) = false := by
  obtain ⟨depth, same⟩ := Nat.exists_eq_add_one.mpr deeper
  unfold Layout.Line.shown
  split
  · decide
  · cases target <;> simp [same, List.replicate_succ, margin, isMarker_eq_false_iff, marker]

theorem stepsUnbroken {target : Target} (copied : target.Unbroken) {base : BaseType}
    (readable : base.Readable) : Layout.StepsUnbroken (target.steps base) := by
  apply Layout.stepsUnbroken_of_legible
  cases target with
  | java package imports => exact Java.stepsLegible_unitSteps copied.1 copied.2 readable
  | rust imports => exact Rust.stepsLegible_unitSteps copied readable

theorem listable_unit {target : Target} (copied : target.Unbroken) {base : BaseType}
    (readable : base.Readable) : (target.unit base).Listable where
  named := target.notMem_fileName readable.name (by decide) (by decide)
  unmarked line member := by
    have unbroken := stepsUnbroken copied readable
    rw [unit, unitText_eq, Layout.render, Layout.segments_renderLines target.unbroken_margin
      fun line => Layout.unbroken_of_mem_lines _ unbroken] at member
    obtain inside | last := List.mem_append.mp member
    · obtain ⟨line, laid, rfl⟩ := List.mem_map.mp inside
      obtain deeper | ⟨atMargin, shown⟩ := Layout.depth_of_mem_lines (target.steps base) laid
      · exact target.isMarker_shown deeper
      · have bare : line.shown target.margin = line.text := by
          simp [Layout.Line.shown, atMargin]
        rw [bare]
        exact target.isMarker_surface base shown
    · obtain rfl := List.mem_singleton.mp last
      decide

end Target

open CodeUnit

theorem listable_of_generate {schema : Schema} {target : Target} {units : List CodeUnit}
    (generated : generate schema target = .ok units) (scalars : schema.ScalarsUnbroken)
    (copied : target.Unbroken) : ∀ unit ∈ units, unit.Listable := by
  obtain ⟨valid, -, rfl⟩ := generate_eq_ok_iff.mp generated
  intro unit member
  obtain ⟨base, present, rfl⟩ := List.mem_map.mp member
  exact Target.listable_unit copied (valid.readable scalars present)

/-- In a listing the lines that begin as the name of a file does are the names of the units' files,
in order, and cutting the text there gives each unit back. So a listing determines the names and the
sources of its units, whatever they were generated from. -/
theorem split_of_generate {schema : Schema} {target : Target} {units : List CodeUnit}
    (generated : generate schema target = .ok units) (scalars : schema.ScalarsUnbroken)
    (copied : target.Unbroken) :
    (Text.segments (listing units)).filter (·.startsWith "// ==> ") =
      units.map ("// ==> " ++ ·.fileName) ∧
    split (listing units) = units.map (fun unit => (unit.fileName, unit.source)) ∧
    ∀ (other : Schema) (elsewhere : Target) (others : List CodeUnit),
      generate other elsewhere = .ok others → other.ScalarsUnbroken → elsewhere.Unbroken →
      listing others = listing units →
        others.map (fun unit => (unit.fileName, unit.source)) =
          units.map fun unit => (unit.fileName, unit.source) := by
  have listable := listable_of_generate generated scalars copied
  refine ⟨filter_listing listable, split_listing listable, ?_⟩
  intro other elsewhere others made unbroken given same
  rw [← split_listing listable, ← same,
    split_listing (listable_of_generate made unbroken given)]

/-- A scalar and an import that look like the name of a file. -/
def markedSchema : Schema :=
  ⟨[⟨"Expr", [⟨"Literal", [⟨"value", .scalar "// ==> Never.java"⟩]⟩]⟩, ⟨"Never", []⟩]⟩

def markedTarget : Target :=
  .java none ["// ==> Never.java"]

theorem split_of_generate_markedSchema :
    (Text.segments (listing (markedSchema.baseTypes.map markedTarget.unit))).filter
        (·.startsWith "// ==> ") = ["// ==> Expr.java", "// ==> Never.java"] ∧
    split (listing (markedSchema.baseTypes.map markedTarget.unit)) =
      markedSchema.baseTypes.map fun base =>
        (markedTarget.fileName base, markedTarget.unitText base) := by
  obtain ⟨marks, parts, -⟩ := @split_of_generate markedSchema markedTarget _ rfl
    (by simp [markedSchema, Schema.ScalarsUnbroken, TypeRef.ScalarsUnbroken, Unbroken])
    (by simp [markedTarget, Target.Unbroken, Unbroken])
  exact ⟨marks, parts⟩

end NodeGen
