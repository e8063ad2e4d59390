import NodeGen.Proofs.FileTree.Change
import NodeGen.Proofs.Target.Linkage

/-! Units written to a directory are written exactly. The files of one output never meet: their
names are distinct and each is one component of a path. So every file that was written can be read
back as the source of its unit, also after the files that were written later, and a write that fails
leaves the units behind it untouched. -/

set_option autoImplicit false

namespace NodeGen

namespace FileTree

open Checks

/-! ### Places of files in a directory -/

/-- A name for a file directly in a directory. -/
structure NamesFile (name : String) : Prop where
  visible : name ≠ ""
  single : '/' ∉ name.toList
  plain : isPlain name = true

theorem locate_join (directory : String) {name : String} (names : NamesFile name) :
    locate (join directory name) = (locate directory).child name := by
  have plain := names.plain
  rw [isPlain, Bool.and_eq_true, bne_iff_ne, bne_iff_ne] at plain
  rw [locate, locate, start, start, isAbsolute_join directory names.single,
    components_join directory names.single names.visible, Location.follow, List.foldl_append]
  simp [Location.step, plain, Location.follow]

theorem eq_of_locate_join {directory first second : String} (ofFirst : NamesFile first)
    (ofSecond : NamesFile second)
    (same : locate (join directory first) = locate (join directory second)) : first = second := by
  rw [locate_join directory ofFirst, locate_join directory ofSecond] at same
  simpa [Location.child] using congrArg Location.names same

/-! ### Reading after writing -/

/-- Every path that could be followed can still be followed. -/
structure Keeps (before after : FileTree) : Prop where
  directories : ∀ place, before.isDirectoryAt place = true → after.isDirectoryAt place = true
  entries : ∀ place, (before.entryAt? place).isSome → (after.entryAt? place).isSome

namespace Keeps

variable {before between after : FileTree}

theorem refl (tree : FileTree) : Keeps tree tree :=
  ⟨fun _ here => here, fun _ here => here⟩

theorem trans (early : Keeps before between) (late : Keeps between after) : Keeps before after :=
  ⟨fun place here => late.directories place (early.directories place here),
    fun place here => late.entries place (early.entries place here)⟩

/-- A file in the place of a directory would cut paths off; anywhere else it does not. -/
theorem put {place : Location} (free : before.isDirectoryAt place = false) (entry : Entry) :
    Keeps before (before.put place entry) := by
  have named : place.names ≠ [] := by
    intro anchor
    simp [isDirectoryAt, entryAt?, anchor] at free
  constructor
  · intro other here
    have differs : other ≠ place := by
      rintro rfl
      rw [free] at here
      cases here
    rwa [isDirectoryAt, entryAt?_put_of_ne before entry differs]
  · intro other here
    by_cases same : other = place
    · rw [same, entryAt?_put_self before entry named]
      rfl
    · rwa [entryAt?_put_of_ne before entry same]

theorem enter (keeps : Keeps before after) {place next : Location} {name : String}
    (entered : before.enter place name = .ok next) : after.enter place name = .ok next := by
  obtain ⟨here, same, found⟩ := enter_eq_ok_iff.mp entered
  refine enter_eq_ok_iff.mpr ⟨keeps.directories place here, same, fun plain => ?_⟩
  exact (found plain).imp_right (keeps.entries (place.child name))

theorem walk (keeps : Keeps before after) {place next : Location} {names : List String}
    (walked : before.walk place names = .ok next) : after.walk place names = .ok next := by
  induction names generalizing place with
  | nil => exact walked
  | cons name rest ih =>
    rw [FileTree.walk] at walked ⊢
    split at walked
    · next inner entered =>
      rw [keeps.enter entered]
      exact ih walked
    · cases walked

theorem find (keeps : Keeps before after) {path : String} {place : Location}
    (found : before.find path = .ok place) : after.find path = .ok place := by
  obtain ⟨_, accepted, found⟩ := bind_eq_ok_iff.mp found
  obtain ⟨last, walked, found⟩ := bind_eq_ok_iff.mp found
  refine bind_eq_ok_iff.mpr ⟨_, accepted, bind_eq_ok_iff.mpr ⟨last, keeps.walk walked, ?_⟩⟩
  split at found
  · cases found
  · next fits =>
    simp only [Bool.and_eq_true, Bool.not_eq_true', not_and, Bool.not_eq_false] at fits
    rw [if_neg]
    · exact found
    · simp only [Bool.and_eq_true, Bool.not_eq_true', not_and, Bool.not_eq_false]
      exact fun slash => keeps.directories last (fits slash)

/-- A file reads the same as long as nothing else is put in its place. -/
theorem read (keeps : Keeps before after) {path text : String}
    (same : after.entryAt? (locate path) = before.entryAt? (locate path))
    (held : before.read path = .ok text) : after.read path = .ok text := by
  obtain ⟨place, found, held⟩ := bind_eq_ok_iff.mp held
  refine bind_eq_ok_iff.mpr ⟨place, keeps.find found, ?_⟩
  rw [eq_locate_of_find found] at held ⊢
  rw [same]
  exact held

end Keeps

theorem walk_append {tree : FileTree} {place next : Location} {names : List String} {name : String}
    (walked : tree.walk place names = .ok next) :
    tree.walk place (names ++ [name]) = tree.enter next name := by
  induction names generalizing place with
  | nil =>
    cases walked
    rw [List.nil_append, walk]
    split
    · next entered => rw [entered, walk]
    · next refused => rw [refused]
  | cons first rest ih =>
    rw [walk] at walked
    split at walked
    · next inner entered =>
      rw [List.cons_append, walk, entered]
      exact ih walked
    · cases walked

theorem write_keeps {tree after : FileTree} {path text : String}
    (written : tree.write path text = .ok after) : Keeps tree after := by
  obtain ⟨place, name, -, -, -, -, free, rfl⟩ := write_cases written
  exact .put free _

/-- What was written is read. -/
theorem read_of_write {tree after : FileTree} {path text : String}
    (written : tree.write path text = .ok after) : after.read path = .ok text := by
  have keeps := write_keeps written
  obtain ⟨place, name, found, plain, file, short, -, rfl⟩ := write_cases written
  obtain ⟨accepted, walked, here, last⟩ := findParent_eq_ok found
  have names : components path = (components path).dropLast ++ [name] :=
    (List.dropLast_append_getLast? name last.symm).symm
  have present : (tree.put (place.child name) (.file text.toUTF8)).entryAt? (place.child name) =
      some (.file text.toUTF8) :=
    entryAt?_put_self tree _ (by simp [Location.child])
  -- The path leads to its directory as before, and there the name now stands for the file.
  have entered : (tree.put (place.child name) (.file text.toUTF8)).enter place name =
      .ok (place.child name) := by
    refine enter_eq_ok_iff.mpr ⟨keeps.directories place here, ?_, fun _ => ⟨short, ?_⟩⟩
    · rw [isPlain, Bool.and_eq_true, bne_iff_ne, bne_iff_ne] at plain
      rw [Location.step, if_neg plain.1, if_neg plain.2]
    · rw [present]
      rfl
  have reached : (tree.put (place.child name) (.file text.toUTF8)).find path =
      .ok (place.child name) := by
    refine bind_eq_ok_iff.mpr ⟨_, accepted, bind_eq_ok_iff.mpr ⟨place.child name, ?_, ?_⟩⟩
    · rw [names, walk_append (keeps.walk walked), entered]
    · simp [file]
  have decoded : String.fromUTF8? text.toUTF8 = some text := dif_pos text.isValidUTF8
  refine bind_eq_ok_iff.mpr ⟨_, reached, ?_⟩
  simp only [present, decoded]

/-! ### Units one after the other -/

def unitPath (directory : String) (unit : CodeUnit) : String :=
  join directory unit.fileName

def unitPlace (directory : String) (unit : CodeUnit) : Location :=
  locate (unitPath directory unit)

/-- The files of the units hold exactly their sources. -/
def HoldsUnits (tree : FileTree) (directory : String) (units : List CodeUnit) : Prop :=
  ∀ unit ∈ units, tree.read (unitPath directory unit) = .ok unit.source

theorem writeEach_cons_error {directory : String} {tree : FileTree} {unit : CodeUnit}
    {cause : FileError}
    (failed : tree.write (unitPath directory unit) unit.source = .error cause)
    (rest : List CodeUnit) :
    tree.writeEach directory (unit :: rest) =
      (tree, .error (.write (unitPath directory unit) cause)) := by
  rw [unitPath] at failed
  rw [writeEach.eq_def]
  simp only [failed, unitPath]

theorem writeEach_cons_ok {directory : String} {tree between : FileTree} {unit : CodeUnit}
    (written : tree.write (unitPath directory unit) unit.source = .ok between)
    (rest : List CodeUnit) :
    tree.writeEach directory (unit :: rest) =
      ((between.writeEach directory rest).1,
        (between.writeEach directory rest).2.map (unitPath directory unit :: ·)) := by
  rw [unitPath] at written
  rw [writeEach.eq_def]
  simp only [written, unitPath]

/-- How writing ends: with all units written, or at a unit that failed after those before it. -/
theorem writeEach_cases (directory : String) (units : List CodeUnit) (tree : FileTree) :
    (tree.writeEach directory units).2 = .ok (units.map (unitPath directory)) ∨
    ∃ before unit later cause, units = before ++ unit :: later ∧
      (tree.writeEach directory before).1 = (tree.writeEach directory units).1 ∧
      (tree.writeEach directory before).2 = .ok (before.map (unitPath directory)) ∧
      (tree.writeEach directory units).2 = .error (.write (unitPath directory unit) cause) := by
  induction units generalizing tree with
  | nil => exact .inl rfl
  | cons unit rest ih =>
    cases written : tree.write (unitPath directory unit) unit.source with
    | error cause =>
      refine .inr ⟨[], unit, rest, cause, rfl, ?_, rfl, ?_⟩
      · rw [writeEach_cons_error written]
        rfl
      · rw [writeEach_cons_error written]
    | ok between =>
      obtain all | ⟨before, failed, later, cause, rfl, same, early, error⟩ := ih between
      · refine .inl ?_
        rw [writeEach_cons_ok written, all]
        rfl
      · refine .inr ⟨unit :: before, failed, later, cause, rfl, ?_, ?_, ?_⟩
        · rw [writeEach_cons_ok written, writeEach_cons_ok written, same]
        · rw [writeEach_cons_ok written, early]
          rfl
        · rw [writeEach_cons_ok written, error]
          rfl

/-- Files with places of their own all hold their sources in the end. -/
theorem writeEach_holds {directory : String} {units : List CodeUnit} {tree : FileTree}
    {paths : List String} (apart : (units.map (unitPlace directory)).Nodup)
    (all : (tree.writeEach directory units).2 = .ok paths) :
    Keeps tree (tree.writeEach directory units).1 ∧
      (tree.writeEach directory units).1.HoldsUnits directory units := by
  induction units generalizing tree paths with
  | nil => exact ⟨.refl tree, fun unit member => by cases member⟩
  | cons unit rest ih =>
    obtain ⟨fresh, others⟩ := List.nodup_cons.mp apart
    cases written : tree.write (unitPath directory unit) unit.source with
    | error cause =>
      rw [writeEach_cons_error written] at all
      cases all
    | ok between =>
      rw [writeEach_cons_ok written] at all ⊢
      obtain ⟨later, finished, -⟩ := map_eq_ok_iff.mp all
      obtain ⟨keeps, holds⟩ := ih others finished
      refine ⟨(write_keeps written).trans keeps, List.forall_mem_cons.mpr ⟨?_, holds⟩⟩
      -- The file is there after its own write, and no later unit has its place.
      refine keeps.read ?_ (read_of_write written)
      refine writeEach_frame directory rest between _ fun other member same => ?_
      exact fresh (List.mem_map.mpr ⟨other, member, same.symm⟩)

/-- No file at the place was made, changed or lost. -/
def SameFile (before after : FileTree) (place : Location) : Prop :=
  ∀ contents, after.entryAt? place = some (.file contents) ↔
    before.entryAt? place = some (.file contents)

theorem AddsDirectories.sameFile {places : Location → Prop} {before after : FileTree}
    (adds : AddsDirectories places before after) (place : Location) :
    SameFile before after place := by
  intro contents
  obtain same | ⟨-, absent, made⟩ := adds place
  · rw [same]
  · rw [absent, made]
    simp

theorem writeUnits_sameFile (tree : FileTree) {directory : String} {units : List CodeUnit}
    {place : Location} (elsewhere : ∀ unit ∈ units, place ≠ unitPlace directory unit) :
    SameFile tree (tree.writeUnits directory units).1 place := by
  intro contents
  by_cases same : (tree.writeUnits directory units).1.entryAt? place = tree.entryAt? place
  · rw [same]
  · obtain ⟨-, absent, made⟩ | ⟨unit, member, here⟩ := writeUnits_frame same
    · simp [absent, made]
    · exact absurd here (elsewhere unit member)

theorem writeUnits_cases {tree after : FileTree} {directory : String} {units : List CodeUnit}
    {result : Except WriteError (List String)}
    (run : tree.writeUnits directory units = (after, result)) :
    (∃ cause, result = .error (.createDirectory directory cause)) ∨
    ∃ between, AddsDirectories (Passes directory) tree between ∧
      between.writeEach directory units = (after, result) := by
  have adds := makeDirectories_adds tree directory
  rw [writeUnits] at run
  split at run
  · next between cause made => exact .inl ⟨cause, (Prod.mk.inj run).2.symm⟩
  · next between made =>
    rw [made] at adds
    exact .inr ⟨between, adds, run⟩

/-- When all units are written, their files hold their sources. -/
theorem writeUnits_eq_ok {tree after : FileTree} {directory : String} {units : List CodeUnit}
    {paths : List String} (apart : (units.map (unitPlace directory)).Nodup)
    (written : tree.writeUnits directory units = (after, .ok paths)) :
    paths = units.map (unitPath directory) ∧ after.HoldsUnits directory units := by
  obtain ⟨cause, refused⟩ | ⟨between, -, run⟩ := writeUnits_cases written
  · cases refused
  have done : (between.writeEach directory units).2 = .ok paths := by rw [run]
  obtain all | ⟨_, _, _, cause, -, -, -, failed⟩ := writeEach_cases directory units between
  · have holds := (writeEach_holds apart all).2
    rw [run] at all holds
    exact ⟨Except.ok.inj all, holds⟩
  · rw [done] at failed
    cases failed

/-- When a unit is not written, those before it are, and the places of those behind it still hold
what files they held. -/
theorem writeUnits_eq_error {tree after : FileTree} {directory path : String}
    {units : List CodeUnit} {cause : FileError}
    (apart : (units.map (unitPlace directory)).Nodup)
    (failed : tree.writeUnits directory units = (after, .error (.write path cause))) :
    ∃ before unit later, units = before ++ unit :: later ∧ path = unitPath directory unit ∧
      after.HoldsUnits directory before ∧
      ∀ other ∈ later, SameFile tree after (unitPlace directory other) := by
  obtain ⟨cause, refused⟩ | ⟨between, adds, run⟩ := writeUnits_cases failed
  · cases refused
  obtain all | ⟨before, unit, later, _, rfl, same, early, error⟩ :=
    writeEach_cases directory units between
  · rw [run] at all
    cases all
  rw [run] at same error
  obtain ⟨rfl, -⟩ := WriteError.write.inj (Except.error.inj error)
  rw [List.map_append, List.map_cons, List.nodup_append] at apart
  obtain ⟨first, -, separate⟩ := apart
  have holds := (writeEach_holds first early).2
  rw [same] at holds
  refine ⟨before, unit, later, rfl, rfl, holds, fun other behind contents => ?_⟩
  -- Up to the failure only units before it were written, and none of them has this place.
  have kept := writeEach_frame directory before between (unitPlace directory other)
    fun earlier member clash => separate _ (List.mem_map_of_mem member) _
      (List.mem_cons_of_mem _ (List.mem_map_of_mem behind)) clash.symm
  rw [same] at kept
  rw [kept]
  exact adds.sameFile _ contents

theorem nodup_unitPlaces {units : List CodeUnit} (files : (units.map (·.fileName)).Nodup)
    (names : ∀ unit ∈ units, NamesFile unit.fileName) (directory : String) :
    (units.map (unitPlace directory)).Nodup := by
  refine List.Nodup.map_on ?_ (List.Nodup.of_map _ files)
  intro first ofFirst second ofSecond same
  have equal : first.fileName = second.fileName :=
    eq_of_locate_join (names first ofFirst) (names second ofSecond) same
  exact List.inj_on_of_nodup_map files ofFirst ofSecond equal

end FileTree

/-! ### Files of generated units -/

namespace Target

theorem mem_fileName (target : Target) {base : BaseType}
    (identifier : Name.isIdentifier base.name = true) {char : Char}
    (member : char ∈ (target.fileName base).toList) :
    Name.isWordChar char = true ∨ char = '.' := by
  -- An extension is a dot and a word.
  have ofExtension {word : String} (letters : Name.isIdentifier word = true)
      (ending : char ∈ '.' :: word.toList) : Name.isWordChar char = true ∨ char = '.' := by
    obtain dot | inside := List.mem_cons.mp ending
    · exact .inr dot
    · exact .inl (Name.isWordChar_of_mem letters inside)
  cases target with
  | java package imports =>
    rw [fileName, Java.fileName, String.toList_append, List.mem_append] at member
    obtain inside | ending := member
    · exact .inl (Name.isWordChar_of_mem identifier inside)
    · exact @ofExtension "java" (by decide) (by simpa using ending)
  | rust imports =>
    rw [fileName, Rust.fileName, Rust.moduleFile_eq, String.toList_append, List.mem_append] at member
    obtain inside | ending := member
    · exact .inl (Rust.isWordChar_of_mem_stem identifier inside)
    · exact @ofExtension "rs" (by decide) (by simpa using ending)

theorem notMem_fileName (target : Target) {base : BaseType}
    (identifier : Name.isIdentifier base.name = true) {char : Char}
    (other : Name.isWordChar char = false) (notDot : char ≠ '.') :
    char ∉ (target.fileName base).toList := by
  intro member
  obtain word | dot := target.mem_fileName identifier member
  · rw [word] at other
    cases other
  · exact notDot dot

/-- Every file name has an extension after its dot, so that it is none of the special names. -/
theorem namesFile_fileName (target : Target) {base : BaseType}
    (identifier : Name.isIdentifier base.name = true) :
    FileTree.NamesFile (target.fileName base) := by
  have long : 3 ≤ (target.fileName base).length := by
    cases target with
    | java package imports =>
      rw [fileName, Java.fileName, String.length_append]
      exact Nat.le_add_left_of_le (by decide)
    | rust imports =>
      rw [fileName, Rust.fileName, Rust.moduleFile_eq, String.length_append]
      exact Nat.le_add_left_of_le (by decide)
  refine ⟨?_, target.notMem_fileName identifier (by decide) (by decide), ?_⟩
  · intro bare
    rw [bare] at long
    exact absurd long (by decide)
  · rw [FileTree.isPlain, Bool.and_eq_true, bne_iff_ne, bne_iff_ne]
    constructor <;> intro dots <;> rw [dots] at long <;> exact absurd long (by decide)

theorem nodup_fileNames {target : Target} {schema : Schema} (valid : schema.Valid)
    (checked : target.check schema = .ok ()) : (schema.baseTypes.map target.fileName).Nodup := by
  cases target with
  | java package imports => exact Java.nodup_fileNames valid
  | rust imports => exact Rust.nodup_fileNames valid (Rust.check_eq_ok_iff.mp checked).2.1

end Target

namespace FileTree

/-- No unit of an output overwrites another, and writing is exact: where it succeeds, the paths are
those of the units, each file holds the source of its unit and no other file has changed; where a
unit cannot be written, the files before it hold their sources and those behind it are as they
were. -/
theorem writeUnits_exact {schema : Schema} {target : Target} {units : List CodeUnit}
    (generated : generate schema target = .ok units) :
    (units.map (·.fileName)).Nodup ∧
    (∀ unit ∈ units, '/' ∉ unit.fileName.toList ∧ '\\' ∉ unit.fileName.toList) ∧
    ∀ (tree after : FileTree) (directory : String),
      (∀ paths, tree.writeUnits directory units = (after, .ok paths) →
        paths = units.map (unitPath directory) ∧ paths.Nodup ∧ after.HoldsUnits directory units ∧
        ∀ place, (∀ unit ∈ units, place ≠ unitPlace directory unit) → SameFile tree after place) ∧
      (∀ path cause, tree.writeUnits directory units = (after, .error (.write path cause)) →
        ∃ before unit later, units = before ++ unit :: later ∧ path = unitPath directory unit ∧
          after.HoldsUnits directory before ∧
          (∀ other ∈ later, SameFile tree after (unitPlace directory other)) ∧
          ∀ place, (∀ unit ∈ units, place ≠ unitPlace directory unit) →
            SameFile tree after place) := by
  obtain ⟨valid, checked, rfl⟩ := generate_eq_ok_iff.mp generated
  have files : ((schema.baseTypes.map target.unit).map (·.fileName)).Nodup := by
    rw [List.map_map]
    exact Target.nodup_fileNames valid checked
  have identifiers : ∀ unit ∈ schema.baseTypes.map target.unit,
      ∃ base, unit.fileName = target.fileName base ∧ Name.isIdentifier base.name = true := by
    intro unit member
    obtain ⟨base, inside, rfl⟩ := List.mem_map.mp member
    exact ⟨base, rfl, valid.identifiers base inside⟩
  have names : ∀ unit ∈ schema.baseTypes.map target.unit, NamesFile unit.fileName := by
    intro unit member
    obtain ⟨base, spelled, identifier⟩ := identifiers unit member
    exact spelled ▸ target.namesFile_fileName identifier
  refine ⟨files, fun unit member => ⟨(names unit member).single, ?_⟩, ?_⟩
  · obtain ⟨base, spelled, identifier⟩ := identifiers unit member
    exact spelled ▸ target.notMem_fileName identifier (by decide) (by decide)
  · intro tree after directory
    have apart := nodup_unitPlaces files names directory
    constructor
    · intro paths written
      obtain ⟨rfl, holds⟩ := writeUnits_eq_ok apart written
      refine ⟨rfl, ?_, holds, fun place elsewhere => ?_⟩
      · have located : (((schema.baseTypes.map target.unit).map (unitPath directory)).map
            locate).Nodup := by
          rw [List.map_map]
          exact apart
        exact List.Nodup.of_map _ located
      · have same := writeUnits_sameFile tree elsewhere
        rwa [written] at same
    · intro path cause failed
      obtain ⟨before, unit, later, whole, rfl, holds, untouched⟩ := writeUnits_eq_error apart failed
      refine ⟨before, unit, later, whole, rfl, holds, untouched, fun place elsewhere => ?_⟩
      have same := writeUnits_sameFile tree elsewhere
      rwa [failed] at same

/-- Two base types of which the first has a keyword for its module. -/
def filesSchema : Schema :=
  ⟨[⟨"Type", [⟨"Named", []⟩]⟩, ⟨"TypeExpr", []⟩]⟩

def filesUnits : List CodeUnit :=
  filesSchema.baseTypes.map (Target.rust []).unit

/-- A directory stands where the second file would go. -/
def blockedTree : FileTree :=
  (FileTree.empty.put (.child .top "gen") .directory).put
    (.child (.child .top "gen") "type_expr.rs") .directory

/-- Both units written below a new directory, and the second one refused. -/
theorem writeUnits_exact_filesSchema :
    ((FileTree.empty.writeUnits "gen/ast" filesUnits).2 =
        .ok ["gen/ast/type.rs", "gen/ast/type_expr.rs"] ∧
      (FileTree.empty.writeUnits "gen/ast" filesUnits).1.HoldsUnits "gen/ast" filesUnits) ∧
    (blockedTree.writeUnits "gen" filesUnits).2 = .error (.write "gen/type_expr.rs" .isDirectory) ∧
      ∃ before unit later, filesUnits = before ++ unit :: later ∧
        "gen/type_expr.rs" = unitPath "gen" unit ∧
        (blockedTree.writeUnits "gen" filesUnits).1.HoldsUnits "gen" before := by
  have written : (FileTree.empty.writeUnits "gen/ast" filesUnits).2 =
      .ok ["gen/ast/type.rs", "gen/ast/type_expr.rs"] := by
    decide +kernel
  have failed : (blockedTree.writeUnits "gen" filesUnits).2 =
      .error (.write "gen/type_expr.rs" .isDirectory) := by
    decide +kernel
  have ends (run : FileTree × Except WriteError (List String))
      {result : Except WriteError (List String)} (same : run.2 = result) : run = (run.1, result) := by
    rw [← same]
  obtain ⟨-, -, exact⟩ := @writeUnits_exact filesSchema (.rust []) filesUnits (by decide +kernel)
  refine ⟨⟨written, ?_⟩, failed, ?_⟩
  · exact ((exact _ _ "gen/ast").1 _ (ends _ written)).2.2.1
  · obtain ⟨before, unit, later, whole, same, holds, -⟩ :=
      (exact _ _ "gen").2 _ _ (ends _ failed)
    exact ⟨before, unit, later, whole, same, holds⟩

end FileTree

end NodeGen
