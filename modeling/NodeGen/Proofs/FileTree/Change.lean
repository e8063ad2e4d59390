import NodeGen.FileTree.Units
import NodeGen.Proofs.Checks
import NodeGen.Proofs.FileTree.Path

/-! What changes in a tree when directories are made and units are written. Without links, the place
that a path leads to can be read off the path; operations on a path change nothing but that place
and, where directories are missing, places on the way there. -/

set_option autoImplicit false

namespace NodeGen.FileTree

open Checks

namespace Location

/-- One step by a name, whether or not there is anything. -/
def step (place : Location) (name : String) : Location :=
  if name = "." then place
  else if name = ".." then place.parent
  else place.child name

def follow (place : Location) (names : List String) : Location :=
  names.foldl step place

end Location

/-- The place that a path leads to. -/
def locate (path : String) : Location :=
  (start path).follow (components path)

/-- The place is the one that a path leads to or a directory on the way. -/
def Passes (path : String) (place : Location) : Prop :=
  ∃ names, names <+: components path ∧ place = (start path).follow names

theorem passes_locate (path : String) : Passes path (locate path) :=
  ⟨components path, List.prefix_rfl, rfl⟩

theorem Passes.of_parent {path parent : String} {place : Location}
    (held : parent? path = some parent) (passes : Passes parent place) : Passes path place := by
  obtain ⟨absolute, first⟩ := components_parent? held
  obtain ⟨names, early, same⟩ := passes
  refine ⟨names, early.trans first, ?_⟩
  rw [same, start, start, absolute]

/-- A step leads from a directory; by a name that stands for itself, to something that is there. -/
theorem enter_eq_ok_iff {tree : FileTree} {place next : Location} {name : String} :
    tree.enter place name = .ok next ↔
      tree.isDirectoryAt place = true ∧ next = place.step name ∧
        (isPlain name = true →
          name.utf8ByteSize ≤ nameLimit ∧ (tree.entryAt? (place.child name)).isSome) := by
  unfold enter Location.step
  by_cases here : tree.isDirectoryAt place = true
  · by_cases dot : name = "."
    · simp [here, dot, isPlain, eq_comm (a := next)]
    · by_cases up : name = ".."
      · simp [here, up, isPlain, eq_comm (a := next)]
      · by_cases long : nameLimit < name.utf8ByteSize
        · simp [here, dot, up, long, isPlain, Nat.not_le.mpr long]
        · cases tree.entryAt? (place.child name) <;>
            simp [here, dot, up, long, isPlain, Nat.not_lt.mp long, eq_comm (a := next)]
  · simp [here]

theorem eq_step_of_enter {tree : FileTree} {place next : Location} {name : String}
    (entered : tree.enter place name = .ok next) : next = place.step name :=
  (enter_eq_ok_iff.mp entered).2.1

theorem eq_follow_of_walk {tree : FileTree} {place next : Location} {names : List String}
    (walked : tree.walk place names = .ok next) : next = place.follow names := by
  induction names generalizing place with
  | nil =>
    cases walked
    rfl
  | cons name rest ih =>
    rw [walk] at walked
    split at walked
    · next inner entered =>
      rw [ih walked, eq_step_of_enter entered]
      rfl
    · cases walked

/-- Where a path leads does not depend on the tree; the tree only says whether it can be followed. -/
theorem eq_locate_of_find {tree : FileTree} {path : String} {place : Location}
    (found : tree.find path = .ok place) : place = locate path := by
  obtain ⟨-, -, found⟩ := bind_eq_ok_iff.mp found
  obtain ⟨last, walked, found⟩ := bind_eq_ok_iff.mp found
  split at found
  · cases found
  · cases found
    exact eq_follow_of_walk walked

theorem findParent_eq_ok {tree : FileTree} {path : String} {place : Location}
    {last : Option String} (found : tree.findParent path = .ok (place, last)) :
    checkPath path = .ok () ∧ tree.walk (start path) (components path).dropLast = .ok place ∧
      tree.isDirectoryAt place = true ∧ last = (components path).getLast? := by
  obtain ⟨_, accepted, found⟩ := bind_eq_ok_iff.mp found
  obtain ⟨directory, walked, found⟩ := bind_eq_ok_iff.mp found
  split at found
  · next here =>
    obtain ⟨rfl, rfl⟩ := Prod.mk.inj (Except.ok.inj found)
    exact ⟨accepted, walked, here, rfl⟩
  · cases found

/-- A name that stands for itself is the last one on the way that a path takes. -/
theorem locate_eq_child {tree : FileTree} {path name : String} {place : Location}
    (found : tree.findParent path = .ok (place, some name)) (plain : isPlain name = true) :
    locate path = place.child name := by
  obtain ⟨-, walked, -, last⟩ := findParent_eq_ok found
  have names : components path = (components path).dropLast ++ [name] :=
    (List.dropLast_append_getLast? name last.symm).symm
  rw [isPlain, Bool.and_eq_true, bne_iff_ne, bne_iff_ne] at plain
  rw [locate, names, Location.follow, List.foldl_append, eq_follow_of_walk walked]
  simp [Location.step, plain, Location.follow]

/-- What a write has found when it succeeds: a directory, and in it no directory of the name. -/
theorem write_cases {tree after : FileTree} {path text : String}
    (written : tree.write path text = .ok after) :
    ∃ place name, tree.findParent path = .ok (place, some name) ∧ isPlain name = true ∧
      endsInSlash path = false ∧ name.utf8ByteSize ≤ nameLimit ∧
      tree.isDirectoryAt (place.child name) = false ∧
      after = tree.put (place.child name) (.file text.toUTF8) := by
  obtain ⟨⟨place, last⟩, found, written⟩ := bind_eq_ok_iff.mp written
  cases last with
  | none => cases written
  | some name =>
    simp only at written
    split at written
    · cases written
    · next allowed =>
      simp only [Bool.or_eq_true, Bool.not_eq_true', not_or, Bool.not_eq_false,
        Bool.not_eq_true] at allowed
      split at written
      · cases written
      · next short =>
        split at written
        · cases written
        · next free =>
          exact ⟨place, name, found, allowed.1, allowed.2, Nat.not_lt.mp short,
            Bool.eq_false_iff.mpr free, (Except.ok.inj written).symm⟩

theorem write_eq_ok {tree after : FileTree} {path text : String}
    (written : tree.write path text = .ok after) :
    after = tree.put (locate path) (.file text.toUTF8) := by
  obtain ⟨place, name, found, plain, -, -, -, put⟩ := write_cases written
  rw [put, locate_eq_child found plain]

theorem makeDirectory_eq_ok {tree after : FileTree} {path : String}
    (made : tree.makeDirectory path = .ok after) :
    tree.entryAt? (locate path) = none ∧ after = tree.put (locate path) .directory := by
  obtain ⟨⟨place, last⟩, found, made⟩ := bind_eq_ok_iff.mp made
  cases last with
  | none => cases made
  | some name =>
    simp only at made
    split at made
    · cases made
    · next allowed =>
      have plain : isPlain name = true := by
        simpa using allowed
      rw [locate_eq_child found plain]
      split at made
      · cases made
      split at made
      · cases made
      · next absent =>
        cases made
        exact ⟨absent, rfl⟩

/-- The later tree has new directories at some of the places and is the same apart from them. -/
def AddsDirectories (places : Location → Prop) (before after : FileTree) : Prop :=
  ∀ place, after.entryAt? place = before.entryAt? place ∨
    places place ∧ before.entryAt? place = none ∧ after.entryAt? place = some .directory

namespace AddsDirectories

variable {places others : Location → Prop} {before between after : FileTree}

theorem refl (tree : FileTree) : AddsDirectories places tree tree :=
  fun _ => .inl rfl

theorem trans (early : AddsDirectories places before between)
    (late : AddsDirectories places between after) : AddsDirectories places before after := by
  intro place
  obtain same | ⟨allowed, absent, made⟩ := late place
  · rw [same]
    exact early place
  · obtain same | ⟨-, -, known⟩ := early place
    · exact .inr ⟨allowed, same ▸ absent, made⟩
    · rw [known] at absent
      cases absent

theorem mono (more : ∀ place, places place → others place)
    (adds : AddsDirectories places before after) : AddsDirectories others before after :=
  fun place => (adds place).imp_right (And.imp_left (more place))

theorem put {tree : FileTree} {place : Location} (allowed : places place)
    (absent : tree.entryAt? place = none) :
    AddsDirectories places tree (tree.put place .directory) := by
  intro other
  by_cases same : other = place
  · subst same
    have named : other.names ≠ [] := by
      intro anchor
      simp [entryAt?, anchor] at absent
    exact .inr ⟨allowed, absent, entryAt?_put_self tree _ named⟩
  · exact .inl (entryAt?_put_of_ne tree _ same)

theorem settle {tree : FileTree} {result : Except FileError FileTree}
    (adds : ∀ changed, result = .ok changed → AddsDirectories places tree changed) :
    AddsDirectories places tree (tree.settle result).1 := by
  cases result with
  | error error => exact refl tree
  | ok changed => exact adds changed rfl

end AddsDirectories

theorem ensureDirectory_adds {tree after : FileTree} {path : String}
    (made : tree.ensureDirectory path = .ok after) : AddsDirectories (Passes path) tree after := by
  rw [ensureDirectory] at made
  split at made
  · split at made
    · cases made
      exact .refl tree
    · cases made
  · obtain ⟨absent, rfl⟩ := makeDirectory_eq_ok made
    exact .put (passes_locate path) absent

/-- The directories of the parent come first; the path itself passes them too. -/
theorem makeDirectoriesLoop_adds (fuel : Nat) (tree : FileTree) (path : String) :
    AddsDirectories (Passes path) tree (makeDirectoriesLoop fuel tree path).1 := by
  induction fuel generalizing tree path with
  | zero => exact .refl tree
  | succ fuel ih =>
    rw [makeDirectoriesLoop]
    split
    · exact .refl tree
    split
    · next parent _ held =>
      have outer := (ih tree parent).mono fun _ => Passes.of_parent held
      split
      · next between finished =>
        rw [finished] at outer
        exact outer.trans (.settle fun _ => ensureDirectory_adds)
      · next between error finished =>
        rw [finished] at outer
        exact outer
    · exact .settle fun _ => ensureDirectory_adds

theorem makeDirectories_adds (tree : FileTree) (path : String) :
    AddsDirectories (Passes path) tree (tree.makeDirectories path).1 :=
  makeDirectoriesLoop_adds _ tree path

theorem writeEach_frame (directory : String) (units : List CodeUnit) (tree : FileTree)
    (place : Location)
    (elsewhere : ∀ unit ∈ units, place ≠ locate (join directory unit.fileName)) :
    (tree.writeEach directory units).1.entryAt? place = tree.entryAt? place := by
  induction units generalizing tree with
  | nil => rfl
  | cons unit rest ih =>
    obtain ⟨here, later⟩ := List.forall_mem_cons.mp elsewhere
    unfold writeEach
    simp only
    split
    · rfl
    · next between written =>
      have kept := entryAt?_put_of_ne tree (.file unit.source.toUTF8) here
      rw [← write_eq_ok written] at kept
      exact (ih between later).trans kept

/-- Whether or not all units get written: what is not the place of a unit can only have become a
directory. -/
theorem writeUnits_frame {tree : FileTree} {directory : String} {units : List CodeUnit}
    {place : Location}
    (differs : (tree.writeUnits directory units).1.entryAt? place ≠ tree.entryAt? place) :
    (Passes directory place ∧ tree.entryAt? place = none ∧
      (tree.writeUnits directory units).1.entryAt? place = some .directory) ∨
    ∃ unit ∈ units, place = locate (join directory unit.fileName) := by
  have adds := makeDirectories_adds tree directory place
  rw [writeUnits] at differs ⊢
  split at differs
  · next between cause made =>
    rw [made] at adds
    exact .inl (adds.resolve_left differs)
  · next between made =>
    rw [made] at adds
    by_cases target : ∃ unit ∈ units, place = locate (join directory unit.fileName)
    · exact .inr target
    · push Not at target
      have kept := writeEach_frame directory units between place target
      rw [kept] at differs ⊢
      exact .inl (adds.resolve_left differs)

end NodeGen.FileTree
