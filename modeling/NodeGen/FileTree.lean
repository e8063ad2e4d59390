import NodeGen.FileTree.Path

/-! A tree of files as a value: what a path leads to, and reading, writing and making directories.
Paths are taken relative to the directory at the root of the tree; there are no links. A path that
leaves the tree meets directories of which nothing is known. -/

set_option autoImplicit false

namespace NodeGen

inductive FileError where
  | notFound
  | alreadyExists
  | notDirectory
  | isDirectory
  | nameTooLong
  | nulByte
  /-- The contents are no text. -/
  | notText
  deriving DecidableEq, Repr

def FileError.message : FileError → String
  | .notFound => "No such file or directory (os error 2)"
  | .alreadyExists => "File exists (os error 17)"
  | .notDirectory => "Not a directory (os error 20)"
  | .isDirectory => "Is a directory (os error 21)"
  | .nameTooLong => "File name too long (os error 36)"
  | .nulByte => "file name contained an unexpected NUL byte"
  | .notText => "stream did not contain valid UTF-8"

namespace FileTree

/-- The directory that names are counted from. -/
inductive Anchor where
  /-- The root of the tree, or a directory so many levels above it. -/
  | above (levels : Nat)
  /-- The root of all paths. -/
  | root
  deriving DecidableEq, Repr

/-- The names that lead from an anchor to a place. -/
structure Location where
  anchor : Anchor
  names : List String
  deriving DecidableEq, Repr

namespace Location

def top : Location :=
  ⟨.above 0, []⟩

def child (place : Location) (name : String) : Location :=
  ⟨place.anchor, place.names ++ [name]⟩

def parent : Location → Location
  | ⟨.above levels, []⟩ => ⟨.above (levels + 1), []⟩
  | ⟨.root, []⟩ => ⟨.root, []⟩
  | ⟨anchor, names⟩ => ⟨anchor, names.dropLast⟩

end Location

inductive Entry where
  | directory
  | file (contents : ByteArray)

end FileTree

/-- Every place that holds something, anchors apart. -/
structure FileTree where
  entries : List (FileTree.Location × FileTree.Entry)

namespace FileTree

def empty : FileTree :=
  ⟨[]⟩

/-- Anchors are directories. -/
def entryAt? (tree : FileTree) (place : Location) : Option Entry :=
  if place.names = [] then some .directory
  else (tree.entries.find? (·.1 == place)).map (·.2)

def put (tree : FileTree) (place : Location) (entry : Entry) : FileTree :=
  ⟨tree.entries.filter (·.1 != place) ++ [(place, entry)]⟩

theorem entryAt?_put_self (tree : FileTree) {place : Location} (entry : Entry)
    (named : place.names ≠ []) : (tree.put place entry).entryAt? place = some entry := by
  have absent : (tree.entries.filter (·.1 != place)).find? (·.1 == place) = none := by
    simp
  simp [entryAt?, put, named, List.find?_append, absent]

theorem entryAt?_put_of_ne (tree : FileTree) {place other : Location} (entry : Entry)
    (different : other ≠ place) : (tree.put place entry).entryAt? other = tree.entryAt? other := by
  have kept : (tree.entries.filter (·.1 != place)).find? (·.1 == other) =
      tree.entries.find? (·.1 == other) := by
    rw [List.find?_filter]
    congr
    funext held
    by_cases same : held.1 = other <;> simp [same, different]
  simp [entryAt?, put, List.find?_append, kept, Ne.symm different]

def isDirectoryAt (tree : FileTree) (place : Location) : Bool :=
  match tree.entryAt? place with
  | some .directory => true
  | _ => false

/-- Names and entries of the places directly below a place. -/
def children (tree : FileTree) (place : Location) : List (String × Entry) :=
  tree.entries.filterMap fun (location, entry) =>
    match location.names.getLast? with
    | some name => if location = place.child name then some (name, entry) else none
    | none => none

/-- A name may have this many bytes. -/
def nameLimit : Nat := 255

/-- A path may have this many bytes. -/
def pathLimit : Nat := 4095

/-- One step from a directory. -/
def enter (tree : FileTree) (place : Location) (name : String) : Except FileError Location :=
  if !tree.isDirectoryAt place then .error .notDirectory
  else if name = "." then .ok place
  else if name = ".." then .ok place.parent
  else if nameLimit < name.utf8ByteSize then .error .nameTooLong
  else
    match tree.entryAt? (place.child name) with
    | some _ => .ok (place.child name)
    | none => .error .notFound

def walk (tree : FileTree) (place : Location) : List String → Except FileError Location
  | [] => .ok place
  | name :: rest =>
    match tree.enter place name with
    | .ok next => walk tree next rest
    | .error error => .error error

def start (path : String) : Location :=
  if isAbsolute path then ⟨.root, []⟩ else .top

/-- Paths that are refused before anything is looked up. -/
def checkPath (path : String) : Except FileError PUnit :=
  if path.toList.contains '\x00' then .error .nulByte
  else if path.isEmpty then .error .notFound
  else if pathLimit < path.utf8ByteSize then .error .nameTooLong
  else .ok ⟨⟩

/-- The place that a path leads to. A slash at the end asks for a directory. -/
def find (tree : FileTree) (path : String) : Except FileError Location := do
  checkPath path
  let place ← tree.walk (start path) (components path)
  if endsInSlash path && !tree.isDirectoryAt place then .error .notDirectory else .ok place

def isDirectory (tree : FileTree) (path : String) : Bool :=
  match tree.find path with
  | .ok place => tree.isDirectoryAt place
  | .error _ => false

def exists? (tree : FileTree) (path : String) : Bool :=
  match tree.find path with
  | .ok _ => true
  | .error _ => false

/-- The directory that holds the last component of a path, and that component. -/
def findParent (tree : FileTree) (path : String) :
    Except FileError (Location × Option String) := do
  checkPath path
  let names := components path
  let place ← tree.walk (start path) names.dropLast
  if tree.isDirectoryAt place then .ok (place, names.getLast?) else .error .notDirectory

/-- The component names a place of its own, not the directory it is in or the one above. -/
def isPlain (name : String) : Bool :=
  name != "." && name != ".."

def read (tree : FileTree) (path : String) : Except FileError String := do
  let place ← tree.find path
  match tree.entryAt? place with
  | some (.file contents) =>
    match String.fromUTF8? contents with
    | some text => .ok text
    | none => .error .notText
  | some .directory => .error .isDirectory
  | none => .error .notFound

/-- Puts a text in place of a file, or into a new one in a directory that is there. -/
def write (tree : FileTree) (path text : String) : Except FileError FileTree := do
  let (place, last) ← tree.findParent path
  match last with
  | none => .error .isDirectory
  | some name =>
    if !isPlain name || endsInSlash path then .error .isDirectory
    else if nameLimit < name.utf8ByteSize then .error .nameTooLong
    else if tree.isDirectoryAt (place.child name) then .error .isDirectory
    else .ok (tree.put (place.child name) (.file text.toUTF8))

def makeDirectory (tree : FileTree) (path : String) : Except FileError FileTree := do
  let (place, last) ← tree.findParent path
  match last with
  | none => .error .alreadyExists
  | some name =>
    if !isPlain name then .error .alreadyExists
    else if nameLimit < name.utf8ByteSize then .error .nameTooLong
    else
      match tree.entryAt? (place.child name) with
      | some _ => .error .alreadyExists
      | none => .ok (tree.put (place.child name) .directory)

/-- A directory that is there already is as good as a new one. -/
def ensureDirectory (tree : FileTree) (path : String) : Except FileError FileTree :=
  match tree.makeDirectory path with
  | .error .alreadyExists =>
    if tree.isDirectory path then .ok tree else .error .alreadyExists
  | result => result

/-- The tree after a change that may be refused, and why it was if so. -/
def settle (tree : FileTree) : Except FileError FileTree → FileTree × Option FileError
  | .ok changed => (changed, none)
  | .error error => (tree, some error)

/-- Makes the directories that lead to a path, in at most `fuel` of its parents. -/
def makeDirectoriesLoop : Nat → FileTree → String → FileTree × Option FileError
  | 0, tree, _ => (tree, none)
  | fuel + 1, tree, path =>
    if path.isEmpty then (tree, none)
    else
      match tree.ensureDirectory path, parent? path with
      | .error .notFound, some parent =>
        match makeDirectoriesLoop fuel tree parent with
        | (tree, none) => tree.settle (tree.ensureDirectory path)
        | (tree, some error) => (tree, some error)
      | result, _ => tree.settle result

/-- Makes a directory and all that lead to it. What was made stays when a later step fails. -/
def makeDirectories (tree : FileTree) (path : String) : FileTree × Option FileError :=
  makeDirectoriesLoop (path.length + 1) tree path

end FileTree

end NodeGen
