import NodeGen.FileTree
import NodeGen.Pattern

/-! Paths of a tree that fit a pattern. The pattern is matched component by component; the names in
a directory are tried in order, a directory before what it holds. -/

set_option autoImplicit false

namespace NodeGen.FileTree

/-- A component of a pattern and its text. -/
structure PatternPart where
  text : String
  tokens : Pattern

namespace PatternPart

def isSpecial (part : PatternPart) : Bool :=
  part.text == "." || part.text == ".."

def fits (part : PatternPart) (name : String) : Bool :=
  part.tokens.matchesName name.toList

def isRecursive (part : PatternPart) : Bool :=
  part.tokens.isRecursive

/-- The dots that name a directory and the one above are met only by a pattern that starts with a
dot. -/
def specialNames (part : PatternPart) : List String :=
  if part.tokens.head? = some (.char '.') then ["..", "."].filter part.fits else []

end PatternPart

/-- The path is a spelling of the current directory. -/
def isCurrent (path : String) : Bool :=
  let (start, body) := splitStart path.toList
  start == ['.'] && (dropUnnamed (splitSlashes body)).isEmpty

/-- A path below a directory; the current directory is left out. -/
def below (path name : String) : String :=
  if isCurrent path then name else join path name

/-- Names in a directory, in order, each with whether it is a directory. -/
def listing (tree : FileTree) (path : String) : List (String × Bool) :=
  match tree.find path with
  | .error _ => []
  | .ok place =>
    let names := (tree.children place).map fun (name, entry) =>
      (name, match entry with
        | .directory => true
        | .file _ => false)
    names.mergeSort fun left right => left.1 ≤ right.1

/-- Of components that follow each other and all stand for any directories, the last is enough. -/
def collapse : List PatternPart → List PatternPart
  | first :: second :: rest =>
    if first.isRecursive && second.isRecursive then collapse (second :: rest)
    else first :: second :: rest
  | parts => parts

mutual

/-- Paths below `path` that fit the components of a pattern, in at most `fuel` steps. With
`onlyDirectories` other results are left out. -/
def matchBelow (tree : FileTree) (onlyDirectories : Bool) :
    Nat → List PatternPart → String → Bool → List String
  | 0, _, _, _ => []
  | _ + 1, [], _, _ => []
  | fuel + 1, part :: rest, path, isDirectory =>
    let add (next : String) : List String :=
      if rest.isEmpty then
        if onlyDirectories && !tree.isDirectory next then [] else [next]
      else matchBelow tree onlyDirectories fuel rest next (tree.isDirectory next)
    if part.tokens.isLiteral then
      let next := below path part.text
      if part.isSpecial then if isDirectory then add next else []
      else if tree.exists? next then add next else []
    else if isDirectory then
      part.specialNames.flatMap (fun name => add (join path name)) ++
        (tree.listing path).flatMap fun (name, inner) =>
          matchEntry tree onlyDirectories fuel (part :: rest) (below path name) name inner
    else []

/-- Paths that fit from an entry of a directory on, whose name is to be matched next. -/
def matchEntry (tree : FileTree) (onlyDirectories : Bool) :
    Nat → List PatternPart → String → String → Bool → List String
  | 0, _, _, _, _ => []
  | fuel + 1, parts, path, name, isDirectory =>
    let own : List PatternPart → List String
      | [] => []
      | part :: rest =>
        if !part.fits name then []
        else if rest.isEmpty then if onlyDirectories && !isDirectory then [] else [path]
        else matchBelow tree onlyDirectories fuel rest path isDirectory
    match collapse parts with
    | [] => []
    | part :: rest =>
      if part.isRecursive then
        let inside :=
          if isDirectory then matchBelow tree onlyDirectories fuel (part :: rest) path true
          else []
        if rest.isEmpty then if isDirectory then path :: inside else []
        else own rest ++ inside
      else own (part :: rest)

end

/-- The components of a pattern; a slash at its end starts no further one. -/
def patternPieces (pattern : List Char) : List (List Char) :=
  let pieces := splitSlashes (pattern.dropWhile (· == '/'))
  if pieces.getLast? = some [] then pieces.dropLast else pieces

/-- The paths that fit a pattern. The pattern has to be sound as a whole and in each component; a
fault is placed in the part that it is found in. -/
def matching (tree : FileTree) (pattern : String) : Except PatternError (List String) := do
  let _ ← Pattern.parse pattern.toList
  let parts ← (patternPieces pattern.toList).mapM fun piece => do
    return (⟨String.ofList piece, ← Pattern.parse piece⟩ : PatternPart)
  let fuel := 2 * (parts.length + tree.entries.length) + 2
  let origin := if isAbsolute pattern then "/" else "."
  return tree.matchBelow (endsInSlash pattern) fuel parts origin true

end NodeGen.FileTree
