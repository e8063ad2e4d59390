/-! Texts of paths: their components, joining, and the directory that holds a path. -/

set_option autoImplicit false

namespace NodeGen.FileTree

/-- Pieces between slashes, empty ones included. -/
def splitSlashes : List Char → List (List Char)
  | [] => [[]]
  | char :: rest =>
    match splitSlashes rest with
    | [] => [[char]]
    | piece :: pieces =>
      if char = '/' then [] :: piece :: pieces else (char :: piece) :: pieces

def joinPieces (pieces : List (List Char)) : List Char :=
  (List.intersperse ['/'] pieces).flatten

theorem joinPieces_cons (piece : List Char) {pieces : List (List Char)} (more : pieces ≠ []) :
    joinPieces (piece :: pieces) = piece ++ '/' :: joinPieces pieces := by
  cases pieces with
  | nil => exact absurd rfl more
  | cons next rest => simp [joinPieces, List.intersperse]

theorem splitSlashes_ne_nil (text : List Char) : splitSlashes text ≠ [] := by
  cases text with
  | nil => simp [splitSlashes]
  | cons char rest =>
    rw [splitSlashes]
    split
    · simp
    · split <;> simp

/-- Cutting a text at its slashes loses nothing. -/
theorem joinPieces_splitSlashes (text : List Char) : joinPieces (splitSlashes text) = text := by
  induction text with
  | nil => rfl
  | cons char rest ih =>
    rw [splitSlashes]
    split
    · next empty => exact absurd empty (splitSlashes_ne_nil rest)
    · next piece pieces cut =>
      rw [cut] at ih
      split
      · next slash => rw [joinPieces_cons _ (by simp), ih, slash]; rfl
      · cases pieces with
        | nil => simpa [joinPieces] using ih
        | cons next more =>
          rw [joinPieces_cons _ (by simp)] at ih ⊢
          rw [← ih]
          rfl

/-- The pieces of a path that name something; `.` and `..` are among them. -/
def components (path : String) : List String :=
  ((splitSlashes path.toList).filter (· ≠ [])).map String.ofList

def isAbsolute (path : String) : Bool :=
  path.toList.head? == some '/'

def endsInSlash (path : String) : Bool :=
  path.toList.getLast? == some '/'

/-- A path below another one; an absolute path stands for itself. -/
def join (path name : String) : String :=
  if isAbsolute name then name
  else if path.isEmpty || endsInSlash path then path ++ name
  else path ++ "/" ++ name

/-- Where a path starts: at the root, at a leading dot that is a component, or nowhere said. -/
def splitStart : List Char → List Char × List Char
  | '/' :: rest => (['/'], rest)
  | ['.'] => (['.'], [])
  | '.' :: '/' :: rest => (['.'], '/' :: rest)
  | other => ([], other)

/-- Empty pieces and dots at the end name nothing. -/
def dropUnnamed (pieces : List (List Char)) : List (List Char) :=
  (pieces.reverse.dropWhile fun piece => piece == [] || piece == ['.']).reverse

/-- The path without its last component; a root and an empty path have none. -/
def parent? (path : String) : Option String :=
  let (start, body) := splitStart path.toList
  match dropUnnamed (splitSlashes body) with
  | [] => if start = ['.'] then some "" else none
  | pieces => some (String.ofList (start ++ joinPieces (dropUnnamed pieces.dropLast)))

end NodeGen.FileTree
