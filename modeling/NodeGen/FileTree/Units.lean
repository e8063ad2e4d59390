import NodeGen.FileTree
import NodeGen.Target

/-! Units written to a directory. -/

set_option autoImplicit false

namespace NodeGen

inductive WriteError where
  | createDirectory (path : String) (cause : FileError)
  | write (path : String) (cause : FileError)
  deriving DecidableEq, Repr

namespace WriteError

def cause : WriteError → FileError
  | .createDirectory _ cause => cause
  | .write _ cause => cause

def message : WriteError → String
  | .createDirectory path cause =>
      "failed to create output directory " ++ path ++ ": " ++ cause.message
  | .write path cause => "failed to write " ++ path ++ ": " ++ cause.message

end WriteError

namespace FileTree

/-- Writes units one after the other up to the first that fails. The tree holds what was written
until then. -/
def writeEach (directory : String) (tree : FileTree) :
    List CodeUnit → FileTree × Except WriteError (List String)
  | [] => (tree, .ok [])
  | unit :: rest =>
    let path := join directory unit.fileName
    match tree.write path unit.source with
    | .error cause => (tree, .error (.write path cause))
    | .ok tree =>
      let (tree, written) := writeEach directory tree rest
      (tree, written.map (path :: ·))

/-- Makes the directory and writes the units into it; gives the paths that were written. -/
def writeUnits (tree : FileTree) (directory : String) (units : List CodeUnit) :
    FileTree × Except WriteError (List String) :=
  match tree.makeDirectories directory with
  | (tree, some cause) => (tree, .error (.createDirectory directory cause))
  | (tree, none) => tree.writeEach directory units

end FileTree

end NodeGen
