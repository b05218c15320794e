import CompileService.FileTree.Access

/-!
# Edits of a file tree

What is done to files from outside the service: to set a scene, or by a process.
-/

namespace CompileService

/-- Something done to a file tree. -/
inductive FileEdit where
  /-- Writes bytes to a file and creates the directories above it. -/
  | write (path : FilePath) (content : List UInt8)
  /-- Lets a file be started as a program. -/
  | makeExecutable (path : FilePath)
  | makeDirs (path : FilePath)
  /-- Removes a file or a whole directory, if it is there. -/
  | remove (path : FilePath)
  /-- Reads a file as text, and changes nothing. -/
  | read (path : FilePath)

/-- Why something cannot be done to a file tree. -/
inductive EditFault where
  | onPath (path : FilePath) (fault : PathFault)
  /-- A file that is read is not UTF-8. -/
  | undecodable (fault : Utf8.Fault)

namespace FileEdit

/-- Attaches the path of an operation to its fault. -/
def onPath (path : FilePath) (r : Except PathFault α) : Except EditFault α :=
  r.mapError fun fault => .onPath path fault

/-- The text of a file, with its line breaks as they are. -/
def textAt (tree : Folder) (path : FilePath) : Except EditFault Text := do
  (Utf8.decode (← onPath path (FileTree.fileContent tree path))).mapError .undecodable

/-- Creates a directory and the missing ones above it. -/
def withDirs (tree : Folder) (path : FilePath) : Except EditFault Folder :=
  match FileTree.makeDirs tree path with
  | (tree, none) => .ok tree
  | (_, some (path, fault)) => .error (.onPath path fault)

/-- Does it to a file tree. -/
def apply (tree : Folder) : FileEdit → Except EditFault Folder
  | .write path content => do
    let tree ← withDirs tree path.parent
    onPath path (FileTree.storeFile tree path content)
  | .makeExecutable path => onPath path (FileTree.makeExecutable tree path)
  | .makeDirs path => withDirs tree path
  | .remove path => .ok (FileTree.removeTree tree path)
  | .read path => (textAt tree path).map fun _ => tree

/-- Does one thing after the other, up to the first fault; the changes before it stay. -/
def applyAll (tree : Folder) : List FileEdit → Folder × Option EditFault
  | [] => (tree, none)
  | edit :: more =>
    match edit.apply tree with
    | .ok tree => applyAll tree more
    | .error fault => (tree, some fault)

end FileEdit

end CompileService
