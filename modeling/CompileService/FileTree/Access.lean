import CompileService.FileTree.Basic
import CompileService.Text.Utf8

/-!
# Access to a file tree by path

A path is followed from the root of the tree one part at a time: every part but the last must lead
to a directory, `..` leads back, and a part that is too long is refused where it is met. The tree is
that of the whole system and its root is the directory that the service works in, so a relative path
leads where the anchored path with the same parts leads.

Each operation either gives the changed tree or says what stopped it, and then nothing is changed;
only `makeDirs` leaves the directories that it created before it was stopped.

* `locate`: the place that a path leads to, whether or not an entry is there.
* `inspect`, `probe`: the entry of a path, and a question about it to which absence is an answer.
* `fileContent`, `storeFile`, `createFile`, `dropFile`, `makeDirs`: the operations of the service.
-/

namespace CompileService

/-- The faults that a system reports on paths, files and programs. -/
inductive Errno where
  | notFound
  | badExecutable
  | permissionDenied
  | fileExists
  | notDirectory
  | isDirectory
  | nameTooLong
  | tooManyLinks
deriving DecidableEq

namespace Errno

/-- The number of a fault. -/
def code : Errno → Nat
  | .notFound => 2
  | .badExecutable => 8
  | .permissionDenied => 13
  | .fileExists => 17
  | .notDirectory => 20
  | .isDirectory => 21
  | .nameTooLong => 36
  | .tooManyLinks => 40

/-- A fault in words. -/
def text : Errno → String
  | .notFound => "No such file or directory"
  | .badExecutable => "Exec format error"
  | .permissionDenied => "Permission denied"
  | .fileExists => "File exists"
  | .notDirectory => "Not a directory"
  | .isDirectory => "Is a directory"
  | .nameTooLong => "File name too long"
  | .tooManyLinks => "Too many levels of symbolic links"

/-- The fault with its number, as messages show it. -/
def shown (e : Errno) : Text := lit "[Errno " ++ Text.ofNat e.code ++ lit "] " ++ lit e.text

end Errno

/-- Why an operation on a path fails. -/
inductive PathFault where
  | system (errno : Errno)
  /-- The path holds a code point U+0000. -/
  | embeddedNul
  /-- The path holds a surrogate that stands for no byte. -/
  | unencodable (fault : Utf8.Unencodable)
deriving DecidableEq

namespace FileTree

/-- The number of bytes that a name may have. -/
def nameLimit : Nat := 255

/-- The number of bytes that a path may have. -/
def pathLimit : Nat := 4095

/-- Follows parts from a location. -/
def descend (tree : Folder) (place : Location) : List Text → Except Errno Location
  | [] => .ok place
  | part :: more =>
    match tree.at? place with
    | none => .error .notFound
    | some (.file ..) => .error .notDirectory
    | some (.dir _) =>
      -- from the root a step up leads to the root
      if part = FilePath.up then descend tree place.dropLast more
      else if nameLimit < Utf8.size part then .error .nameTooLong
      else descend tree (place ++ [part]) more

/-- The place that a path leads to. -/
def locate (tree : Folder) (path : FilePath) : Except PathFault Location :=
  let text := path.toText
  match Utf8.firstStray? text with
  | some fault => .error (.unencodable fault)
  | none =>
    if text.any (·.val == 0) then .error .embeddedNul
    else if pathLimit < Utf8.size text then .error (.system .nameTooLong)
    else (descend tree [] path.parts).mapError .system

/-- The place of a path and the entry there. -/
def visit (tree : Folder) (path : FilePath) : Except PathFault (Location × Option Node) :=
  (locate tree path).map fun place => (place, tree.at? place)

/-- The entry of a path. -/
def inspect (tree : Folder) (path : FilePath) : Except PathFault Node :=
  match visit tree path with
  | .error fault => .error fault
  | .ok (_, none) => .error (.system .notFound)
  | .ok (_, some node) => .ok node

/-- Asks something about the entry of a path. Where no entry can be the answer is no; only a name
that is too long is a fault. -/
def probe (question : Node → Bool) (tree : Folder) (path : FilePath) : Except PathFault Bool :=
  match inspect tree path with
  | .ok node => .ok (question node)
  | .error (.system .nameTooLong) => .error (.system .nameTooLong)
  | .error _ => .ok false

/-- Whether an entry is a directory. -/
def isDirNode : Node → Bool
  | .dir _ => true
  | .file .. => false

/-- Whether there is an entry. -/
def pathExists : Folder → FilePath → Except PathFault Bool := probe fun _ => true

/-- Whether there is a directory. -/
def isDirectory : Folder → FilePath → Except PathFault Bool := probe isDirNode

/-- Whether there is a file. -/
def isFile : Folder → FilePath → Except PathFault Bool := probe fun n => !isDirNode n

/-- The bytes of a file. -/
def fileContent (tree : Folder) (path : FilePath) : Except PathFault (List UInt8) :=
  match inspect tree path with
  | .error fault => .error fault
  | .ok (.file content _) => .ok content
  | .ok (.dir _) => .error (.system .isDirectory)

/-- Writes a file, a new one or in place of the bytes of the one that is there. -/
def storeFile (tree : Folder) (path : FilePath) (content : List UInt8) : Except PathFault Folder :=
  match visit tree path with
  | .error fault => .error fault
  | .ok (_, some (.dir _)) => .error (.system .isDirectory)
  | .ok (place, some (.file _ executable)) => .ok (tree.set place (some (.file content executable)))
  | .ok (place, none) => .ok (tree.set place (some (.file content false)))

/-- Creates an empty file where nothing is. -/
def createFile (tree : Folder) (path : FilePath) : Except PathFault Folder :=
  match visit tree path with
  | .error fault => .error fault
  | .ok (_, some _) => .error (.system .fileExists)
  | .ok (place, none) => .ok (tree.set place (some (.file [] false)))

/-- Removes a file. -/
def dropFile (tree : Folder) (path : FilePath) : Except PathFault Folder :=
  match visit tree path with
  | .error fault => .error fault
  | .ok (_, none) => .error (.system .notFound)
  | .ok (_, some (.dir _)) => .error (.system .isDirectory)
  | .ok (place, some (.file ..)) => .ok (tree.set place none)

/-- Creates a directory where nothing is. -/
def makeDir (tree : Folder) (path : FilePath) : Except PathFault Folder :=
  match visit tree path with
  | .error fault => .error fault
  | .ok (_, some _) => .error (.system .fileExists)
  | .ok (place, none) => .ok (tree.set place (some (.dir .empty)))

/-- What is left of a fault in making a directory: nothing if the directory is there after all. -/
def settle (tree : Folder) (path : FilePath) (fault : PathFault) : Option (FilePath × PathFault) :=
  match fault with
  | .system _ =>
    match isDirectory tree path with
    | .ok true => none
    | .ok false => some (path, fault)
    | .error fault => some (path, fault)
  | _ => some (path, fault)

/-- Creates the directory with the given parts, the last one first, and the missing directories
above it. A fault comes with the path whose creation met it; what was created before it stays. -/
def makeDirsOf (tree : Folder) (anchor : Anchor) : List Text → Folder × Option (FilePath × PathFault)
  | [] =>
    let path := ⟨anchor, []⟩
    match makeDir tree path with
    | .ok tree => (tree, none)
    | .error (.system .notFound) => (tree, some (path, .system .notFound))
    | .error fault => (tree, settle tree path fault)
  | part :: above =>
    let path := ⟨anchor, (part :: above).reverse⟩
    match makeDir tree path with
    | .ok tree => (tree, none)
    | .error (.system .notFound) =>
      -- what is missing above is made first, and then this one is tried again
      match makeDirsOf tree anchor above with
      | (tree, some fault) => (tree, some fault)
      | (tree, none) =>
        match makeDir tree path with
        | .ok tree => (tree, none)
        | .error (.system .notFound) => (tree, some (path, .system .notFound))
        | .error fault => (tree, settle tree path fault)
    | .error fault => (tree, settle tree path fault)

/-- Creates a directory and the missing ones above it; one that is there is fine. -/
def makeDirs (tree : Folder) (path : FilePath) : Folder × Option (FilePath × PathFault) :=
  makeDirsOf tree path.anchor path.parts.reverse

/-- The contents of a directory. -/
def openFolder (tree : Folder) (path : FilePath) : Except PathFault Folder :=
  match inspect tree path with
  | .error fault => .error fault
  | .ok (.file ..) => .error (.system .notDirectory)
  | .ok (.dir inner) => .ok inner

/-- Lets a file be started as a program. -/
def makeExecutable (tree : Folder) (path : FilePath) : Except PathFault Folder :=
  match visit tree path with
  | .error fault => .error fault
  | .ok (_, none) => .error (.system .notFound)
  | .ok (place, some (.file content _)) => .ok (tree.set place (some (.file content true)))
  | .ok (_, some (.dir _)) => .ok tree

/-- Removes whatever is at a path. -/
def removeTree (tree : Folder) (path : FilePath) : Folder :=
  match locate tree path with
  | .ok place => tree.set place none
  | .error _ => tree

end FileTree

end CompileService
