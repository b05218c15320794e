import CompileService.FileTree.Basic
import CompileService.Module.Name

/-!
# Listing a directory

A walk visits everything below a directory except entries whose name consists of dots. Of each
directory it gives the files first, in the order of their names, and then all of one subdirectory
after the other, again in the order of the names.

* `Listing.walk`: the locations of the files, relative to the directory. `Listing.visits`: the
  entries that a walk looks at on its way, in the order in which it does.
* `Listing.moduleNames`: the sorted names of those files that have the source extension.
-/

namespace CompileService.Listing

/-- Whether an entry is passed over. -/
def isHidden (name : Text) : Bool := name.all (· = CodePoint.ofChar '.')

/-- An entry that a walk stops at, with the locations of the files that it leads to. -/
structure Stop where
  name : Text
  isDir : Bool
  files : List Location

/-- The files of the stops in the order of the walk. -/
def arrange (stops : List Stop) : List Location :=
  let sorted := stops.mergeSort fun a b => Text.le a.name b.name
  (sorted.filter (!·.isDir)).flatMap (·.files) ++ (sorted.filter (·.isDir)).flatMap (·.files)

/-- The stops of a directory, in no particular order. -/
def stops : Folder → List Stop
  | .empty => []
  | .file name _ _ rest =>
    if isHidden name then stops rest else ⟨name, false, [[name]]⟩ :: stops rest
  | .dir name inner rest =>
    if isHidden name then stops rest
    else ⟨name, true, (arrange (stops inner)).map (name :: ·)⟩ :: stops rest

/-- The files below a directory in the order of the walk. -/
def walk (f : Folder) : List Location := arrange (stops f)

/-- The entries of a directory in the order of their names, and then what is below one after the
other. -/
def visitsOf (looks : List (Text × List Location)) : List Location :=
  let sorted := looks.mergeSort fun a b => Text.le a.1 b.1
  sorted.map (fun look => [look.1]) ++ sorted.flatMap (·.2)

/-- The entries of a directory that are not passed over, each with those below it that a walk looks
at; in no particular order. -/
def looks : Folder → List (Text × List Location)
  | .empty => []
  | .file name _ _ rest => if isHidden name then looks rest else (name, []) :: looks rest
  | .dir name inner rest =>
    if isHidden name then looks rest
    else (name, (visitsOf (looks inner)).map (name :: ·)) :: looks rest

/-- The entries below a directory that a walk looks at, in the order in which it does. -/
def visits (f : Folder) : List Location := visitsOf (looks f)

/-- Whether the name of a file ends with the extension. -/
def hasExtension (ext : Text) (file : Location) : Bool := ext.isSuffixOf (file.getLastD [])

/-- The name of the module in a file below a root. -/
def nameOf (ext : Text) (file : Location) : Text :=
  ModuleName.ofFile (Text.joinWith [FilePath.slash] file) ext

/-- The names of the modules below a root, in order. -/
def moduleNames (ext : Text) (root : Folder) : List Text :=
  (((walk root).filter (hasExtension ext)).map (nameOf ext)).mergeSort Text.le

end CompileService.Listing
