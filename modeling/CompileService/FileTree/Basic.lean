import CompileService.Path

/-!
# File trees

A directory holds named entries: files with bytes and an execute permission, and directories. A
`Folder` lists them one after the other, which makes a whole tree a single inductive type; an entry
is what `Folder.find?` finds first under its name, and `Folder.put` keeps the names in order.

There is nothing else in a tree: no symbolic links, no owners, and no permissions of directories.

A `Location` is the row of names that leads from the root of the tree to an entry.

* `Folder.find?_put`, `Folder.find?_erase`: what one entry's change does to the entries.
* `Folder.at?`: the entry at a location; `Folder.set`: a change at a location whose directory exists.
-/

namespace CompileService

/-- The contents of a directory. -/
inductive Folder where
  | empty
  | file (name : Text) (content : List UInt8) (executable : Bool) (rest : Folder)
  | dir (name : Text) (inner rest : Folder)
deriving DecidableEq

/-- An entry of a directory. -/
inductive Node where
  | file (content : List UInt8) (executable : Bool)
  | dir (inner : Folder)
deriving DecidableEq

/-- The names that lead to an entry. -/
abbrev Location := List Text

namespace Folder

/-- A folder with one more entry in front. -/
def cons (name : Text) : Node → Folder → Folder
  | .file content executable, rest => .file name content executable rest
  | .dir inner, rest => .dir name inner rest

/-- The entry with the given name. -/
def find? (name : Text) : Folder → Option Node
  | .empty => none
  | .file n content executable rest =>
    if n = name then some (.file content executable) else find? name rest
  | .dir n inner rest => if n = name then some (.dir inner) else find? name rest

/-- Enters a node under a name, in place of the entry that has it or in front of the first entry
with a later name. -/
def put (name : Text) (node : Node) : Folder → Folder
  | .empty => cons name node .empty
  | .file n content executable rest =>
    if n = name then cons name node rest
    else if name < n then cons name node (.file n content executable rest)
    else .file n content executable (put name node rest)
  | .dir n inner rest =>
    if n = name then cons name node rest
    else if name < n then cons name node (.dir n inner rest)
    else .dir n inner (put name node rest)

/-- Drops the entry with the given name. -/
def erase (name : Text) : Folder → Folder
  | .empty => .empty
  | .file n content executable rest =>
    if n = name then erase name rest else .file n content executable (erase name rest)
  | .dir n inner rest => if n = name then erase name rest else .dir n inner (erase name rest)

@[simp] theorem find?_cons (name m : Text) (node : Node) (f : Folder) :
    (cons name node f).find? m = if name = m then some node else f.find? m := by
  cases node <;> rfl

/-- After an entry is put under a name, that name has it and the others are as they were. -/
theorem find?_put (name m : Text) (node : Node) (f : Folder) :
    (f.put name node).find? m = if name = m then some node else f.find? m := by
  induction f with
  | empty => simp [put]
  | file n content executable rest ih =>
    unfold put
    split <;> rename_i hn
    · by_cases h : name = m <;> simp_all [find?]
    · split
      · simp [find?]
      · by_cases h : n = m
        · have : name ≠ m := fun e => hn (h.trans e.symm)
          simp [find?, h, this]
        · simp [find?, h, ih]
  | dir n inner rest _ ih =>
    unfold put
    split <;> rename_i hn
    · by_cases h : name = m <;> simp_all [find?]
    · split
      · simp [find?]
      · by_cases h : n = m
        · have : name ≠ m := fun e => hn (h.trans e.symm)
          simp [find?, h, this]
        · simp [find?, h, ih]

/-- After a name is erased, nothing is under it and the others are as they were. -/
theorem find?_erase (name m : Text) (f : Folder) :
    (f.erase name).find? m = if name = m then none else f.find? m := by
  induction f with
  | empty => simp [erase, find?]
  | file n content executable rest ih =>
    unfold erase
    by_cases hn : n = name <;> by_cases h : n = m <;> simp_all [find?]
    intro e; exact absurd e.symm hn
  | dir n inner rest _ ih =>
    unfold erase
    by_cases hn : n = name <;> by_cases h : n = m <;> simp_all [find?]
    intro e; exact absurd e.symm hn

/-- The entries in the order of the folder. -/
def entries : Folder → List (Text × Node)
  | .empty => []
  | .file name content executable rest => (name, .file content executable) :: rest.entries
  | .dir name inner rest => (name, .dir inner) :: rest.entries

/-- The entry at a location; the root of the tree is a directory. -/
def at? (f : Folder) : Location → Option Node
  | [] => some (.dir f)
  | [name] => f.find? name
  | name :: more =>
    match f.find? name with
    | some (.dir inner) => inner.at? more
    | _ => none

/-- Puts an entry at a location, or takes away the one that is there. Nothing happens at the root
and where a directory on the way is missing. -/
def set (f : Folder) : Location → Option Node → Folder
  | [], _ => f
  | [name], some node => f.put name node
  | [name], none => f.erase name
  | name :: more, change =>
    match f.find? name with
    | some (.dir inner) => f.put name (.dir (inner.set more change))
    | _ => f

/-- The locations and contents of all files, below a location. -/
def allFiles (base : Location) : Folder → List (Location × List UInt8)
  | .empty => []
  | .file name content _ rest => (base ++ [name], content) :: allFiles base rest
  | .dir name inner rest => allFiles (base ++ [name]) inner ++ allFiles base rest

end Folder

end CompileService
