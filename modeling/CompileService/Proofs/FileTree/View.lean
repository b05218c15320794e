import CompileService.FileTree.Access

/-!
# What a file tree shows

A tree is known by what stands at each location: a file with its bytes, a directory, or nothing
(`Folder.look`). Everything that the operations answer can be said in these terms.

* `Folder.look_dir_of_append`: above an entry there are directories only.
* `Folder.look_set`: putting a leaf at a location, or taking one away, changes what stands there
  and nothing else.
* `Folder.at?_append`: a location is followed in two parts.
-/

namespace CompileService

/-- What stands at a location, whatever lies below it. -/
inductive Entry where
  | file (content : List UInt8) (executable : Bool)
  | dir
deriving DecidableEq

namespace Node

/-- What a node is, whatever lies below it. -/
def entry : Node → Entry
  | .file content executable => .file content executable
  | .dir _ => .dir

/-- The node at a location that starts from a node. -/
def at? : Node → Location → Option Node
  | .dir inner, place => inner.at? place
  | .file content executable, [] => some (.file content executable)
  | .file .., _ :: _ => none

@[simp] theorem at?_nil (node : Node) : node.at? [] = some node := by cases node <;> rfl

/-- Nothing lies below the node. -/
def Bare (node : Node) : Prop := ∀ name more, node.at? (name :: more) = none

theorem bare_file (content : List UInt8) (executable : Bool) : (file content executable).Bare :=
  fun _ _ => rfl

theorem bare_emptyDir : (dir .empty).Bare := by
  intro name more
  cases more <;> rfl

end Node

namespace Folder

theorem at?_cons (f : Folder) (name : Text) (more : Location) :
    f.at? (name :: more) = (f.find? name).bind (·.at? more) := by
  cases more with
  | nil =>
      cases h : f.find? name with
      | none => simp [at?, h]
      | some node => cases node <;> simp [at?, h, Node.at?]
  | cons next rest =>
      cases h : f.find? name with
      | none => simp [at?, h]
      | some node => cases node <;> simp [at?, h, Node.at?]

/-- A location is followed in two parts. -/
theorem at?_append (f : Folder) (place more : Location) :
    f.at? (place ++ more) = (f.at? place).bind (·.at? more) := by
  induction place generalizing f with
  | nil => simp [at?, Node.at?]
  | cons name rest ih =>
      rw [List.cons_append, at?_cons, at?_cons]
      cases f.find? name with
      | none => rfl
      | some node =>
          cases node with
          | dir inner => simpa [Node.at?] using ih inner
          | file content executable => cases rest <;> cases more <;> simp [Node.at?]

/-- What stands at a location of a tree. -/
def look (f : Folder) (place : Location) : Option Entry := (f.at? place).map Node.entry

/-- A file stands at the location. -/
def FileAt (f : Folder) (place : Location) : Prop :=
  ∃ content executable, f.look place = some (.file content executable)

@[simp] theorem look_nil (f : Folder) : f.look [] = some .dir := rfl

theorem look_of_at? {f : Folder} {place : Location} {found : Option Node}
    (h : f.at? place = found) : f.look place = found.map Node.entry := by
  rw [look, h]

/-- Below what is no directory there is nothing. -/
theorem look_append_of_not_dir {f : Folder} {place more : Location}
    (h : f.look place ≠ some .dir) (below : more ≠ []) : f.look (place ++ more) = none := by
  obtain ⟨name, rest, rfl⟩ := List.exists_cons_of_ne_nil below
  rw [look, at?_append]
  cases found : f.at? place with
  | none => rfl
  | some node =>
      cases node with
      | file content executable => rfl
      | dir inner => exact absurd (look_of_at? found) h

/-- Above an entry there are directories only. -/
theorem look_dir_of_append {f : Folder} {place more : Location}
    (h : f.look (place ++ more) ≠ none) (below : more ≠ []) : f.look place = some .dir := by
  by_cases dir : f.look place = some .dir
  · exact dir
  · exact absurd (look_append_of_not_dir dir below) h

theorem look_dir_of_prefix {f : Folder} {above place : Location} (h : f.look place ≠ none)
    (before : above <+: place) (proper : above ≠ place) : f.look above = some .dir := by
  obtain ⟨more, rfl⟩ := before
  refine look_dir_of_append h ?_
  rintro rfl
  exact proper (by simp)

/-- Where a directory stands, all locations above it are directories too. -/
theorem look_dir_of_prefix_dir {f : Folder} {above place : Location}
    (h : f.look place = some .dir) (before : above <+: place) : f.look above = some .dir := by
  by_cases same : above = place
  · rw [same, h]
  · exact look_dir_of_prefix (by rw [h]; simp) before same

/-- Without the entries of a name there are no more files than with them. -/
theorem fileAt_of_erase {f : Folder} {name : Text} {q : Location}
    (file : (f.erase name).FileAt q) : f.FileAt q := by
  obtain ⟨content, executable, shown⟩ := file
  cases q with
  | nil => cases shown
  | cons m below =>
      rw [look, at?_cons, find?_erase] at shown
      by_cases same : name = m
      · rw [if_pos same] at shown
        cases shown
      · rw [if_neg same, ← at?_cons] at shown
        exact ⟨content, executable, shown⟩

/-- What a change under a name of the root itself does, where no directory has that name. -/
theorem look_set_name {f : Folder} {name : Text} {change : Option Node}
    (old : f.look [name] ≠ some .dir) (bare : ∀ node, change = some node → node.Bare)
    (q : Location) :
    (f.set [name] change).look q = if q = [name] then change.map Node.entry else f.look q := by
  have find : ∀ m, (f.set [name] change).find? m = if name = m then change else f.find? m := by
    intro m
    cases change with
    | none => exact find?_erase name m f
    | some node => exact find?_put name m node f
  cases q with
  | nil => simp
  | cons m below =>
      rw [look, at?_cons, find]
      by_cases h : name = m
      · subst h
        cases below with
        | nil => cases change <;> simp [Node.at?_nil]
        | cons next more =>
            have before : f.look ([name] ++ next :: more) = none :=
              look_append_of_not_dir old (List.cons_ne_nil next more)
            rw [List.singleton_append] at before
            cases change with
            | none => simp [before]
            | some node => simp [before, bare node rfl next more]
      · simp [look, at?_cons, h, Ne.symm h]

/-- After a leaf is put at a location below a directory, or what stands there is taken away, the
location shows the change and every other one shows what it did. -/
theorem look_set {f : Folder} {place : Location} {change : Option Node} (nonroot : place ≠ [])
    (parent : f.look place.dropLast = some .dir) (old : f.look place ≠ some .dir)
    (bare : ∀ node, change = some node → node.Bare) (q : Location) :
    (f.set place change).look q = if q = place then change.map Node.entry else f.look q := by
  induction place generalizing f q with
  | nil => exact absurd rfl nonroot
  | cons name rest ih =>
      cases rest with
      | nil => exact look_set_name old bare q
      | cons next more =>
          -- the first directory on the way is rebuilt around the changed one inside it
          obtain ⟨inner, found, parent'⟩ : ∃ inner, f.find? name = some (.dir inner) ∧
              inner.look (next :: more).dropLast = some .dir := by
            rw [List.dropLast_cons_cons, look, at?_cons] at parent
            cases found : f.find? name with
            | none => simp [found] at parent
            | some node =>
                cases node with
                | dir inner => exact ⟨inner, rfl, by simpa [found, look, Node.at?] using parent⟩
                | file content executable =>
                    cases tail : (next :: more).dropLast <;>
                      simp [found, tail, Node.at?, Node.entry] at parent
          have old' : inner.look (next :: more) ≠ some .dir := by
            simpa [look, at?_cons _ name, found, Node.at?] using old
          have rebuilt : f.set (name :: next :: more) change =
              f.put name (.dir (inner.set (next :: more) change)) := by
            simp [set, found]
          rw [rebuilt]
          cases q with
          | nil => simp
          | cons m below =>
              by_cases h : name = m
              · subst h
                have inside := ih (List.cons_ne_nil next more) parent' old' below
                simp only [look] at inside
                simp [look, at?_cons _ name, find?_put, found, Node.at?, inside]
              · simp [look, at?_cons _ m, find?_put, h, Ne.symm h]

end Folder

end CompileService
