import CompileService.Proofs.FileTree.View

/-!
# Operations on a file tree

Every operation first follows its path to a place and then looks at what stands there. So it is
enough to know where paths lead (`locate`) and what the tree shows.

* `FilePath.passes`: the places that following a path goes through. A path leads to the same place,
  or is refused in the same way, in all trees that show the same there (`locate_congr`), and where a
  path leads all of them are directories (`locate_of_passes`).
* `LeafRule`: what may be done to one leaf. Creating, writing and removing a file and making a
  directory are rules, applied where a path leads (`createFile_eq` and its neighbours), and what a
  rule leaves is known place by place (`LeafRule.applyAt_ok`).
* `isDirectory_eq` and its neighbours: the questions in terms of place and view.
-/

namespace CompileService

/-- Where a part of a path leads from a place. -/
def FileTree.onward (place : Location) (part : Text) : Location :=
  if part = FilePath.up then place.dropLast else place ++ [part]

/-- The places that parts lead through from a place, the last one left out. -/
def FileTree.passed (place : Location) : List Text → List Location
  | [] => []
  | part :: more => place :: passed (onward place part) more

/-- The places that a path goes through before it ends. -/
def FilePath.passes (path : FilePath) : List Location := FileTree.passed [] path.parts

/-- The place with the parts of a path, if each `..` takes back the part before it. -/
def FilePath.home (path : FilePath) : Location := path.parts.foldl FileTree.onward []

namespace FileTree

/-! ## Following a path -/

/-- One step of following parts, by what the tree shows. -/
theorem descend_cons (f : Folder) (place : Location) (part : Text) (more : List Text) :
    descend f place (part :: more) =
      match f.look place with
      | none => .error .notFound
      | some (.file ..) => .error .notDirectory
      | some .dir =>
        if part ≠ FilePath.up ∧ nameLimit < Utf8.size part then .error .nameTooLong
        else descend f (onward place part) more := by
  rw [descend, Folder.look, onward]
  cases f.at? place with
  | none => rfl
  | some node =>
      cases node with
      | file content executable => rfl
      | dir inner => by_cases up : part = FilePath.up <;> simp [up, Node.entry]

theorem descend_congr {f g : Folder} (parts : List Text) (place : Location)
    (same : ∀ t ∈ passed place parts, f.look t = g.look t) :
    descend f place parts = descend g place parts := by
  induction parts generalizing place with
  | nil => rfl
  | cons part more ih =>
      simp only [passed, List.mem_cons, forall_eq_or_imp] at same
      rw [descend_cons, descend_cons, same.1, ih (onward place part) same.2]

/-- Where parts lead they go through directories, and they lead there in every tree that has
directories there. -/
theorem descend_ok {f : Folder} {parts : List Text} {place found : Location}
    (h : descend f place parts = .ok found) :
    (∀ t ∈ passed place parts, f.look t = some .dir) ∧ found = parts.foldl onward place ∧
      ∀ g : Folder, (∀ t ∈ passed place parts, g.look t = some .dir) →
        descend g place parts = .ok found := by
  induction parts generalizing place with
  | nil =>
      simp only [descend, Except.ok.injEq] at h
      subst h
      exact ⟨by simp [passed], rfl, fun _ _ => rfl⟩
  | cons part more ih =>
      rw [descend_cons] at h
      cases here : f.look place with
      | none => simp [here] at h
      | some entry =>
          cases entry with
          | file content executable => simp [here] at h
          | dir =>
              by_cases long : part ≠ FilePath.up ∧ nameLimit < Utf8.size part
              · simp [here, long] at h
              · simp only [here, long, if_false] at h
                obtain ⟨dirs, ends, again⟩ := ih h
                refine ⟨by simpa [passed, here] using dirs, ends, ?_⟩
                intro g gdirs
                simp only [passed, List.mem_cons, forall_eq_or_imp] at gdirs
                rw [descend_cons, gdirs.1]
                simp only [long, if_false]
                exact again g gdirs.2

/-- What is wrong with a path whatever the tree holds. -/
def pathFault? (path : FilePath) : Option PathFault :=
  match Utf8.firstStray? path.toText with
  | some fault => some (.unencodable fault)
  | none =>
    if path.toText.any (·.val == 0) then some .embeddedNul
    else if pathLimit < Utf8.size path.toText then some (.system .nameTooLong)
    else none

theorem locate_eq (f : Folder) (path : FilePath) :
    locate f path =
      match pathFault? path with
      | some fault => .error fault
      | none => (descend f [] path.parts).mapError .system := by
  unfold locate pathFault?
  dsimp only
  cases Utf8.firstStray? path.toText with
  | some fault => rfl
  | none =>
      dsimp only
      split
      · rfl
      · split <;> rfl

theorem ok_of_mapError {α : Type} {e : Except Errno α} {x : α}
    (h : e.mapError PathFault.system = .ok x) : e = .ok x := by
  cases e with
  | error errno => cases h
  | ok y => exact congrArg Except.ok (Except.ok.inj h)

theorem locate_congr {f g : Folder} {path : FilePath}
    (same : ∀ t ∈ path.passes, f.look t = g.look t) : locate f path = locate g path := by
  rw [locate_eq, locate_eq, descend_congr path.parts [] same]

/-- A path that leads somewhere is followed there from the root. -/
theorem descend_of_locate {f : Folder} {path : FilePath} {place : Location}
    (h : locate f path = .ok place) : descend f [] path.parts = .ok place := by
  rw [locate_eq] at h
  cases wrong : pathFault? path with
  | some fault => simp [wrong] at h
  | none =>
      simp only [wrong] at h
      exact ok_of_mapError h

/-- A path that leads to a place has no fault. -/
theorem faultless_of_locate {f : Folder} {path : FilePath} {place : Location}
    (found : locate f path = .ok place) : pathFault? path = none := by
  rw [locate_eq] at found
  cases wrong : pathFault? path with
  | none => rfl
  | some fault => simp [wrong] at found

/-- A path without fault leads where its parts lead. -/
theorem locate_ok_iff {f : Folder} {path : FilePath} (faultless : pathFault? path = none)
    {place : Location} : locate f path = .ok place ↔ descend f [] path.parts = .ok place := by
  refine ⟨descend_of_locate, fun led => ?_⟩
  rw [locate_eq, faultless]
  simp only [led]
  rfl

/-- A path that leads to a place goes through directories, and leads there in every tree that has
directories there. -/
theorem locate_of_passes {f : Folder} {path : FilePath} {place : Location}
    (h : locate f path = .ok place) :
    (∀ t ∈ path.passes, f.look t = some .dir) ∧
      ∀ g : Folder, (∀ t ∈ path.passes, g.look t = some .dir) → locate g path = .ok place := by
  obtain ⟨dirs, -, again⟩ := descend_ok (descend_of_locate h)
  exact ⟨dirs, fun g gdirs => (locate_ok_iff (faultless_of_locate h)).2 (again g gdirs)⟩

/-- A path leads to its home, if anywhere. -/
theorem home_of_locate {f : Folder} {path : FilePath} {place : Location}
    (h : locate f path = .ok place) : place = path.home :=
  (descend_ok (descend_of_locate h)).2.1

/-- A path that leads somewhere in one tree is refused in another by the system only. -/
theorem system_of_locate {f g : Folder} {path : FilePath} {place : Location} {fault : PathFault}
    (h : locate f path = .ok place) (refused : locate g path = .error fault) :
    ∃ errno, fault = .system errno := by
  rw [locate_eq, faultless_of_locate h] at refused
  cases found : descend g [] path.parts with
  | ok there =>
      rw [found] at refused
      cases refused
  | error errno =>
      rw [found] at refused
      exact ⟨errno, (Except.error.inj refused).symm⟩

theorem look_foldl_onward {f : Folder} {parts : List Text} {place : Location}
    (dirs : ∀ t ∈ passed place parts, f.look t = some .dir)
    (start : place = [] ∨ f.look place.dropLast = some .dir)
    (other : f.look (parts.foldl onward place) ≠ some .dir) :
    f.look (parts.foldl onward place).dropLast = some .dir := by
  induction parts generalizing place with
  | nil =>
      rcases start with rfl | start
      · simp at other
      · exact start
  | cons part more ih =>
      simp only [passed, List.mem_cons, forall_eq_or_imp] at dirs
      -- one step leads to below a directory, or up from one and so to below another
      refine ih dirs.2 (.inr ?_) other
      unfold onward
      split
      · exact Folder.look_dir_of_prefix_dir dirs.1
          ((List.dropLast_prefix _).trans (List.dropLast_prefix _))
      · simpa using dirs.1

/-- A path leads to a directory, or to a place below one. -/
theorem parent_of_locate {f : Folder} {path : FilePath} {place : Location}
    (h : locate f path = .ok place) (other : f.look place ≠ some .dir) :
    place ≠ [] ∧ f.look place.dropLast = some .dir := by
  refine ⟨by rintro rfl; exact other (Folder.look_nil f), ?_⟩
  obtain ⟨dirs, rfl, -⟩ := descend_ok (descend_of_locate h)
  exact look_foldl_onward dirs (.inl rfl) other

/-- After a leaf is put where a path leads, or what stands there is taken away, the tree shows the
change there and what it did everywhere else. -/
theorem look_set_of_locate {f : Folder} {path : FilePath} {place : Location}
    {change : Option Node} (h : locate f path = .ok place) (old : f.look place ≠ some .dir)
    (bare : ∀ node, change = some node → node.Bare) (q : Location) :
    (f.set place change).look q = if q = place then change.map Node.entry else f.look q := by
  obtain ⟨nonroot, parent⟩ := parent_of_locate h old
  exact Folder.look_set nonroot parent old bare q

/-! ## Paths without a way up -/

theorem foldl_onward_plain {parts : List Text} (plain : FilePath.up ∉ parts) (place : Location) :
    parts.foldl onward place = place ++ parts := by
  induction parts generalizing place with
  | nil => simp
  | cons part more ih =>
      simp only [List.mem_cons, not_or] at plain
      rw [List.foldl_cons, ih plain.2, onward, if_neg (Ne.symm plain.1)]
      simp

/-- A place in a directory is not on the way to the directory. -/
theorem not_prefix_of_longer (place : Location) (name : Text) : ¬ place ++ [name] <+: place := by
  intro before
  have length := before.length_le
  rw [List.length_append] at length
  exact absurd length (Nat.not_succ_le_self place.length)

theorem prefix_of_passed {parts : List Text} {place t : Location} (plain : FilePath.up ∉ parts)
    (h : t ∈ passed place parts) : place <+: t ∧ t <+: place ++ parts ∧ t ≠ place ++ parts := by
  induction parts generalizing place with
  | nil => simp [passed] at h
  | cons part more ih =>
      simp only [List.mem_cons, not_or] at plain
      simp only [passed, onward, if_neg (Ne.symm plain.1), List.mem_cons] at h
      rcases h with rfl | h
      · exact ⟨List.prefix_refl _, List.prefix_append _ _, by simp⟩
      · obtain ⟨low, high, proper⟩ := ih plain.2 h
        exact ⟨(List.prefix_append _ _).trans low, by simpa using high, by simpa using proper⟩

theorem mem_passed_of_prefix {parts front : List Text} {place : Location}
    (plain : FilePath.up ∉ parts) (before : front <+: parts) (proper : front ≠ parts) :
    place ++ front ∈ passed place parts := by
  induction parts generalizing place front with
  | nil => exact absurd (List.prefix_nil.1 before) proper
  | cons part more ih =>
      simp only [List.mem_cons, not_or] at plain
      rw [passed, onward, if_neg (Ne.symm plain.1)]
      rcases List.prefix_cons_iff.1 before with rfl | ⟨rest, rfl, inside⟩
      · simp
      · have deeper : (place ++ [part]) ++ rest ∈ passed (place ++ [part]) more :=
          ih plain.2 inside fun same => proper (by rw [same])
        exact List.mem_cons_of_mem _ (by simpa using deeper)

theorem passed_append (place : Location) (front back : List Text) :
    passed place (front ++ back) =
      passed place front ++ passed (front.foldl onward place) back := by
  induction front generalizing place with
  | nil => rfl
  | cons part more ih => simp [passed, ih]

theorem home_of_plain {path : FilePath} (plain : FilePath.up ∉ path.parts) :
    path.home = path.parts := by
  rw [FilePath.home, foldl_onward_plain plain, List.nil_append]

/-- A path without a way up leads to the place with its own parts. -/
theorem parts_of_locate {f : Folder} {path : FilePath} {place : Location}
    (plain : FilePath.up ∉ path.parts) (h : locate f path = .ok place) : place = path.parts := by
  rw [home_of_locate h, home_of_plain plain]

/-- A path without a way up goes on leading to an entry for as long as the entry is there. -/
theorem locate_of_plain {f g : Folder} {path : FilePath} {place : Location}
    (plain : FilePath.up ∉ path.parts) (h : locate f path = .ok place)
    (there : g.look place ≠ none) : locate g path = .ok place := by
  refine (locate_of_passes h).2 g ?_
  intro t passing
  obtain rfl := parts_of_locate plain h
  obtain ⟨-, before, proper⟩ := prefix_of_passed plain passing
  exact Folder.look_dir_of_prefix there (by simpa using before) (by simpa using proper)

/-! ## Changes of a leaf -/

/-- What may be done to an entry: from what stands there, a refusal or the leaf that takes its
place. Directories are spared. -/
structure LeafRule where
  result : Option Entry → Except Errno (Option Node)
  spares : ∀ change, result (some .dir) ≠ .ok change
  bare : ∀ {old node}, result old = .ok (some node) → node.Bare

namespace LeafRule

/-- A rule applied where a path leads. -/
def applyAt (rule : LeafRule) (f : Folder) (path : FilePath) : Except PathFault Folder :=
  match locate f path with
  | .error fault => .error fault
  | .ok place =>
    match rule.result (f.look place) with
    | .error errno => .error (.system errno)
    | .ok change => .ok (f.set place change)

/-- What a rule that was applied leaves. -/
theorem applyAt_ok {rule : LeafRule} {f g : Folder} {path : FilePath}
    (h : rule.applyAt f path = .ok g) :
    ∃ place change, locate f path = .ok place ∧ rule.result (f.look place) = .ok change ∧
      ∀ q, g.look q = if q = place then change.map Node.entry else f.look q := by
  unfold applyAt at h
  cases found : locate f path with
  | error fault => simp [found] at h
  | ok place =>
      cases result : rule.result (f.look place) with
      | error errno => simp [found, result] at h
      | ok change =>
          simp only [found, result, Except.ok.injEq] at h
          subst h
          have old : f.look place ≠ some .dir := by
            intro dir
            exact rule.spares change (by rw [← dir, result])
          have bare : ∀ node, change = some node → node.Bare := by
            rintro node rfl
            exact rule.bare result
          exact ⟨place, change, rfl, result, look_set_of_locate found old bare⟩

theorem applyAt_of_locate {rule : LeafRule} {f : Folder} {path : FilePath} {place : Location}
    (h : locate f path = .ok place) :
    rule.applyAt f path = match rule.result (f.look place) with
      | .error errno => .error (.system errno)
      | .ok change => .ok (f.set place change) := by
  rw [applyAt, h]

theorem applyAt_of_refused {rule : LeafRule} {f : Folder} {path : FilePath} {fault : PathFault}
    (h : locate f path = .error fault) : rule.applyAt f path = .error fault := by
  rw [applyAt, h]

/-- A rule keeps all directories. -/
theorem dir_of_applyAt {rule : LeafRule} {f g : Folder} {path : FilePath} {q : Location}
    (h : rule.applyAt f path = .ok g) (dir : f.look q = some .dir) : g.look q = some .dir := by
  obtain ⟨place, change, -, result, after⟩ := applyAt_ok h
  have other : q ≠ place := by
    rintro rfl
    exact rule.spares change (by rw [← dir, result])
  rw [after, if_neg other, dir]

/-- A file that is there after a rule was applied was there before, or the path leads to it. -/
theorem fileAt_of_applyAt {rule : LeafRule} {f g : Folder} {path : FilePath} {q : Location}
    (h : rule.applyAt f path = .ok g) (file : g.FileAt q) :
    f.FileAt q ∨ locate f path = .ok q := by
  obtain ⟨place, change, found, -, after⟩ := applyAt_ok h
  by_cases here : q = place
  · exact .inr (by rw [here, found])
  · unfold Folder.FileAt at file
    simp only [after, if_neg here] at file
    exact .inl file

/-- An empty file where nothing is. -/
def create : LeafRule where
  result
    | none => .ok (some (.file [] false))
    | some _ => .error .fileExists
  spares := by simp
  bare := by
    intro old node h
    cases old <;> simp at h
    subst h
    exact Node.bare_file [] false

/-- A file with the given bytes, a new one or in place of one that is there. -/
def store (content : List UInt8) : LeafRule where
  result
    | none => .ok (some (.file content false))
    | some (.file _ executable) => .ok (some (.file content executable))
    | some .dir => .error .isDirectory
  spares := by simp
  bare := by
    intro old node h
    cases old with
    | none =>
        simp at h
        subst h
        exact Node.bare_file content false
    | some entry =>
        cases entry with
        | file before executable =>
            simp at h
            subst h
            exact Node.bare_file content executable
        | dir => simp at h

/-- No file any more. -/
def drop : LeafRule where
  result
    | none => .error .notFound
    | some (.file ..) => .ok none
    | some .dir => .error .isDirectory
  spares := by simp
  bare := by
    intro old node h
    cases old with
    | none => simp at h
    | some entry => cases entry <;> simp at h

/-- An empty directory where nothing is. -/
def makeDir : LeafRule where
  result
    | none => .ok (some (.dir .empty))
    | some _ => .error .fileExists
  spares := by simp
  bare := by
    intro old node h
    cases old <;> simp at h
    subst h
    exact Node.bare_emptyDir

end LeafRule

theorem createFile_eq (f : Folder) (path : FilePath) :
    createFile f path = LeafRule.create.applyAt f path := by
  unfold createFile visit LeafRule.applyAt Folder.look
  cases locate f path with
  | error fault => rfl
  | ok place => cases h : f.at? place <;> simp [LeafRule.create, Except.map, h]

theorem storeFile_eq (f : Folder) (path : FilePath) (content : List UInt8) :
    storeFile f path content = (LeafRule.store content).applyAt f path := by
  unfold storeFile visit LeafRule.applyAt Folder.look
  cases locate f path with
  | error fault => rfl
  | ok place =>
      cases h : f.at? place with
      | none => simp [LeafRule.store, Except.map, h]
      | some node => cases node <;> simp [LeafRule.store, Except.map, Node.entry, h]

theorem dropFile_eq (f : Folder) (path : FilePath) :
    dropFile f path = LeafRule.drop.applyAt f path := by
  unfold dropFile visit LeafRule.applyAt Folder.look
  cases locate f path with
  | error fault => rfl
  | ok place =>
      cases h : f.at? place with
      | none => simp [LeafRule.drop, Except.map, h]
      | some node => cases node <;> simp [LeafRule.drop, Except.map, Node.entry, h]

theorem makeDir_eq (f : Folder) (path : FilePath) :
    makeDir f path = LeafRule.makeDir.applyAt f path := by
  unfold makeDir visit LeafRule.applyAt Folder.look
  cases locate f path with
  | error fault => rfl
  | ok place => cases h : f.at? place <;> simp [LeafRule.makeDir, Except.map, h]

/-- A file that is still there after another was removed was there before, and the path does not
lead to it. -/
theorem fileAt_of_dropFile {f g : Folder} {path : FilePath} {q : Location}
    (h : dropFile f path = .ok g) (file : g.FileAt q) : f.FileAt q ∧ locate f path ≠ .ok q := by
  rw [dropFile_eq] at h
  obtain ⟨place, change, found, result, after⟩ := LeafRule.applyAt_ok h
  obtain ⟨content, executable, shown⟩ := file
  have other : q ≠ place := by
    rintro rfl
    have gone : change = none := by
      simp only [LeafRule.drop] at result
      split at result
      · cases result
      · exact (Except.ok.inj result).symm
      · cases result
    rw [after, if_pos rfl, gone] at shown
    cases shown
  rw [after, if_neg other] at shown
  refine ⟨⟨content, executable, shown⟩, ?_⟩
  intro leads
  rw [found] at leads
  exact other (Except.ok.inj leads).symm

/-- Directories are kept: then a path leads where it led. -/
theorem locate_of_dirs {f g : Folder} {path : FilePath} {place : Location}
    (dirs : ∀ q, f.look q = some .dir → g.look q = some .dir) (h : locate f path = .ok place) :
    locate g path = .ok place :=
  (locate_of_passes h).2 g fun t passing => dirs t ((locate_of_passes h).1 t passing)

/-! ## Questions -/

/-- The answer to a question about what stands where a path leads, with no for an answer where the
path leads nowhere. -/
def answer (question : Entry → Bool) (f : Folder) (path : FilePath) : Except PathFault Bool :=
  match locate f path with
  | .ok place => .ok ((f.look place).any question)
  | .error (.system .nameTooLong) => .error (.system .nameTooLong)
  | .error _ => .ok false

theorem probe_eq {question : Node → Bool} {asked : Entry → Bool}
    (same : ∀ node, question node = asked node.entry) (f : Folder) (path : FilePath) :
    probe question f path = answer asked f path := by
  unfold probe inspect visit answer Folder.look
  cases locate f path with
  | ok place => cases h : f.at? place <;> simp [Except.map, same, h]
  | error fault =>
      cases fault with
      | system errno => cases errno <;> rfl
      | embeddedNul => rfl
      | unencodable => rfl

theorem pathExists_eq (f : Folder) (path : FilePath) :
    pathExists f path = answer (fun _ => true) f path := by
  refine probe_eq ?_ f path
  intro node
  rfl

theorem isDirectory_eq (f : Folder) (path : FilePath) :
    isDirectory f path = answer (fun entry => entry = .dir) f path := by
  refine probe_eq ?_ f path
  intro node
  cases node <;> rfl

theorem answer_of_locate {question : Entry → Bool} {f : Folder} {path : FilePath}
    {place : Location} (h : locate f path = .ok place) :
    answer question f path = .ok ((f.look place).any question) := by
  rw [answer, h]

/-- An answer depends on where the path leads and on what stands there. -/
theorem answer_congr {question : Entry → Bool} {f g : Folder} {path : FilePath}
    (same : locate f path = locate g path)
    (shown : ∀ place, locate f path = .ok place → f.look place = g.look place) :
    answer question f path = answer question g path := by
  unfold answer
  rw [← same]
  cases found : locate f path with
  | ok place =>
      dsimp only
      rw [shown place found]
  | error fault =>
      cases fault with
      | system errno => cases errno <;> rfl
      | embeddedNul => rfl
      | unencodable => rfl

theorem fileContent_eq (f : Folder) (path : FilePath) :
    fileContent f path =
      match locate f path with
      | .error fault => .error fault
      | .ok place =>
        match f.look place with
        | none => .error (.system .notFound)
        | some (.file content _) => .ok content
        | some .dir => .error (.system .isDirectory) := by
  unfold fileContent inspect visit Folder.look
  cases locate f path with
  | error fault => rfl
  | ok place =>
      cases h : f.at? place with
      | none => simp [Except.map, h]
      | some node => cases node <;> simp [Except.map, Node.entry, h]

end FileTree

end CompileService
