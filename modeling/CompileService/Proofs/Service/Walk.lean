import CompileService.Proofs.Module.Order
import CompileService.Proofs.Service.Listing

/-!
# What a walk answers

A walk looks at every entry below a directory that is not behind a name of dots. Two things can go
wrong: an entry lies so far down that the calls for its directories cannot be nested, or its path is
too long. Otherwise the walk returns the files, in order.

* `Visited`: an entry that a walk looks at. `Missed`: why it cannot.
* `shown_iff`: whether a walk can look at all of them.
* `run_walk`, `run_walk_of_missed`: a walk that can, and one that cannot.
* `walk_exact`: what a walk answers, told by the number of levels and the lengths of paths.
* `walk_in_burrow_fails`: a walk that gets to a path that is too long, and one that gets too far
  down.
-/

namespace CompileService.Service

/-- An entry below a directory that a walk looks at. -/
structure Visited (folder : Folder) (place : Location) : Prop where
  deeper : place ≠ []
  there : folder.look place ≠ none
  seen : Listing.Seen place

/-- The path of a place below a directory is too long as a whole. -/
def TooLong (dir : FilePath) (place : Location) : Prop :=
  FileTree.pathLimit < Utf8.size (below dir place).toText

instance (dir : FilePath) (place : Location) : Decidable (TooLong dir place) :=
  inferInstanceAs (Decidable (_ < _))

/-- Why a walk fails when it comes to an entry: there are too many levels above, or the path is too
long. -/
inductive Missed (levels : Nat) (dir : FilePath) (place : Location) : Failure → Prop
  | tooDeep (deep : levels < place.length) : Missed levels dir place .nestedTooDeep
  | tooLong (long : TooLong dir place) :
      Missed levels dir place (.onPath (below dir place) (.system .nameTooLong))

variable {s : Service} {levels : Nat} {w : World} {dir : FilePath} {folder : Folder}
  {place : Location}

theorem mem_visits_iff_visited (proper : folder.Proper) :
    place ∈ Listing.visits folder ↔ Visited folder place := by
  rw [Listing.mem_visits_iff proper]
  exact ⟨fun ⟨deeper, there, seen⟩ => ⟨deeper, there, seen⟩,
    fun ⟨deeper, there, seen⟩ => ⟨deeper, there, seen⟩⟩

/-! ## Looking at entries -/

/-- The first entry that cannot be looked at ends the looking. -/
theorem run_examine_of_hidden {places : List Location}
    (hidden : ¬ Shown levels w.files dir places) :
    ∃ place ∈ places, ∃ failure, (examine levels dir places).run w = (.error failure, w) ∧
      (levels < place.length ∧ failure = .nestedTooDeep ∨
        ∃ fault, FileTree.isDirectory w.files (below dir place) = .error fault ∧
          failure = .onPath (below dir place) fault) := by
  induction places with
  | nil => exact absurd (fun _ mem => by cases mem) hidden
  | cons place more ih =>
      rw [examine]
      by_cases deep : levels < place.length
      · rw [if_pos deep]
        exact ⟨place, List.mem_cons_self, .nestedTooDeep, rfl, .inl ⟨deep, rfl⟩⟩
      rw [if_neg deep, Action.run_bind]
      cases asked : FileTree.isDirectory w.files (below dir place) with
      | error fault =>
          rw [Action.run_ask, asked]
          exact ⟨place, List.mem_cons_self, _, rfl, .inr ⟨fault, asked, rfl⟩⟩
      | ok there =>
          have rest : ¬ Shown levels w.files dir more := by
            intro shown
            exact hidden (List.forall_mem_cons.2 ⟨⟨Nat.not_lt.1 deep, there, asked⟩, shown⟩)
          obtain ⟨other, mem, failure, run, why⟩ := ih rest
          refine ⟨other, List.mem_cons_of_mem _ mem, failure, ?_, why⟩
          rw [Action.run_ask_of_ok w asked]
          exact run

/-- The system refuses to look at an entry that a walk visits just if its path is too long. -/
theorem Visited.error_iff (visited : Visited folder place) (proper : w.files.Proper)
    (opened : FileTree.openFolder w.files dir = .ok folder) {fault : PathFault} :
    FileTree.isDirectory w.files (below dir place) = .error fault ↔
      fault = .system .nameTooLong ∧ TooLong dir place :=
  FileTree.isDirectory_below_error_iff proper opened visited.there

/-- All that a walk visits can be looked at, just if none of it is missed. -/
theorem shown_iff (proper : w.files.Proper)
    (opened : FileTree.openFolder w.files dir = .ok folder) :
    Shown levels w.files dir (Listing.visits folder) ↔
      ∀ place failure, Visited folder place → ¬ Missed levels dir place failure := by
  have inner := FileTree.proper_of_openFolder proper opened
  constructor
  · intro shown place failure visited missed
    obtain ⟨near, answer, asked⟩ := shown place ((mem_visits_iff_visited inner).2 visited)
    cases missed with
    | tooDeep deep => exact absurd near (Nat.not_le.2 deep)
    | tooLong long =>
        rw [(visited.error_iff proper opened).2 ⟨rfl, long⟩] at asked
        cases asked
  · intro reached place looked
    have visited := (mem_visits_iff_visited inner).1 looked
    refine ⟨Nat.not_lt.1 fun deep => reached place _ visited (.tooDeep deep), ?_⟩
    cases asked : FileTree.isDirectory w.files (below dir place) with
    | ok there => exact ⟨there, rfl⟩
    | error fault =>
        obtain ⟨-, long⟩ := (visited.error_iff proper opened).1 asked
        exact absurd (.tooLong long) (reached place _ visited)

/-- A directory that is explored is walked through. -/
theorem run_walk (explored : Explored s.levels w.files dir folder) :
    (s.walk dir).run w = (.ok ((Listing.walk folder).map (below dir)), w) := by
  rw [walk, Action.run_bind, run_explore explored]
  rfl

/-- A walk ends at an entry that is missed. -/
theorem run_walk_of_missed (proper : w.files.Proper)
    (opened : FileTree.openFolder w.files dir = .ok folder)
    (missed : ∃ place failure, Visited folder place ∧ Missed s.levels dir place failure) :
    ∃ place failure, Visited folder place ∧ Missed s.levels dir place failure ∧
      (s.walk dir).run w = (.error failure, w) := by
  have hidden : ¬ Shown s.levels w.files dir (Listing.visits folder) := by
    rw [shown_iff proper opened]
    intro reached
    obtain ⟨place, failure, visited, why⟩ := missed
    exact reached place failure visited why
  obtain ⟨place, looked, failure, run, why⟩ := run_examine_of_hidden hidden
  have visited := (mem_visits_iff_visited (FileTree.proper_of_openFolder proper opened)).1 looked
  refine ⟨place, failure, visited, ?_, ?_⟩
  · rcases why with ⟨deep, rfl⟩ | ⟨fault, failed, rfl⟩
    · exact .tooDeep deep
    · obtain ⟨rfl, long⟩ := (visited.error_iff proper opened).1 failed
      exact .tooLong long
  · rw [walk, Action.run_bind, explore, Action.run_bind, Action.run_ask_of_ok w opened]
    dsimp only
    rw [Action.run_bind, run]

/-! ## A burrow -/

/-- A name that is as long as a name can be. -/
def longestName (letter : Char) : Text :=
  List.replicate FileTree.nameLimit (CodePoint.ofChar letter)

/-- A directory with one file. -/
def den : Folder := .file (longestName 'B') [] false .empty

/-- A world with the directory. -/
def burrow : World where
  files := .dir (longestName 'A') den .empty

/-- A path to the directory that goes in and out of it fourteen times before. -/
def winding : FilePath :=
  ⟨.relative, (List.replicate 14 [longestName 'A', FilePath.up]).flatten ++ [longestName 'A']⟩

theorem proper_burrow : burrow.files.Proper := by decide +kernel

theorem openFolder_winding : FileTree.openFolder burrow.files winding = .ok den := by
  decide +kernel

/-- The one entry of the directory has a path that is too long. -/
theorem visited_den_iff : Visited den place ↔ place = [longestName 'B'] := by
  have visits : Listing.visits den = [[longestName 'B']] := by
    have shown : Listing.isHidden (longestName 'B') = false := by decide +kernel
    simp [Listing.visits, Listing.visitsOf, Listing.looks, den, shown]
  rw [← mem_visits_iff_visited (FileTree.proper_of_openFolder proper_burrow openFolder_winding),
    visits, List.mem_singleton]

theorem tooLong_winding : TooLong winding [longestName 'B'] := by decide +kernel

/-! ## A pit -/

/-- So many directories, one in the other, and a file at the bottom. -/
def pit : Nat → Folder
  | 0 => .file (lit "f") [] false .empty
  | depth + 1 => .dir (lit "d") (pit depth) .empty

/-- The place of the file. -/
def bottom : Nat → Location
  | 0 => [lit "f"]
  | depth + 1 => lit "d" :: bottom depth

/-- The path to the directory that a walk begins with. -/
def root : FilePath := ⟨.relative, []⟩

theorem proper_pit (depth : Nat) : (pit depth).Proper := by
  have names : IsName (lit "f") ∧ IsName (lit "d") := by decide
  induction depth with
  | zero => exact ⟨names.1, rfl, trivial⟩
  | succ depth ih => exact ⟨names.2, rfl, ih, trivial⟩

theorem openFolder_pit (depth : Nat) : FileTree.openFolder (pit depth) root = .ok (pit depth) := rfl

theorem look_pit_succ (depth : Nat) (name : Text) (more : Location) :
    (pit (depth + 1)).look (name :: more) =
      if lit "d" = name then (pit depth).look more else none := by
  have found : (pit (depth + 1)).find? name =
      if lit "d" = name then some (.dir (pit depth)) else none := rfl
  rw [Folder.look, Folder.at?_cons, found]
  split <;> rfl

theorem look_bottom (depth : Nat) : (pit depth).look (bottom depth) = some (.file [] false) := by
  induction depth with
  | zero => rfl
  | succ depth ih => rw [bottom, look_pit_succ, if_pos rfl, ih]

theorem length_bottom (depth : Nat) : (bottom depth).length = depth + 1 := by
  induction depth with
  | zero => rfl
  | succ depth ih => rw [bottom, List.length_cons, ih]

/-- The names in a pit are of one letter each. -/
theorem names_of_look_pit {depth : Nat} (there : (pit depth).look place ≠ none) :
    place.length ≤ depth + 1 ∧ ∀ part ∈ place, part = lit "d" ∨ part = lit "f" := by
  induction depth generalizing place with
  | zero =>
      cases place with
      | nil => simp
      | cons name more =>
          have found : (pit 0).find? name =
              if lit "f" = name then some (.file [] false) else none := rfl
          rw [Folder.look, Folder.at?_cons, found] at there
          split at there
          · cases more with
            | nil => simp [← ‹lit "f" = name›]
            | cons next more => exact absurd rfl there
          · exact absurd rfl there
  | succ depth ih =>
      cases place with
      | nil => simp
      | cons name more =>
          rw [look_pit_succ] at there
          split at there
          · obtain ⟨length, names⟩ := ih there
            exact ⟨Nat.succ_le_succ length,
              List.forall_mem_cons.2 ⟨.inl ‹lit "d" = name›.symm, names⟩⟩
          · exact absurd rfl there

theorem visited_bottom (depth : Nat) : Visited (pit depth) (bottom depth) := by
  have there : (pit depth).look (bottom depth) ≠ none := by simp [look_bottom]
  refine ⟨fun none => ?_, there, fun part mem => ?_⟩
  · have length := length_bottom depth
    rw [none] at length
    cases length
  · rcases (names_of_look_pit there).2 part mem with rfl | rfl
    · decide
    · decide

theorem size_joinWith_le {parts : List Text} (short : ∀ part ∈ parts, Utf8.size part ≤ 1) :
    Utf8.size (Text.joinWith [FilePath.slash] parts) ≤ 2 * parts.length := by
  induction parts with
  | nil => exact Nat.le_refl 0
  | cons part more ih =>
      obtain ⟨one, rest⟩ := List.forall_mem_cons.1 short
      cases more with
      | nil => exact one.trans (by simp)
      | cons next more =>
          have slash : Utf8.size [FilePath.slash] = 1 := by decide
          have within := ih rest
          have joined : Text.joinWith [FilePath.slash] (part :: next :: more) =
              part ++ [FilePath.slash] ++ Text.joinWith [FilePath.slash] (next :: more) := rfl
          rw [joined, Utf8.size_append, Utf8.size_append, slash]
          simp only [List.length_cons] at within ⊢
          omega

/-- A walk does not get to the bottom of a pit that goes down further than it can. -/
theorem run_walk_pit {depth : Nat} (deep : s.levels ≤ depth) (bounded : depth ≤ 2000) :
    (s.walk root).run { files := pit depth } =
      (.error .nestedTooDeep, { files := pit depth }) := by
  have beyond : s.levels < (bottom depth).length := by
    rw [length_bottom]
    omega
  obtain ⟨place, failure, visited, missed, run⟩ :=
    run_walk_of_missed (w := { files := pit depth }) (proper_pit depth) (openFolder_pit depth)
      ⟨_, _, visited_bottom depth, .tooDeep beyond⟩
  cases missed with
  | tooDeep => exact run
  | tooLong long =>
      -- the names are short and there are not enough of them for a path that is too long
      obtain ⟨length, names⟩ := names_of_look_pit visited.there
      have short : ∀ part ∈ place, Utf8.size part ≤ 1 := by
        intro part mem
        rcases names part mem with rfl | rfl
        · decide
        · decide
      have shown : (below root place).toText = Text.joinWith [FilePath.slash] place := by
        have parts : (below root place).parts = place := rfl
        rw [FilePath.toText, parts, if_neg fun here => visited.deeper here.2]
        rfl
      have size := size_joinWith_le short
      rw [TooLong, shown] at long
      have limit : FileTree.pathLimit = 4095 := rfl
      omega

/-! ## The answer -/

/-- A walk through a directory changes nothing. It returns the files that are not behind a name of
dots, each once and in the order of a walk, if it gets to no entry that lies too far down or has too
long a path; otherwise it fails at such an entry. -/
theorem walk_exact (s : Service) (proper : w.files.Proper)
    (opened : FileTree.openFolder w.files dir = .ok folder) :
    ((∀ place, Visited folder place → place.length ≤ s.levels ∧ ¬ TooLong dir place) → ∃ places,
      (s.walk dir).run w = (.ok (places.map (below dir)), w) ∧ Listing.IsWalk folder places) ∧
    ((∃ place, Visited folder place ∧ (s.levels < place.length ∨ TooLong dir place)) →
      ∃ place failure, Visited folder place ∧ Missed s.levels dir place failure ∧
        (s.walk dir).run w = (.error failure, w)) := by
  constructor
  · intro reached
    have shown : Shown s.levels w.files dir (Listing.visits folder) := by
      refine (shown_iff proper opened).2 fun place failure visited missed => ?_
      obtain ⟨near, short⟩ := reached place visited
      cases missed with
      | tooDeep deep => exact absurd near (Nat.not_le.2 deep)
      | tooLong long => exact short long
    exact ⟨Listing.walk folder, run_walk ⟨opened, shown⟩,
      Listing.isWalk_walk (FileTree.proper_of_openFolder proper opened)⟩
  · rintro ⟨place, visited, deep | long⟩
    · exact run_walk_of_missed proper opened ⟨place, _, visited, .tooDeep deep⟩
    · exact run_walk_of_missed proper opened ⟨place, _, visited, .tooLong long⟩

/-- The attic is walked through file by file, and through the burrow there is a way that is too long
for a walk. -/
theorem walk_exact_attic :
    (worldWith attic).files.Proper ∧
    FileTree.openFolder (worldWith attic).files library = .ok attic ∧
    (∀ place, Visited attic place →
      place.length ≤ obedientService.levels ∧ ¬ TooLong library place) ∧
    (obedientService.walk library).run (worldWith attic) =
      (.ok ([[lit "Notes.md"], [lit "Demo", lit "Calc.hs"], [lit "a", lit "Foo.hs"],
        [lit "b", lit "Foo.hs"]].map (below library)), worldWith attic) ∧
    burrow.files.Proper ∧
    FileTree.openFolder burrow.files winding = .ok den ∧
    (∃ place, Visited den place ∧
      (obedientService.levels < place.length ∨ TooLong winding place)) ∧
    ∃ place failure, Missed obedientService.levels winding place failure ∧
      (obedientService.walk winding).run burrow = (.error failure, burrow) := by
  have proper : (worldWith attic).files.Proper := by decide
  have opened := explored_attic.opened
  have reached : ∀ place, Visited attic place →
      place.length ≤ obedientService.levels ∧ ¬ TooLong library place := by
    intro place visited
    have none := (shown_iff proper opened).1 explored_attic.shown place
    exact ⟨Nat.not_lt.1 fun deep => none _ visited (.tooDeep deep),
      fun long => none _ visited (.tooLong long)⟩
  obtain ⟨places, run, isWalk⟩ := (walk_exact obedientService proper opened).1 reached
  have same : places = Listing.walk attic :=
    isWalk.unique (Listing.isWalk_walk (FileTree.proper_of_openFolder proper opened))
  rw [same, walk_attic] at run
  have long : ∃ place, Visited den place ∧
      (obedientService.levels < place.length ∨ TooLong winding place) :=
    ⟨_, visited_den_iff.2 rfl, .inr tooLong_winding⟩
  obtain ⟨place, failure, -, missed, failed⟩ :=
    (walk_exact obedientService proper_burrow openFolder_winding).2 long
  exact ⟨proper, opened, reached, run, proper_burrow, openFolder_winding, long, place, failure,
    missed, failed⟩

/-- The file of the burrow is what a walk has to find, and a walk along the path fails. And so does
one that has to find the file at the bottom of a pit. -/
theorem walk_in_burrow_fails :
    (burrow.files.Proper ∧ FileTree.openFolder burrow.files winding = .ok den ∧
      den.FileAt [longestName 'B'] ∧ Listing.Seen [longestName 'B'] ∧
      (obedientService.walk winding).run burrow =
        (.error (.onPath (below winding [longestName 'B']) (.system .nameTooLong)), burrow)) ∧
    let world : World := { files := pit 900 }
    world.files.Proper ∧ FileTree.openFolder world.files root = .ok (pit 900) ∧
      (pit 900).FileAt (bottom 900) ∧ Listing.Seen (bottom 900) ∧
      (obedientService.walk root).run world = (.error .nestedTooDeep, world) := by
  refine ⟨?_, proper_pit 900, openFolder_pit 900, ⟨[], false, look_bottom 900⟩,
    (visited_bottom 900).seen, run_walk_pit (Nat.le_refl 900) (by decide)⟩
  have long : ∃ place failure, Visited den place ∧
      Missed obedientService.levels winding place failure :=
    ⟨_, _, visited_den_iff.2 rfl, .tooLong tooLong_winding⟩
  obtain ⟨place, failure, visited, missed, failed⟩ :=
    run_walk_of_missed proper_burrow openFolder_winding long
  obtain rfl := visited_den_iff.1 visited
  have near : ¬ obedientService.levels < [longestName 'B'].length := by decide
  cases missed with
  | tooDeep deep => exact absurd deep near
  | tooLong =>
      refine ⟨proper_burrow, openFolder_winding, ⟨[], false, ?_⟩, visited.seen, failed⟩
      decide +kernel

end CompileService.Service
