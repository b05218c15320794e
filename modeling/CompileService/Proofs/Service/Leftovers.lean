import CompileService.Proofs.Service.Accounting
import CompileService.Proofs.Service.Requests
import CompileService.Proofs.Service.Runs
import Mathlib.Algebra.Order.Ring.Unbundled.Rat
import Mathlib.Tactic.Linarith

/-!
# No file is left behind

Between two steps of a run no request has a path in hand, so each file that is not from the start
has a deletion pending for its path; and when that fires the file is gone.

* `covered_elapse`: firing deletions takes away the files that they stand for.
* `no_file_left_behind`: every run, whatever its requests do and however they end.
* `files_stay_behind`: where a process removes a directory that the path of a script passes, and
  where an artifact is to live for longer than a timer can wait.
-/

namespace CompileService.Service

/-! ## Deletions that fire -/

section
variable {s : Service} {start : Folder} {bound : Option Rat} {held : List FilePath}

/-- A deletion that fires lets go of its path. -/
theorem covered_fire {w : World} {timer : Timer}
    (h : s.Covered start bound (timer.path :: held) w) :
    s.Covered start bound held (fire w timer) := by
  have dirs : ∀ q, w.files.look q = some .dir → (fire w timer).files.look q = some .dir := by
    intro q dir
    rcases fire_cases w timer with gone | ⟨same, -⟩
    · rcases gone.files with dropped | ⟨-, same⟩
      · rw [FileTree.dropFile_eq] at dropped
        exact FileTree.LeafRule.dir_of_applyAt dropped dir
      · rw [same, dir]
    · rw [same, dir]
  intro q file
  obtain ⟨before, other⟩ := fileAt_of_fire file
  refine (h q before).imp_right ?_
  rintro ⟨path, found, firm, kept⟩
  refine ⟨path, FileTree.locate_of_dirs dirs found, firm, ?_⟩
  rcases kept with inHand | later
  · rcases List.mem_cons.1 inHand with rfl | rest
    · exact absurd found other
    · exact .inl rest
  · exact .inr (later.mono (by simp [timers_fire]))

theorem covered_foldl_fire {due : List Timer} {w : World}
    (h : s.Covered start bound (due.map (·.path)) w) :
    s.Covered start bound [] (due.foldl fire w) := by
  induction due generalizing w with
  | nil => exact h
  | cons timer more ih => exact ih (covered_fire h)

/-- Moving the clock keeps files covered. -/
theorem covered_elapse {seconds : Rat} {w : World} (h : s.Covered start bound [] w) :
    s.Covered start bound [] (elapse seconds w) := by
  refine covered_foldl_fire ?_
  intro q file
  refine (h q file).imp_right ?_
  rintro ⟨path, found, firm, kept⟩
  refine ⟨path, found, firm, ?_⟩
  rcases kept with inHand | ⟨t, mem, rfl, early⟩
  · cases inHand
  · -- a deletion that is due fires now, and any other one is still pending
    by_cases due : t.isDue (w.clock + seconds)
    · refine .inl (List.mem_map.2 ⟨t, ?_, rfl⟩)
      exact List.mem_mergeSort.2 (List.mem_filter.2 ⟨mem, due⟩)
    · exact .inr ⟨t, List.mem_filter.2 ⟨mem, by simpa using due⟩, rfl, early⟩

end

/-! ## Runs -/

section
variable {s : Service} {start : Folder}

/-- What is due when the life of an artifact made now is over is due when that of a later one is. -/
theorem dueBy_later {t : Timer} {clock : Rat} (h : t.DueBy (s.expiry clock)) (more : Span) :
    t.DueBy (s.expiry (clock + more)) := by
  intro latest ends
  obtain ⟨ttl, life, rfl⟩ := Option.map_eq_some_iff.1 ends
  obtain ⟨due, shown, early⟩ := h (clock + ttl) (by rw [expiry, life]; rfl)
  have forward := more.2
  exact ⟨due, shown, by linarith⟩

theorem covered_step (valid : s.ValidPreview) (confined : s.Confined) (steady : s.Steady)
    {w : World} (h : s.Covered start (s.expiry w.clock) [] w) (next : Step) :
    s.Covered start (s.expiry (s.step w next).clock) [] (s.step w next) := by
  have now : s.Accounted start (s.expiry w.clock) [] [] w := ⟨h, by simp, rfl⟩
  cases next with
  | check content =>
      have after := checkModule_accounted confined steady content w now
      rw [step, after.clock]
      exact after.covered
  | compile content =>
      have after := compileModule_accounted confined steady valid content w now
      rw [step, after.clock]
      exact after.covered
  | wait seconds =>
      intro q file
      refine (covered_elapse h q file).imp_right ?_
      rintro ⟨path, found, firm, kept⟩
      refine ⟨path, found, firm, kept.imp_right ?_⟩
      rintro ⟨t, mem, rfl, early⟩
      rw [step, clock_elapse]
      exact ⟨t, mem, rfl, dueBy_later early seconds⟩

theorem covered_after (valid : s.ValidPreview) (confined : s.Confined) (steady : s.Steady)
    {w : World} (h : s.Covered start (s.expiry w.clock) [] w) (steps : List Step) :
    s.Covered start (s.expiry (s.after w steps).clock) [] (s.after w steps) := by
  induction steps generalizing w with
  | nil => exact h
  | cons next more ih => exact ih (covered_step valid confined steady h next)

/-- After some moves of the clock beyond a time, no file is left that was covered by deletions due
by then. -/
theorem start_of_waits {latest : Rat} {waits : List Span} {w : World} (nonempty : waits ≠ [])
    (long : latest ≤ w.clock + (waits.map (·.val)).sum) (h : s.Covered start (some latest) [] w)
    {q : Location} (file : (s.after w (waits.map .wait)).files.FileAt q) : start.FileAt q := by
  induction waits generalizing w with
  | nil => exact absurd rfl nonempty
  | cons first more ih =>
      have next : s.Covered start (some latest) [] (elapse first w) := covered_elapse h
      rw [List.map_cons, List.sum_cons] at long
      cases more with
      | nil =>
          rcases next q file with before | ⟨path, -, -, kept⟩
          · exact before
          · rcases kept with inHand | ⟨t, mem, -, early⟩
            · cases inHand
            · obtain ⟨due, shown, soon⟩ := early latest rfl
              have late := late_elapse mem
              rw [clock_elapse, Timer.isDue, shown] at late
              simp only [List.map_nil, List.sum_nil] at long
              simp only [Option.any_some, decide_eq_false_iff_not, not_le] at late
              linarith
      | cons second rest =>
          refine ih (List.cons_ne_nil second rest) ?_ next file
          rw [clock_elapse]
          linarith

end

/-- No file is left behind, whatever requests a run holds and however they end. In every world of a
run, each file that was not there at the start has a deletion pending for the path that leads to it,
due before an artifact's life is over from now on. And when after some requests the clock has moved
on by that life, all files are files from the start. -/
theorem no_file_left_behind (s : Service) (valid : s.ValidPreview) (confined : s.Confined)
    (steady : s.Steady) (w : World) (steps : List Step) :
    (∀ q, (s.after w steps).files.FileAt q → w.files.FileAt q ∨
      ∃ t ∈ (s.after w steps).timers, FileTree.locate (s.after w steps).files t.path = .ok q ∧
        t.DueBy (s.expiry (s.after w steps).clock)) ∧
    ∀ ttl, s.lifetime? = some ttl →
      ∀ waits : List Span, waits ≠ [] → ttl ≤ (waits.map (·.val)).sum →
        ∀ q, (s.after w (steps ++ waits.map .wait)).files.FileAt q → w.files.FileAt q := by
  have first : s.Covered w.files (s.expiry w.clock) [] w := fun q file => .inl file
  have covered := covered_after valid confined steady first steps
  constructor
  · intro q file
    refine (covered q file).imp_right ?_
    rintro ⟨path, found, -, kept⟩
    rcases kept with inHand | ⟨t, mem, rfl, early⟩
    · cases inHand
    · exact ⟨t, mem, found, early⟩
  · intro ttl life waits nonempty long q file
    rw [after_append] at file
    have ends : s.expiry (s.after w steps).clock = some ((s.after w steps).clock + ttl) := by
      rw [expiry, life]
      rfl
    rw [ends] at covered
    exact start_of_waits nonempty (by linarith) covered file

theorem fileAt_obedientRunner (n : Nat) {launch : Launch} {files : Folder} {q : Location}
    (file : (obedientRunner n launch files).2.FileAt q) :
    files.FileAt q ∨ launch.program = lit "fay" ∧
      ∃ source out rest, launch.argv.reverse = source :: out :: rest ∧
        FileTree.locate (obedientRunner n launch files).2 (FilePath.ofText out) = .ok q := by
  unfold obedientRunner at file ⊢
  cases reversed : launch.argv.reverse with
  | nil => exact .inl (by simpa [reversed] using file)
  | cons source more =>
      cases more with
      | nil => exact .inl (by simpa [reversed] using file)
      | cons out rest =>
          simp only [reversed] at file ⊢
          by_cases compiler : launch.program = lit "fay"
          · simp only [compiler, if_true] at file ⊢
            cases stored : FileTree.storeFile files (FilePath.ofText out) [0x3B] with
            | error fault => exact .inl (by simpa [stored] using file)
            | ok left =>
                simp only [stored] at file ⊢
                rw [FileTree.storeFile_eq] at stored
                refine (FileTree.LeafRule.fileAt_of_applyAt stored file).imp_right fun found => ?_
                refine ⟨trivial, source, out, rest, rfl, ?_⟩
                exact FileTree.locate_of_dirs
                  (fun _ dir => FileTree.LeafRule.dir_of_applyAt stored dir) found
          · exact .inl (by simpa [compiler] using file)

/-- A compilation by the obedient compiler creates a file at most where the script is to be. -/
theorem fileAt_of_compile (t : Toolchain) (n : Nat) (source script : Text)
    (timeout : Option Binary64) (files : Folder) (q : Location) :
    let left := (obedientRunner n ⟨t.compileArgv source script, timeout⟩ files).2
    left.FileAt q →
      files.FileAt q ∨ FileTree.locate left (FilePath.ofText script) = .ok q := by
  intro left file
  refine (fileAt_obedientRunner n file).imp_right ?_
  rintro ⟨-, first, out, rest, reversed, found⟩
  obtain rfl : script = out := by
    simp only [Toolchain.compileArgv, List.reverse_append, List.reverse_cons] at reversed
    simp at reversed
    exact reversed.2.1
  exact found

/-- What the obedient programs do is what processes may do, unless the compiler is asked to check
types. -/
theorem confined_of_obedientRunner {s : Service} (runner : s.runner = obedientRunner)
    (checker : s.settings.typecheckCommand ≠ lit "fay") : s.Confined where
  typecheck n u dirs files q := by
    intro argv file
    rw [runner] at file
    rcases fileAt_obedientRunner n file with before | ⟨compiler, -⟩
    · exact before
    · exact absurd compiler checker
  compile n u files q := by
    intro argv
    rw [runner]
    exact fileAt_of_compile s.toolchain n (s.sourceText u) (s.scriptText u) s.toolchain.timeout
      files q

theorem steady_obedientService : obedientService.Steady := by
  refine .inl ⟨by decide, fun u => ?_⟩
  have path : (obedientService.tempPath u.toText (lit ".hs")).parts =
      [lit "tmp", u.toText ++ lit ".hs"] := by
    unfold tempPath
    rw [FilePath.join_name _ (isPart_id u (by decide))]
    rfl
  show FilePath.up ∉ (obedientService.tempPath u.toText (lit ".hs")).parts
  rw [path]
  simp only [List.mem_cons, List.not_mem_nil, or_false, not_or]
  exact ⟨by decide, up_ne_name u _⟩

theorem validPreview_of_default {s : Service}
    (stylesheets : s.settings.previewStylesheets = ({} : Settings).previewStylesheets)
    (scripts : s.settings.previewScripts = ({} : Settings).previewScripts) : s.ValidPreview := by
  constructor
  · intro t mem
    have all : ∀ t ∈ ({} : Settings).previewStylesheets, Utf8.firstSurrogate? t = none := by
      decide
    exact Utf8.firstSurrogate?_eq_none.1 (all t (stylesheets ▸ mem))
  · intro t mem
    have all : ∀ t ∈ ({} : Settings).previewScripts, Utf8.firstSurrogate? t = none := by decide
    exact Utf8.firstSurrogate?_eq_none.1 (all t (scripts ▸ mem))

theorem life_obedientService : obedientService.lifetime? = some 5 := by decide +kernel

/-- The hypotheses hold of a service that does leave files for a while. -/
theorem no_file_left_behind_obedient :
    let run : List Step := [.check (lit "x"), .wait 1, .compile (lit "main")]
    (obedientService.after emptyWorld run).files.FileAt
      [lit "static", lit "gen", (Uuid.ofNat 2).toText ++ lit ".js"] ∧
    (∀ q, (obedientService.after emptyWorld run).files.FileAt q → emptyWorld.files.FileAt q ∨
      ∃ t ∈ (obedientService.after emptyWorld run).timers,
        FileTree.locate (obedientService.after emptyWorld run).files t.path = .ok q ∧
          t.DueBy (obedientService.expiry (obedientService.after emptyWorld run).clock)) ∧
    ∀ waits : List Span, waits ≠ [] → 5 ≤ (waits.map (·.val)).sum →
      ∀ q, (obedientService.after emptyWorld (run ++ waits.map .wait)).files.FileAt q →
        emptyWorld.files.FileAt q := by
  intro run
  have ⟨kept, gone⟩ := no_file_left_behind obedientService (validPreview_of_default rfl rfl)
    (confined_of_obedientRunner rfl (by decide)) steady_obedientService emptyWorld run
  refine ⟨⟨[0x3B], false, ?_⟩, kept, gone 5 life_obedientService⟩
  decide +kernel

/-! ## Files that stay -/

/-- Deletions that are due in the order in which they are scheduled fire in that order. -/
theorem elapse_of_pairwise (seconds : Rat) (w : World)
    (sorted : (w.timers.filter (·.isDue (w.clock + seconds))).Pairwise
      (Timer.isEarlier · · = true)) :
    elapse seconds w =
      (w.timers.filter (·.isDue (w.clock + seconds))).foldl fire (moved seconds w) := by
  rw [elapse, dueTimers, List.mergeSort_of_pairwise sorted]

/-- A type checker that takes the directory `static` away, beside the obedient compiler. -/
def raidingRunner : Runner := fun n launch files =>
  if launch.program = lit "ghc" then (.exited 0 none, files.erase (lit "static"))
  else obedientRunner n launch files

/-- A service with that runner, whose path of the public files passes `static`. -/
def raidedService : Service :=
  { obedientService with settings := { genDir := lit "static/../gen" }, runner := raidingRunner }

theorem confined_raidedService : raidedService.Confined where
  typecheck := by
    intro n u dirs files q
    generalize raidedService.sourceText u = source
    intro argv file
    have ghc : (⟨argv, raidedService.toolchain.timeout⟩ : Launch).program = lit "ghc" := rfl
    have left : raidedService.runner n ⟨argv, raidedService.toolchain.timeout⟩ files =
        (Outcome.exited 0 none, files.erase (lit "static")) := by
      rw [show raidedService.runner = raidingRunner from rfl, raidingRunner, if_pos ghc]
    rw [left] at file
    exact Folder.fileAt_of_erase file
  compile := by
    intro n u files q
    generalize raidedService.sourceText u = source, raidedService.scriptText u = script
    intro argv
    have fay : (⟨argv, raidedService.toolchain.timeout⟩ : Launch).program ≠ lit "ghc" := by
      have other : lit "fay" ≠ lit "ghc" := by decide
      exact other
    have left : raidedService.runner n ⟨argv, raidedService.toolchain.timeout⟩ files =
        obedientRunner n ⟨argv, raidedService.toolchain.timeout⟩ files := by
      rw [show raidedService.runner = raidingRunner from rfl, raidingRunner, if_neg fay]
    rw [left]
    exact fileAt_of_compile raidedService.toolchain n source script
      raidedService.toolchain.timeout files q

/-- A service whose artifacts are to live for longer than a timer can wait. -/
def eternalService : Service :=
  { obedientService with settings := { artifactTtl := .ofInt 10000000000 } }

/-- The directories disjoint and the processes confined is not enough for all files to go. A process
may remove a directory that the path of the public files passes, on the way back up: then the path
of a script leads nowhere when its deletion fires, and the script stays, with nothing pending. And a
timer that would have to wait for longer than it can is never due. -/
theorem files_stay_behind :
    (raidedService.tempDir.Apart raidedService.genDir ∧ raidedService.ValidPreview ∧
      raidedService.Confined ∧ raidedService.lifetime? = some 5 ∧
      let left :=
        raidedService.after emptyWorld [.compile (lit "main"), .check (lit "x"), .wait 5]
      left.files.FileAt [lit "gen", (Uuid.ofNat 1).toText ++ lit ".js"] ∧ left.timers = []) ∧
    eternalService.tempDir.Apart eternalService.genDir ∧ eternalService.ValidPreview ∧
      eternalService.Confined ∧ eternalService.lifetime? = none ∧
      (eternalService.after emptyWorld [.compile (lit "main"), .wait 10000000000]).files.FileAt
        [lit "static", lit "gen", (Uuid.ofNat 1).toText ++ lit ".js"] := by
  let before := raidedService.after emptyWorld [.compile (lit "main"), .check (lit "x")]
  -- the deletions are scheduled in the order in which they are due, so nothing has to be sorted
  have last : raidedService.after emptyWorld [.compile (lit "main"), .check (lit "x"), .wait 5] =
      (before.timers.filter (·.isDue (before.clock + 5))).foldl fire (moved 5 before) := by
    refine (raidedService.after_append emptyWorld [.compile (lit "main"), .check (lit "x")]
      [.wait 5]).trans ?_
    exact elapse_of_pairwise 5 before (by decide +kernel)
  have stays :
      let left := (before.timers.filter (·.isDue (before.clock + 5))).foldl fire (moved 5 before);
      left.files.look [lit "gen", (Uuid.ofNat 1).toText ++ lit ".js"] = some (.file [0x3B] false) ∧
        left.timers = [] := by decide +kernel
  rw [← last] at stays
  refine ⟨⟨?_, validPreview_of_default rfl rfl, confined_raidedService, ?_,
    ⟨[0x3B], false, stays.1⟩, stays.2⟩, ?_, validPreview_of_default rfl rfl,
    confined_of_obedientRunner rfl (by decide), ?_, ⟨[0x3B], false, ?_⟩⟩
  · decide +kernel
  · decide +kernel
  · decide +kernel
  · decide +kernel
  · decide +kernel

end CompileService.Service
