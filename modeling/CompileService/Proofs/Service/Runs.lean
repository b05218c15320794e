import CompileService.Proofs.Service.Artifacts
import CompileService.Service.Commands

/-!
# Runs of the service

A run is a row of steps: requests, and moves of the clock. Deletions that are due fire when the
clock moves, each by itself: one that fails stops none of the others.

* `Service.elapse`: what a move of the clock does. `Service.advance` does the same wherever it
  answers (`eq_elapse_of_advance`).
* `Service.fire_cases`, `Service.late_elapse`: what a deletion that fires leaves, and what is
  pending after a move of the clock.
* `Service.after`: the world after a run.
-/

namespace CompileService

/-- A number of seconds by which the clock moves on. -/
abbrev Span := { t : Rat // 0 ≤ t }

instance (n : Nat) : OfNat Span n := ⟨⟨n, Rat.natCast_nonneg⟩⟩

/-- A step of a run. -/
inductive Step where
  | check (content : Text)
  | compile (content : Text)
  /-- The clock moves on by so many seconds. -/
  | wait (seconds : Span)

namespace Service

/-- The world after a deletion has fired, whether or not it fails. -/
def fire (w : World) (timer : Timer) : World := ((expire timer).run w).2

/-- The world in which the clock has moved on and no deletion that is due then is pending any more.
-/
def moved (seconds : Rat) (w : World) : World :=
  { w with
    clock := w.clock + seconds
    timers := w.timers.filter (!·.isDue (w.clock + seconds)) }

/-- The world after the clock has moved on and all deletions that are due have fired. -/
def elapse (seconds : Rat) (w : World) : World :=
  (dueTimers (w.clock + seconds) w.timers).foldl fire (moved seconds w)

/-- The world after a step. A request that fails leaves the world as it is by then. -/
def step (s : Service) (w : World) : Step → World
  | .check content => ((s.checkModule content).run w).2
  | .compile content => ((s.compileModule content).run w).2
  | .wait seconds => elapse seconds w

/-- The world after a run. -/
def after (s : Service) (w : World) (steps : List Step) : World := steps.foldl s.step w

theorem after_append (s : Service) (w : World) (first more : List Step) :
    s.after w (first ++ more) = s.after (s.after w first) more :=
  List.foldl_append

theorem foldl_fire_of_expireAll {due : List Timer} {w v : World}
    (h : (expireAll due).run w = (.ok (), v)) : v = due.foldl fire w := by
  induction due generalizing w with
  | nil => exact (congrArg Prod.snd h).symm
  | cons timer more ih =>
      rw [expireAll, Action.run_bind] at h
      rw [List.foldl_cons, fire]
      rcases fired : (expire timer).run w with ⟨r, u⟩
      rw [fired] at h
      cases r with
      | error failure => cases h
      | ok _ => exact ih h

/-- Where moving the clock answers, it does what the deletions do each by itself. -/
theorem eq_elapse_of_advance {seconds : Rat} {w v : World} {paths : List FilePath}
    (h : (advance seconds).run w = (.ok paths, v)) : v = elapse seconds w := by
  unfold advance at h
  simp only [Action.run_bind, Action.run_modify, Action.run_read] at h
  rcases fired : (expireAll (dueTimers (w.clock + seconds) w.timers)).run (moved seconds w)
    with ⟨r, u⟩
  unfold moved at fired
  rw [fired] at h
  cases r with
  | error failure => cases h
  | ok _ =>
      obtain rfl : u = v := congrArg Prod.snd h
      exact foldl_fire_of_expireAll fired

/-! ## Deletions that fire -/

/-- A deletion that fires removes its file, or there is none where its path leads. -/
theorem fire_cases (w : World) (timer : Timer) :
    Deleted timer.path w (fire w timer) ∨
      fire w timer = w ∧ ∀ q, w.files.FileAt q → FileTree.locate w.files timer.path ≠ .ok q := by
  have shown : ∀ q, w.files.FileAt q → FileTree.locate w.files timer.path = .ok q →
      FileTree.pathExists w.files timer.path = .ok true := by
    rintro q ⟨content, executable, file⟩ found
    rw [FileTree.pathExists_eq, FileTree.answer_of_locate found, file]
    rfl
  -- a deletion is tried only if something is found, and a file where the path leads is found
  cases there : FileTree.pathExists w.files timer.path with
  | error fault =>
      refine .inr ⟨?_, fun q file found => ?_⟩
      · rw [fire, expire, Action.run_bind, Action.run_ask, there]
        rfl
      · rw [shown q file found] at there
        cases there
  | ok found =>
      cases found with
      | false =>
          refine .inr ⟨?_, fun q file found => ?_⟩
          · rw [fire, expire, Action.run_bind, Action.run_ask, there]
            rfl
          · rw [shown q file found] at there
            cases there
      | true =>
          have gone := deleted_delete timer.path
            (w.logged LogLevel.debug artifactLog (lit "Expiring " ++ timer.path.toText))
          have fired : fire w timer = ((delete timer.path).run
              (w.logged LogLevel.debug artifactLog (lit "Expiring " ++ timer.path.toText))).2 := by
            rw [fire, expire, Action.run_bind, Action.run_ask, there]
            rfl
          rw [← fired] at gone
          exact .inl ⟨by simpa using gone.files, by simpa using gone.clock,
            by simpa using gone.timers, by simpa using gone.calls, by simpa using gone.drawn⟩

theorem timers_fire (w : World) (timer : Timer) :
    (fire w timer).timers = w.timers ∧ (fire w timer).clock = w.clock := by
  rcases fire_cases w timer with gone | ⟨same, -⟩
  · exact ⟨gone.timers, gone.clock⟩
  · rw [same]
    exact ⟨rfl, rfl⟩

/-- A file that is still there after a deletion has fired was there before, and the path of the
deletion does not lead to it. -/
theorem fileAt_of_fire {w : World} {timer : Timer} {q : Location}
    (file : (fire w timer).files.FileAt q) :
    w.files.FileAt q ∧ FileTree.locate w.files timer.path ≠ .ok q := by
  rcases fire_cases w timer with gone | ⟨same, none⟩
  · rcases gone.files with dropped | ⟨⟨fault, refused⟩, same⟩
    · exact FileTree.fileAt_of_dropFile dropped file
    · rw [same] at file
      refine ⟨file, fun found => ?_⟩
      obtain ⟨content, executable, shown⟩ := file
      rw [FileTree.dropFile_eq, FileTree.LeafRule.applyAt_of_locate found, shown] at refused
      cases refused
  · rw [same] at file
    exact ⟨file, none q file⟩

theorem timers_foldl_fire (due : List Timer) (w : World) :
    (due.foldl fire w).timers = w.timers ∧ (due.foldl fire w).clock = w.clock := by
  induction due generalizing w with
  | nil => exact ⟨rfl, rfl⟩
  | cons timer more ih =>
      obtain ⟨timers, clock⟩ := ih (fire w timer)
      rw [List.foldl_cons, timers, clock]
      exact timers_fire w timer

/-- Deletions neither draw identifiers nor start processes. -/
theorem drawn_foldl_fire (due : List Timer) (w : World) :
    (due.foldl fire w).drawn = w.drawn ∧ (due.foldl fire w).calls = w.calls := by
  induction due generalizing w with
  | nil => exact ⟨rfl, rfl⟩
  | cons timer more ih =>
      obtain ⟨drawn, calls⟩ := ih (fire w timer)
      rw [List.foldl_cons, drawn, calls]
      rcases fire_cases w timer with gone | ⟨same, -⟩
      · exact ⟨gone.drawn, gone.calls⟩
      · rw [same]
        exact ⟨rfl, rfl⟩

theorem drawn_elapse (seconds : Rat) (w : World) : (elapse seconds w).drawn = w.drawn :=
  (drawn_foldl_fire _ _).1

theorem calls_elapse (seconds : Rat) (w : World) : (elapse seconds w).calls = w.calls :=
  (drawn_foldl_fire _ _).2

theorem clock_elapse (seconds : Rat) (w : World) :
    (elapse seconds w).clock = w.clock + seconds :=
  (timers_foldl_fire _ _).2

/-- What is pending after the clock has moved was pending before. -/
theorem mem_of_elapse {seconds : Rat} {w : World} {t : Timer}
    (mem : t ∈ (elapse seconds w).timers) : t ∈ w.timers := by
  rw [elapse, (timers_foldl_fire _ _).1, moved] at mem
  exact (List.mem_filter.1 mem).1

/-- What is pending after the clock has moved is not due. -/
theorem late_elapse {seconds : Rat} {w : World} {t : Timer}
    (mem : t ∈ (elapse seconds w).timers) : t.isDue (elapse seconds w).clock = false := by
  rw [elapse, (timers_foldl_fire _ _).1, moved, List.mem_filter] at mem
  rw [clock_elapse]
  simpa using mem.2

/-! ## A service -/

/-- A type checker that finds nothing wrong, and a compiler that writes a script where it is told.
-/
def obedientRunner : Runner := fun _ launch files =>
  match launch.argv.reverse with
  | _ :: out :: _ =>
    if launch.program = lit "fay" then
      match FileTree.storeFile files (FilePath.ofText out) [0x3B] with
      | .ok left => (.exited 0 none, left)
      | .error _ => (.exited 1 none, files)
    else (.exited 0 none, files)
  | _ => (.exited 0 none, files)

/-- A service with the default settings around that runner. -/
def obedientService : Service where
  settings := {}
  tempDir := FilePath.ofText (lit "tmp")
  ids := drawsThenCount []
  runner := obedientRunner

/-- A world with an empty directory of temporary files. -/
def emptyWorld : World := { files := .dir (lit "tmp") .empty .empty }

end Service

end CompileService
