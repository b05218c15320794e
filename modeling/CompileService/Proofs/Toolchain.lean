import CompileService.Proofs.Action
import CompileService.Toolchain.Basic

/-!
# Runs of the toolchain

* `Toolchain.run_run`: a command line: the process, and the judgement on its end.
* `Toolchain.run_ends`: the same, by what holds when the process has ended.
* `Toolchain.judge_keeps`: judging how it ended only writes to the log.
* `Toolchain.verdict`, `Toolchain.Ran`: what the end of a process means, and what it leaves but for
  the log. `Toolchain.run_outcome`, `Toolchain.typecheck_outcome`, `Toolchain.compile_outcome`: the
  runs in these terms.
-/

namespace CompileService.Toolchain

/-- The world after a process was started and has ended. -/
def started (w : World) (launch : Launch) (files : Folder) : World :=
  { w with files := files, calls := w.calls ++ [⟨launch, w.clock, w.files, w.timers⟩] }

theorem run_start (runner : Runner) (launch : Launch) (w : World) :
    (start runner launch).run w =
      (.ok (runner w.calls.length launch w.files).1,
        started w launch (runner w.calls.length launch w.files).2) := rfl

/-- A property that records in the log do not touch. -/
def Unlogged (P : World → Prop) : Prop :=
  ∀ w level source message, P w → P (w.logged level source message)

theorem judge_keeps {P : World → Prop} (logged : Unlogged P) (launch : Launch) (outcome : Outcome) :
    Action.Keeps P (judge launch outcome) := by
  have log : ∀ level source message, Action.Keeps P (Action.log level source message) :=
    fun level source message => Action.Ends.log fun w h => logged w level source message h
  cases outcome with
  | timedOut => exact Action.Keeps.bind (log _ _ _) fun _ => Action.Keeps.pure
  | notStarted fault => exact Action.Keeps.bind (log _ _ _) fun _ => Action.Keeps.pure
  | crashed crash => exact Action.Keeps.fail
  | exited status output =>
      unfold judge
      dsimp only
      split
      · exact Action.Keeps.pure
      · exact Action.Keeps.bind (log _ _ _) fun _ => Action.Keeps.pure

/-- A command line is run: the process is started, and how it ends is judged. -/
theorem run_run (tc : Toolchain) (runner : Runner) (argv : List Text) (w : World) :
    (tc.run runner argv).run w =
      let launch : Launch := ⟨argv, tc.timeout⟩
      let noted := w.logged LogLevel.info logSource (lit "Running " ++ Text.joinWith (lit " ") argv)
      let ended := runner w.calls.length launch w.files
      (judge launch ended.1).run (started noted launch ended.2) := by
  unfold run
  rw [Action.run_bind, Action.run_log]
  dsimp only
  rw [Action.run_bind, run_start, World.logged_calls, World.logged_files]

/-- A command line is run: what holds when the process has ended is judged. -/
theorem run_ends {P : World → Prop} {Q : Outcome → World → Prop}
    {R : Except Failure ToolchainResult → World → Prop} (tc : Toolchain) (runner : Runner)
    (argv : List Text) (logged : Unlogged P)
    (ended : ∀ w, P w →
      Q (runner w.calls.length ⟨argv, tc.timeout⟩ w.files).1
        (started w ⟨argv, tc.timeout⟩ (runner w.calls.length ⟨argv, tc.timeout⟩ w.files).2))
    (judged : ∀ outcome, Action.Ends (Q outcome) (judge ⟨argv, tc.timeout⟩ outcome) R) :
    Action.Ends P (tc.run runner argv) R := by
  intro w h
  have noted := ended _
    (logged w LogLevel.info logSource (lit "Running " ++ Text.joinWith (lit " ") argv) h)
  rw [World.logged_calls, World.logged_files] at noted
  rw [run_run]
  exact judged _ _ noted

/-! ## Results -/

/-- Why a process that takes too long counts as unavailable. -/
def timeoutReason (launch : Launch) : Text :=
  launch.program ++ lit " timed out after " ++ shownSeconds launch.timeout ++ lit "s"

/-- Why a process that is not started counts as unavailable. -/
def refusalReason (launch : Launch) (fault : LaunchFault) : Text :=
  lit "Could not launch " ++ launch.program ++ lit ": " ++ fault.message

/-- What the end of a process means. -/
def verdict (launch : Launch) : Outcome → Except Failure ToolchainResult
  | .timedOut => .ok ⟨.unavailable, timeoutReason launch⟩
  | .notStarted fault => .ok ⟨.unavailable, refusalReason launch fault⟩
  | .crashed crash => .error (.crashed crash)
  | .exited status output => .ok ⟨if status = 0 then .ok else .failed, output.getD []⟩

theorem judge_result (launch : Launch) (outcome : Outcome) (w : World) :
    ((judge launch outcome).run w).1 = verdict launch outcome := by
  cases outcome with
  | timedOut => rfl
  | notStarted fault => rfl
  | crashed crash => rfl
  | exited status output =>
      unfold judge verdict
      by_cases zero : status = 0
      · simp [zero]
      · simp [zero, Action.run_bind]

/-- A process was started in the first world, and the second is what it left but for the log. -/
structure Ran (runner : Runner) (launch : Launch) (w v : World) : Prop where
  files : v.files = (runner w.calls.length launch w.files).2
  calls : v.calls = w.calls ++ [⟨launch, w.clock, w.files, w.timers⟩]
  clock : v.clock = w.clock
  timers : v.timers = w.timers

theorem Ran.logged {runner : Runner} {launch : Launch} {w : World} :
    Unlogged (Ran runner launch w) := by
  intro v level source message ran
  exact ⟨by simp [ran.files], by simp [ran.calls], by simp [ran.clock], by simp [ran.timers]⟩

/-- A command line starts its process, whose end decides the result. -/
theorem run_outcome (tc : Toolchain) (runner : Runner) (argv : List Text) (w : World) :
    ((tc.run runner argv).run w).1 =
        verdict ⟨argv, tc.timeout⟩ (runner w.calls.length ⟨argv, tc.timeout⟩ w.files).1 ∧
      Ran runner ⟨argv, tc.timeout⟩ w ((tc.run runner argv).run w).2 := by
  rw [run_run]
  refine ⟨judge_result _ _ _, judge_keeps Ran.logged _ _ _ ?_⟩
  exact ⟨rfl, by simp [started], by simp [started], by simp [started]⟩

/-- The result of a type check by that of its process: a success that reports something is none. -/
def checked (result : ToolchainResult) : ToolchainResult :=
  if result.status = .ok ∧ hasReports result.output then { result with status := .failed }
  else result

theorem output_checked (result : ToolchainResult) : (checked result).output = result.output := by
  unfold checked
  split <;> rfl

/-- Only a success turns into something else. -/
theorem unavailable_checked {result : ToolchainResult} :
    (checked result).status = .unavailable ↔ result.status = .unavailable := by
  unfold checked
  split
  · rename_i reported
    simp [reported.1]
  · exact Iff.rfl

/-- A type check whose process exits succeeds if the status is zero and nothing is reported. -/
theorem checked_exited (launch : Launch) (status : Int) (output : Option Text) :
    (verdict launch (.exited status output)).map checked =
      .ok ⟨if status = 0 ∧ hasReports (output.getD []) = false then .ok else .failed,
        output.getD []⟩ := by
  unfold verdict checked
  by_cases zero : status = 0
  · cases reports : hasReports (output.getD []) <;> simp [Except.map, zero, reports]
  · simp [Except.map, zero]

theorem typecheck_outcome (tc : Toolchain) (runner : Runner) (source : Text) (dirs : List Text)
    (w : World) :
    let launch : Launch := ⟨tc.typecheckArgv source dirs, tc.timeout⟩
    ((tc.typecheck runner source dirs).run w).1 =
        (verdict launch (runner w.calls.length launch w.files).1).map checked ∧
      Ran runner launch w ((tc.typecheck runner source dirs).run w).2 := by
  obtain ⟨result, ran⟩ := run_outcome tc runner (tc.typecheckArgv source dirs) w
  dsimp only
  rw [← result]
  unfold typecheck
  rw [Action.run_bind]
  rcases ended : (tc.run runner (tc.typecheckArgv source dirs)).run w with ⟨failure | found, v⟩
  · rw [ended] at ran
    exact ⟨rfl, ran⟩
  · rw [ended] at ran
    dsimp only [Except.map, checked]
    split
    · exact ⟨rfl, ran⟩
    · exact ⟨rfl, ran⟩

/-- The result of a compilation by that of its process and by what that left: a success without a
script is none. -/
def compiled (tc : Toolchain) (left : Folder) (out : FilePath) (result : ToolchainResult) :
    Except Failure ToolchainResult :=
  if result.status ≠ .ok then .ok result
  else match FileTree.pathExists left out with
    | .error fault => .error (.onPath out fault)
    | .ok true => .ok result
    | .ok false =>
      .ok ⟨.failed, if result.output = [] then tc.compileCommand ++ lit " produced no output file"
        else result.output⟩

theorem compile_outcome (tc : Toolchain) (runner : Runner) (source out : Text) (w : World) :
    let launch : Launch := ⟨tc.compileArgv source out, tc.timeout⟩
    ((tc.compile runner source out).run w).1 =
        (verdict launch (runner w.calls.length launch w.files).1).bind
          (tc.compiled (runner w.calls.length launch w.files).2 (FilePath.ofText out)) ∧
      Ran runner launch w ((tc.compile runner source out).run w).2 := by
  obtain ⟨result, ran⟩ := run_outcome tc runner (tc.compileArgv source out) w
  dsimp only
  rw [← result, ← ran.files]
  unfold compile
  rw [Action.run_bind]
  -- only a process that has ended well has its output looked for
  rcases ended : (tc.run runner (tc.compileArgv source out)).run w with ⟨failure | found, v⟩
  · rw [ended] at ran
    exact ⟨rfl, ran⟩
  · rw [ended] at ran
    dsimp only [Except.bind, compiled]
    split
    · exact ⟨rfl, ran⟩
    · rw [Action.run_bind]
      cases asked : FileTree.pathExists v.files (FilePath.ofText out) with
      | error fault =>
          rw [Action.run_ask, asked]
          exact ⟨rfl, ran⟩
      | ok there =>
          rw [Action.run_ask_of_ok v asked]
          cases there with
          | true => exact ⟨rfl, ran⟩
          | false =>
              by_cases silent : found.output = []
              · simpa [silent] using ran
              · simpa [silent] using ran

end CompileService.Toolchain
