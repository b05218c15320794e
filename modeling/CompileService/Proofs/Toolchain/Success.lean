import CompileService.Proofs.Toolchain

/-!
# When the toolchain succeeds

How the process of a command ends decides what the command reports. Both commands take an exit with
zero for a success only under a condition of their own: a type check asks that nothing is reported,
and a compilation asks that the script exists. Neither asks for the condition of the other.

* `Exited`, `Unusable`: the ends of processes.
* `Statuses`: which statuses a result may have, and with which outputs. `Statuses.checked`,
  `Statuses.compiled`: what the commands make of the result of their process.
* `status_iff`: the statuses of both commands.
* `compile_succeeds_with_report`: a compilation that reports something and succeeds.
-/

namespace CompileService.Toolchain

/-! ## Ends of processes -/

/-- The process exited with this status, and this is what it printed. -/
def Exited (ended : Outcome) (status : Int) (output : Text) : Prop :=
  ∃ said, ended = .exited status said ∧ said.getD [] = output

/-- The process was stopped for its time or not started at all, and this is the reason given. -/
def Unusable (launch : Launch) (ended : Outcome) (reason : Text) : Prop :=
  ended = .timedOut ∧ timeoutReason launch = reason ∨
    ∃ fault, ended = .notStarted fault ∧ refusalReason launch fault = reason

theorem exited_exited (status code : Int) (said : Option Text) (output : Text) :
    Exited (.exited status said) code output ↔ status = code ∧ said.getD [] = output := by
  simp [Exited, and_assoc]

/-! ## Statuses -/

/-- A result has each status exactly with these outputs, and is exactly these failures. -/
structure Statuses (result : Except Failure ToolchainResult) (ok unavailable failed : Text → Prop)
    (raised : Failure → Prop) : Prop where
  ok : ∀ output, result = .ok ⟨.ok, output⟩ ↔ ok output
  unavailable : ∀ output, result = .ok ⟨.unavailable, output⟩ ↔ unavailable output
  failed : ∀ output, result = .ok ⟨.failed, output⟩ ↔ failed output
  raised : ∀ failure, result = .error failure ↔ raised failure

/-- The result that a process stands for by itself. -/
theorem statuses_verdict (launch : Launch) (ended : Outcome) :
    Statuses (verdict launch ended) (Exited ended 0) (Unusable launch ended)
      (fun output => ∃ status, status ≠ 0 ∧ Exited ended status output)
      (fun failure => ∃ crash, ended = .crashed crash ∧ failure = .crashed crash) := by
  cases ended with
  | timedOut => constructor <;> simp [verdict, Exited, Unusable]
  | notStarted fault => constructor <;> simp [verdict, Exited, Unusable]
  | crashed crash => constructor <;> simp [verdict, Exited, Unusable, eq_comm]
  | exited status said =>
      constructor
      case ok =>
        intro output
        rw [exited_exited]
        by_cases zero : status = 0 <;> simp [verdict, zero]
      case unavailable =>
        by_cases zero : status = 0 <;> simp [verdict, Unusable, zero]
      case failed =>
        intro output
        simp only [exited_exited]
        constructor
        · intro failed
          by_cases zero : status = 0
          · simp [verdict, zero] at failed
          · exact ⟨status, zero, rfl, by simpa [verdict, zero] using failed⟩
        · rintro ⟨_, nonzero, rfl, text⟩
          simp [verdict, nonzero, text]
      case raised => simp [verdict]

section
variable {result : Except Failure ToolchainResult} {ok unavailable failed : Text → Prop}
  {raised : Failure → Prop}

/-- A type check keeps the result of its process, but for a success that reports something. -/
theorem Statuses.checked (statuses : Statuses result ok unavailable failed raised) :
    Statuses (result.map checked) (fun output => ok output ∧ hasReports output = false) unavailable
      (fun output => failed output ∨ ok output ∧ hasReports output = true) raised := by
  obtain rfl := funext fun output => propext (statuses.ok output)
  obtain rfl := funext fun output => propext (statuses.unavailable output)
  obtain rfl := funext fun output => propext (statuses.failed output)
  obtain rfl := funext fun failure => propext (statuses.raised failure)
  rcases result with failure | ⟨status, said⟩
  · constructor <;> simp [Except.map]
  · cases status with
    | failed => constructor <;> simp [Except.map, Toolchain.checked]
    | unavailable => constructor <;> simp [Except.map, Toolchain.checked]
    | ok =>
        cases reports : hasReports said with
        | false => constructor <;> simp [Except.map, Toolchain.checked, reports]
        | true => constructor <;> simp [Except.map, Toolchain.checked, reports]

/-- A compilation keeps the result of its process, but for a success that left no script: that is a
failure, and shows that there is no script if nothing else was said. -/
theorem Statuses.compiled (statuses : Statuses result ok unavailable failed raised)
    (tc : Toolchain) (left : Folder) (out : FilePath) :
    Statuses (result.bind (tc.compiled left out))
      (fun output => ok output ∧ FileTree.pathExists left out = .ok true) unavailable
      (fun output => failed output ∨ FileTree.pathExists left out = .ok false ∧
        (ok output ∧ output ≠ [] ∨
          ok [] ∧ output = tc.compileCommand ++ lit " produced no output file"))
      (fun failure => raised failure ∨ (∃ output, ok output) ∧
        ∃ fault, FileTree.pathExists left out = .error fault ∧ failure = .onPath out fault) := by
  obtain rfl := funext fun output => propext (statuses.ok output)
  obtain rfl := funext fun output => propext (statuses.unavailable output)
  obtain rfl := funext fun output => propext (statuses.failed output)
  obtain rfl := funext fun failure => propext (statuses.raised failure)
  rcases result with failure | ⟨status, said⟩
  · constructor <;> simp [Except.bind]
  · cases status with
    | failed => constructor <;> simp [Except.bind, Toolchain.compiled]
    | unavailable => constructor <;> simp [Except.bind, Toolchain.compiled]
    | ok =>
        rcases there : FileTree.pathExists left out with fault | found
        · constructor <;> simp [Except.bind, Toolchain.compiled, there, eq_comm]
        · cases found with
          | true => constructor <;> simp [Except.bind, Toolchain.compiled, there]
          | false =>
              by_cases silent : said = []
              · -- only the output of the failure is not settled by the status
                constructor <;> simp [Except.bind, Toolchain.compiled, there, silent]
                exact fun output => eq_comm
              · constructor <;> simp [Except.bind, Toolchain.compiled, there, silent]

end

/-- A compilation comes to the same if a success has to report nothing as well, exactly if its
process leaves no script where it exits with zero after a report. -/
theorem compiled_checked_iff (tc : Toolchain) (launch : Launch) (ended : Outcome) (left : Folder)
    (out : FilePath) :
    (verdict launch ended).bind (tc.compiled left out) =
        ((verdict launch ended).map checked).bind (tc.compiled left out) ↔
      ∀ output, Exited ended 0 output → hasReports output = true →
        FileTree.pathExists left out = .ok false := by
  cases ended with
  | timedOut => simp [verdict, checked, Exited, Except.map]
  | notStarted fault => simp [verdict, checked, Exited, Except.map]
  | crashed crash => simp [verdict, Exited, Except.map, Except.bind]
  | exited status said =>
      simp only [exited_exited]
      -- a report is text, so a failure for want of a script shows the output in either case
      by_cases zero : status = 0
      · cases reports : hasReports (said.getD []) with
        | false => simp [verdict, checked, Except.map, zero, reports]
        | true =>
            have loud : said.getD [] ≠ [] := by
              intro silent
              rw [silent] at reports
              cases reports
            rcases there : FileTree.pathExists left out with fault | _ | _ <;>
              simp [verdict, checked, compiled, Except.map, Except.bind, zero, reports, there, loud]
      · simp [verdict, checked, Except.map, zero]

/-! ## The commands -/

/-- The statuses of both commands by the end of their process, the one process that either starts.
A compilation does what it would do if it asked as well that nothing is reported, exactly if its
process leaves no script where it exits with zero after a report. -/
theorem status_iff (tc : Toolchain) (runner : Runner) (source out : Text) (dirs : List Text)
    (w : World) :
    (let launch : Launch := ⟨tc.typecheckArgv source dirs, tc.timeout⟩
      let ended := (runner w.calls.length launch w.files).1
      let after := (tc.typecheck runner source dirs).run w
      after.2.calls = w.calls ++ [⟨launch, w.clock, w.files, w.timers⟩] ∧
      Statuses after.1
        (fun output => Exited ended 0 output ∧ hasReports output = false)
        (Unusable launch ended)
        (fun output => (∃ status, status ≠ 0 ∧ Exited ended status output) ∨
          Exited ended 0 output ∧ hasReports output = true)
        (fun failure => ∃ crash, ended = .crashed crash ∧ failure = .crashed crash)) ∧
    (let launch : Launch := ⟨tc.compileArgv source out, tc.timeout⟩
      let ended := (runner w.calls.length launch w.files).1
      let left := (runner w.calls.length launch w.files).2
      let script := FileTree.pathExists left (FilePath.ofText out)
      let after := (tc.compile runner source out).run w
      after.2.calls = w.calls ++ [⟨launch, w.clock, w.files, w.timers⟩] ∧
      Statuses after.1
        (fun output => Exited ended 0 output ∧ script = .ok true)
        (Unusable launch ended)
        (fun output => (∃ status, status ≠ 0 ∧ Exited ended status output) ∨
          script = .ok false ∧ (Exited ended 0 output ∧ output ≠ [] ∨
            Exited ended 0 [] ∧ output = tc.compileCommand ++ lit " produced no output file"))
        (fun failure => (∃ crash, ended = .crashed crash ∧ failure = .crashed crash) ∨
          (∃ output, Exited ended 0 output) ∧
            ∃ fault, script = .error fault ∧ failure = .onPath (FilePath.ofText out) fault) ∧
      (after.1 =
          ((verdict launch ended).map checked).bind (tc.compiled left (FilePath.ofText out)) ↔
        ∀ output, Exited ended 0 output → hasReports output = true → script = .ok false)) := by
  have checking := tc.typecheck_outcome runner source dirs w
  have compiling := tc.compile_outcome runner source out w
  refine ⟨⟨checking.2.calls, ?_⟩, compiling.2.calls, ?_, ?_⟩
  · rw [checking.1]
    exact (statuses_verdict _ _).checked
  · rw [compiling.1]
    exact (statuses_verdict _ _).compiled tc _ _
  · rw [compiling.1]
    exact compiled_checked_iff tc _ _ _ _

/-- A compiler that reports something, writes its script and exits with zero. -/
def talkativeRunner : Runner := fun _ _ files =>
  match FileTree.storeFile files (FilePath.ofText (lit "a.js")) [0x3B] with
  | .ok left => (.exited 0 (some (lit "Foo.hs:1:2: x")), left)
  | .error _ => (.exited 1 none, files)

/-- A compilation succeeds although its process has reported something; a type check whose process
ends in the same way fails. -/
theorem compile_succeeds_with_report :
    let tc : Toolchain := {}
    let w : World := { files := .empty }
    let said := lit "Foo.hs:1:2: x"
    hasReports said = true ∧
    ((tc.compile talkativeRunner (lit "a.hs") (lit "a.js")).run w).1.toOption = some ⟨.ok, said⟩ ∧
    ((tc.typecheck talkativeRunner (lit "a.hs") []).run w).1.toOption = some ⟨.failed, said⟩ := by
  decide +kernel

end CompileService.Toolchain
