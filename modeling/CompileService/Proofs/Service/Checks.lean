import CompileService.Proofs.Diagnostic.Readable
import CompileService.Proofs.FileTree.Leaves
import CompileService.Proofs.Service.Runs
import CompileService.Proofs.Toolchain

/-!
# Which type checks are answered

Once a type check has its artifact, whether it is answered depends on how the process ends and on
what it reports: a report whose line numbers cannot be read is the one kind of output without an
answer.

* `run_writeSource`: the source is written, or rejected.
* `run_rootsOf`: the module roots, where each of them can be looked at.
* `checkModule_result`, `checkModule_of_stored`, `answer_of_outcome`: from the end of the process to
  the answer.
* `checkModule_answered_iff`: exactly when there is an answer.
-/

namespace CompileService.Service

/-! ## The source -/

/-- An artifact is new: its path leads to an empty file. -/
structure Fresh (artifact : Artifact) (w : World) : Prop where
  there : ∃ place, FileTree.locate w.files artifact.path = .ok place ∧
    w.files.look place = some (.file [] false)

theorem fresh_of_newArtifact {s : Service} {ext : Text} {w v : World} {artifact : Artifact}
    (made : (s.newArtifact ext).run w = (.ok artifact, v)) : Fresh artifact v := by
  have created := (made_of_newArtifact made).files
  obtain ⟨place, found, after⟩ := FileTree.look_createFile created
  exact ⟨place, (FileTree.sameDirs_createFile created).locate found, by simp [after]⟩

theorem Fresh.store {artifact : Artifact} {w : World} (fresh : Fresh artifact w)
    (bytes : List UInt8) : ∃ files, FileTree.storeFile w.files artifact.path bytes = .ok files := by
  obtain ⟨place, found, empty⟩ := fresh.there
  rw [FileTree.storeFile_eq, FileTree.LeafRule.applyAt_of_locate found, empty]
  exact ⟨_, rfl⟩

/-- A new artifact stays new when directories appear. -/
theorem Fresh.grown {artifact : Artifact} {w v : World} (fresh : Fresh artifact w)
    (grown : w.files.Grown v.files) : Fresh artifact v := by
  obtain ⟨place, led, empty⟩ := fresh.there
  refine ⟨place, FileTree.locate_of_dirs (fun _ => grown.dir) led, ?_⟩
  rcases grown place with same | ⟨nothing, -⟩
  · rw [same, empty]
  · rw [empty] at nothing
    cases nothing

theorem Fresh.isFile {artifact : Artifact} {w : World} (fresh : Fresh artifact w) :
    FileTree.isFile w.files artifact.path = .ok true := by
  obtain ⟨place, led, empty⟩ := fresh.there
  exact FileTree.isFile_iff.2 ⟨place, led, [], false, empty⟩

/-- A source with a UTF-8 form is written. -/
theorem run_writeSource {path : FilePath} {w : World} {source : Text} {bytes : List UInt8}
    {files : Folder} (encoded : Utf8.encode source = .ok bytes)
    (stored : FileTree.storeFile w.files path bytes = .ok files) :
    (writeSource path source).run w = (.ok none, { w with files := files }) := by
  unfold writeSource Action.writeText
  rw [encoded, Action.run_bind, Action.run_attempt, Action.run_change]
  dsimp only
  rw [stored]
  rfl

/-- A source without UTF-8 form is rejected, and its file is left empty. -/
theorem run_writeSource_of_unencodable {path : FilePath} {w : World} {source : Text}
    {fault : Utf8.Unencodable} {files : Folder} (unencodable : Utf8.encode source = .error fault)
    (stored : FileTree.storeFile w.files path [] = .ok files) :
    (writeSource path source).run w =
      (.ok (some (rejection fault)), { w with files := files }) := by
  unfold writeSource Action.writeText
  rw [unencodable, Action.run_bind, Action.run_attempt, Action.run_bind, Action.run_change]
  dsimp only
  rw [stored]
  rfl

/-! ## The module roots -/

/-- Whether the module root of a scope is there. -/
def rootThere (s : Service) (files : Folder) (scope : Text) : Bool :=
  match FileTree.isDirectory files (s.scopeDir scope) with
  | .ok there => there
  | .error _ => false

theorem rootThere_iff {s : Service} {files : Folder} {scope : Text} :
    s.rootThere files scope = true ↔ FileTree.isDirectory files (s.scopeDir scope) = .ok true := by
  rw [rootThere]
  cases FileTree.isDirectory files (s.scopeDir scope) with
  | ok there => simp
  | error fault => simp

/-- The roots that are there belong to the scopes. -/
theorem mem_roots_iff {s : Service} {files : Folder} {scopes : List Text} {root : FilePath} :
    root ∈ (scopes.filter (s.rootThere files)).map s.scopeDir ↔
      ∃ scope ∈ scopes, s.rootThere files scope = true ∧ s.scopeDir scope = root := by
  simp [and_assoc]

/-- The module root of every scope can be looked at. -/
def RootsShown (s : Service) (files : Folder) (scopes : List Text) : Prop :=
  ∀ scope ∈ scopes, ∃ there, FileTree.isDirectory files (s.scopeDir scope) = .ok there

theorem run_rootsOf {s : Service} {scopes : List Text} {w : World}
    (shown : s.RootsShown w.files scopes) :
    (s.rootsOf scopes).run w = (.ok ((scopes.filter (s.rootThere w.files)).map s.scopeDir), w) := by
  induction scopes with
  | nil => rfl
  | cons scope more ih =>
      obtain ⟨there, asked⟩ := shown scope List.mem_cons_self
      have rest := ih fun other mem => shown other (List.mem_cons_of_mem _ mem)
      have known : s.rootThere w.files scope = there := by rw [rootThere, asked]
      rw [rootsOf, Action.run_bind, Action.run_ask_of_ok w asked]
      dsimp only
      rw [Action.run_bind, rest]
      cases there with
      | true => simp [known]
      | false => simp [known]

theorem run_rootsOf_of_hidden {s : Service} {scopes : List Text} {w : World}
    (hidden : ¬ s.RootsShown w.files scopes) :
    ∃ failure, (s.rootsOf scopes).run w = (.error failure, w) := by
  induction scopes with
  | nil => exact absurd (fun _ mem => by cases mem) hidden
  | cons scope more ih =>
      rw [rootsOf, Action.run_bind]
      cases asked : FileTree.isDirectory w.files (s.scopeDir scope) with
      | error fault =>
          rw [Action.run_ask, asked]
          exact ⟨_, rfl⟩
      | ok there =>
          have rest : ¬ s.RootsShown w.files more := by
            intro shown
            refine hidden fun other mem => ?_
            rcases List.mem_cons.1 mem with rfl | later
            · exact ⟨there, asked⟩
            · exact shown other later
          obtain ⟨failure, run⟩ := ih rest
          refine ⟨failure, ?_⟩
          rw [Action.run_ask_of_ok w asked]
          dsimp only
          rw [Action.run_bind, run]

/-! ## The answer -/

/-- The answer to the result of a type check, or the fault in its report. -/
def answerOf (id : Text) (lineSkip : Nat) (result : ToolchainResult) : Except Failure Response :=
  match result.status with
  | .unavailable => .ok (.toolchainUnavailable result.output)
  | .ok => .ok (.checkOk id)
  | .failed =>
    match Report.parse lineSkip result.output with
    | .ok diagnostics => .ok (.checkFailed diagnostics result.output)
    | .error fault => .error (.badReport fault)

theorem checkAnswer_result (id : Text) (lineSkip : Nat) (result : ToolchainResult) (w : World) :
    ((checkAnswer id lineSkip result).run w).1 = answerOf id lineSkip result ∧
      ((checkAnswer id lineSkip result).run w).2.calls = w.calls := by
  rcases result with ⟨status, output⟩
  cases status with
  | ok => exact ⟨rfl, World.logged_calls _ _ _ _⟩
  | unavailable => exact ⟨rfl, rfl⟩
  | failed =>
      unfold checkAnswer answerOf
      dsimp only
      rw [Action.run_bind, Action.run_ofExcept]
      cases Report.parse lineSkip output with
      | ok diagnostics => exact ⟨rfl, World.logged_calls _ _ _ _⟩
      | error fault => exact ⟨rfl, rfl⟩

/-- The source with the prelude lines before it. -/
def checkSource (s : Service) (content : Text) : Text :=
  (formatForCheck content s.settings.preludeLines).2

/-- The process of a type check, when the files are these. -/
def checkLaunch (s : Service) (artifact : Artifact) (files : Folder) : Launch :=
  let roots := (s.settings.moduleScopes.filter (s.rootThere files)).map s.scopeDir
  ⟨s.toolchain.typecheckArgv artifact.path.toText (roots.map FilePath.toText), s.toolchain.timeout⟩

/-- How a process may end for a type check to have an answer: its report is not looked at, or its
line numbers can be read. -/
def Answered : Outcome → Prop
  | .timedOut => True
  | .notStarted _ => True
  | .crashed _ => False
  | .exited status output =>
    status = 0 ∧ Toolchain.hasReports (output.getD []) = false ∨ Report.Readable (output.getD [])

/-- What it takes for a type check to have an answer once its artifact is there. If the source has a
UTF-8 form, then with the source written the module roots can be looked at and the process ends in a
way that is answered. -/
def Answerable (s : Service) (artifact : Artifact) (content : Text) (v : World) : Prop :=
  ∀ bytes files, Utf8.encode (s.checkSource content) = .ok bytes →
    FileTree.storeFile v.files artifact.path bytes = .ok files →
    s.RootsShown files s.settings.moduleScopes ∧
      Answered (s.runner v.calls.length (s.checkLaunch artifact files) files).1

section
variable {s : Service} {w v : World} {artifact : Artifact} {content : Text}

variable (content) in
/-- The result of a type check once its artifact is there, and the processes started. -/
theorem checkModule_result
    (made : (s.newArtifact s.settings.sourceExtension).run w = (.ok artifact, v)) :
    let body :=
      (s.checkArtifact artifact (s.checkSource content)).run (s.readied v artifact.path v.files)
    ((s.checkModule content).run w).1 =
        (match body.1 with
          | .error failure => .error failure
          | .ok (.inl answer) => .ok answer
          | .ok (.inr result) => answerOf artifact.id s.settings.preludeLines.length result) ∧
      ((s.checkModule content).run w).2.calls = body.2.calls := by
  obtain ⟨place, led, -⟩ := (fresh_of_newArtifact made).there
  unfold checkModule
  rw [Action.run_bind, made]
  dsimp only
  rw [Action.run_bind, s.run_scheduleDelete]
  dsimp only [formatForCheck]
  rw [Action.run_bind, Action.run_guarded]
  unfold checkSource formatForCheck
  dsimp only
  generalize (s.checkArtifact artifact _).run _ = body
  rcases body with ⟨r, u⟩
  -- the cleanup does not fail, since the path has led to a place, so the result of the body stands
  have deleted := ok_delete led u
  have calls := (deleted_delete artifact.path u).calls
  rcases deleting : (delete artifact.path).run u with ⟨c, x⟩
  rw [deleting] at deleted calls
  obtain rfl : c = .ok () := deleted
  dsimp only at calls ⊢
  rcases r with failure | (answer | result)
  · exact ⟨rfl, calls⟩
  · exact ⟨rfl, calls⟩
  · obtain ⟨answered, kept⟩ :=
      checkAnswer_result artifact.id s.settings.preludeLines.length result x
    exact ⟨answered, kept.trans calls⟩

/-- A source without UTF-8 form is an answer by itself, and no process is started for it. -/
theorem checkArtifact_of_unencodable (fresh : Fresh artifact v) {source : Text}
    {fault : Utf8.Unencodable} (unencodable : Utf8.encode source = .error fault) :
    ((s.checkArtifact artifact source).run v).1 =
        .ok (.inl (.checkFailed [] (rejection fault))) ∧
      ((s.checkArtifact artifact source).run v).2.calls = v.calls := by
  obtain ⟨files, stored⟩ := fresh.store []
  unfold checkArtifact
  rw [Action.run_bind, run_writeSource_of_unencodable unencodable stored]
  exact ⟨rfl, World.logged_calls _ _ _ _⟩

/-- Once the source is written the type check ends as the toolchain does, unless a module root
cannot be looked at. -/
theorem checkArtifact_of_encodable {source : Text} {bytes : List UInt8} {files : Folder}
    (encoded : Utf8.encode source = .ok bytes)
    (stored : FileTree.storeFile v.files artifact.path bytes = .ok files) :
    let launch := s.checkLaunch artifact files
    let run := (s.checkArtifact artifact source).run v
    (s.RootsShown files s.settings.moduleScopes ∧
        run.1 = ((Toolchain.verdict launch (s.runner v.calls.length launch files).1).map
          Toolchain.checked).map .inr ∧
        Toolchain.Ran s.runner launch { v with files := files } run.2) ∨
      ¬ s.RootsShown files s.settings.moduleScopes ∧
        (∃ failure, run.1 = .error failure) ∧ run.2 = { v with files := files } := by
  dsimp only
  have start : (s.checkArtifact artifact source).run v =
      (do
        let dirs ← s.moduleDirs
        return .inr (← s.toolchain.typecheck s.runner artifact.path.toText dirs) :
          Action (Response ⊕ ToolchainResult)).run { v with files := files } := by
    unfold checkArtifact
    rw [Action.run_bind, run_writeSource encoded stored]
  rw [start, Action.run_bind, moduleDirs, Action.run_bind, roots]
  -- the roots are looked at once the source stands in the tree
  by_cases shown : s.RootsShown files s.settings.moduleScopes
  · refine .inl ⟨shown, ?_⟩
    rw [run_rootsOf (w := { v with files := files }) shown]
    simp only [Action.run_pure]
    rw [Action.run_bind]
    obtain ⟨result, ran⟩ := Toolchain.typecheck_outcome s.toolchain s.runner artifact.path.toText
      (((s.settings.moduleScopes.filter (s.rootThere files)).map s.scopeDir).map FilePath.toText)
      { v with files := files }
    unfold checkLaunch
    dsimp only at result ⊢
    rw [← result]
    rcases ended : (s.toolchain.typecheck s.runner artifact.path.toText _).run _ with
      ⟨failure | result, u⟩
    · rw [ended] at ran
      exact ⟨rfl, ran⟩
    · rw [ended] at ran
      exact ⟨rfl, ran⟩
  · obtain ⟨failure, run⟩ := run_rootsOf_of_hidden (w := { v with files := files }) shown
    rw [run]
    exact .inr ⟨shown, ⟨failure, rfl⟩, rfl⟩

variable (content) in
/-- Once its source is written a type check starts one process, whose end stands for the answer,
unless a module root cannot be looked at. -/
theorem checkModule_of_stored
    (made : (s.newArtifact s.settings.sourceExtension).run w = (.ok artifact, v))
    {bytes : List UInt8} {files : Folder}
    (encoded : Utf8.encode (s.checkSource content) = .ok bytes)
    (stored : FileTree.storeFile v.files artifact.path bytes = .ok files) :
    let launch := s.checkLaunch artifact files
    let answer := ((s.checkModule content).run w).1
    let calls := ((s.checkModule content).run w).2.calls
    (s.RootsShown files s.settings.moduleScopes ∧
        answer = ((Toolchain.verdict launch (s.runner w.calls.length launch files).1).map
          Toolchain.checked).bind (answerOf artifact.id s.settings.preludeLines.length) ∧
        calls = w.calls ++
          [⟨launch, v.clock, files, v.timers ++ [⟨artifact.path, s.expiry v.clock⟩]⟩]) ∨
      ¬ s.RootsShown files s.settings.moduleScopes ∧ (∃ failure, answer = .error failure) ∧
        calls = w.calls := by
  have kept : v.calls = w.calls := (made_of_newArtifact made).calls
  obtain ⟨result, calls⟩ := checkModule_result content made
  dsimp only
  rw [result, calls]
  rcases checkArtifact_of_encodable (s := s) (v := s.readied v artifact.path v.files)
      encoded stored with
    ⟨shown, judged, ran⟩ | ⟨hidden, ⟨failure, failed⟩, same⟩
  · refine .inl ⟨shown, ?_, ran.calls.trans (congrArg (· ++ [_]) kept)⟩
    rw [judged, readied_calls, kept]
    generalize (Toolchain.verdict _ _).map Toolchain.checked = done
    cases done with
    | error failure => rfl
    | ok found => rfl
  · rw [failed, same]
    exact .inr ⟨hidden, ⟨failure, rfl⟩, kept⟩

theorem answerOf_ok_iff (id : Text) (lineSkip : Nat) (result : ToolchainResult) :
    (∃ response, answerOf id lineSkip result = .ok response) ↔
      (result.status = .failed → Report.Readable result.output) := by
  rcases result with ⟨status, output⟩
  cases status with
  | ok => simp [answerOf]
  | unavailable => simp [answerOf]
  | failed =>
      simp only [answerOf, true_implies]
      rw [← Report.parse_ok_iff lineSkip]
      cases Report.parse lineSkip output with
      | ok diagnostics => simp
      | error fault => simp

/-- The kinds of answers to a type check. -/
def answerKinds : List ResponseKind := [.checkOk, .checkFailed, .toolchainUnavailable]

theorem kind_answerOf {id : Text} {lineSkip : Nat} {result : ToolchainResult} {response : Response}
    (answered : answerOf id lineSkip result = .ok response) : response.kind ∈ answerKinds := by
  unfold answerOf at answered
  split at answered
  · cases answered
    simp [Response.kind, answerKinds]
  · cases answered
    simp [Response.kind, answerKinds]
  · split at answered
    · cases answered
      simp [Response.kind, answerKinds]
    · cases answered

/-- From the end of the process to the answer. -/
theorem answer_of_outcome (id : Text) (lineSkip : Nat) (launch : Launch) (outcome : Outcome) :
    (∃ result response, (Toolchain.verdict launch outcome).map Toolchain.checked = .ok result ∧
        answerOf id lineSkip result = .ok response) ↔ Answered outcome := by
  cases outcome with
  | timedOut => simp [Toolchain.verdict, Except.map, Toolchain.checked, answerOf, Answered]
  | notStarted fault => simp [Toolchain.verdict, Except.map, Toolchain.checked, answerOf, Answered]
  | crashed crash => simp [Toolchain.verdict, Except.map, Answered]
  | exited status output =>
      rw [Toolchain.checked_exited]
      simp only [Except.ok.injEq, exists_and_left, exists_eq_left', answerOf_ok_iff]
      unfold Answered
      by_cases good : status = 0 ∧ Toolchain.hasReports (output.getD []) = false
      · simp [good]
      · simp [good]

variable (content) in
/-- The cases of a type check once its artifact is there: its source is rejected, or it is
written and then a module root cannot be looked at, or the end of the process decides. -/
theorem checkModule_cases
    (made : (s.newArtifact s.settings.sourceExtension).run w = (.ok artifact, v)) :
    (∃ fault, Utf8.encode (s.checkSource content) = .error fault ∧
        ((s.checkModule content).run w).1 = .ok (.checkFailed [] (rejection fault))) ∨
      ∃ bytes files, Utf8.encode (s.checkSource content) = .ok bytes ∧
        FileTree.storeFile v.files artifact.path bytes = .ok files ∧
        (¬ s.RootsShown files s.settings.moduleScopes ∧
            (∃ failure, ((s.checkModule content).run w).1 = .error failure) ∨
          s.RootsShown files s.settings.moduleScopes ∧
            ((∃ response, ((s.checkModule content).run w).1 = .ok response) ↔
              Answered (s.runner v.calls.length (s.checkLaunch artifact files) files).1) ∧
            ∀ response, ((s.checkModule content).run w).1 = .ok response →
              response.kind ∈ answerKinds) := by
  have fresh := fresh_of_newArtifact made
  cases encoded : Utf8.encode (s.checkSource content) with
  | error fault =>
      have later : Fresh artifact (s.readied v artifact.path v.files) := ⟨fresh.there⟩
      rw [(checkModule_result content made).1, (checkArtifact_of_unencodable later encoded).1]
      exact .inl ⟨fault, rfl, rfl⟩
  | ok bytes =>
      obtain ⟨files, stored⟩ := fresh.store bytes
      refine .inr ⟨bytes, files, rfl, stored, ?_⟩
      rw [(made_of_newArtifact made).calls]
      rcases checkModule_of_stored content made encoded stored with
        ⟨shown, answer, -⟩ | ⟨hidden, failed, -⟩
      · refine .inr ⟨shown, ?_⟩
        rw [answer, ← answer_of_outcome artifact.id s.settings.preludeLines.length
          (s.checkLaunch artifact files)]
        generalize (Toolchain.verdict _ _).map Toolchain.checked = done
        cases done with
        | error failure => simp [Except.bind]
        | ok result =>
            refine ⟨by simp [Except.bind], fun response answered => ?_⟩
            exact kind_answerOf answered
      · exact .inl ⟨hidden, failed⟩

/-- Every answer to a type check is of one of three kinds, and there is an answer exactly where the
type check is answerable. So the text of a toolchain keeps a type check from an answer only by a
line number that cannot be read; and a report is read exactly where all its line numbers can be,
zero standing for one without digits. -/
theorem checkModule_answered_iff
    (made : (s.newArtifact s.settings.sourceExtension).run w = (.ok artifact, v)) :
    ((∃ response, ((s.checkModule content).run w).1 = .ok response) ↔
        s.Answerable artifact content v) ∧
      (∀ response, ((s.checkModule content).run w).1 = .ok response → response.kind ∈ answerKinds) ∧
      (∀ (lineSkip : Int) raw,
        (∃ found, Report.parse lineSkip raw = .ok found) ↔ Report.Readable raw) ∧
      ∀ block, (∀ c, (Report.afterColon block).head? = some c → c.isDigit = false) →
        Report.lineNumber block = .ok 0 := by
  rw [← and_assoc]
  refine ⟨?_, Report.parse_ok_iff, fun block => Report.lineNumber_of_no_digit⟩
  unfold Answerable
  rcases checkModule_cases content made with
    ⟨fault, unencodable, rejected⟩ | ⟨bytes, files, encoded, stored, rest⟩
  · rw [rejected]
    simp [unencodable, Response.kind, answerKinds]
  · -- what is asked of every way to write the source is asked of the one there is
    have only : ∀ files', FileTree.storeFile v.files artifact.path bytes = .ok files' →
        files' = files := by
      intro files' again
      exact Except.ok.inj (again.symm.trans stored)
    rcases rest with ⟨hidden, failure, failed⟩ | ⟨shown, decided, kinds⟩
    · rw [failed]
      refine ⟨⟨by simp, fun answerable => ?_⟩, by simp⟩
      exact absurd (answerable bytes files encoded stored).1 hidden
    · refine ⟨⟨fun answered => ?_, fun answerable => ?_⟩, kinds⟩
      · intro bytes' files' encoded' stored'
        obtain rfl := Except.ok.inj (encoded'.symm.trans encoded)
        obtain rfl := only files' stored'
        exact ⟨shown, decided.1 answered⟩
      · exact decided.2 (answerable bytes files encoded stored).2

end

/-! ## A report with and without an answer -/

/-- A service whose type checker fails with a report. -/
def reporting (report : Text) : Service :=
  { obedientService with runner := fun _ _ files => (.exited 1 (some report), files) }

theorem ok_of_isSome {ε α : Type} {e : Except ε α} (some : e.toOption.isSome = true) :
    ∃ x, e = .ok x := by
  cases e with
  | error failure => cases some
  | ok x => exact ⟨x, rfl⟩

theorem ok_of_toOption {ε α : Type} {e : Except ε α} {x : α} (some : e.toOption = some x) :
    e = .ok x := by
  cases e with
  | error failure => cases some
  | ok y => exact congrArg Except.ok (Option.some.inj some)

theorem made_of_isSome {s : Service} {ext : Text} {w : World}
    (some : ((s.newArtifact ext).run w).1.toOption.isSome = true) :
    ∃ artifact v, (s.newArtifact ext).run w = (.ok artifact, v) := by
  obtain ⟨artifact, made⟩ := ok_of_isSome some
  exact ⟨artifact, ((s.newArtifact ext).run w).2, Prod.ext made rfl⟩

/-- A report with a line number is answered, and that is what answerable says. -/
theorem checkModule_answered_reporting :
    ∃ artifact v, ((reporting (lit "a:2:3: x")).newArtifact (lit ".hs")).run emptyWorld =
        (.ok artifact, v) ∧
      (∃ response, (((reporting (lit "a:2:3: x")).checkModule (lit "y")).run emptyWorld).1 =
        .ok response) ∧
      (reporting (lit "a:2:3: x")).Answerable artifact (lit "y") v := by
  have created : (((reporting (lit "a:2:3: x")).newArtifact (lit ".hs")).run
      emptyWorld).1.toOption.isSome = true := by decide +kernel
  obtain ⟨artifact, v, made⟩ := made_of_isSome created
  have found : (((reporting (lit "a:2:3: x")).checkModule (lit "y")).run
      emptyWorld).1.toOption.isSome = true := by decide +kernel
  have answered := ok_of_isSome found
  exact ⟨artifact, v, made, answered, (checkModule_answered_iff made).1.1 answered⟩

/-- The fault of a report that was not read. -/
def parseFault? : Except Report.LineFault (List Diagnostic) → Option Report.LineFault
  | .error fault => some fault
  | .ok _ => none

theorem eq_of_parseFault? {r : Except Report.LineFault (List Diagnostic)} {fault : Report.LineFault}
    (h : parseFault? r = some fault) : r = .error fault := by
  cases r with
  | error other => exact congrArg Except.error (Option.some.inj h)
  | ok diagnostics => cases h

/-- The fault of a report that kept a type check from an answer. -/
def reportFault? : Except Failure Response → Option Report.LineFault
  | .error (.badReport fault) => some fault
  | _ => none

theorem eq_of_reportFault? {r : Except Failure Response} {fault : Report.LineFault}
    (h : reportFault? r = some fault) : r = .error (.badReport fault) := by
  unfold reportFault? at h
  split at h
  · rw [Option.some.inj h]
  · cases h

/-- A superscript where a line number is expected is a digit but no decimal digit: the report is not
read, and a type check that has its artifact fails. -/
theorem superscript_line_is_not_answered :
    Report.parse 0 (lit "a:²:3: x") = .error (.notDecimal (lit "²")) ∧
    (∃ artifact v, ((reporting (lit "a:²:3: x")).newArtifact (lit ".hs")).run emptyWorld =
      (.ok artifact, v)) ∧
    (((reporting (lit "a:²:3: x")).checkModule (lit "y")).run emptyWorld).1 =
      .error (.badReport (.notDecimal (lit "²"))) := by
  refine ⟨eq_of_parseFault? ?_, made_of_isSome ?_, eq_of_reportFault? ?_⟩
  · decide +kernel
  · decide +kernel
  · decide +kernel

end CompileService.Service
