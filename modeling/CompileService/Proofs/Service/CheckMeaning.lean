import CompileService.Proofs.Service.Checks

/-!
# What a type check comes to

A type check that has its artifact writes the source with the prelude lines before it, starts one
process on it, and gives the answer that the end of this process stands for; a source without UTF-8
form is an answer by itself.

* `sameDirs_source`: the source takes away and adds no directory, so the module roots are those from
  before the request.
* `checkModule_rejects`, `checkModule_runs`: the two cases.
* `checkModule_end_to_end`: what process is started on what file, and what the answer is.
-/

namespace CompileService.Service

/-! ## The module roots -/

section
variable {s : Service} {f g : Folder}

theorem rootThere_of_sameDirs (same : FileTree.SameDirs f g) : s.rootThere f = s.rootThere g := by
  funext scope
  rw [rootThere, rootThere, same.isDirectory]

theorem RootsShown.of_sameDirs {scopes : List Text} (shown : s.RootsShown f scopes)
    (same : FileTree.SameDirs f g) : s.RootsShown g scopes := by
  intro scope mem
  obtain ⟨there, asked⟩ := shown scope mem
  exact ⟨there, by rw [← same.isDirectory, asked]⟩

end

section
variable {s : Service} {w v : World} {artifact : Artifact} {content : Text}

/-- The directories are still the same when the source is written. -/
theorem sameDirs_source {ext : Text} (made : (s.newArtifact ext).run w = (.ok artifact, v))
    {bytes : List UInt8} {files : Folder}
    (stored : FileTree.storeFile v.files artifact.path bytes = .ok files) :
    FileTree.SameDirs w.files files :=
  (FileTree.sameDirs_createFile (made_of_newArtifact made).files).trans
    (FileTree.sameDirs_storeFile stored)

/-! ## The two cases -/

/-- A source without UTF-8 form: no process is started, and the answer names the place of the first
surrogate. -/
theorem checkModule_rejects
    (made : (s.newArtifact s.settings.sourceExtension).run w = (.ok artifact, v))
    (surrogate : ¬ (s.checkSource content).Encodable) :
    ∃ (before : Text) (c : CodePoint) (rest : Text),
      s.checkSource content = before ++ c :: rest ∧ before.Encodable ∧ c.isSurrogate = true ∧
      ((s.checkModule content).run w).1 =
        .ok (.checkFailed [] (lit "Source is not valid Unicode text at position " ++
          Text.ofNat before.length ++ lit ": surrogates not allowed")) ∧
      ((s.checkModule content).run w).2.calls = w.calls := by
  obtain ⟨u, unencodable, found⟩ := Utf8.encode_of_not_encodable surrogate
  obtain ⟨before, c, rest, split, valid, isSurrogate, position⟩ :=
    Utf8.firstSurrogate?_eq_some found
  have fresh : Fresh artifact (s.readied v artifact.path v.files) :=
    ⟨(fresh_of_newArtifact made).there⟩
  obtain ⟨answered, kept⟩ := checkArtifact_of_unencodable (s := s) fresh unencodable
  obtain ⟨result, calls⟩ := checkModule_result content made
  refine ⟨before, c, rest, split, valid, isSurrogate, ?_, ?_⟩
  · rw [result, answered, rejection, position]
  · rw [calls, kept]
    exact (made_of_newArtifact made).calls

/-- A source with a UTF-8 form: one process is started on its file, and its end decides. -/
theorem checkModule_runs
    (made : (s.newArtifact s.settings.sourceExtension).run w = (.ok artifact, v))
    (shown : s.RootsShown w.files s.settings.moduleScopes)
    (valid : (s.checkSource content).Encodable) :
    ∃ call : Call, ((s.checkModule content).run w).2.calls = w.calls ++ [call] ∧
      call.launch = s.checkLaunch artifact w.files ∧
      FileTree.fileContent call.files artifact.path = .ok (Utf8.encodeAll (s.checkSource content)) ∧
      ((s.checkModule content).run w).1 =
        ((Toolchain.verdict call.launch (s.runner w.calls.length call.launch call.files).1).map
          Toolchain.checked).bind (answerOf artifact.id s.settings.preludeLines.length) := by
  have encoded := Utf8.encode_of_encodable valid
  obtain ⟨files, stored⟩ := (fresh_of_newArtifact made).store
    (Utf8.encodeAll (s.checkSource content))
  have dirs := sameDirs_source made stored
  -- the source adds no directory, so the roots on the command line are those from before
  have launch : s.checkLaunch artifact files = s.checkLaunch artifact w.files := by
    rw [checkLaunch, checkLaunch, rootThere_of_sameDirs dirs]
  rcases checkModule_of_stored content made encoded stored with
    ⟨-, answer, calls⟩ | ⟨hidden, -⟩
  · rw [launch] at answer calls
    exact ⟨_, calls, rfl, FileTree.fileContent_storeFile stored, answer⟩
  · exact absurd (shown.of_sameDirs dirs) hidden

/-! ## The whole -/

variable (content) in
/-- The meaning of a type check whose artifact can be created and whose module roots can be looked
at. If the prelude lines and the content hold a surrogate, no process is started, and the answer
names the place of the first one. If they do not, exactly one process is started, on a file that
holds just these lines and the content at that moment; its command line names the directories of the
settings and then the module roots that exist, in their order; and the answer is what its end stands
for. -/
theorem checkModule_end_to_end
    (made : (s.newArtifact s.settings.sourceExtension).run w = (.ok artifact, v))
    (shown : s.RootsShown w.files s.settings.moduleScopes) :
    let source : Text :=
      (s.settings.preludeLines.flatMap fun line => line ++ [CodePoint.lineFeed]) ++ content
    let roots := (s.settings.moduleScopes.filter (s.rootThere w.files)).map s.scopeDir
    let answer := ((s.checkModule content).run w).1
    let calls := ((s.checkModule content).run w).2.calls
    artifact.path = s.tempPath artifact.id s.settings.sourceExtension ∧
    (¬ source.Encodable → ∃ (before : Text) (c : CodePoint) (rest : Text),
      source = before ++ c :: rest ∧ before.Encodable ∧ c.isSurrogate = true ∧
      answer = .ok (.checkFailed [] (lit "Source is not valid Unicode text at position " ++
        Text.ofNat before.length ++ lit ": surrogates not allowed")) ∧
      calls = w.calls) ∧
    (source.Encodable → ∃ call : Call, calls = w.calls ++ [call] ∧
      call.launch.argv = [s.settings.typecheckCommand] ++ s.settings.packageFlags ++
        [lit "-fno-code", lit "-Wall", lit "-Werror", artifact.path.toText] ++
        s.settings.includeDirs.map (lit "-i" ++ ·) ++ roots.map (lit "-i" ++ ·.toText) ∧
      FileTree.fileContent call.files artifact.path = .ok (Utf8.encodeAll source) ∧
      answer = match (s.runner w.calls.length call.launch call.files).1 with
        | .timedOut => .ok (.toolchainUnavailable (Toolchain.timeoutReason call.launch))
        | .notStarted fault =>
          .ok (.toolchainUnavailable (Toolchain.refusalReason call.launch fault))
        | .crashed crash => .error (.crashed crash)
        | .exited status output =>
          if status = 0 ∧ Toolchain.hasReports (output.getD []) = false then
            .ok (.checkOk artifact.id)
          else match Report.parse s.settings.preludeLines.length (output.getD []) with
            | .ok diagnostics => .ok (.checkFailed diagnostics (output.getD []))
            | .error fault => .error (.badReport fault)) := by
  intro source roots answer calls
  refine ⟨(made_of_newArtifact made).path, checkModule_rejects made, fun valid => ?_⟩
  obtain ⟨call, started, launched, held, answered⟩ := checkModule_runs made shown valid
  refine ⟨call, started, ?_, held, ?_⟩
  · rw [launched, checkLaunch, Toolchain.typecheckArgv]
    simp only [toolchain, Toolchain.typecheckFlags, List.map_map, roots, List.append_assoc]
    rfl
  · -- the answer, one end of the process after the other
    rw [show answer = _ from answered]
    cases (s.runner w.calls.length call.launch call.files).1 with
    | timedOut => rfl
    | notStarted fault => rfl
    | crashed crash => rfl
    | exited status output =>
        rw [Toolchain.checked_exited]
        dsimp only [Except.bind, answerOf]
        by_cases good : status = 0 ∧ Toolchain.hasReports (output.getD []) = false
        · simp only [good, and_self, if_true]
        · cases Report.parse s.settings.preludeLines.length (output.getD []) with
          | ok diagnostics => simp only [good, if_false]
          | error fault => simp only [good, if_false]

end

/-! ## A source with a prelude line and a module root -/

/-- A service that puts one line before each source, and whose type checker reports the next. -/
def preludeService : Service :=
  { reporting (lit "a:2:3: x") with settings := { preludeLines := [lit "module Main where"] } }

/-- A world with the module root of the first scope. -/
def libraryWorld : World where
  files := .dir (lit "modules") (.dir (lit "library") .empty .empty)
    (.dir (lit "tmp") .empty .empty)

theorem rootsShown_libraryWorld :
    preludeService.RootsShown libraryWorld.files preludeService.settings.moduleScopes := by
  have all : ∀ scope ∈ preludeService.settings.moduleScopes,
      (FileTree.isDirectory libraryWorld.files
        (preludeService.scopeDir scope)).toOption.isSome := by decide
  exact fun scope mem => ok_of_isSome (all scope mem)

/-- The line that is reported is the first one of the content, and the module root is searched. -/
theorem checkModule_end_to_end_prelude :
    ∃ artifact v, (preludeService.newArtifact (lit ".hs")).run libraryWorld = (.ok artifact, v) ∧
      preludeService.RootsShown libraryWorld.files preludeService.settings.moduleScopes ∧
      (∃ call : Call,
        ((preludeService.checkModule (lit "y")).run libraryWorld).2.calls = [call] ∧
        call.launch.argv = [lit "ghc", lit "-package", lit "fay", lit "-package-conf",
          lit "cabal-dev/packages-7.4.2.conf", lit "-fno-code", lit "-Wall", lit "-Werror",
          artifact.path.toText, lit "-iinclude", lit "-imodules/library"] ∧
        FileTree.fileContent call.files artifact.path =
          .ok (Utf8.encodeAll (lit "module Main where\ny"))) ∧
      ((preludeService.checkModule (lit "y")).run libraryWorld).1 =
        .ok (.checkFailed [⟨.error, 1, lit "x"⟩] (lit "a:2:3: x")) := by
  have created : ((preludeService.newArtifact (lit ".hs")).run
      libraryWorld).1.toOption.isSome = true := by rfl
  obtain ⟨artifact, v, made⟩ := made_of_isSome created
  have meaning := checkModule_end_to_end (lit "y") made rootsShown_libraryWorld
  have valid : Text.Encodable ((preludeService.settings.preludeLines.flatMap fun line =>
      line ++ [CodePoint.lineFeed]) ++ lit "y") := Utf8.firstSurrogate?_eq_none.1 (by decide)
  obtain ⟨call, started, argv, held, answered⟩ := meaning.2.2 valid
  have roots : preludeService.settings.moduleScopes.filter
      (preludeService.rootThere libraryWorld.files) = [lit "library"] := by rfl
  refine ⟨artifact, v, made, rootsShown_libraryWorld, ⟨call, started, ?_, held⟩, ?_⟩
  · rw [argv, roots]
    rfl
  · rw [answered]
    have read : Report.parse 1 (lit "a:2:3: x") = .ok [⟨.error, 1, lit "x"⟩] := by rfl
    have lines : (preludeService.settings.preludeLines.length : Int) = 1 := rfl
    dsimp only [preludeService, reporting, Option.getD_some] at lines ⊢
    rw [if_neg (fun good => absurd good.1 (by decide)), lines, read]

end CompileService.Service
