import CompileService.Proofs.Service.Effects
import CompileService.Proofs.Service.Lookup
import CompileService.Proofs.Text.Encodable

/-!
# What commands answer

Where a command answers, the answer is one of a few: read off the files, the rejection of a source,
or made from the end of a process. Where it fails, identifiers have run out only if it has no
artifact.

* `Action.Yields`: what an action answers if it does, and that it does not run out of identifiers.
* `listModules_yields`, `LookupAnswer`, `getModule_yields`: the commands on modules.
* `CheckAnswer`, `CompileAnswer`: the answers to type checks and compilations with an artifact.
  `checkModule_settles`, `compileModule_settles`: there are no others.
-/

namespace CompileService

/-- The source of identifiers has run out. -/
def Failure.Exhausted : Failure → Prop
  | .idsExhausted _ => True
  | _ => False

namespace Action

/-- An answer with `Q`, or a failure for another cause than a want of identifiers. -/
def Settles {α : Type} (Q : α → Prop) : Except Failure α → Prop
  | .ok x => Q x
  | .error failure => ¬ failure.Exhausted

/-- From every world the action answers with `Q`, or fails for another cause than a want of
identifiers. -/
structure Yields {α : Type} (Q : α → Prop) (a : Action α) : Prop where
  settles : ∀ w, Settles Q (a.run w).1

variable {α β : Type} {Q : α → Prop} {R : β → Prop}

theorem Settles.weaken {Q' : α → Prop} {r : Except Failure α} (settled : Settles Q r)
    (more : ∀ x, Q x → Q' x) : Settles Q' r := by
  cases r with
  | ok x => exact more x settled
  | error failure => exact settled

theorem Settles.map {r : Except Failure α} {f : α → β} (settled : Settles Q r)
    (next : ∀ x, Q x → R (f x)) : Settles R (r.map f) := by
  cases r with
  | ok x => exact next x settled
  | error failure => exact settled

theorem Settles.bind {r : Except Failure α} {f : α → Except Failure β} (settled : Settles Q r)
    (next : ∀ x, Q x → Settles R (f x)) : Settles R (r.bind f) := by
  cases r with
  | ok x => exact next x settled
  | error failure => exact settled

/-- Failures on a path are no want of identifiers. -/
theorem settles_mapError {path : FilePath} {e : Except PathFault α} :
    Settles (fun _ => True) (e.mapError (.onPath path)) := by
  cases e with
  | ok x => trivial
  | error fault => exact not_false

namespace Yields

theorem pure {x : α} (h : Q x) : Yields Q (Pure.pure x) := ⟨fun _ => h⟩

theorem fail {failure : Failure} (other : ¬ failure.Exhausted) :
    Yields Q (Action.fail failure) := ⟨fun _ => other⟩

theorem bind {a : Action α} {f : α → Action β} (first : Yields Q a)
    (next : ∀ x, Q x → Yields R (f x)) : Yields R (a >>= f) := by
  constructor
  intro w
  have settled := first.settles w
  rw [run_bind]
  rcases ended : a.run w with ⟨failure | x, v⟩
  · rw [ended] at settled
    exact settled
  · rw [ended] at settled
    exact (next x settled).settles v

theorem log {level : LogLevel} {source : String} {message : Text} :
    Yields (fun _ => True) (Action.log level source message) := ⟨fun _ => trivial⟩

theorem ask {path : FilePath} {question : Folder → FilePath → Except PathFault α} :
    Yields (fun _ => True) (Action.ask path question) := by
  constructor
  intro w
  rw [run_ask]
  exact settles_mapError

theorem change {path : FilePath} {f : Folder → FilePath → Except PathFault Folder} :
    Yields (fun _ => True) (Action.change path f) := by
  constructor
  intro w
  rw [run_change]
  cases f w.files path with
  | ok files => trivial
  | error fault => exact not_false

theorem attempt {a : Action α} (h : Yields Q a) : Yields (Settles Q) (Action.attempt a) :=
  ⟨h.settles⟩

theorem guarded {body : Action α} {cleanup : Action Unit} (run : Yields Q body)
    (clean : Yields (fun _ => True) cleanup) : Yields Q (Action.guarded body cleanup) := by
  constructor
  intro w
  have settled := run.settles w
  have cleaned := clean.settles (body.run w).2
  rw [run_guarded]
  rcases ended : cleanup.run (body.run w).2 with ⟨failure | ⟨⟩, v⟩
  · rw [ended] at cleaned
    exact cleaned
  · exact settled

end Yields

end Action

namespace Service

open CompileService.Action

variable {s : Service} {u : Uuid}

/-! ## Modules -/

/-- What is read from a file is encodable. -/
theorem readText_yields (path : FilePath) : Yields Text.Encodable (Action.readText path) := by
  refine Yields.bind Yields.ask fun bytes _ => ?_
  split
  · rename_i decoded
    exact Yields.pure (Text.encodable_unifyBreaks (Utf8.encodable_of_decode decoded))
  · exact Yields.fail not_false

theorem rootsOf_yields (scopes : List Text) : Yields (fun _ => True) (s.rootsOf scopes) := by
  induction scopes with
  | nil => exact Yields.pure trivial
  | cons scope more ih =>
      exact Yields.bind Yields.ask fun _ _ => Yields.bind ih fun _ _ => Yields.pure trivial

/-- The answers to a lookup: the text of a module of that name, or that there is none. -/
def LookupAnswer (name : Text) (r : Response) : Prop :=
  (∃ content : Text, content.Encodable ∧ r = .moduleFound name content) ∨ r = .moduleNotFound name

theorem lookupIn_yields (name file : Text) (dirs : List FilePath) :
    Yields (LookupAnswer name) (lookupIn name file dirs) := by
  induction dirs with
  | nil => exact Yields.pure (.inr rfl)
  | cons dir more ih =>
      refine Yields.bind Yields.ask fun there _ => ?_
      split
      · exact Yields.bind (readText_yields _) fun content valid =>
          Yields.pure (.inl ⟨content, valid, rfl⟩)
      · exact ih

theorem getModule_yields (name : Text) : Yields (LookupAnswer name) (s.getModule name) := by
  unfold getModule
  split
  · exact Yields.bind (rootsOf_yields _) fun dirs _ => lookupIn_yields _ _ dirs
  · exact Yields.pure (.inr rfl)

theorem examine_yields (levels : Nat) (dir : FilePath) (places : List Location) :
    Yields (fun _ => True) (examine levels dir places) := by
  induction places with
  | nil => exact Yields.pure trivial
  | cons place more ih =>
      unfold examine
      split
      · exact Yields.fail not_false
      · exact Yields.bind Yields.ask fun _ _ => ih

theorem listModules_yields (scope : Text) :
    Yields (fun r => ∃ names, r = .moduleList scope names) (s.listModules scope) := by
  refine Yields.bind Yields.ask fun there _ => ?_
  split
  · refine Yields.bind (Q := fun _ => True) ?_ fun _ _ => Yields.pure ⟨_, rfl⟩
    exact Yields.bind Yields.ask fun folder _ =>
      Yields.bind (examine_yields _ _ _) fun _ _ => Yields.pure trivial
  · exact Yields.bind Yields.log fun _ _ => Yields.pure ⟨_, rfl⟩

/-! ## Artifacts -/

theorem delete_yields (path : FilePath) : Yields (fun _ => True) (delete path) := by
  constructor
  intro w
  rw [run_delete]
  split
  · trivial
  · trivial
  · trivial
  · exact not_false

theorem scheduleDelete_yields (path : FilePath) :
    Yields (fun _ => True) (s.scheduleDelete path) := by
  constructor
  intro w
  trivial

theorem makeDirs_yields (path : FilePath) : Yields (fun _ => True) (Action.makeDirs path) := by
  constructor
  intro w
  rw [run_makeDirs]
  cases (FileTree.makeDirs w.files path).2 with
  | none => trivial
  | some fault => exact not_false

theorem writeText_yields (path : FilePath) (t : Text) :
    Yields (fun _ => True) (Action.writeText path t) := by
  unfold Action.writeText
  split
  · exact Yields.change
  · exact Yields.bind Yields.change fun _ _ => Yields.fail not_false

/-- Where a source is rejected the reason is where it has no UTF-8 form. -/
theorem writeSource_yields (path : FilePath) (source : Text) :
    Yields (fun reason? => ∀ reason, reason? = some reason → ∃ fault, reason = rejection fault)
      (writeSource path source) := by
  refine Yields.bind (Yields.attempt (writeText_yields path source)) fun r settled => ?_
  split
  · refine Yields.pure fun reason same => ?_
    cases same
  · refine Yields.pure fun reason same => ?_
    exact ⟨_, (Option.some.inj same).symm⟩
  · exact Yields.fail settled

/-! ## Processes -/

/-- The end of a process that the service started is judged so. -/
def Judged (s : Service) (launch : Launch) (result : ToolchainResult) : Prop :=
  ∃ n files, Toolchain.verdict launch (s.runner n launch files).1 = .ok result

theorem settles_judged (launch : Launch) (n : Nat) (files : Folder) :
    Settles (s.Judged launch) (Toolchain.verdict launch (s.runner n launch files).1) := by
  cases ended : (s.runner n launch files).1 with
  | crashed crash => exact not_false
  | _ => exact ⟨n, files, by rw [ended]; rfl⟩

theorem typecheck_yields (dirs : List Text) :
    Yields (fun result => ∃ judged, s.Judged (s.checkLaunchOn u dirs) judged ∧
        result = Toolchain.checked judged)
      (s.toolchain.typecheck s.runner (s.sourcePath u).toText dirs) := by
  constructor
  intro w
  obtain ⟨result, -⟩ :=
    Toolchain.typecheck_outcome s.toolchain s.runner (s.sourcePath u).toText dirs w
  rw [result, ← checkLaunchOn]
  exact (settles_judged _ _ _).map fun judged ended => ⟨judged, ended, rfl⟩

/-- The end of the process of a compilation is judged so, by the files that it has left. -/
def Compiled (s : Service) (u : Uuid) (result : ToolchainResult) : Prop :=
  ∃ judged left, s.Judged (s.compileLaunch u) judged ∧
    s.toolchain.compiled left (s.scriptPath u) judged = .ok result

theorem settles_compiled (left : Folder) (judged : ToolchainResult) :
    Settles (fun result => s.toolchain.compiled left (s.scriptPath u) judged = .ok result)
      (s.toolchain.compiled left (s.scriptPath u) judged) := by
  unfold Toolchain.compiled
  split
  · exact rfl
  · split
    · exact not_false
    · exact rfl
    · exact rfl

theorem compile_yields : Yields (s.Compiled u)
    (s.toolchain.compile s.runner (s.sourcePath u).toText (s.scriptPath u).toText) := by
  constructor
  intro w
  obtain ⟨result, -⟩ := Toolchain.compile_outcome s.toolchain s.runner (s.sourcePath u).toText
    (s.scriptPath u).toText w
  have named : FilePath.ofText (s.scriptPath u).toText = s.scriptPath u := by
    rw [scriptPath, FilePath.ofText_toText (s.wellFormed_generatedPath _ _)]
  rw [result, ← compileLaunch, named]
  exact (settles_judged _ _ _).bind fun judged ended =>
    (settles_compiled _ judged).weaken fun _ made => ⟨judged, _, ended, made⟩

/-! ## Type checks -/

/-- The answers to a type check with an artifact: its source is rejected, or its process was judged.
-/
inductive CheckAnswer (s : Service) (u : Uuid) : Response → Prop
  | rejected (fault : Utf8.Unencodable) : CheckAnswer s u (.checkFailed [] (rejection fault))
  | judged {dirs : List Text} {judged : ToolchainResult} {response : Response}
      (ended : s.Judged (s.checkLaunchOn u dirs) judged)
      (answered : answerOf u.toText s.settings.preludeLines.length (Toolchain.checked judged) =
        .ok response) : CheckAnswer s u response

theorem settles_answerOf (id : Text) (lineSkip : Nat) (result : ToolchainResult) :
    Settles (fun response => answerOf id lineSkip result = .ok response)
      (answerOf id lineSkip result) := by
  unfold answerOf
  split
  · exact rfl
  · exact rfl
  · split
    · exact rfl
    · exact not_false

theorem checkArtifact_yields (source : Text) :
    Yields (fun body => match body with
        | .inl response => s.CheckAnswer u response
        | .inr result => ∃ dirs judged, s.Judged (s.checkLaunchOn u dirs) judged ∧
          result = Toolchain.checked judged)
      (s.checkArtifact ⟨u.toText, s.sourcePath u⟩ source) := by
  refine Yields.bind (writeSource_yields _ source) fun rejected reasons => ?_
  split
  · obtain ⟨fault, rfl⟩ := reasons _ rfl
    exact Yields.bind Yields.log fun _ _ => Yields.pure (.rejected fault)
  · refine Yields.bind (Q := fun _ => True) ?_ fun dirs _ => ?_
    · exact Yields.bind (rootsOf_yields _) fun _ _ => Yields.pure trivial
    · exact Yields.bind (typecheck_yields dirs) fun _ judged => Yields.pure ⟨dirs, judged⟩

/-- A request that begins with an artifact has ended because none could be made. -/
def Unmade (s : Service) (w : World) (done : Except Failure Response × World) : Prop :=
  ∃ failure v, (s.newArtifact s.settings.sourceExtension).run w = (.error failure, v) ∧
    done = (.error failure, v)

theorem Unmade.waited {w : World} {done : Except Failure Response × World}
    (unmade : s.Unmade w done) : Waited w done.2 := by
  obtain ⟨failure, v, run, rfl⟩ := unmade
  exact s.waited_of_unmade run

theorem Unmade.not_answered {w : World} {done : Except Failure Response × World}
    (unmade : s.Unmade w done) {response : Response} : done.1 ≠ .ok response := by
  obtain ⟨failure, v, -, rfl⟩ := unmade
  exact fun same => (nomatch same)

/-- What a request answers that begins with an artifact, where one is made. -/
theorem settles_of_rest {rest : Artifact → Action Response} {Q : Uuid → Response → Prop}
    (next : ∀ u, Yields (Q u) (rest ⟨u.toText, s.sourcePath u⟩)) (w : World) :
    let done := (s.newArtifact s.settings.sourceExtension >>= rest).run w
    s.Unmade w done ∨ ∃ u, Settles (Q u) done.1 := by
  dsimp only
  rw [Action.run_bind]
  rcases s.newArtifact_cases s.settings.sourceExtension w with
    ⟨failure, v, run, -⟩ | ⟨u, v, files, -, -, -, run⟩
  · rw [run]
    exact .inl ⟨failure, v, run, rfl⟩
  · rw [← sourcePath] at run
    rw [run]
    exact .inr ⟨u, (next u).settles _⟩

theorem checkModule_settles (content : Text) (w : World) :
    let done := (s.checkModule content).run w
    s.Unmade w done ∨ ∃ u, Settles (s.CheckAnswer u) done.1 := by
  refine settles_of_rest (fun u => ?_) w
  refine Yields.bind (scheduleDelete_yields _) fun _ _ => ?_
  refine Yields.bind (Yields.guarded (checkArtifact_yields _) (delete_yields _)) ?_
  rintro (answer | result) body
  · exact Yields.pure body
  · obtain ⟨dirs, judged, ended, rfl⟩ := body
    constructor
    intro w
    rw [(checkAnswer_result _ _ _ w).1]
    exact (settles_answerOf _ _ _).weaken fun _ answered => .judged ended answered

/-! ## Compilations -/

/-- The answers to a compilation with an artifact: its source is rejected, or its process was judged.
-/
inductive CompileAnswer (s : Service) (u : Uuid) : Response → Prop
  | rejected (fault : Utf8.Unencodable) : CompileAnswer s u (.compileFailed (rejection fault))
  | unavailable {result : ToolchainResult} (compiled : s.Compiled u result)
      (status : result.status = .unavailable) :
      CompileAnswer s u (.toolchainUnavailable result.output)
  | failed {result : ToolchainResult} (compiled : s.Compiled u result)
      (status : result.status = .failed) : CompileAnswer s u (.compileFailed result.output)
  | ok : CompileAnswer s u (.compileOk u.toText)

theorem compileArtifact_yields (source : Text) :
    Yields (fun body => match body with
        | .inl response => s.CompileAnswer u response
        | .inr result => s.Compiled u result)
      (s.compileArtifact ⟨u.toText, s.sourcePath u⟩ (s.scriptPath u) source) := by
  refine Yields.bind (writeSource_yields _ source) fun rejected reasons => ?_
  split
  · obtain ⟨fault, rfl⟩ := reasons _ rfl
    exact Yields.bind Yields.log fun _ _ => Yields.pure (.rejected fault)
  · exact Yields.bind compile_yields fun _ compiled => Yields.pure compiled

theorem emitPreview_yields (id script : Text) :
    Yields (fun _ => True) (s.emitPreview id script) := by
  unfold emitPreview
  exact Yields.bind (writeText_yields _ _) fun _ _ =>
    Yields.bind (scheduleDelete_yields _) fun _ _ => Yields.pure trivial

theorem compileAnswer_yields {script : Text} {result : ToolchainResult}
    (compiled : s.Compiled u result) :
    Yields (s.CompileAnswer u) (s.compileAnswer u.toText script result) := by
  unfold compileAnswer
  split
  · exact Yields.pure (.unavailable compiled ‹_›)
  · exact Yields.bind Yields.log fun _ _ => Yields.pure (.failed compiled ‹_›)
  · exact Yields.bind (emitPreview_yields _ _) fun _ _ =>
      Yields.bind Yields.log fun _ _ => Yields.pure .ok

theorem compileModule_settles (content : Text) (w : World) :
    let done := (s.compileModule content).run w
    s.Unmade w done ∨ ∃ u, Settles (s.CompileAnswer u) done.1 := by
  refine settles_of_rest (fun u => ?_) w
  refine Yields.bind (scheduleDelete_yields _) fun _ _ => ?_
  refine Yields.bind (makeDirs_yields _) fun _ _ => ?_
  rw [← scriptPath]
  refine Yields.bind (Yields.guarded (compileArtifact_yields _) ?_) ?_
  · exact Yields.bind (delete_yields _) fun _ _ => scheduleDelete_yields _
  · rintro (answer | result) body
    · exact Yields.pure body
    · exact compileAnswer_yields body

end Service

end CompileService
