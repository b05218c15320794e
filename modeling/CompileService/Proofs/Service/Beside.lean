import CompileService.Proofs.Service.Requests

/-!
# Requests in two worlds

* `start_inStep`: a toolchain that reads the source and writes the script does so alike in worlds
  that show the same at the places seen.
* `checkModule_inStep`: a type check makes nothing of its own that is not among the own places.
* `compileModule_alongside`: a compilation makes the directory of public files as well, and sees the
  places on the way to it from then on.
-/

namespace CompileService

namespace Service

section
variable {own seen : Location → Prop} {source : FilePath} {w₀ v₀ w v : World}

/-- The same bytes are read from a usable path. -/
theorem Beside.fileContent (h : Beside own seen source w₀ v₀ w v) {path : FilePath}
    (usable : Usable own seen path) :
    FileTree.fileContent w.files path = FileTree.fileContent v.files path := by
  obtain ⟨same, shown⟩ := h.locate usable
  rw [FileTree.fileContent_eq, FileTree.fileContent_eq, ← same]
  cases found : FileTree.locate w.files path with
  | error fault => rfl
  | ok place =>
      dsimp only
      rw [shown place found]

/-- Starting a process that leaves related files is starting it in related worlds. -/
theorem Beside.started {files files' : Folder}
    (h : Beside own seen source w₀ v₀ { w with files := files } { v with files := files' })
    (launch : Launch)
    (same : FileTree.fileContent w.files source = FileTree.fileContent v.files source) :
    Beside own seen source w₀ v₀ (Toolchain.started w launch files)
      (Toolchain.started v launch files') := by
  obtain ⟨timers, calls, calls', since, since', glimpsed⟩ := h.since
  refine ⟨h.agree, h.clock, timers, calls ++ [⟨launch, w.clock, w.files, w.timers⟩],
    calls' ++ [⟨launch, v.clock, v.files, v.timers⟩], ?_, ?_, ?_⟩
  · refine ⟨since.frame, since.dirs, since.clock, since.timers, ?_⟩
    rw [← List.append_assoc, ← since.calls]
    rfl
  · refine ⟨since'.frame, since'.dirs, since'.clock, since'.timers, ?_⟩
    rw [← List.append_assoc, ← since'.calls]
    rfl
  · rw [List.map_append, List.map_append, glimpsed]
    simp only [List.map_cons, List.map_nil, glimpse, same]

/-- A behaviour ends alike and writes alike in worlds that show the same. -/
theorem start_inStep (b : Behaviour) (reads : Usable own seen source) {out : Option FilePath}
    (writes : ∀ path, out = some path → Usable own seen path) (launch : Launch) :
    Action.InStep (Beside own seen source w₀ v₀)
      (Toolchain.start (b.runner source out) launch) := by
  intro w v h
  have bytes := h.fileContent reads
  rw [Toolchain.run_start, Toolchain.run_start]
  refine ⟨by simp only [Behaviour.runner, bytes], ?_⟩
  refine Beside.started ?_ launch bytes
  simp only [Behaviour.runner, bytes]
  generalize b.written launch.argv (FileTree.fileContent v.files source).toOption = written
  cases out with
  | none => exact h
  | some path =>
      cases written with
      | none => exact h
      | some script =>
          simp only [Behaviour.left, FileTree.storeFile_eq]
          rcases h.leaf (writes path rfl) (.store script) with
            ⟨left, right, done, done', after⟩ | ⟨fault, refused, refused'⟩
          · rw [done, done']
            exact after
          · rw [refused, refused']
            exact h

theorem judge_inStep (launch : Launch) (outcome : Outcome) :
    Action.InStep (Beside own seen source w₀ v₀) (Toolchain.judge launch outcome) := by
  cases outcome with
  | timedOut => exact Action.InStep.bind (log_inStep _ _ _) fun _ => Action.InStep.pure
  | notStarted fault => exact Action.InStep.bind (log_inStep _ _ _) fun _ => Action.InStep.pure
  | crashed crash => exact Action.InStep.fail
  | exited status output =>
      unfold Toolchain.judge
      dsimp only
      split
      · exact Action.InStep.pure
      · exact Action.InStep.bind (log_inStep _ _ _) fun _ => Action.InStep.pure

theorem run_inStep {tc : Toolchain} {runner : Runner} (argv : List Text)
    (start : ∀ launch,
      Action.InStep (Beside own seen source w₀ v₀) (Toolchain.start runner launch)) :
    Action.InStep (Beside own seen source w₀ v₀) (tc.run runner argv) :=
  Action.InStep.bind (log_inStep _ _ _) fun _ =>
    Action.InStep.bind (start _) fun outcome => judge_inStep _ outcome

theorem typecheck_inStep {tc : Toolchain} {runner : Runner} (path : Text) (dirs : List Text)
    (start : ∀ launch,
      Action.InStep (Beside own seen source w₀ v₀) (Toolchain.start runner launch)) :
    Action.InStep (Beside own seen source w₀ v₀) (tc.typecheck runner path dirs) := by
  refine Action.InStep.bind (run_inStep _ start) fun result => ?_
  split
  · exact Action.InStep.pure
  · exact Action.InStep.pure

theorem compile_inStep {tc : Toolchain} {runner : Runner} (path : Text) {out : FilePath}
    (wellFormed : out.WellFormed) (usable : Usable own seen out)
    (start : ∀ launch,
      Action.InStep (Beside own seen source w₀ v₀) (Toolchain.start runner launch)) :
    Action.InStep (Beside own seen source w₀ v₀) (tc.compile runner path out.toText) := by
  refine Action.InStep.bind (run_inStep _ start) fun result => ?_
  split
  · exact Action.InStep.pure
  · rw [FilePath.ofText_toText wellFormed]
    refine Action.InStep.bind (pathExists_inStep usable) fun there => ?_
    split
    · exact Action.InStep.pure
    · split
      · exact Action.InStep.pure
      · exact Action.InStep.pure

/-- Where the source of identifiers gives one at once, it is drawn once. -/
theorem run_newId {s : Service} {u : Uuid} (issued : ∀ n, s.ids n = .issued u) (w : World) :
    s.newId.run w = (.ok u.toText, { w with drawn := w.drawn + 1 }) := by
  have given : (s.ids w.drawn).id? = some u := by
    rw [issued]
    rfl
  exact s.run_newIdFrom_of_given given _ _

/-- Where its file cannot be created there is no artifact, and nothing but the draw has happened. -/
theorem run_newArtifact_of_refused {s : Service} {u : Uuid} (issued : ∀ n, s.ids n = .issued u)
    {ext : Text} {path : FilePath} (named : s.tempPath u.toText ext = path) {w : World}
    {fault : PathFault} (refused : FileTree.createFile w.files path = .error fault) :
    (s.newArtifact ext).run w = (.error (.onPath path fault), { w with drawn := w.drawn + 1 }) := by
  unfold newArtifact
  rw [Action.run_bind, run_newId issued]
  dsimp only
  rw [named, Action.run_bind, Action.run_change]
  dsimp only
  rw [refused]

/-- A new artifact in two worlds: the same one. -/
theorem newArtifact_alongside {s : Service} {u : Uuid} (issued : ∀ n, s.ids n = .issued u)
    {ext : Text} (usable : Usable own seen (s.tempPath u.toText ext)) :
    Action.Alongside (Beside own seen source w₀ v₀) (s.newArtifact ext) fun r w v =>
      Beside own seen source w₀ v₀ w v ∧
        ∀ artifact, r = .ok artifact →
          artifact.id = u.toText ∧ artifact.path = s.tempPath u.toText ext := by
  have named : Action.Alongside (Beside own seen source w₀ v₀) s.newId fun r w v =>
      Beside own seen source w₀ v₀ w v ∧ ∀ id, r = .ok id → id = u.toText := by
    intro w v h
    rw [run_newId issued, run_newId issued]
    exact ⟨rfl, h.same ⟨rfl, rfl, rfl, rfl⟩ ⟨rfl, rfl, rfl, rfl⟩, by simp⟩
  refine named.bind (fun _ _ _ h => ⟨h.1, by simp⟩) fun id => ?_
  refine Action.Alongside.given fun same => ?_
  obtain rfl := (same id rfl).symm
  refine Action.Alongside.bind
    (change_inStep usable .create fun files => FileTree.createFile_eq _ _)
    (fun _ _ _ h => ⟨h, by simp⟩) fun _ => ?_
  intro w v h
  exact ⟨rfl, h, by simp⟩

/-! ## Pipelines -/

section
variable {s : Service} {u : Uuid} (issued : ∀ n, s.ids n = .issued u)
include issued

/-- A type check goes alike in worlds that show the same at the source and at the module roots. -/
theorem checkModule_inStep
    (start : ∀ launch, Action.InStep (Beside own seen source w₀ v₀)
      (Toolchain.start s.runner launch))
    (usable : Usable own seen (s.tempPath u.toText s.settings.sourceExtension))
    (plain : ∀ scope ∈ s.settings.moduleScopes, (s.scopeDir scope).Plain)
    (inSight : ∀ scope ∈ s.settings.moduleScopes, seen (s.scopeDir scope).parts) (content : Text) :
    Action.InStep (Beside own seen source w₀ v₀) (s.checkModule content) := by
  refine Action.Alongside.bind (newArtifact_alongside issued usable) (fun _ _ _ h => h.1)
    fun artifact => Action.Alongside.given fun same => ?_
  obtain ⟨-, path⟩ := same artifact rfl
  rw [← path] at usable
  refine Action.InStep.bind (scheduleDelete_inStep s artifact.path) fun _ => ?_
  have body : Action.InStep (Beside own seen source w₀ v₀)
      (s.checkArtifact artifact (formatForCheck content s.settings.preludeLines).2) := by
    refine Action.InStep.bind (writeSource_inStep usable _) fun rejected => ?_
    split
    · exact Action.InStep.bind (log_inStep _ _ _) fun _ => Action.InStep.pure
    · have dirs : Action.InStep (Beside own seen source w₀ v₀) s.moduleDirs :=
        Action.InStep.bind (rootsOf_inStep plain inSight) fun _ => Action.InStep.pure
      exact Action.InStep.bind dirs fun _ =>
        Action.InStep.bind (typecheck_inStep _ _ start) fun _ => Action.InStep.pure
  refine Action.InStep.bind (Action.InStep.guarded body (delete_inStep usable)) fun answer => ?_
  split
  · exact Action.InStep.pure
  · unfold checkAnswer
    split
    · exact Action.InStep.pure
    · exact Action.InStep.bind (log_inStep _ _ _) fun _ => Action.InStep.pure
    · exact Action.InStep.bind Action.InStep.ofExcept fun _ =>
        Action.InStep.bind (log_inStep _ _ _) fun _ => Action.InStep.pure

/-- A compilation goes alike in two worlds, in two stages: before the directory of public files is
made and, with other places seen, afterwards. -/
theorem compileModule_alongside {seen' : Location → Prop} {w₁ v₁ : World}
    (usable : Usable own seen (s.tempPath u.toText s.settings.sourceExtension))
    (ensured : Action.Alongside (Beside own seen source w₀ v₀) s.ensureDirs fun result w v =>
      (result = .ok () → Beside own seen' source w₁ v₁ w v) ∧
        ∀ failure, result = .error failure → Beside own seen source w₀ v₀ w v)
    (start : ∀ launch, Action.InStep (Beside own seen' source w₁ v₁)
      (Toolchain.start s.runner launch))
    (usable' : Usable own seen' (s.tempPath u.toText s.settings.sourceExtension))
    (script : Usable own seen' (s.generatedPath u.toText (lit ".js")))
    (page : Usable own seen' (s.generatedPath u.toText (lit ".html"))) (content : Text) :
    Action.Alongside (Beside own seen source w₀ v₀) (s.compileModule content) fun _ w v =>
      Beside own seen source w₀ v₀ w v ∨ Beside own seen' source w₁ v₁ w v := by
  refine Action.Alongside.bind (newArtifact_alongside issued usable) (fun _ _ _ h => .inl h.1)
    fun artifact => Action.Alongside.given fun same => ?_
  obtain ⟨id, path⟩ := same artifact rfl
  rw [← path] at usable usable'
  rw [← id] at script page
  -- until the directory is made the worlds are compared with those from the start
  refine Action.Alongside.bind (scheduleDelete_inStep s artifact.path) (fun _ _ _ h => .inl h)
    fun _ => ?_
  refine Action.Alongside.bind ensured (fun failure _ _ h => .inl (h.2 failure rfl)) fun _ => ?_
  obtain ⟨out, isOut⟩ : ∃ out, s.generatedPath artifact.id (lit ".js") = out := ⟨_, rfl⟩
  rw [isOut] at script ⊢
  have wellFormed : out.WellFormed := isOut ▸ s.wellFormed_generatedPath _ _
  have body : Action.InStep (Beside own seen' source w₁ v₁)
      (s.compileArtifact artifact out content) := by
    refine Action.InStep.bind (writeSource_inStep usable' _) fun rejected => ?_
    split
    · exact Action.InStep.bind (log_inStep _ _ _) fun _ => Action.InStep.pure
    · exact Action.InStep.bind (compile_inStep _ wellFormed script start) fun _ =>
        Action.InStep.pure
  have clean : Action.InStep (Beside own seen' source w₁ v₁)
      (delete artifact.path >>= fun _ => s.scheduleDelete out) :=
    Action.InStep.bind (delete_inStep usable') fun _ => scheduleDelete_inStep s out
  -- and from then on with those that have it
  refine Action.Alongside.weaken (E := Beside own seen' source w₁ v₁) ?_ (fun _ _ h => h.1 rfl)
    fun _ _ _ h => .inr h
  refine Action.InStep.bind (Action.InStep.guarded body clean) fun answer => ?_
  split
  · exact Action.InStep.pure
  · unfold compileAnswer
    split
    · exact Action.InStep.pure
    · exact Action.InStep.bind (log_inStep _ _ _) fun _ => Action.InStep.pure
    · have emitted : Action.InStep (Beside own seen' source w₁ v₁)
          (s.emitPreview artifact.id out.name) :=
        Action.InStep.bind (writeText_inStep page _) fun _ =>
          Action.InStep.bind (scheduleDelete_inStep s _) fun _ => Action.InStep.pure
      exact Action.InStep.bind emitted fun _ =>
        Action.InStep.bind (log_inStep _ _ _) fun _ => Action.InStep.pure

end

end

theorem Beside.weaken {own seen seen' : Location → Prop} {source : FilePath} {w₀ v₀ w v : World}
    (h : Beside own seen source w₀ v₀ w v) (less : ∀ q, seen' q → seen q) :
    Beside own seen' source w₀ v₀ w v :=
  ⟨fun q inSight => h.agree q (less q inSight), h.clock, h.since⟩

theorem run_ensureDirs (s : Service) (w : World) :
    s.ensureDirs.run w =
      (match (FileTree.makeDirs w.files s.genDir).2 with
        | none => .ok ()
        | some (path, fault) => .error (.onPath path fault),
        { w with files := (FileTree.makeDirs w.files s.genDir).1 }) := by
  unfold ensureDirs Action.makeDirs Action.run
  rcases made : FileTree.makeDirs w.files s.genDir with ⟨files, _ | ⟨path, fault⟩⟩
  · simp only [made]
  · simp only [made]

/-- The world with the directory of public files made, or the world as it is. -/
def opened (s : Service) (made : Bool) (w : World) : World :=
  if made then { w with files := (FileTree.makeDirs w.files s.genDir).1 } else w

end Service

namespace Request

open Service

section
variable {r : Request} {s : Service} (orderly : s.Orderly) {w₀ v₀ w v : World}
include orderly

/-- What has happened since a world has happened since the directory was made there, if it is made
now. -/
theorem since_opened {timers : List Timer} {calls : List Call}
    (h : Since (r.Own s) w₀ w timers calls) :
    Since (r.Own s) (s.opened true w₀) (s.opened true w) timers calls := by
  have frame : ∀ q, ¬ r.Own s q →
      (s.opened true w).files.look q = (s.opened true w₀).files.look q := by
    intro q other
    refine FileTree.look_makeDirs_congr orderly.gen (fun t way => ?_) (h.frame q other)
    exact h.frame t (not_own_of_onWay orderly way)
  refine ⟨frame, fun q dir => ?_, h.clock, h.timers, h.calls⟩
  -- an own place is not on the way, so what was a directory there was one before
  by_cases own : r.Own s q
  · have off : ¬ q <+: s.genDir.parts := fun way => not_own_of_onWay orderly way own
    have before : w₀.files.look q = some .dir :=
      (FileTree.look_makeDirs_off orderly.gen off).symm.trans dir
    exact (FileTree.makeDirs_grown w.files s.genDir).dir (h.dirs q before)
  · rw [frame q own, dir]

/-- Making the directory of public files in two worlds that are alike on the way to it: afterwards
they show the same there, or it could be made in neither. -/
theorem ensureDirs_alongside (alike : FileTree.Alike s.genDir w₀.files v₀.files) :
    Action.Alongside (Beside (r.Own s) (r.Seen s) (r.source s) w₀ v₀) s.ensureDirs fun result w v =>
      (result = .ok () →
        Beside (r.Own s) (r.SeenLater s) (r.source s) (s.opened true w₀) (s.opened true v₀) w v) ∧
      ∀ failure, result = .error failure →
        Beside (r.Own s) (r.Seen s) (r.source s) w₀ v₀ w v := by
  intro w v h
  obtain ⟨timers, calls, calls', since, since', glimpsed⟩ := h.since
  have now : FileTree.Alike s.genDir w.files v.files :=
    alike.congr (fun t way => since.frame t (not_own_of_onWay orderly way))
      fun t way => since'.frame t (not_own_of_onWay orderly way)
  obtain ⟨same, shown⟩ := FileTree.makeDirs_alike orderly.gen now
  rw [run_ensureDirs, run_ensureDirs, ← same]
  refine ⟨rfl, ?_, ?_⟩
  · intro ok
    have made : (FileTree.makeDirs w.files s.genDir).2 = none := by
      cases fault : (FileTree.makeDirs w.files s.genDir).2 with
      | none => rfl
      | some fault =>
          rw [fault] at ok
          cases ok
    refine ⟨?_, h.clock, timers, calls, calls', since_opened orderly since,
      since_opened orderly since', glimpsed⟩
    intro q inSight
    -- off the way to the directory a place is seen now only if it was seen before
    by_cases way : OnWay s q
    · exact shown made q way
    · have seen : r.Seen s q := by
        rcases inSight with own | pass | onWay
        · exact .inl own
        · exact .inr (.inl pass)
        · exact absurd onWay way
      have left := FileTree.look_makeDirs_off (f := w.files) orderly.gen way
      have right := FileTree.look_makeDirs_off (f := v.files) orderly.gen way
      exact left.trans ((h.agree q seen).trans right.symm)
  · intro failure failed
    have refused : (FileTree.makeDirs w.files s.genDir).2 ≠ none := by
      intro made
      rw [made] at failed
      cases failed
    have left := FileTree.makeDirs_refused orderly.gen refused
    have right := FileTree.makeDirs_refused orderly.gen (same ▸ refused)
    refine h.same ⟨left, rfl, rfl, rfl⟩ ⟨right, rfl, rfl, rfl⟩

/-- A request in two worlds that show the same at the places it looks at: it gives the same result,
and with the directory of public files made in both or in neither, what it does is the same. -/
theorem beside (agree : ∀ q, r.Seen s q → w.files.look q = v.files.look q)
    (alike : FileTree.Alike s.genDir w.files v.files) (clock : w.clock = v.clock) :
    ((r.action s).run w).1 = ((r.action s).run v).1 ∧
      ∃ made, Beside (r.Own s) (r.Own s) (r.source s) (s.opened made w) (s.opened made v)
        (r.after s w) (r.after s v) := by
  have start : Beside (r.Own s) (r.Seen s) (r.source s) w v w v :=
    ⟨agree, clock, [], [], [], Since.refl _ _, Since.refl _ _, rfl⟩
  have reads : Usable (r.Own s) (r.Seen s) (r.source s) :=
    usable_source (fun _ own => .inl own) fun _ pass => .inr (.inl pass)
  unfold after action
  cases kind : r.kind with
  | check =>
      dsimp only
      have inSight : ∀ scope ∈ s.settings.moduleScopes, r.Seen s (s.scopeDir scope).parts :=
        fun scope mem => .inr (.inr ⟨scope, mem, rfl⟩)
      have toolchain : ∀ launch, Action.InStep (Beside (r.Own s) (r.Seen s) (r.source s) w v)
          (Toolchain.start (r.service s).runner launch) := by
        refine start_inStep r.behaviour reads fun path told => ?_
        rw [kind] at told
        cases told
      have whole := checkModule_inStep (s := r.service s) (fun _ => rfl) toolchain reads
        orderly.scopes inSight r.content
      obtain ⟨same, after⟩ := whole w v start
      exact ⟨same, false, after.weaken fun _ own => .inl own⟩
  | compile =>
      dsimp only
      have reads' : Usable (r.Own s) (r.SeenLater s) (r.source s) :=
        usable_source (fun _ own => .inl own) fun _ pass => .inr (.inl pass)
      -- from here on the worlds are compared with those in which the directory is made at once
      have script : Usable (r.Own s) (r.SeenLater s) (r.script s) :=
        usable_public orderly (.inl rfl)
      have page : Usable (r.Own s) (r.SeenLater s) (r.page s) := usable_public orderly (.inr rfl)
      have toolchain : ∀ launch, Action.InStep
          (Beside (r.Own s) (r.SeenLater s) (r.source s) (s.opened true w) (s.opened true v))
          (Toolchain.start (r.service s).runner launch) := by
        refine start_inStep r.behaviour reads' fun path told => ?_
        rw [kind] at told
        obtain rfl := Option.some.inj told
        exact script
      have whole := compileModule_alongside (s := r.service s) (fun _ => rfl) reads
        (ensureDirs_alongside orderly alike) toolchain reads' script page r.content
      obtain ⟨same, before | after⟩ := whole w v start
      · exact ⟨same, false, before.weaken fun _ own => .inl own⟩
      · exact ⟨same, true, after.weaken fun _ own => .inl own⟩

end

end Request

end CompileService
