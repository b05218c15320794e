import CompileService.Proofs.Service.Artifacts
import CompileService.Proofs.Toolchain
import CompileService.Service.Commands

/-!
# Two runs side by side

What an action answers, and what it does, depends on the places that it looks at and changes only
the places that are its own. Both are said of two runs at once.

* `Action.Alongside`, `Action.InStep`: from related worlds an action ends alike, in related worlds.
* `Since`: what has happened to a world, with nothing changed but at own places.
* `Beside`: two worlds that agree at the places seen, since two worlds of their own.
* `Usable`: a path that leads through places seen to an own one. Everything that a request does to
  such a path is done in step.
-/

namespace CompileService

namespace Action

/-- From two related worlds the action gives the same answer or failure, and worlds that are related
as this result asks for. -/
def Alongside {α : Type} (E : World → World → Prop) (a : Action α)
    (R : Except Failure α → World → World → Prop) : Prop :=
  ∀ w v, E w v → (a.run w).1 = (a.run v).1 ∧ R (a.run w).1 (a.run w).2 (a.run v).2

/-- From two related worlds the action gives the same result, and related worlds. -/
def InStep {α : Type} (E : World → World → Prop) (a : Action α) : Prop := Alongside E a fun _ => E

namespace Alongside

variable {α β : Type} {E : World → World → Prop} {Q : Except Failure α → World → World → Prop}

theorem weaken {E' : World → World → Prop} {Q' : Except Failure α → World → World → Prop}
    {a : Action α} (h : Alongside E a Q) (before : ∀ w v, E' w v → E w v)
    (after : ∀ r w v, Q r w v → Q' r w v) : Alongside E' a Q' :=
  fun w v start => ⟨(h w v (before w v start)).1, after _ _ _ (h w v (before w v start)).2⟩

/-- What does not depend on the worlds can be taken out of their relation. -/
theorem given {a : Action α} {p : Prop} (h : p → Alongside E a Q) :
    Alongside (fun w v => E w v ∧ p) a Q :=
  fun w v start => h start.2 w v start.1

theorem bind {a : Action α} {f : α → Action β} {R : Except Failure β → World → World → Prop}
    (first : Alongside E a Q)
    (failed : ∀ failure w v, Q (.error failure) w v → R (.error failure) w v)
    (next : ∀ x, Alongside (Q (.ok x)) (f x) R) : Alongside E (a >>= f) R := by
  intro w v start
  obtain ⟨same, after⟩ := first w v start
  rw [run_bind, run_bind]
  rcases left : a.run w with ⟨r, w'⟩
  rcases right : a.run v with ⟨r', v'⟩
  rw [left, right] at same
  rw [left, right] at after
  obtain rfl : r = r' := same
  cases r with
  | error failure => exact ⟨rfl, failed failure w' v' after⟩
  | ok x => exact next x w' v' after

end Alongside

namespace InStep

variable {α β : Type} {E : World → World → Prop}

theorem pure {x : α} : InStep E (Pure.pure x : Action α) := fun _ _ h => ⟨rfl, h⟩

theorem fail {failure : Failure} : InStep E (Action.fail failure : Action α) :=
  fun _ _ h => ⟨rfl, h⟩

theorem ofExcept {e : Except Failure α} : InStep E (Action.ofExcept e) := fun _ _ h => ⟨rfl, h⟩

theorem bind {a : Action α} {f : α → Action β} (first : InStep E a) (next : ∀ x, InStep E (f x)) :
    InStep E (a >>= f) :=
  Alongside.bind first (fun _ _ _ after => after) next

theorem attempt {a : Action α} (h : InStep E a) : InStep E (Action.attempt a) := by
  intro w v start
  obtain ⟨same, after⟩ := h w v start
  rw [run_attempt, run_attempt]
  exact ⟨congrArg Except.ok same, after⟩

theorem guarded {body : Action α} {cleanup : Action Unit} (run : InStep E body)
    (clean : InStep E cleanup) : InStep E (Action.guarded body cleanup) := by
  intro w v start
  obtain ⟨same, after⟩ := run w v start
  obtain ⟨same', after'⟩ := clean _ _ after
  rw [run_guarded, run_guarded]
  rcases left : cleanup.run (body.run w).2 with ⟨c, w'⟩
  rcases right : cleanup.run (body.run v).2 with ⟨c', v'⟩
  rw [left, right] at same'
  rw [left, right] at after'
  obtain rfl : c = c' := same'
  cases c with
  | error failure => exact ⟨rfl, after'⟩
  | ok _ => exact ⟨same, after'⟩

theorem ask {path : FilePath} {question : Folder → FilePath → Except PathFault α}
    (same : ∀ w v, E w v → question w.files path = question v.files path) :
    InStep E (Action.ask path question) := by
  intro w v h
  rw [run_ask, run_ask, same w v h]
  exact ⟨rfl, h⟩

end InStep

end Action

namespace Service

/-- What has happened since a world: files have changed at own places only, no directory has gone,
and some deletions were scheduled and some processes started. -/
structure Since (own : Location → Prop) (before after : World) (timers : List Timer)
    (calls : List Call) : Prop where
  frame : ∀ q, ¬ own q → after.files.look q = before.files.look q
  dirs : ∀ q, before.files.look q = some .dir → after.files.look q = some .dir
  clock : after.clock = before.clock
  timers : after.timers = before.timers ++ timers
  calls : after.calls = before.calls ++ calls

/-- What a process was started with: the command and the bytes of a source file. -/
def glimpse (source : FilePath) (call : Call) : Launch × Option (List UInt8) :=
  (call.launch, (FileTree.fileContent call.files source).toOption)

/-- Two worlds that agree at the places seen, and in what has happened since two worlds. -/
structure Beside (own seen : Location → Prop) (source : FilePath) (w₀ v₀ w v : World) : Prop where
  agree : ∀ q, seen q → w.files.look q = v.files.look q
  clock : w.clock = v.clock
  since : ∃ timers calls calls', Since own w₀ w timers calls ∧ Since own v₀ v timers calls' ∧
    calls.map (glimpse source) = calls'.map (glimpse source)

/-- A path that goes through places seen, and leads to an own place that is seen, if anywhere. -/
structure Usable (own seen : Location → Prop) (path : FilePath) : Prop where
  passes : ∀ t ∈ path.passes, seen t
  place : ∀ f place, FileTree.locate f path = .ok place → own place ∧ seen place

section
variable {own seen : Location → Prop} {source : FilePath} {w₀ v₀ w v : World}

theorem Since.refl (own : Location → Prop) (w : World) : Since own w w [] [] :=
  ⟨fun _ _ => rfl, fun _ dir => dir, rfl, by simp, by simp⟩

/-- Files, clock, timers and calls are all that counts. -/
theorem Since.same {timers : List Timer} {calls : List Call} (h : Since own w₀ w timers calls)
    (files : v.files = w.files) (clock : v.clock = w.clock) (sameTimers : v.timers = w.timers)
    (sameCalls : v.calls = w.calls) : Since own w₀ v timers calls :=
  ⟨by rw [files]; exact h.frame, by rw [files]; exact h.dirs, clock.trans h.clock,
    sameTimers.trans h.timers, sameCalls.trans h.calls⟩

theorem Since.leaf {timers : List Timer} {calls : List Call} (h : Since own w₀ w timers calls)
    {path : FilePath} (usable : Usable own seen path) {rule : FileTree.LeafRule} {files : Folder}
    (done : rule.applyAt w.files path = .ok files) :
    Since own w₀ { w with files := files } timers calls where
  frame q other := by
    obtain ⟨place, change, found, -, after⟩ := FileTree.LeafRule.applyAt_ok done
    have elsewhere : q ≠ place := by
      rintro rfl
      exact other (usable.place _ _ found).1
    show files.look q = w₀.files.look q
    rw [after, if_neg elsewhere, h.frame q other]
  dirs q dir := FileTree.LeafRule.dir_of_applyAt done (h.dirs q dir)
  clock := h.clock
  timers := h.timers
  calls := h.calls

theorem Beside.same {w' v' : World} (h : Beside own seen source w₀ v₀ w v)
    (left : w'.files = w.files ∧ w'.clock = w.clock ∧ w'.timers = w.timers ∧ w'.calls = w.calls)
    (right : v'.files = v.files ∧ v'.clock = v.clock ∧ v'.timers = v.timers ∧ v'.calls = v.calls) :
    Beside own seen source w₀ v₀ w' v' := by
  obtain ⟨timers, calls, calls', since, since', glimpsed⟩ := h.since
  refine ⟨?_, ?_, timers, calls, calls', ?_, ?_, glimpsed⟩
  · rw [left.1, right.1]
    exact h.agree
  · rw [left.2.1, right.2.1, h.clock]
  · exact since.same left.1 left.2.1 left.2.2.1 left.2.2.2
  · exact since'.same right.1 right.2.1 right.2.2.1 right.2.2.2

/-- A usable path leads to the same place in both worlds, and the same stands there. -/
theorem Beside.locate (h : Beside own seen source w₀ v₀ w v) {path : FilePath}
    (usable : Usable own seen path) :
    FileTree.locate w.files path = FileTree.locate v.files path ∧
      ∀ place, FileTree.locate w.files path = .ok place → w.files.look place = v.files.look place :=
  ⟨FileTree.locate_congr fun t passing => h.agree t (usable.passes t passing),
    fun place found => h.agree place (usable.place _ _ found).2⟩

/-- A rule is applied to a usable path in both worlds, or refused in both alike. -/
theorem Beside.leaf (h : Beside own seen source w₀ v₀ w v) {path : FilePath}
    (usable : Usable own seen path) (rule : FileTree.LeafRule) :
    (∃ f g, rule.applyAt w.files path = .ok f ∧ rule.applyAt v.files path = .ok g ∧
        Beside own seen source w₀ v₀ { w with files := f } { v with files := g }) ∨
      ∃ fault, rule.applyAt w.files path = .error fault ∧
        rule.applyAt v.files path = .error fault := by
  obtain ⟨same, shown⟩ := h.locate usable
  cases found : FileTree.locate w.files path with
  | error fault =>
      have other := same.symm.trans found
      exact .inr ⟨fault, FileTree.LeafRule.applyAt_of_refused found,
        FileTree.LeafRule.applyAt_of_refused other⟩
  | ok place =>
      have other := same.symm.trans found
      have here := shown place found
      cases result : rule.result (w.files.look place) with
      | error errno =>
          refine .inr ⟨.system errno, ?_, ?_⟩
          · rw [FileTree.LeafRule.applyAt_of_locate found, result]
          · rw [FileTree.LeafRule.applyAt_of_locate other, ← here, result]
      | ok change =>
          have left : rule.applyAt w.files path = .ok (w.files.set place change) := by
            rw [FileTree.LeafRule.applyAt_of_locate found, result]
          have right : rule.applyAt v.files path = .ok (v.files.set place change) := by
            rw [FileTree.LeafRule.applyAt_of_locate other, ← here, result]
          -- both trees get the same change at the same place, and showed the same there before
          refine .inl ⟨_, _, left, right, ?_⟩
          obtain ⟨timers, calls, calls', since, since', glimpsed⟩ := h.since
          refine ⟨?_, h.clock, timers, calls, calls', since.leaf usable left,
            since'.leaf usable right, glimpsed⟩
          intro q inSight
          obtain ⟨_, _, found', result', after⟩ := FileTree.LeafRule.applyAt_ok left
          obtain ⟨_, _, other', result'', after'⟩ := FileTree.LeafRule.applyAt_ok right
          obtain rfl := Except.ok.inj (found.symm.trans found')
          obtain rfl := Except.ok.inj (other.symm.trans other')
          obtain rfl := Except.ok.inj (result.symm.trans result')
          obtain rfl := Except.ok.inj ((here ▸ result).symm.trans result'')
          show (w.files.set place change).look q = (v.files.set place change).look q
          rw [after, after', h.agree q inSight]

/-! ## Actions in step -/

theorem log_inStep (level : LogLevel) (from' : String) (message : Text) :
    Action.InStep (Beside own seen source w₀ v₀) (Action.log level from' message) := by
  intro w v h
  rw [Action.run_log, Action.run_log]
  exact ⟨rfl, h.same (by simp) (by simp)⟩

theorem change_inStep {path : FilePath} (usable : Usable own seen path) (rule : FileTree.LeafRule)
    {f : Folder → FilePath → Except PathFault Folder}
    (ruled : ∀ files, f files path = rule.applyAt files path) :
    Action.InStep (Beside own seen source w₀ v₀) (Action.change path f) := by
  intro w v h
  rw [Action.run_change, Action.run_change, ruled, ruled]
  rcases h.leaf usable rule with ⟨left, right, done, done', after⟩ | ⟨fault, refused, refused'⟩
  · rw [done, done']
    exact ⟨rfl, after⟩
  · rw [refused, refused']
    exact ⟨rfl, h⟩

theorem writeText_inStep {path : FilePath} (usable : Usable own seen path) (t : Text) :
    Action.InStep (Beside own seen source w₀ v₀) (Action.writeText path t) := by
  have stored : ∀ bytes, Action.InStep (Beside own seen source w₀ v₀)
      (Action.change path fun files p => FileTree.storeFile files p bytes) :=
    fun bytes => change_inStep usable (.store bytes) fun files =>
      FileTree.storeFile_eq files path bytes
  unfold Action.writeText
  split
  · exact stored _
  · exact Action.InStep.bind (stored []) fun _ => Action.InStep.fail

theorem writeSource_inStep {path : FilePath} (usable : Usable own seen path) (t : Text) :
    Action.InStep (Beside own seen source w₀ v₀) (writeSource path t) := by
  refine Action.InStep.bind (Action.InStep.attempt (writeText_inStep usable t)) fun r => ?_
  split
  · exact Action.InStep.pure
  · exact Action.InStep.pure
  · exact Action.InStep.fail

theorem delete_inStep {path : FilePath} (usable : Usable own seen path) :
    Action.InStep (Beside own seen source w₀ v₀) (delete path) := by
  intro w v h
  rw [run_delete, run_delete, FileTree.dropFile_eq, FileTree.dropFile_eq]
  rcases h.leaf usable .drop with ⟨left, right, done, done', after⟩ | ⟨fault, refused, refused'⟩
  · rw [done, done']
    exact ⟨rfl, after⟩
  · rw [refused, refused']
    -- a file that is not there is deleted already, and other refusals of the system are logged
    cases fault with
    | system errno =>
        cases errno with
        | notFound => exact ⟨rfl, h⟩
        | _ => exact ⟨rfl, h.same (by simp) (by simp)⟩
    | _ => exact ⟨rfl, h⟩

/-- A deletion scheduled in both worlds is due at the same time, since the clocks agree. -/
theorem scheduleDelete_inStep (s : Service) (path : FilePath) :
    Action.InStep (Beside own seen source w₀ v₀) (s.scheduleDelete path) := by
  intro w v h
  obtain ⟨timers, calls, calls', since, since', glimpsed⟩ := h.since
  rw [s.run_scheduleDelete, s.run_scheduleDelete]
  refine ⟨rfl, h.agree, h.clock, timers ++ [⟨path, s.expiry w.clock⟩], calls, calls',
    ?_, ?_, glimpsed⟩
  · exact ⟨since.frame, since.dirs, since.clock, by simp [since.timers], since.calls⟩
  · exact ⟨since'.frame, since'.dirs, since'.clock, by simp [since'.timers, h.clock], since'.calls⟩

/-- The module roots that exist are the same where the same stands at their places. -/
theorem rootsOf_inStep {s : Service} {scopes : List Text}
    (plain : ∀ scope ∈ scopes, (s.scopeDir scope).Plain)
    (inSight : ∀ scope ∈ scopes, seen (s.scopeDir scope).parts) :
    Action.InStep (Beside own seen source w₀ v₀) (s.rootsOf scopes) := by
  induction scopes with
  | nil => exact Action.InStep.pure
  | cons scope more ih =>
      have asked : Action.InStep (Beside own seen source w₀ v₀)
          (Action.ask (s.scopeDir scope) FileTree.isDirectory) := by
        refine Action.InStep.ask fun w v h => ?_
        refine FileTree.isDirectory_congr (plain scope List.mem_cons_self) ?_
        exact h.agree _ (inSight scope List.mem_cons_self)
      have rest := ih (fun other mem => plain other (List.mem_cons_of_mem _ mem))
        fun other mem => inSight other (List.mem_cons_of_mem _ mem)
      exact Action.InStep.bind asked fun _ => Action.InStep.bind rest fun _ => Action.InStep.pure

theorem pathExists_inStep {path : FilePath} (usable : Usable own seen path) :
    Action.InStep (Beside own seen source w₀ v₀) (Action.ask path FileTree.pathExists) := by
  refine Action.InStep.ask fun w v h => ?_
  obtain ⟨same, shown⟩ := h.locate usable
  rw [FileTree.pathExists_eq, FileTree.pathExists_eq]
  exact FileTree.answer_congr same shown

end

end Service

end CompileService
