import CompileService.World

/-!
# How actions end

An action ends with an answer or a failure, and in a world. `Ends P a Q` says of all worlds with `P`
how `a` ends there; there is one rule for each way in which actions are put together.

* `Ends.bind`, `Ends.attempt`, `Ends.guarded`: sequences, failures as answers, cleanups.
* `Keeps`: an action after which something still holds, however it ends.
* `World.logged`: what a record in the log changes.
-/

namespace CompileService

namespace World

/-- A world with one more record in its log, if the level is high enough. -/
def logged (w : World) (level : LogLevel) (source : String) (message : Text) : World :=
  if w.logLevel ≤ level then { w with records := w.records ++ [⟨level, source, message⟩] } else w

section
variable (w : World) (level : LogLevel) (source : String) (message : Text)

@[simp] theorem logged_files : (w.logged level source message).files = w.files := by
  unfold logged; split <;> rfl

@[simp] theorem logged_clock : (w.logged level source message).clock = w.clock := by
  unfold logged; split <;> rfl

@[simp] theorem logged_timers : (w.logged level source message).timers = w.timers := by
  unfold logged; split <;> rfl

@[simp] theorem logged_drawn : (w.logged level source message).drawn = w.drawn := by
  unfold logged; split <;> rfl

@[simp] theorem logged_calls : (w.logged level source message).calls = w.calls := by
  unfold logged; split <;> rfl

@[simp] theorem logged_pauses : (w.logged level source message).pauses = w.pauses := by
  unfold logged; split <;> rfl

end

end World

namespace Action

/-! ## Runs of the basic actions -/

section
variable {α : Type} (w : World)

@[simp] theorem run_fail (failure : Failure) :
    (fail failure : Action α).run w = (.error failure, w) := rfl

@[simp] theorem run_ofExcept (e : Except Failure α) : (ofExcept e).run w = (e, w) := rfl

@[simp] theorem run_read (f : World → α) : (read f).run w = (.ok (f w), w) := rfl

@[simp] theorem run_modify (f : World → World) : (modify f).run w = (.ok (), f w) := rfl

@[simp] theorem run_log (level : LogLevel) (source : String) (message : Text) :
    (log level source message).run w = (.ok (), w.logged level source message) := rfl

theorem run_attempt (a : Action α) : (attempt a).run w = (.ok (a.run w).1, (a.run w).2) := rfl

theorem run_guarded (body : Action α) (cleanup : Action Unit) :
    (guarded body cleanup).run w =
      match cleanup.run (body.run w).2 with
      | (.ok (), v) => ((body.run w).1, v)
      | (.error failure, v) => (.error failure, v) := rfl

theorem run_ask (path : FilePath) (question : Folder → FilePath → Except PathFault α) :
    (ask path question).run w = ((question w.files path).mapError (.onPath path), w) := by
  unfold run ask
  cases question w.files path <;> rfl

theorem run_ask_of_ok {path : FilePath} {question : Folder → FilePath → Except PathFault α} {x : α}
    (asked : question w.files path = .ok x) : (ask path question).run w = (.ok x, w) := by
  rw [run_ask, asked]
  rfl

theorem run_change (path : FilePath) (f : Folder → FilePath → Except PathFault Folder) :
    (change path f).run w =
      match f w.files path with
      | .ok files => (.ok (), { w with files := files })
      | .error fault => (.error (.onPath path fault), w) := rfl

end

/-! ## Ends -/

/-- From every world with `P` the action ends as `Q` says. -/
def Ends (P : World → Prop) (a : Action α) (Q : Except Failure α → World → Prop) : Prop :=
  ∀ w, P w → Q (a.run w).1 (a.run w).2

/-- What holds before the action holds after it, however it ends. -/
def Keeps (P : World → Prop) (a : Action α) : Prop := Ends P a fun _ => P

namespace Ends

variable {α β : Type} {P P' : World → Prop} {Q Q' : Except Failure α → World → Prop}

theorem weaken {a : Action α} (h : Ends P a Q) (before : ∀ w, P' w → P w)
    (after : ∀ r w, Q r w → Q' r w) : Ends P' a Q' :=
  fun w start => after _ _ (h w (before w start))

/-- What does not depend on the world can be taken out of the precondition. -/
theorem given {a : Action α} {p : Prop} (h : p → Ends P a Q) : Ends (fun w => P w ∧ p) a Q :=
  fun w start => h start.2 w start.1

theorem pure {x : α} (h : ∀ w, P w → Q (.ok x) w) : Ends P (Pure.pure x) Q := h

theorem fail {failure : Failure} (h : ∀ w, P w → Q (.error failure) w) :
    Ends P (Action.fail failure) Q := h

theorem ofExcept {e : Except Failure α} (h : ∀ w, P w → Q e w) : Ends P (Action.ofExcept e) Q := h

/-- One action after another: where the first fails the second is not begun. -/
theorem bind {a : Action α} {f : α → Action β} {R : Except Failure β → World → Prop}
    (first : Ends P a Q) (failed : ∀ failure w, Q (.error failure) w → R (.error failure) w)
    (next : ∀ x, Ends (Q (.ok x)) (f x) R) : Ends P (a >>= f) R := by
  intro w start
  have done := first w start
  rw [run_bind]
  rcases h : a.run w with ⟨r, v⟩
  rw [h] at done
  cases r with
  | error failure => exact failed failure v done
  | ok x => exact next x v done

theorem attempt {a : Action α} (h : Ends P a Q) :
    Ends P (Action.attempt a) fun r w => ∃ inner, r = .ok inner ∧ Q inner w := by
  intro w start
  rw [run_attempt]
  exact ⟨_, rfl, h w start⟩

/-- A body with a cleanup: the body's answer or failure stands unless the cleanup fails. -/
theorem guarded {body : Action α} {cleanup : Action Unit} {R : Except Failure α → World → Prop}
    (run : Ends P body Q)
    (clean : ∀ r, Ends (Q r) cleanup fun c w =>
      match c with
      | .ok () => R r w
      | .error failure => R (.error failure) w) : Ends P (Action.guarded body cleanup) R := by
  intro w start
  have done := clean (body.run w).1 (body.run w).2 (run w start)
  rw [run_guarded]
  rcases h : cleanup.run (body.run w).2 with ⟨c, v⟩
  rw [h] at done
  cases c with
  | error failure => exact done
  | ok _ => exact done

theorem log {Q : Except Failure Unit → World → Prop} {level : LogLevel} {source : String}
    {message : Text} (h : ∀ w, P w → Q (.ok ()) (w.logged level source message)) :
    Ends P (Action.log level source message) Q := h

theorem ask {path : FilePath} {question : Folder → FilePath → Except PathFault α}
    (h : ∀ w, P w → Q ((question w.files path).mapError (.onPath path)) w) :
    Ends P (Action.ask path question) Q := by
  intro w start
  rw [run_ask]
  exact h w start

theorem change {Q : Except Failure Unit → World → Prop} {path : FilePath}
    {f : Folder → FilePath → Except PathFault Folder}
    (changed : ∀ w files, P w → f w.files path = .ok files → Q (.ok ()) { w with files := files })
    (refused : ∀ w fault, P w → f w.files path = .error fault → Q (.error (.onPath path fault)) w) :
    Ends P (Action.change path f) Q := by
  intro w start
  rw [run_change]
  cases h : f w.files path with
  | ok files => exact changed w files start h
  | error fault => exact refused w fault start h

end Ends

namespace Keeps

variable {α β : Type} {P : World → Prop}

theorem pure {x : α} : Keeps P (Pure.pure x : Action α) := Ends.pure fun _ start => start

theorem fail {failure : Failure} : Keeps P (Action.fail failure : Action α) :=
  Ends.fail fun _ start => start

theorem bind {a : Action α} {f : α → Action β} (first : Keeps P a) (next : ∀ x, Keeps P (f x)) :
    Keeps P (a >>= f) :=
  Ends.bind first (fun _ _ after => after) next

theorem ask {path : FilePath} {question : Folder → FilePath → Except PathFault α} :
    Keeps P (Action.ask path question) :=
  Ends.ask fun _ start => start

theorem ofExcept {e : Except Failure α} : Keeps P (Action.ofExcept e) :=
  Ends.ofExcept fun _ start => start

theorem attempt {a : Action α} (h : Keeps P a) : Keeps P (Action.attempt a) :=
  (Ends.attempt h).weaken (fun _ start => start) fun _ _ ⟨_, _, after⟩ => after

theorem guarded {body : Action α} {cleanup : Action Unit} (run : Keeps P body)
    (clean : Keeps P cleanup) : Keeps P (Action.guarded body cleanup) :=
  Ends.guarded run fun _ => clean.weaken (fun _ start => start) fun c _ after => by
    cases c <;> exact after

end Keeps

end Action

end CompileService
