import CompileService.Http
import CompileService.Proofs.Command
import CompileService.Proofs.Service.Answers

/-!
# The contract of commands

* `kind_of_dispatch`: a command is answered in one of the ways that are declared for its kind.
* `waited_of_exhausted`: a command that fails for want of identifiers has only asked for them.
* `Http.command_of_rejected`, `Http.untouched_of_unavailable`: a request whose body is no command, and
  one that is told to come later.
* `command_contract`: which values are commands, and what each of the two promises.
-/

namespace CompileService.Service

open CompileService.Action

variable {s : Service} {w : World}

/-! ## Kinds of answers -/

theorem CheckAnswer.kind {u : Uuid} {response : Response} (answer : s.CheckAnswer u response) :
    response.kind ∈ CommandKind.checkModule.responses := by
  cases answer with
  | rejected fault => simp [Response.kind, CommandKind.responses]
  | judged ended answered => exact kind_answerOf answered

theorem CompileAnswer.kind {u : Uuid} {response : Response} (answer : s.CompileAnswer u response) :
    response.kind ∈ CommandKind.compileModule.responses := by
  cases answer <;> simp [Response.kind, CommandKind.responses]

/-- A command is answered in one of the ways declared for its kind, or it fails. It fails for want of
identifiers only if it has no artifact. -/
theorem dispatch_settles (c : Command) (w : World) :
    let done := (s.dispatch c).run w
    s.Unmade w done ∨ Settles (fun response => response.kind ∈ c.kind.responses) done.1 := by
  cases c with
  | listModules scope =>
      refine .inr (((listModules_yields (lit scope.name)).settles w).weaken ?_)
      rintro _ ⟨names, rfl⟩
      exact List.mem_singleton.2 rfl
  | getModule name =>
      refine .inr (((getModule_yields name).settles w).weaken ?_)
      rintro _ (⟨content, -, rfl⟩ | rfl)
      · simp [Response.kind, Command.kind, CommandKind.responses]
      · simp [Response.kind, Command.kind, CommandKind.responses]
  | checkModule content =>
      refine (checkModule_settles content w).imp_right ?_
      rintro ⟨u, settled⟩
      exact settled.weaken fun _ answer => answer.kind
  | compileModule content =>
      refine (compileModule_settles content w).imp_right ?_
      rintro ⟨u, settled⟩
      exact settled.weaken fun _ answer => answer.kind

theorem kind_of_dispatch {c : Command} {response : Response}
    (answered : ((s.dispatch c).run w).1 = .ok response) : response.kind ∈ c.kind.responses := by
  rcases dispatch_settles (s := s) c w with unmade | settled
  · exact absurd answered unmade.not_answered
  · rw [answered] at settled
    exact settled

theorem waited_of_exhausted {c : Command} {attempts : Nat}
    (exhausted : ((s.dispatch c).run w).1 = .error (.idsExhausted attempts)) :
    Waited w ((s.dispatch c).run w).2 := by
  rcases dispatch_settles (s := s) c w with unmade | settled
  · exact unmade.waited
  · rw [exhausted] at settled
    exact absurd trivial settled

/-- Neither the files, nor the deletions, nor the processes have changed. -/
def Untouched (w after : World) : Prop :=
  after.files = w.files ∧ after.timers = w.timers ∧ after.calls = w.calls

theorem Waited.untouched {after : World} (waited : Waited w after) : Untouched w after := by
  obtain ⟨_, _, -, rfl⟩ := waited
  exact ⟨rfl, rfl, rfl⟩

/-- A value that is no command changes nothing at all. -/
theorem dispatchJson_of_rejected {value : Json} {fault : ValidationFault}
    (rejected : Command.read value = .error fault) : ((s.dispatchJson value).run w).2 = w := by
  unfold dispatchJson
  split
  · split
    · rename_i taken
      rw [rejected] at taken
      cases taken
    · rfl
  · rfl

end CompileService.Service

namespace CompileService.Http

open Service

variable {s : Service} {w : World} {r : HttpRequest}

/-! ## Requests -/

/-- A body that is no command is answered by itself. -/
theorem command_of_rejected {reply : HttpReply} (rejected : readBody r = .error reply) :
    (command s r).run w = (.ok reply, w) := by
  unfold command
  rw [rejected]
  rfl

theorem status_of_readJson {body : List UInt8} {reply : HttpReply}
    (failed : readJson body = .error reply) : reply.status ∈ [400, 422] := by
  unfold readJson at failed
  split at failed
  · cases failed
    decide
  · split at failed
    · cases failed
    · cases failed
      decide
    · cases failed
      decide
    · cases failed
      exact List.mem_cons_of_mem _ List.mem_cons_self

theorem status_of_bodyValue {reply : HttpReply} (failed : bodyValue r = .error reply) :
    reply.status ∈ [400, 422, 500] := by
  unfold bodyValue at failed
  split at failed
  · cases failed
  · split at failed
    · have known := status_of_readJson failed
      exact List.mem_append_left [500] known
    · split at failed
      · cases failed
      · cases failed
        decide

/-- What a request is told whose body is no command: that it is malformed, or that it is not
understood, and never to come later. -/
theorem status_of_rejected {reply : HttpReply} (rejected : readBody r = .error reply) :
    reply.status ∈ [400, 422, 500] := by
  have invalid : 422 ∈ [400, 422, 500] := by decide
  unfold readBody at rejected
  split at rejected
  · cases rejected
    exact status_of_bodyValue ‹_›
  · cases rejected
    exact invalid
  · rename_i value _ _
    cases taken : Command.read value with
    | ok c =>
        rw [taken] at rejected
        cases rejected
    | error fault =>
        rw [taken] at rejected
        cases rejected
        exact invalid

/-- A command that fails for want of identifiers is told to come later. -/
theorem command_of_exhausted {c : Command} {attempts : Nat} (taken : readBody r = .ok c)
    (exhausted : ((s.dispatch c).run w).1 = .error (.idsExhausted attempts)) :
    (command s r).run w =
      (.ok (detail 503 (.text (Failure.idsExhausted attempts).message)),
        ((s.dispatch c).run w).2.logged LogLevel.error httpLog
          (lit "Id generation exhausted: " ++ (Failure.idsExhausted attempts).message)) := by
  unfold command
  rw [taken]
  dsimp only
  rw [Action.run_bind, Action.run_attempt, exhausted]
  rfl

/-- A request that is told to come later brought a command, and that failed for want of identifiers.
-/
theorem exhausted_of_unavailable {reply : HttpReply} {after : World}
    (done : (command s r).run w = (.ok reply, after)) (later : reply.status = 503) :
    ∃ c attempts, readBody r = .ok c ∧
      ((s.dispatch c).run w).1 = .error (.idsExhausted attempts) := by
  cases taken : readBody r with
  | error other =>
      rw [command_of_rejected taken] at done
      cases done
      have known := status_of_rejected taken
      rw [later] at known
      exact absurd known (by decide)
  | ok c =>
      unfold command at done
      rw [taken] at done
      dsimp only at done
      rw [Action.run_bind, Action.run_attempt] at done
      dsimp only at done
      split at done
      · cases done
        cases later
      · exact ⟨c, _, rfl, ‹_›⟩
      · cases done

theorem untouched_of_unavailable {reply : HttpReply} {after : World}
    (done : (command s r).run w = (.ok reply, after)) (later : reply.status = 503) :
    Untouched w after := by
  obtain ⟨c, attempts, taken, exhausted⟩ := exhausted_of_unavailable done later
  rw [command_of_exhausted taken exhausted] at done
  cases done
  have untouched := (waited_of_exhausted exhausted).untouched
  simpa [Untouched] using untouched

end CompileService.Http

namespace CompileService.Service

/-- Which values are commands, and what holds of those that are and of those that are not. A value
is a command by its tag and the one argument for that tag, of the right type, and it is the command
of that tag and argument, whatever else it has; and the fields of a command are that command. What
is no command changes nothing. What is one is answered in a way declared for its kind; and where
identifiers run out, which is what the status 503 says, files, deletions and processes are as they
were. -/
theorem command_contract (s : Service) :
    (∀ value, (∃ c, Command.read value = .ok c) ↔
      ∃ (fields : List (Text × Json)) (kind : CommandKind) (argument : Json),
        value = .object fields ∧ Json.field? (lit "command") fields = some (.text (lit kind.tag)) ∧
          Json.field? (lit kind.argument) fields = some argument ∧ kind.Admits argument) ∧
    (∀ value c, Command.read value = .ok c ↔ ∃ fields, value = .object fields ∧
      Json.field? (lit "command") fields = some (.text (lit c.kind.tag)) ∧
      Json.field? (lit c.kind.argument) fields = some (.text c.argument)) ∧
    (∀ fields others c, Command.read (.object fields) = .ok c →
      Json.field? (lit "command") others = Json.field? (lit "command") fields →
      Json.field? (lit c.kind.argument) others = Json.field? (lit c.kind.argument) fields →
      Command.read (.object others) = .ok c) ∧
    (∀ c : Command, Command.read (.object c.fields) = .ok c) ∧
    (∀ value fault w, Command.read value = .error fault →
      ((s.dispatchJson value).run w).2 = w) ∧
    (∀ r reply w, Http.readBody r = .error reply → (Http.command s r).run w = (.ok reply, w)) ∧
    (∀ c w response, ((s.dispatch c).run w).1 = .ok response →
      response.kind ∈ c.kind.responses) ∧
    (∀ c w attempts, ((s.dispatch c).run w).1 = .error (.idsExhausted attempts) →
      Untouched w ((s.dispatch c).run w).2) ∧
    (∀ r c w attempts, Http.readBody r = .ok c →
      ((s.dispatch c).run w).1 = .error (.idsExhausted attempts) →
      ∃ reply, ((Http.command s r).run w).1 = .ok reply ∧ reply.status = 503) ∧
    (∀ r w reply after, (Http.command s r).run w = (.ok reply, after) → reply.status = 503 →
      Untouched w after) := by
  refine ⟨fun _ => Command.accepted_iff, fun _ _ => Command.read_ok_iff,
    fun _ _ _ => Command.read_congr, Command.read_fields,
    fun _ _ _ => dispatchJson_of_rejected, fun _ _ _ => Http.command_of_rejected,
    fun _ _ _ => kind_of_dispatch, fun _ _ _ exhausted => (waited_of_exhausted exhausted).untouched,
    fun _ _ _ _ taken exhausted => ?_, fun _ _ _ _ => Http.untouched_of_unavailable⟩
  rw [Http.command_of_exhausted taken exhausted]
  exact ⟨_, rfl, rfl⟩

/-- A service whose source of identifiers gives none. -/
def exhaustedService : Service :=
  { obedientService with settings := { idMaxAttempts := 1 }, ids := fun _ => .unavailable }

/-- A command with a further field is a command, and without identifiers it leaves everything that
is promised. -/
theorem command_contract_exhausted :
    let c : Command := .compileModule (lit "main")
    Command.read (.object (c.fields ++ [(lit "x", .null)])) = .ok c ∧
      ((exhaustedService.dispatch c).run emptyWorld).1 = .error (.idsExhausted 1) ∧
      Untouched emptyWorld ((exhaustedService.dispatch c).run emptyWorld).2 := by
  obtain ⟨-, -, congr, again, -, -, -, untouched, -⟩ := command_contract exhaustedService
  have given := Command.field?_fields (.compileModule (lit "main"))
  have bare := given []
  rw [List.append_nil] at bare
  have exhausted : ((exhaustedService.dispatch (.compileModule (lit "main"))).run emptyWorld).1 =
      .error (.idsExhausted 1) := by rfl
  exact ⟨congr _ _ _ (again (.compileModule (lit "main"))) ((given _).1.trans bare.1.symm)
    ((given _).2.trans bare.2.symm), exhausted, untouched _ _ _ exhausted⟩

end CompileService.Service
