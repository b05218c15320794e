import CompileService.Http
import CompileService.Proofs.Diagnostic.Encodable
import CompileService.Proofs.Module.Encodable
import CompileService.Proofs.Response
import CompileService.Proofs.Service.Answers

/-!
# Replies that can be sent

A reply is UTF-8, so it cannot hold a surrogate. What a client sends comes back in an answer in one
place only: the name of a module that was not found. Where a source has a surrogate the answer says
where, and what was read from a file or put out by a process is text already. The names of the
programs come from the settings.

* `Outcome.Readable`, `Service.Readable`: processes of which only text is known.
* `Service.echoed`: what an answer takes over without a look at it.
* `CheckAnswer.encodable_iff`, `CompileAnswer.encodable_iff`, `encodable_listModules`,
  `encodable_getModule`: the four commands.
* `Http.handle_of_answered`: the reply to a command.
* `replies_sendable_iff`: which answers can be sent, and what becomes of those that cannot.
-/

namespace CompileService

/-! ## Processes -/

/-- The details of a refusal to start a process, where it is given by its details, are text. -/
def LaunchFault.Readable : LaunchFault → Prop
  | .system .. => True
  | .reported details => (LaunchFault.reported details).message.Encodable

/-- A refusal by the system quotes the program, so its message is encodable whatever that is. -/
theorem LaunchFault.encodable_message {fault : LaunchFault} (readable : fault.Readable) :
    fault.message.Encodable := by
  cases fault with
  | reported details => exact readable
  | system errno program =>
      have shown : errno.shown.Encodable := by
        simp [Errno.shown, Text.encodable_append, Text.encodable_lit, Text.encodable_ofNat]
      exact Text.encodable_append.2
        ⟨Text.encodable_append.2 ⟨shown, Text.encodable_lit _⟩, Text.encodable_quoted program⟩

/-- What a process puts out is text, and so is what is reported of one that does not start. -/
def Outcome.Readable : Outcome → Prop
  | .exited _ output => (output.getD []).Encodable
  | .notStarted fault => fault.Readable
  | .timedOut | .crashed _ => True

namespace Toolchain

theorem encodable_shownSeconds (timeout : Option Binary64) : (shownSeconds timeout).Encodable := by
  cases timeout with
  | none => exact Text.encodable_lit _
  | some x => exact x.encodable_shown

/-- The result of a readable process is encodable, but for the name of the program in the reason why
there is none. -/
theorem encodable_output_of_verdict {launch : Launch} {outcome : Outcome}
    {result : ToolchainResult} (readable : outcome.Readable)
    (judged : verdict launch outcome = .ok result) :
    result.output.Encodable ↔ (result.status = .unavailable → launch.program.Encodable) := by
  cases outcome with
  | exited status output =>
      cases judged
      have known : (if status = 0 then ToolchainStatus.ok else .failed) ≠ .unavailable := by
        split <;> decide
      exact ⟨fun _ unknown => absurd unknown known, fun _ => readable⟩
  | timedOut =>
      cases judged
      simp [timeoutReason, Text.encodable_append, Text.encodable_lit, encodable_shownSeconds]
  | notStarted fault =>
      cases judged
      have message : fault.message.Encodable := LaunchFault.encodable_message readable
      simp [refusalReason, Text.encodable_append, Text.encodable_lit, message]
  | crashed crash => cases judged

end Toolchain

/-! ## Answers -/

namespace Service

variable {s : Service} {w : World} {u : Uuid}

/-- The processes that the service starts end readably. -/
def Readable (s : Service) : Prop :=
  ∀ n launch files, (s.runner n launch files).1.Readable

/-- What an answer takes over as it is, from the client or from the settings: the name that was
looked for, and the name of a program that gave no result or no script. -/
def echoed (s : Service) : Command → Response → List Text
  | .getModule name, _ => [name]
  | .checkModule _, .toolchainUnavailable _ => [s.settings.typecheckCommand]
  | .compileModule _, .toolchainUnavailable _ => [s.settings.compileCommand]
  | .compileModule _, .compileFailed rawOutput =>
    if rawOutput = s.settings.compileCommand ++ lit " produced no output file" then
      [s.settings.compileCommand]
    else []
  | _, _ => []

theorem encodable_rejection (fault : Utf8.Unencodable) : (rejection fault).Encodable := by
  simp [rejection, Text.encodable_append, Text.encodable_lit, Text.encodable_ofNat]

theorem encodable_of_judged (readable : s.Readable) {launch : Launch} {result : ToolchainResult}
    (judged : s.Judged launch result) :
    result.output.Encodable ↔ (result.status = .unavailable → launch.program.Encodable) := by
  obtain ⟨n, files, ended⟩ := judged
  exact Toolchain.encodable_output_of_verdict (readable n launch files) ended

/-- The answer to a type check is encodable but for the program that it may name. -/
theorem CheckAnswer.encodable_iff (readable : s.Readable) {content : Text} {response : Response}
    (answer : s.CheckAnswer u response) :
    (∀ t ∈ response.texts, t.Encodable) ↔
      ∀ t ∈ s.echoed (.checkModule content) response, t.Encodable := by
  cases answer with
  | rejected fault => simp [Response.texts, echoed, encodable_rejection]
  | judged ended answered =>
      -- only a process that gave no result leaves the name of its program in the answer
      rename_i dirs judged
      have known := encodable_of_judged readable ended
      rw [← Toolchain.output_checked, ← Toolchain.unavailable_checked] at known
      unfold answerOf at answered
      split at answered
      · rename_i status
        cases answered
        have program : (s.checkLaunchOn u dirs).program = s.settings.typecheckCommand := rfl
        simpa [Response.texts, echoed, status, program] using known
      · cases answered
        simp [Response.texts, echoed, encodable_id]
      · rename_i status
        rw [status] at known
        have output : (Toolchain.checked judged).output.Encodable :=
          known.2 fun other => by cases other
        split at answered
        · cases answered
          have messages := Report.encodable_parse output ‹_›
          simpa [Response.texts, echoed, output, or_imp, forall_and] using messages
        · cases answered

/-- The result of a compilation without a script is that of its process, or says that there is no
script. -/
theorem encodable_of_compiled (readable : s.Readable) {result : ToolchainResult}
    (compiled : s.Compiled u result) :
    (result.status = .unavailable →
      (result.output.Encodable ↔ s.settings.compileCommand.Encodable)) ∧
    (result.status = .failed → result.output.Encodable ∨
      result.output = s.settings.compileCommand ++ lit " produced no output file") := by
  obtain ⟨judged, left, ended, made⟩ := compiled
  have known := encodable_of_judged readable ended
  have program : (s.compileLaunch u).program = s.settings.compileCommand := rfl
  rw [program] at known
  unfold Toolchain.compiled at made
  split at made
  · cases made
    refine ⟨fun status => ?_, fun status => .inl (known.2 fun other => ?_)⟩
    · rw [known]
      exact ⟨fun h => h status, fun h _ => h⟩
    · rw [status] at other
      cases other
  · -- the process has ended well, so its output is known
    rename_i fine
    have ran : judged.status ≠ .unavailable := by
      rw [Decidable.not_not.1 fine]
      decide
    have output : judged.output.Encodable := known.2 fun other => absurd other ran
    split at made
    · cases made
    · cases made
      exact ⟨fun other => absurd other ran, fun _ => .inl output⟩
    · cases made
      refine ⟨fun other => (by cases other), fun _ => ?_⟩
      dsimp only
      split
      · exact .inr rfl
      · exact .inl output

/-- What a compilation says of its failure is encodable, but for the name of a compiler that has left
no script. -/
theorem encodable_failure {c : Text} {rawOutput : Text}
    (known : rawOutput.Encodable ∨
      rawOutput = s.settings.compileCommand ++ lit " produced no output file") :
    (∀ t ∈ (Response.compileFailed rawOutput).texts, t.Encodable) ↔
      ∀ t ∈ s.echoed (.compileModule c) (.compileFailed rawOutput), t.Encodable := by
  unfold echoed
  dsimp only
  split
  · rename_i silent
    simp [Response.texts, silent, Text.encodable_append, Text.encodable_lit]
  · rename_i other
    simp [Response.texts, known.resolve_right other]

/-- The answer to a compilation is encodable but for the program that it may name. -/
theorem CompileAnswer.encodable_iff (readable : s.Readable) {content : Text} {response : Response}
    (answer : s.CompileAnswer u response) :
    (∀ t ∈ response.texts, t.Encodable) ↔
      ∀ t ∈ s.echoed (.compileModule content) response, t.Encodable := by
  cases answer with
  | rejected fault => exact encodable_failure (.inl (encodable_rejection fault))
  | unavailable compiled status =>
      have known := (encodable_of_compiled readable compiled).1 status
      simpa [Response.texts, echoed] using known
  | failed compiled status =>
      exact encodable_failure ((encodable_of_compiled readable compiled).2 status)
  | ok => simp [Response.texts, echoed, encodable_id]

/-- A listing is encodable. -/
theorem encodable_listModules (proper : w.files.Proper) {scope : Text} (plain : scope.Encodable)
    {response : Response} (listed : ((s.listModules scope).run w).1 = .ok response) :
    ∀ t ∈ response.texts, t.Encodable := by
  have settled := (s.listModules_yields scope).settles w
  rw [listed] at settled
  obtain ⟨names, rfl⟩ := settled
  refine List.forall_mem_cons.2 ⟨plain, ?_⟩
  obtain ⟨-, rfl | ⟨-, folder, explored, rfl⟩⟩ := listModules_cases (Prod.ext listed rfl)
  · exact fun t mem => by cases mem
  · exact Listing.encodable_moduleNames (FileTree.proper_of_openFolder proper explored.opened) _

/-- The answer to a lookup is encodable exactly if the name is: a module is only found under a name
that passes the test, and every other name comes back as it was sent. -/
theorem encodable_getModule {name : Text} {response : Response}
    (answered : ((s.getModule name).run w).1 = .ok response) :
    (∀ t ∈ response.texts, t.Encodable) ↔ name.Encodable := by
  by_cases checked : ModuleName.check name = true
  · -- found or not, the name that comes back has passed the test
    have valid := ModuleName.encodable_of_check checked
    have settled := (s.getModule_yields name).settles w
    rw [answered] at settled
    rcases settled with ⟨content, read, rfl⟩ | rfl
    · simp [Response.texts, valid, read]
    · simp [Response.texts]
  · rw [getModule, if_neg checked] at answered
    cases answered
    simp [Response.texts]

/-- An answer can be sent exactly if what it takes over as it is can be. -/
theorem isSendable_of_dispatch {c : Command} {response : Response} (proper : w.files.Proper)
    (readable : s.Readable) (answered : ((s.dispatch c).run w).1 = .ok response) :
    response.toJson.isSendable = true ↔ ∀ t ∈ s.echoed c response, t.Encodable := by
  rw [response.isSendable_toJson]
  cases c with
  | listModules scope =>
      have listed := encodable_listModules proper (Text.encodable_lit scope.name) answered
      exact iff_of_true listed fun t mem => by cases mem
  | getModule name =>
      rw [encodable_getModule answered]
      simp [echoed]
  | checkModule content =>
      have answered : ((s.checkModule content).run w).1 = .ok response := answered
      rcases checkModule_settles content w with unmade | ⟨u, settled⟩
      · exact absurd answered unmade.not_answered
      · rw [answered] at settled
        exact CheckAnswer.encodable_iff readable settled
  | compileModule content =>
      have answered : ((s.compileModule content).run w).1 = .ok response := answered
      rcases compileModule_settles content w with unmade | ⟨u, settled⟩
      · exact absurd answered unmade.not_answered
      · rw [answered] at settled
        exact CompileAnswer.encodable_iff readable settled

end Service

/-! ## Replies -/

namespace Http

open Service

variable {s : Service} {w : World}

/-- A command that is answered is replied to with its answer, as far as this can be sent. -/
theorem handle_of_answered {r : HttpRequest} {c : Command} {response : Response}
    (post : r.method.capital = lit "POST") (route : resolve? (addressPath r.path) = some .command)
    (taken : readBody r = .ok c) (answered : ((s.dispatch c).run w).1 = .ok response) :
    ((handle s r).run w).1 = .ok (sendable ⟨200, .json response.toJson⟩) := by
  have replied : ((command s r).run w).1 = .ok ⟨200, .json response.toJson⟩ := by
    unfold command
    rw [taken]
    dsimp only
    rw [Action.run_bind, Action.run_attempt, answered]
    rfl
  have body : (lit "POST") ≠ lit "HEAD" := by decide
  unfold handle
  dsimp only
  rw [route]
  dsimp only
  rw [Action.run_bind, Action.run_attempt]
  unfold answer
  rw [if_pos post, replied]
  dsimp only
  rw [post]
  simp only [if_neg body]
  rfl

end Http

namespace Service

variable {s : Service} {w : World}

/-- An answer can be sent exactly if what it takes over as it is can be: the name that a lookup was
asked for, and the name of a program of the settings. Nothing else of what a client or a toolchain
says brings a surrogate into an answer. A request whose answer cannot be sent gets none. -/
theorem replies_sendable_iff {c : Command} {response : Response} (proper : w.files.Proper)
    (readable : s.Readable) (answered : ((s.dispatch c).run w).1 = .ok response) :
    (response.toJson.isSendable = true ↔ ∀ t ∈ s.echoed c response, t.Encodable) ∧
    ∀ r : HttpRequest, r.method.capital = lit "POST" →
      Http.resolve? (Http.addressPath r.path) = some .command → Http.readBody r = .ok c →
      ((Http.handle s r).run w).1 = .ok (if response.toJson.isSendable = true then
        ⟨200, .json response.toJson⟩ else Http.serverError) :=
  ⟨isSendable_of_dispatch proper readable answered, fun _ post route taken =>
    Http.handle_of_answered post route taken answered⟩

/-- A surrogate. -/
def loneSurrogate : CodePoint := ⟨0xD800, by decide⟩

/-- A request with a command that has a surrogate for its argument. -/
def surrogateRequest (tag argument : String) : HttpRequest where
  method := lit "POST"
  path := lit "/json"
  body := ("\x7b\"command\":\"" ++ tag ++ "\",\"" ++ argument ++ "\":\"\\ud800\"\x7d").toUTF8.toList

theorem route_surrogateRequest (tag argument : String) :
    Http.resolve? (Http.addressPath (surrogateRequest tag argument).path) = some .command := by
  have path : Http.addressPath (surrogateRequest tag argument).path = lit "/json" := by
    change Http.addressPath (lit "/json") = lit "/json"
    decide +kernel
  rw [path]
  rfl

theorem readable_obedient : obedientService.Readable := by
  have silent : (Outcome.exited 0 none).Readable ∧ (Outcome.exited 1 none).Readable :=
    ⟨Text.encodable_nil, Text.encodable_nil⟩
  intro n launch files
  change (obedientRunner n launch files).1.Readable
  unfold obedientRunner
  split
  · split
    · split
      · exact silent.1
      · exact silent.2
    · exact silent.1
  · exact silent.1

/-- A source with a surrogate gets an answer that can be sent. -/
theorem replies_sendable_iff_obedient :
    let r := surrogateRequest "check_module" "content"
    let response : Response := .checkFailed []
      (lit "Source is not valid Unicode text at position 0: surrogates not allowed")
    emptyWorld.files.Proper ∧ obedientService.Readable ∧
      Http.readBody r = .ok (.checkModule [loneSurrogate]) ∧
      ((obedientService.dispatch (.checkModule [loneSurrogate])).run emptyWorld).1 =
        .ok response ∧
      ((Http.handle obedientService r).run emptyWorld).1 = .ok ⟨200, .json response.toJson⟩ := by
  intro r response
  have proper : emptyWorld.files.Proper := by decide
  have taken : Http.readBody r = .ok (.checkModule [loneSurrogate]) :=
    ok_of_toOption (by decide +kernel)
  have answered : ((obedientService.dispatch (.checkModule [loneSurrogate])).run emptyWorld).1 =
      .ok response := by rfl
  obtain ⟨sendable, replied⟩ := replies_sendable_iff proper readable_obedient answered
  have sent : response.toJson.isSendable = true := sendable.2 fun t mem => by cases mem
  have reply := replied r (by decide) (route_surrogateRequest _ _) taken
  rw [if_pos sent] at reply
  exact ⟨proper, readable_obedient, taken, answered, reply⟩

/-- A lookup of a name with a surrogate is carried out, but its answer holds the surrogate and cannot
be sent. -/
theorem surrogate_name_gets_no_answer :
    let r := surrogateRequest "get_module" "name"
    let response : Response := .moduleNotFound [loneSurrogate]
    Http.readBody r = .ok (.getModule [loneSurrogate]) ∧
      ((obedientService.dispatch (.getModule [loneSurrogate])).run emptyWorld).1 =
        .ok response ∧
      response.toJson.isSendable = false ∧
      ((Http.handle obedientService r).run emptyWorld).1 = .ok Http.serverError := by
  intro r response
  have taken : Http.readBody r = .ok (.getModule [loneSurrogate]) :=
    ok_of_toOption (by decide +kernel)
  have answered : ((obedientService.dispatch (.getModule [loneSurrogate])).run emptyWorld).1 =
      .ok response := by rfl
  have replied := Http.handle_of_answered (by decide) (route_surrogateRequest _ _) taken answered
  have held : ¬ response.toJson.isSendable = true := by decide
  exact ⟨taken, answered, by decide, replied.trans (congrArg Except.ok (if_neg held))⟩

end Service

end CompileService
