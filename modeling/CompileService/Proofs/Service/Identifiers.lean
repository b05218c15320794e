import CompileService.Proofs.Service.Contract
import CompileService.Proofs.Service.Starts
import Mathlib.Tactic.Linarith

/-!
# Asking for an identifier

An identifier is asked for until one is given, with a pause between one request and the next, and as
often as the settings allow. So the number of requests and of pauses tells where the source has
given the first one, or that it has given none at all.

* `World.asked`: the world after some requests with pauses between them.
* `Dry`, `FirstAt`: what the source gives in a row of requests. `FirstAt.unique`: there is one first
  identifier.
* `run_newIdFrom`: what is asked for and what comes of it, from any attempt on.
* `pauseTime_eq_ok_iff`: the pauses that can be made. `run_newId_of_unpaused`: what is asked for
  where none can.
* `dispatch_exhausted_iff`: which commands fail for want of an identifier.
* `newId_bounded`: how often a new identifier is asked for, and what comes of it.
-/

namespace CompileService

/-- The world after some requests for an identifier, with a pause between one and the next. -/
def World.asked (w : World) (requests : Nat) (time : Rat) : World :=
  { w with
    drawn := w.drawn + requests
    pauses := w.pauses ++ List.replicate (requests - 1) time }

/-- After a request and a pause, the others follow. -/
theorem World.asked_paused (w : World) (requests : Nat) (time : Rat) :
    World.asked { w with drawn := w.drawn + 1, pauses := w.pauses ++ [time] } (requests + 1) time =
      w.asked (requests + 2) time := by
  simp only [World.asked, World.mk.injEq, true_and, and_true]
  refine ⟨by omega, ?_⟩
  rw [List.append_assoc]
  rfl

theorem World.asked_once (w : World) (time : Rat) :
    w.asked 1 time = { w with drawn := w.drawn + 1 } := by
  simp [World.asked]

namespace Service

/-! ## What the source gives -/

/-- A row of requests of which none gives an identifier. -/
def Dry (s : Service) (start count : Nat) : Prop := ∀ n < count, (s.ids (start + n)).id? = none

/-- The first identifier of a row of requests, and the position of the one that gives it, where the
first request has position one. -/
structure FirstAt (s : Service) (start position : Nat) (u : Uuid) : Prop where
  counted : 1 ≤ position
  given : (s.ids (start + (position - 1))).id? = some u
  before : s.Dry start (position - 1)

section
variable {s : Service} {start count position : Nat} {u : Uuid}

theorem dry_zero : s.Dry start 0 := fun _ less => absurd less (Nat.not_lt_zero _)

theorem dry_succ :
    s.Dry start (count + 1) ↔ (s.ids start).id? = none ∧ s.Dry (start + 1) count := by
  constructor
  · intro dry
    refine ⟨dry 0 (Nat.succ_pos _), fun n less => ?_⟩
    rw [Nat.add_assoc, Nat.add_comm 1 n]
    exact dry (n + 1) (Nat.succ_lt_succ less)
  · rintro ⟨missed, dry⟩ n less
    cases n with
    | zero => exact missed
    | succ n =>
        rw [← Nat.add_assoc, Nat.add_right_comm]
        exact dry n (Nat.lt_of_succ_lt_succ less)

theorem firstAt_one : s.FirstAt start 1 u ↔ (s.ids start).id? = some u :=
  ⟨fun first => first.given, fun given => ⟨Nat.le_refl 1, given, dry_zero⟩⟩

/-- Within a row without an identifier there is no first one. -/
theorem FirstAt.lt (first : s.FirstAt start position u) (dry : s.Dry start count) :
    count < position := by
  refine Nat.not_le.1 fun within => ?_
  have counted := first.counted
  have missed := dry (position - 1) (by omega)
  rw [first.given] at missed
  cases missed

/-- There is one first identifier. -/
theorem FirstAt.unique {other : Nat} {v : Uuid} (first : s.FirstAt start position u)
    (first' : s.FirstAt start other v) : position = other ∧ u = v := by
  have least := first.lt first'.before
  have least' := first'.lt first.before
  obtain rfl : position = other := by omega
  exact ⟨rfl, Option.some.inj (first.given.symm.trans first'.given)⟩

/-- After a request that gives none, the next one is the first. -/
theorem FirstAt.missed (missed : (s.ids start).id? = none)
    (first : s.FirstAt (start + 1) position u) : s.FirstAt start (position + 1) u := by
  obtain ⟨requests, rfl⟩ := Nat.exists_eq_add_of_le' first.counted
  refine ⟨Nat.le_add_left 1 _, ?_, dry_succ.2 ⟨missed, first.before⟩⟩
  have given : (s.ids (start + 1 + requests)).id? = some u := first.given
  rw [Nat.add_right_comm] at given
  exact given

end

/-! ## Attempts -/

section
variable {s : Service} {time : Rat}

/-- From any attempt on, an identifier is asked for up to the first one that is given, or until no
attempt is left; between one request and the next there is a pause. -/
theorem run_newIdFrom (slept : pauseTime s.settings.idRetryDelay = .ok time) (made left : Nat)
    (w : World) :
    (∃ position u, position ≤ left + 1 ∧ s.FirstAt w.drawn position u ∧
        (s.newIdFrom made left).run w = (.ok u.toText, w.asked position time)) ∨
      s.Dry w.drawn (left + 1) ∧
        (s.newIdFrom made left).run w =
          (.error (.idsExhausted (made + left)), w.asked (left + 1) time) := by
  -- the attempt made and those left add up to the same in each round
  induction left generalizing made w with
  | zero =>
      cases given : (s.ids w.drawn).id? with
      | some u =>
          refine .inl ⟨1, u, Nat.le_refl 1, firstAt_one.2 given, ?_⟩
          rw [s.run_newIdFrom_of_given given, World.asked_once]
      | none =>
          refine .inr ⟨dry_succ.2 ⟨given, dry_zero⟩, ?_⟩
          rw [s.run_newIdFrom_of_last given, World.asked_once]
          rfl
  | succ left ih =>
      cases given : (s.ids w.drawn).id? with
      | some u =>
          refine .inl ⟨1, u, Nat.le_add_left 1 _, firstAt_one.2 given, ?_⟩
          rw [s.run_newIdFrom_of_given given, World.asked_once]
      | none =>
          rw [s.run_newIdFrom_of_missed given, slept]
          dsimp only
          -- a request in vain: after the pause it is as if this had been the start
          rcases ih (made + 1) { w with drawn := w.drawn + 1, pauses := w.pauses ++ [time] } with
            ⟨position, u, within, first, run⟩ | ⟨dry, run⟩
          · refine .inl ⟨position + 1, u, Nat.succ_le_succ within, first.missed given, ?_⟩
            obtain ⟨requests, rfl⟩ := Nat.exists_eq_add_of_le' first.counted
            rw [run, World.asked_paused]
          · refine .inr ⟨dry_succ.2 ⟨given, dry⟩, ?_⟩
            rw [run, World.asked_paused, Nat.add_right_comm, Nat.add_assoc made]

/-- The number of attempts is that of the settings, and one at least. -/
theorem attempts_eq (s : Service) : (s.attempts : Int) = max 1 s.settings.idMaxAttempts := by
  unfold attempts
  omega

theorem attempts_pos (s : Service) : s.attempts - 1 + 1 = s.attempts := by
  unfold attempts
  omega

/-- A pause can be made if its length is a number from zero on, and below the limit. -/
theorem pauseTime_eq_ok_iff {delay : Binary64} :
    pauseTime delay = .ok time ↔ 0 ≤ time ∧ time < pauseLimit ∧
      ∃ negative m e, delay = .finite negative m e ∧ Binary64.value negative m e = time := by
  cases delay with
  | nan => exact ⟨fun same => (nomatch same), fun ⟨_, _, _, _, _, same, _⟩ => (nomatch same)⟩
  | infinite negative =>
      exact ⟨fun same => (nomatch same), fun ⟨_, _, _, _, _, same, _⟩ => (nomatch same)⟩
  | finite negative m e =>
      rw [pauseTime]
      constructor
      · intro ok
        split at ok
        · cases ok
        · rename_i inRange
          split at ok
          · cases ok
          · rename_i nonneg
            obtain rfl := Except.ok.inj ok
            exact ⟨not_lt.1 nonneg, not_le.1 fun above => inRange (.inl above), _, _, _, rfl, rfl⟩
      · rintro ⟨nonneg, below, _, _, _, same, rfl⟩
        cases same
        -- from zero on only the upper limit can be missed
        have inRange : ¬ (pauseLimit ≤ Binary64.value negative m e ∨
            Binary64.value negative m e < -(pauseLimit + 1024 / 1000000000)) := by
          have positive : 0 < pauseLimit := by decide +kernel
          rintro (above | under)
          · exact absurd below (not_lt.2 above)
          · linarith
        rw [if_neg inRange, if_neg (not_lt.2 nonneg)]

/-- Where a pause cannot be made, nothing is asked for after the first request: it gives an
identifier, or it is the only attempt, or the pause fails. -/
theorem run_newId_of_unpaused {fault : PauseFault}
    (unpaused : pauseTime s.settings.idRetryDelay = .error fault) (w : World) :
    (∃ u, (s.ids w.drawn).id? = some u ∧
        s.newId.run w = (.ok u.toText, { w with drawn := w.drawn + 1 })) ∨
      (s.ids w.drawn).id? = none ∧
        s.newId.run w =
          (.error (if s.attempts = 1 then .idsExhausted 1 else .badPause fault),
            { w with drawn := w.drawn + 1 }) := by
  unfold newId
  cases given : (s.ids w.drawn).id? with
  | some u => exact .inl ⟨u, rfl, s.run_newIdFrom_of_given given _ _⟩
  | none =>
      refine .inr ⟨rfl, ?_⟩
      have more := s.attempts_pos
      cases left : s.attempts - 1 with
      | zero =>
          rw [s.run_newIdFrom_of_last given, if_pos (by omega)]
      | succ left =>
          rw [s.run_newIdFrom_of_missed given, unpaused, if_neg (by omega)]

end

/-! ## Commands without an identifier -/

section
variable {s : Service} {w v : World} {n : Nat}

/-- An artifact is not made for want of an identifier exactly if there is none. -/
theorem newArtifact_exhausted_iff {ext : Text} :
    (s.newArtifact ext).run w = (.error (.idsExhausted n), v) ↔
      s.newId.run w = (.error (.idsExhausted n), v) := by
  unfold newArtifact
  rw [Action.run_bind]
  rcases s.newId.run w with ⟨failure | id, u⟩
  · exact ⟨fun same => by cases same; rfl, fun same => by cases same; rfl⟩
  · dsimp only
    rw [Action.run_bind, Action.run_change]
    cases FileTree.createFile u.files (s.tempPath id ext) with
    | ok files => exact ⟨fun same => (nomatch same), fun same => (nomatch same)⟩
    | error fault => exact ⟨fun same => (nomatch same), fun same => (nomatch same)⟩

/-- A type check or a compilation fails for want of an identifier exactly if there is none. -/
theorem dispatch_exhausted_iff {c : Command}
    (makes : c.kind = .checkModule ∨ c.kind = .compileModule) :
    (s.dispatch c).run w = (.error (.idsExhausted n), v) ↔
      s.newId.run w = (.error (.idsExhausted n), v) := by
  rw [← newArtifact_exhausted_iff (s := s)]
  constructor
  · intro failed
    rcases dispatch_settles (s := s) c w with ⟨failure, u, unmade, same⟩ | settled
    · rw [failed] at same
      cases same
      exact unmade
    · rw [failed] at settled
      exact absurd trivial settled
  · intro unmade
    cases c with
    | listModules scope => rcases makes with other | other <;> cases other
    | getModule name => rcases makes with other | other <;> cases other
    | checkModule content => exact run_checkModule_of_unmade content unmade
    | compileModule content => exact (compileModule_of_unmade content unmade).1

end

/-! ## New identifiers -/

/-- A new identifier is asked for as often as the settings allow, and at least once. Where the pause
can be made, it is the first one that is given within these requests, after a pause for each request
before; and if none is given, all of them have been made, with a pause between one and the next.
Where it cannot be made, the first request is the only one. A type check or a compilation fails for
want of an identifier exactly if there is none, and then it has changed neither files, nor
deletions, nor processes. -/
theorem newId_bounded (s : Service) (w : World) :
    (s.attempts : Int) = max 1 s.settings.idMaxAttempts ∧
    (∀ time, pauseTime s.settings.idRetryDelay = .ok time →
      (∃ position u, position ≤ s.attempts ∧ s.FirstAt w.drawn position u ∧
          s.newId.run w = (.ok u.toText, w.asked position time)) ∨
        s.Dry w.drawn s.attempts ∧
          s.newId.run w = (.error (.idsExhausted s.attempts), w.asked s.attempts time)) ∧
    (∀ fault, pauseTime s.settings.idRetryDelay = .error fault →
      (∃ u, s.FirstAt w.drawn 1 u ∧
          s.newId.run w = (.ok u.toText, { w with drawn := w.drawn + 1 })) ∨
        s.Dry w.drawn 1 ∧ s.newId.run w =
          (.error (if s.attempts = 1 then .idsExhausted 1 else .badPause fault),
            { w with drawn := w.drawn + 1 })) ∧
    ∀ (c : Command) n v, c.kind = .checkModule ∨ c.kind = .compileModule →
      ((s.dispatch c).run w = (.error (.idsExhausted n), v) ↔
          s.newId.run w = (.error (.idsExhausted n), v)) ∧
        ((s.dispatch c).run w = (.error (.idsExhausted n), v) → Untouched w v) := by
  refine ⟨s.attempts_eq, fun time slept => ?_, fun fault unpaused => ?_, fun c n v makes => ?_⟩
  · have asked := run_newIdFrom slept 1 (s.attempts - 1) w
    rwa [Nat.add_comm 1, s.attempts_pos] at asked
  · rcases run_newId_of_unpaused unpaused w with ⟨u, given, run⟩ | ⟨missed, run⟩
    · exact .inl ⟨u, firstAt_one.2 given, run⟩
    · exact .inr ⟨dry_succ.2 ⟨missed, dry_zero⟩, run⟩
  · refine ⟨dispatch_exhausted_iff makes, fun failed => ?_⟩
    have exhausted : ((s.dispatch c).run w).1 = .error (.idsExhausted n) := by rw [failed]
    have untouched := (waited_of_exhausted exhausted).untouched
    rwa [failed] at untouched

/-- A service whose source of identifiers gives one at the fourth request, and whose pauses are a
quarter of a second. -/
def flakyService : Service :=
  { obedientService with
    settings := { idRetryDelay := .ofRatio false 1 4 }
    ids := drawsThenCount [.nothing, .nothing, .unavailable, .issued (.ofNat 42)] }

/-- The service with two attempts at an identifier. -/
def hastyService : Service :=
  { flakyService with settings := { flakyService.settings with idMaxAttempts := 2 } }

/-- With a hundred attempts there are three pauses before the fourth request; with two, there are
two requests and a pause in between, and a type check has changed nothing. -/
theorem newId_bounded_flaky :
    flakyService.newId.run emptyWorld = (.ok (Uuid.ofNat 42).toText, emptyWorld.asked 4 (1 / 4)) ∧
      hastyService.newId.run emptyWorld = (.error (.idsExhausted 2), emptyWorld.asked 2 (1 / 4)) ∧
      (hastyService.dispatch (.checkModule (lit "main"))).run emptyWorld =
        (.error (.idsExhausted 2), emptyWorld.asked 2 (1 / 4)) ∧
      Untouched emptyWorld (emptyWorld.asked 2 (1 / 4)) := by
  have slept : pauseTime flakyService.settings.idRetryDelay = .ok (1 / 4) := by decide +kernel
  have first : flakyService.FirstAt emptyWorld.drawn 4 (.ofNat 42) := by
    refine ⟨by decide, rfl, ?_⟩
    exact dry_succ.2 ⟨rfl, dry_succ.2 ⟨rfl, dry_succ.2 ⟨rfl, dry_zero⟩⟩⟩
  have drained : hastyService.Dry emptyWorld.drawn hastyService.attempts :=
    dry_succ.2 ⟨rfl, dry_succ.2 ⟨rfl, dry_zero⟩⟩
  have flaky : flakyService.newId.run emptyWorld =
      (.ok (Uuid.ofNat 42).toText, emptyWorld.asked 4 (1 / 4)) := by
    rcases (newId_bounded flakyService emptyWorld).2.1 (1 / 4) slept with
      ⟨position, u, -, first', run⟩ | ⟨dry, -⟩
    · obtain ⟨rfl, rfl⟩ := first'.unique first
      exact run
    · exact absurd (first.lt dry) (by decide)
  have hasty : hastyService.newId.run emptyWorld =
      (.error (.idsExhausted 2), emptyWorld.asked 2 (1 / 4)) := by
    rcases (newId_bounded hastyService emptyWorld).2.1 (1 / 4) slept with
      ⟨position, u, within, first', -⟩ | ⟨-, run⟩
    · exact absurd (first'.lt drained) (Nat.not_lt.2 within)
    · exact run
  obtain ⟨failed_iff, untouched⟩ := (newId_bounded hastyService emptyWorld).2.2.2
    (.checkModule (lit "main")) 2 (emptyWorld.asked 2 (1 / 4)) (.inl rfl)
  exact ⟨flaky, hasty, failed_iff.2 hasty, untouched (failed_iff.2 hasty)⟩

/-- A service that cannot make its pauses, and whose source of identifiers gives one at the second
request. -/
def stalledService : Service :=
  { obedientService with
    settings := { idRetryDelay := .infinite false }
    ids := drawsThenCount [.nothing, .issued (.ofNat 42)] }

/-- An identifier that would be given within the attempts, and is never asked for. -/
theorem identifier_not_asked_for :
    2 ≤ stalledService.attempts ∧
    stalledService.FirstAt emptyWorld.drawn 2 (.ofNat 42) ∧
    stalledService.newId.run emptyWorld =
      (.error (.badPause .outOfClock), { emptyWorld with drawn := 1 }) := by
  refine ⟨by decide, ⟨by decide, rfl, ?_⟩, rfl⟩
  exact dry_succ.2 ⟨rfl, dry_zero⟩

end Service

end CompileService
