import CompileService.Proofs.Service.Ownership
import CompileService.Proofs.Service.Starts

/-!
# Deletions that fall due under a process

A request schedules the deletion of its source before it starts the process that reads it, so two
settings that know nothing of each other decide whether the deletion can fall due first: the life of
an artifact and the time that a process may take.

* `Undisturbed`: no deletion of the source is due before the process is stopped.
* `step_starts`: which process a step of a run starts.
* `source_outlives_process_iff`: when its source is undisturbed, in any world and in those of a run.
* `source_deleted_under_process`: where it is not.
-/

namespace CompileService

/-- So many seconds are over within the given time, where none is a time without end. -/
def Binary64.Within : Binary64 → Option Rat → Prop
  | _, none => True
  | .nan, some _ => False
  | .infinite negative, some _ => negative = true
  | .finite negative mantissa exponent, some time => Binary64.value negative mantissa exponent ≤ time

instance : (x : Binary64) → (time : Option Rat) → Decidable (x.Within time)
  | .nan, none | .infinite _, none | .finite .., none => inferInstanceAs (Decidable True)
  | .nan, some _ => inferInstanceAs (Decidable False)
  | .infinite negative, some _ => inferInstanceAs (Decidable (negative = true))
  | .finite .., some _ => inferInstanceAs (Decidable (_ ≤ (_ : Rat)))

instance (p q : FilePath) : Decidable (p.Distinct q) := inferInstanceAs (Decidable (_ ≠ _))

/-- The time from a moment on until the deletion is due, if it ever is. -/
def Timer.left (clock : Rat) (t : Timer) : Option Rat := t.due.map (· - clock)

namespace Service

variable {s : Service} {u : Uuid} {w : World}

/-- Of the deletions that are pending when the process is started, none that leads to the given path
is due before the time that the process may take is over. -/
def Undisturbed (path : FilePath) (limit : Binary64) (call : Call) : Prop :=
  ∀ t ∈ call.timers, ¬ t.path.Distinct path → limit.Within (t.left call.startedAt)

instance (path : FilePath) (limit : Binary64) (call : Call) :
    Decidable (Undisturbed path limit call) :=
  inferInstanceAs (Decidable (∀ _ ∈ _, _))

/-! ## The process of a step -/

/-- A step of a run starts no process, or one on the source of its request. -/
theorem step_starts (s : Service) (w : World) (next : Step) :
    (s.step w next).calls = w.calls ∨ ∃ u source call,
      (s.step w next).calls = w.calls ++ [call] ∧ s.StartedOn u source w call ∧
        s.Drew u w (s.step w next) := by
  cases next with
  | wait seconds => exact .inl (calls_elapse seconds w)
  | check content =>
      refine (checkModule_starts s w content).imp_right ?_
      rintro ⟨u, call, calls, started, -⟩
      obtain ⟨v, made⟩ := started.made
      exact ⟨u, _, call, calls, started,
        ((checkModule_effects content).framed_of_made made).drew⟩
  | compile content =>
      refine (compileModule_starts s w content).imp_right ?_
      rintro ⟨u, call, calls, started⟩
      obtain ⟨v, made⟩ := started.made
      exact ⟨u, _, call, calls, started,
        ((compileModule_effects content).framed_of_made made).drew⟩

/-- The deletion of an artifact that is made now is left its whole life. -/
theorem left_expiry (path : FilePath) (clock : Rat) :
    Timer.left clock ⟨path, s.expiry clock⟩ = s.lifetime? := by
  rw [Timer.left, expiry]
  cases s.lifetime? with
  | none => rfl
  | some ttl => exact congrArg some (add_sub_cancel_left clock ttl)

/-- The deletions that are pending when the process is started are those from before the request,
and that of the source, at the end of its life. -/
theorem StartedOn.undisturbed_iff {source : Text} {call : Call}
    (started : s.StartedOn u source w call) (limit : Binary64) :
    Undisturbed (s.sourcePath u) limit call ↔
      limit.Within s.lifetime? ∧ ∀ t ∈ w.timers, ¬ t.path.Distinct (s.sourcePath u) →
        limit.Within (t.left w.clock) := by
  have own : ¬ (s.sourcePath u).Distinct (s.sourcePath u) := fun apart => apart rfl
  simp only [Undisturbed, started.timers, started.now, List.forall_mem_append,
    List.forall_mem_singleton, left_expiry, own, not_false_eq_true, forall_const]
  exact And.comm

/-- Where every pending deletion belongs to an identifier that was drawn before, none leads to the
source of a request that draws one of its own. -/
theorem distinct_of_owned (apart : s.SourcesApart) (unshared : s.SourcesUnshared)
    (owned : s.Owned w) {after : World} (ids : s.IdsDistinct after.drawn)
    (drew : s.Drew u w after) : ∀ t ∈ w.timers, t.path.Distinct (s.sourcePath u) := by
  intro t mem
  obtain ⟨old, past, own⟩ := owned t mem
  have other := drew.ne_of_past ids past
  simp only [ownPaths, List.mem_cons, List.not_mem_nil, or_false] at own
  rcases own with source | script | page
  · exact source ▸ unshared old u other
  · exact script ▸ (apart u old).1.symm
  · exact page ▸ (apart u old).2.symm

/-- When no deletion of a source can fall due under the process that reads it. A step of a run
starts no process, or one on the source of its request, whose deletion is then pending. In any world
the source is undisturbed exactly if the time that a process may take is at most the life of an
artifact, and if no deletion from before the request leads to the source and is due too early. In a
run that starts without pending deletions and in which identifiers do not repeat there is no such
deletion, unless the names of sources lead back up and two files have one place. -/
theorem source_outlives_process_iff (s : Service) {limit : Binary64}
    (timed : s.settings.toolchainTimeout = some limit) (w : World) (next : Step) :
    (s.step w next).calls = w.calls ∨ ∃ u source call,
      (s.step w next).calls = w.calls ++ [call] ∧ s.StartedOn u source w call ∧
      call.launch.timeout = some limit ∧
      (Undisturbed (s.sourcePath u) limit call ↔
        limit.Within s.lifetime? ∧ ∀ t ∈ w.timers, ¬ t.path.Distinct (s.sourcePath u) →
          limit.Within (t.left w.clock)) ∧
      ∀ {start : World} (first : List Step), start.timers = [] → s.after start first = w →
        s.IdsDistinct (s.step w next).drawn → s.tempDir.Apart s.genDir →
        (s.Climbs → s.SourcesApart ∧ s.SourcesUnshared) →
        (Undisturbed (s.sourcePath u) limit call ↔ limit.Within s.lifetime?) := by
  refine (s.step_starts w next).imp_right ?_
  rintro ⟨u, source, call, calls, started, drew⟩
  have whole := started.undisturbed_iff limit
  refine ⟨u, source, call, calls, started, started.limit.trans timed, whole, ?_⟩
  intro start first idle reached ids dirs crooked
  obtain ⟨apart, unshared⟩ : s.SourcesApart ∧ s.SourcesUnshared := by
    by_cases climbs : s.Climbs
    · exact crooked climbs
    · exact ⟨sourcesApart_of_dirs dirs climbs, sourcesUnshared_of_straight climbs⟩
  -- in a run each older deletion belongs to an older identifier, whose files lie elsewhere
  have owned : s.Owned w := reached ▸ owned_after (owned_of_idle idle) first
  have elsewhere := distinct_of_owned apart unshared owned ids drew
  rw [whole]
  exact and_iff_left fun t mem meets => absurd (elsewhere t mem) meets

/-! ## Settings -/

/-- A service whose artifacts live as long as a process may take. -/
def patientService : Service :=
  { obedientService with settings := { artifactTtl := .ofInt 60 } }

/-- The source of a check is undisturbed after a compilation, whose deletions are pending. -/
theorem source_outlives_process_patient :
    let w := patientService.after emptyWorld [.compile (lit "main"), .wait 1]
    ∃ u call, (patientService.step w (.check (lit "x"))).calls = w.calls ++ [call] ∧
      w.timers.length = 3 ∧ (patientService.sourcePath u).toText ∈ call.launch.argv ∧
      call.launch.timeout = some (.ofInt 60) ∧
      Undisturbed (patientService.sourcePath u) (.ofInt 60) call := by
  intro w
  have counts : (patientService.step w (.check (lit "x"))).calls.length ≠ w.calls.length ∧
      (patientService.step w (.check (lit "x"))).drawn = 2 ∧ w.timers.length = 3 := by
    decide +kernel
  obtain ⟨more, drawn, pending⟩ := counts
  rcases source_outlives_process_iff patientService rfl w (.check (lit "x")) with
    none | ⟨u, source, call, calls, started, limit, -, inRun⟩
  · exact absurd (congrArg List.length none) more
  · have ids : patientService.IdsDistinct (patientService.step w (.check (lit "x"))).drawn := by
      rw [drawn]
      exact idsDistinct_of_counted rfl (by decide)
    have straight : ¬ patientService.Climbs := not_climbs_of_noSlash (by decide)
    refine ⟨u, call, calls, pending, started.named, limit, ?_⟩
    exact (inRun [.compile (lit "main"), .wait 1] rfl rfl ids (by decide)
      fun climbs => absurd climbs straight).2 (by decide +kernel)

/-- A service whose processes may take as long as its artifacts live. -/
def evenSettings : Settings := { toolchainTimeout := some (.ofInt 5) }

/-- A service whose source of identifiers gives one twice. -/
def repeatingService : Service :=
  { obedientService with
    settings := evenSettings
    ids := drawsThenCount [.issued (.ofNat 1), .issued (.ofNat 1)] }

/-- A service whose sources all have one place. -/
def sharingService : Service :=
  { obedientService with settings := { evenSettings with sourceExtension := lit "/../x" } }

/-- A world in which these sources can be written. -/
def sharingWorld : World where
  files := .dir (lit "tmp")
    (.dir (Uuid.ofNat 1).toText .empty (.dir (Uuid.ofNat 2).toText .empty .empty)) .empty

/-- A deletion of the source may fall due under the process that reads it: with the default
settings, where a process may take longer than an artifact lives; and also where it may not, if an
older deletion is of a source with the same identifier or the same place. -/
theorem source_deleted_under_process :
    (∃ call ∈ (obedientService.step emptyWorld (.check (lit "x"))).calls,
      call.launch.timeout = some (.ofInt 60) ∧
      (obedientService.sourcePath (.ofNat 1)).toText ∈ call.launch.argv ∧
      ¬ Undisturbed (obedientService.sourcePath (.ofNat 1)) (.ofInt 60) call) ∧
    (∃ call ∈ (repeatingService.after emptyWorld
        [.check (lit "x"), .wait 3, .check (lit "x")]).calls,
      call.launch.timeout = some (.ofInt 5) ∧
      (repeatingService.sourcePath (.ofNat 1)).toText ∈ call.launch.argv ∧
      ¬ Undisturbed (repeatingService.sourcePath (.ofNat 1)) (.ofInt 5) call) ∧
    (∃ call ∈ (sharingService.after sharingWorld
        [.check (lit "x"), .wait 3, .check (lit "x")]).calls,
      call.launch.timeout = some (.ofInt 5) ∧
      (sharingService.sourcePath (.ofNat 2)).toText ∈ call.launch.argv ∧
      ¬ Undisturbed (sharingService.sourcePath (.ofNat 2)) (.ofInt 5) call) := by
  refine ⟨?_, ?_, ?_⟩ <;> (simp only [sourcePath]; decide +kernel)

end Service

end CompileService
