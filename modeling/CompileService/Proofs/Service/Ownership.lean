import CompileService.Proofs.FileTree.Kept
import CompileService.Proofs.Service.Effects

/-!
# Whose deletions are pending

Every deletion that is pending in a run was scheduled by a request for a file of its own. Where
identifiers do not repeat, the files of a request that is still to come are nobody's by then.

* `Reached.timed`, `Reached.touched`: what a row of changes does to clock, deletions and files.
* `OutputOnly`: processes that write nothing but the script of a compilation.
* `Owned`: each pending deletion belongs to an identifier that was drawn. `owned_after`: it does in
  every world of a run.
* `SourcesApart`, `SourcesUnshared`, `distinct_of_ne`: the files of two requests lie apart.
-/

namespace CompileService.Service

variable {s : Service} {kind : Request.Kind} {u : Uuid} {v w : World}

/-! ## Rows of changes -/

variable (s) in
theorem own_compile {path : FilePath} (own : path ∈ s.ownPaths u kind) :
    path ∈ s.ownPaths u .compile := by
  cases kind with
  | check => simpa [ownPaths] using Or.inl (List.mem_singleton.1 own)
  | compile => exact own

/-- What requests do to the clock and the deletions: time does not pass, no identifier is drawn any
more, and each deletion that is new is one of a file of the request's own, at the end of its life.
-/
structure Timed (s : Service) (kind : Request.Kind) (u : Uuid) (v w : World) : Prop where
  clock : w.clock = v.clock
  drawn : w.drawn = v.drawn
  timers : ∀ t ∈ w.timers, t ∈ v.timers ∨ t.path ∈ s.ownPaths u kind ∧
    t.due = s.expiry v.clock

theorem Effect.timed (effect : s.Effect kind u v w) : s.Timed kind u v w := by
  cases effect with
  | logged level source message =>
      exact ⟨by simp, by simp, fun t mem => .inl (by simpa using mem)⟩
  | changed own applied => exact ⟨rfl, rfl, fun t mem => .inl mem⟩
  | scheduled own =>
      refine ⟨rfl, rfl, fun t mem => ?_⟩
      rcases List.mem_append.1 mem with before | new
      · exact .inl before
      · obtain rfl := List.mem_singleton.1 new
        exact .inr ⟨own, rfl⟩
  | madeDirs compiling => exact ⟨rfl, rfl, fun t mem => .inl mem⟩
  | started own => exact ⟨rfl, rfl, fun t mem => .inl mem⟩

theorem Reached.timed (reached : s.Reached kind u v w) : s.Timed kind u v w := by
  induction reached with
  | refl => exact ⟨rfl, rfl, fun t mem => .inl mem⟩
  | tail _ effect ih =>
      obtain ⟨clock, drawn, timers⟩ := effect.timed
      refine ⟨clock.trans ih.clock, drawn.trans ih.drawn, fun t mem => ?_⟩
      rcases timers t mem with before | ⟨own, due⟩
      · exact ih.timers t before
      · exact .inr ⟨own, by rw [due, ih.clock]⟩

/-- Processes write what they are told to: one of a type check nothing, and one of a compilation the
file at the path of the script. Neither removes directories. -/
structure OutputOnly (s : Service) : Prop where
  check : ∀ n u dirs files q,
    (s.runner n (s.checkLaunchOn u dirs) files).2.look q = files.look q
  compile : ∀ n u files q, FileTree.locate files (s.scriptPath u) ≠ .ok q →
    (s.runner n (s.compileLaunch u) files).2.look q = files.look q
  spares : ∀ n u files q, files.look q = some .dir →
    (s.runner n (s.compileLaunch u) files).2.look q = some .dir

theorem OutputOnly.touched (output : s.OutputOnly) (n : Nat) {launch : Launch}
    (own : s.Launches u kind launch) (files : Folder) :
    FileTree.Touched (s.ownPaths u kind) files (s.runner n launch files).2 := by
  cases kind with
  | check =>
      obtain ⟨dirs, rfl⟩ := own
      exact ⟨fun q dir => (output.check n u dirs files q).trans dir,
        fun q _ => .inl (output.check n u dirs files q)⟩
  | compile =>
      obtain rfl := own
      have script : s.scriptPath u ∈ s.ownPaths u .compile := by simp [ownPaths]
      exact .of_look script (output.spares n u files) (output.compile n u files)

theorem Effect.touched (output : s.OutputOnly) (effect : s.Effect kind u v w) :
    FileTree.Touched (s.ownPaths u kind) v.files w.files := by
  cases effect with
  | logged level source message =>
      rw [World.logged_files]
      exact .refl _ _
  | changed own applied => exact .of_applyAt own applied
  | scheduled own => exact .refl _ _
  | madeDirs compiling => exact .of_grown (FileTree.makeDirs_grown _ _)
  | started own => exact output.touched _ own _

theorem Reached.touched (output : s.OutputOnly) (reached : s.Reached kind u v w) :
    FileTree.Touched (s.ownPaths u kind) v.files w.files := by
  induction reached with
  | refl => exact .refl _ _
  | tail _ effect ih => exact ih.trans (effect.touched output)

/-! ## Identifiers -/

/-- The identifier was drawn before the given world. -/
def Past (s : Service) (u : Uuid) (w : World) : Prop :=
  ∃ n < w.drawn, (s.ids n).id? = some u

/-- The source of identifiers gives none twice in its first answers. -/
def IdsDistinct (s : Service) (count : Nat) : Prop :=
  ∀ m n u, m < count → n < count → (s.ids m).id? = some u → (s.ids n).id? = some u → m = n

theorem Past.mono (past : s.Past u v) (later : v.drawn ≤ w.drawn) : s.Past u w := by
  obtain ⟨n, before, given⟩ := past
  exact ⟨n, Nat.lt_of_lt_of_le before later, given⟩

theorem Drew.past (drew : s.Drew u v w) : s.Past u w := by
  obtain ⟨n, -, before, given⟩ := drew
  exact ⟨n, before, given⟩

/-- An identifier that is drawn is none that was drawn before. -/
theorem Drew.ne_of_past (ids : s.IdsDistinct w.drawn) {old : Uuid} (drew : s.Drew u v w)
    (past : s.Past old v) : old ≠ u := by
  rintro rfl
  obtain ⟨n, least, most, given⟩ := drew
  obtain ⟨m, before, given'⟩ := past
  have same := ids m n old (by omega) most given' given
  omega

theorem IdsDistinct.mono {count less : Nat} (ids : s.IdsDistinct count) (fewer : less ≤ count) :
    s.IdsDistinct less :=
  fun m n old before before' =>
    ids m n old (Nat.lt_of_lt_of_le before fewer) (Nat.lt_of_lt_of_le before' fewer)

/-- Counted identifiers do not repeat as long as there are any. -/
theorem idsDistinct_of_counted (ids : s.ids = drawsThenCount []) {count : Nat}
    (few : count < uuidCount) : s.IdsDistinct count := by
  intro m n u least most given given'
  have number : ∀ k, (s.ids k).id? = some (Uuid.ofNat (k + 1)) := fun k => by
    rw [ids]
    rfl
  rw [number] at given given'
  have one : Uuid.ofNat (m + 1) = Uuid.ofNat (n + 1) :=
    Option.some.inj (given.trans given'.symm)
  have same : (m + 1) % uuidCount = (n + 1) % uuidCount := congrArg Uuid.val one
  rw [Nat.mod_eq_of_lt (by omega), Nat.mod_eq_of_lt (by omega)] at same
  omega

/-! ## Requests -/

/-- What a request leaves that has drawn an identifier: the files and the deletions that are new or
changed belong to that identifier. -/
structure Framed (s : Service) (kind : Request.Kind) (u : Uuid) (w after : World) : Prop where
  drew : s.Drew u w after
  clock : after.clock = w.clock
  timers : ∀ t ∈ after.timers, t ∈ w.timers ∨ t.path ∈ s.ownPaths u kind ∧
    t.due = s.expiry w.clock
  touched : s.OutputOnly → FileTree.Touched (s.ownPaths u kind) w.files after.files

theorem Framed.later {after : World} (framed : s.Framed kind u w after) :
    w.drawn ≤ after.drawn := by
  obtain ⟨n, least, most, -⟩ := framed.drew
  omega

/-- A request that has made its artifact leaves what belongs to it. -/
theorem Effected.framed_of_made {after x : World} (effected : s.Effected kind w after)
    (made : (s.newArtifact s.settings.sourceExtension).run w =
      (.ok ⟨u.toText, s.sourcePath u⟩, x)) : s.Framed kind u w after := by
  rcases effected with ⟨failure, run, -⟩ | ⟨other, v, y, run, ⟨_, _, _, rfl⟩, drew, reached⟩
  · rw [run] at made
    cases made
  · rw [run] at made
    simp only [Prod.mk.injEq, Except.ok.injEq, Artifact.mk.injEq] at made
    obtain rfl := Uuid.toText_injective made.1.1
    have timed := reached.timed
    have touched := fun output => reached.touched output
    obtain ⟨n, least, most, given⟩ := drew
    exact ⟨⟨n, least, timed.drawn ▸ most, given⟩, timed.clock, timed.timers, touched⟩

theorem Effected.framed {after : World} (effected : s.Effected kind w after) :
    Waited w after ∨ ∃ u, s.Framed kind u w after := by
  have whole := effected
  rcases effected with ⟨failure, -, waited⟩ | ⟨u, v, x, made, -⟩
  · exact .inl waited
  · exact .inr ⟨u, whole.framed_of_made made⟩

/-- What a step of a run leaves. -/
theorem framed_step (s : Service) (w : World) (next : Step) :
    (∃ seconds : Span, next = .wait seconds) ∨ Waited w (s.step w next) ∨
      ∃ kind u, s.Framed kind u w (s.step w next) := by
  cases next with
  | check content =>
      exact .inr ((checkModule_effects content).framed.imp_right fun framed => ⟨.check, framed⟩)
  | compile content =>
      exact .inr ((compileModule_effects content).framed.imp_right fun framed => ⟨.compile, framed⟩)
  | wait seconds => exact .inl ⟨seconds, rfl⟩

/-- Time passes in one direction, and so identifiers are drawn. -/
theorem le_step (s : Service) (w : World) (next : Step) :
    w.clock ≤ (s.step w next).clock ∧ w.drawn ≤ (s.step w next).drawn := by
  rcases s.framed_step w next with ⟨seconds, rfl⟩ | ⟨_, _, later, same⟩ | ⟨kind, u, framed⟩
  · rw [step, clock_elapse, drawn_elapse]
    exact ⟨le_add_of_nonneg_right seconds.2, Nat.le_refl _⟩
  · rw [same]
    exact ⟨le_refl _, later⟩
  · exact ⟨le_of_eq framed.clock.symm, framed.later⟩

theorem le_after (s : Service) (w : World) (steps : List Step) :
    w.clock ≤ (s.after w steps).clock ∧ w.drawn ≤ (s.after w steps).drawn := by
  induction steps generalizing w with
  | nil => exact ⟨le_refl _, Nat.le_refl _⟩
  | cons next more ih =>
      obtain ⟨clock, drawn⟩ := s.le_step w next
      obtain ⟨clock', drawn'⟩ := ih (s.step w next)
      exact ⟨le_trans clock clock', Nat.le_trans drawn drawn'⟩

/-! ## Pending deletions -/

/-- Every pending deletion is one of a file that belongs to an identifier drawn before. -/
def Owned (s : Service) (w : World) : Prop :=
  ∀ t ∈ w.timers, ∃ u, s.Past u w ∧ t.path ∈ s.ownPaths u .compile

theorem owned_step (owned : s.Owned w) (next : Step) : s.Owned (s.step w next) := by
  rcases s.framed_step w next with ⟨seconds, rfl⟩ | ⟨_, _, later, same⟩ | ⟨kind, u, framed⟩
  · intro t mem
    obtain ⟨u, past, own⟩ := owned t (mem_of_elapse mem)
    exact ⟨u, past.mono (Nat.le_of_eq (drawn_elapse seconds w).symm), own⟩
  · rw [same]
    intro t mem
    obtain ⟨u, past, own⟩ := owned t mem
    exact ⟨u, past.mono later, own⟩
  · intro t mem
    rcases framed.timers t mem with before | ⟨own, -⟩
    · obtain ⟨old, past, own⟩ := owned t before
      exact ⟨old, past.mono framed.later, own⟩
    · exact ⟨u, framed.drew.past, s.own_compile own⟩

theorem owned_after (owned : s.Owned w) (steps : List Step) : s.Owned (s.after w steps) := by
  induction steps generalizing w with
  | nil => exact owned
  | cons next more ih => exact ih (owned_step owned next)

theorem owned_of_idle (idle : w.timers = []) : s.Owned w := by
  intro t mem
  rw [idle] at mem
  cases mem

/-! ## Files of different requests -/

/-- No source has the place of a script or of a page, be it of another request. -/
def SourcesApart (s : Service) : Prop :=
  ∀ u v, (s.sourcePath u).Distinct (s.scriptPath v) ∧ (s.sourcePath u).Distinct (s.pagePath v)

/-- The name of a source has a part that leads back up. -/
def Climbs (s : Service) : Prop :=
  ∃ u : Uuid, FilePath.up ∈ FilePath.partsOf (u.toText ++ s.settings.sourceExtension)

theorem not_climbs_of_noSlash (noSlash : FilePath.slash ∉ s.settings.sourceExtension) :
    ¬ s.Climbs := by
  rintro ⟨u, mem⟩
  rw [FilePath.partsOf_name (isPart_id u noSlash), List.mem_singleton] at mem
  exact up_ne_name u _ mem

/-- No two sources have one place. -/
def SourcesUnshared (s : Service) : Prop :=
  ∀ u v, u ≠ v → (s.sourcePath u).Distinct (s.sourcePath v)

theorem home_sourcePath (straight : ¬ s.Climbs) (u : Uuid) : (s.sourcePath u).home =
    s.tempDir.home ++ FilePath.partsOf (u.toText ++ s.settings.sourceExtension) := by
  rw [sourcePath, tempPath_eq, FilePath.home, List.foldl_append,
    FileTree.foldl_onward_plain fun climbs => straight ⟨u, climbs⟩]
  rfl

/-- In disjoint directories sources lie apart from scripts and pages, unless their names lead back
up. -/
theorem sourcesApart_of_dirs (dirs : s.tempDir.Apart s.genDir) (straight : ¬ s.Climbs) :
    s.SourcesApart := by
  have names : ∀ (u v : Uuid) {ext : Text}, FilePath.slash ∉ ext →
      (s.sourcePath u).Distinct (s.generatedPath v.toText ext) := by
    intro u v ext noSlash same
    rw [home_sourcePath straight, s.generatedPath_eq v noSlash,
      FilePath.home_name s.genDir (up_ne_name v ext)] at same
    exact FilePath.not_in_both dirs ⟨_, same⟩ (List.prefix_append _ _)
  intro u v
  rw [scriptPath, pagePath]
  exact ⟨names u v (by decide), names u v (by decide)⟩

/-- Sources have places of their own, unless their names lead back up. -/
theorem sourcesUnshared_of_straight (straight : ¬ s.Climbs) : s.SourcesUnshared := by
  intro u v other same
  obtain ⟨first, more, cut⟩ := partsOf_id s.settings.sourceExtension
  rw [home_sourcePath straight, home_sourcePath straight, cut, cut] at same
  exact other (id_of_append (List.cons.inj (List.append_cancel_left same)).1)

theorem distinct_generated {u v : Uuid} {ext ext' : Text} (noSlash : FilePath.slash ∉ ext)
    (noSlash' : FilePath.slash ∉ ext') (other : u ≠ v) :
    (s.generatedPath u.toText ext).Distinct (s.generatedPath v.toText ext') := by
  intro same
  rw [s.generatedPath_eq u noSlash, s.generatedPath_eq v noSlash',
    FilePath.home_name _ (up_ne_name u ext), FilePath.home_name _ (up_ne_name v ext')] at same
  exact other (id_of_append (List.singleton_inj.1 (List.append_cancel_left same)))

/-- The paths at which a compilation publishes what it makes. -/
def publicPaths (s : Service) (u : Uuid) : List FilePath := [s.scriptPath u, s.pagePath u]

/-- The files of one request lie apart from what another one publishes. -/
theorem distinct_of_ne (apart : s.SourcesApart) {old : Uuid} (other : old ≠ u) {own path : FilePath}
    (inside : own ∈ s.ownPaths old kind) (mem : path ∈ s.publicPaths u) : own.Distinct path := by
  have inside := s.own_compile inside
  simp only [ownPaths, publicPaths, List.mem_cons, List.not_mem_nil, or_false] at inside mem
  rcases inside with rfl | rfl | rfl
  · rcases mem with rfl | rfl
    · exact (apart old u).1
    · exact (apart old u).2
  all_goals
    rcases mem with rfl | rfl
    all_goals
      simp only [scriptPath, pagePath]
      exact distinct_generated (by decide) (by decide) other

end CompileService.Service
