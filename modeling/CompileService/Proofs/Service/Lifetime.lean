import CompileService.Process.Scripted
import CompileService.Proofs.Service.Ownership

/-!
# Scripts and pages live for their whole life

What a compilation has published stays as it was until the life of an artifact is over, whatever
other requests do meanwhile: their files lie elsewhere, and so do the files whose deletion is
pending and due before.

* `there_of_returned`: the script and the page are there when a compilation succeeds.
* `Served`: they are as they were then, and no deletion that is due before is one of theirs.
  `served_step`: every step keeps this until the deadline.
* `served_for_whole_life`: the same for runs.
* `published_files_lost`: where the names of sources lead back up, or type checks are told to write
  the script, they may be lost before.
-/

namespace CompileService.Service

variable {s : Service} {u : Uuid}

/-! ## Success -/

theorem Deleted.touched {path : FilePath} {w v : World} (deleted : Deleted path w v) :
    FileTree.Touched [path] w.files v.files := by
  rcases deleted.files with dropped | ⟨-, same⟩
  · rw [FileTree.dropFile_eq] at dropped
    exact .of_applyAt (List.mem_singleton_self _) dropped
  · rw [same]
    exact .refl _ _

theorem touched_storeFile {path : FilePath} {f g : Folder} {bytes : List UInt8}
    (stored : FileTree.storeFile f path bytes = .ok g) : FileTree.Touched [path] f g := by
  rw [FileTree.storeFile_eq] at stored
  exact .of_applyAt (List.mem_singleton_self _) stored

/-- A script is there, and so is the page, after the source was deleted and the page was written. -/
theorem there_of_written (apart : s.SourcesApart) {t x : World} {after : Folder}
    {bytes : List UInt8} (there : FileTree.pathExists t.files (s.scriptPath u) = .ok true)
    (deleted : Deleted (s.sourcePath u) t x)
    (written : FileTree.storeFile x.files (s.pagePath u) bytes = .ok after) :
    ∀ path ∈ s.publicPaths u, FileTree.pathExists after path = .ok true := by
  -- the script stands at a place of its own, so neither deletion nor page touch it
  have cleaned := (FileTree.Kept.of_pathExists there).touched deleted.touched
    (by simpa using (apart u u).1)
  have script := cleaned.touched (touched_storeFile written)
    (by simpa using s.apart_pagePath_scriptPath u)
  intro path mem
  simp only [publicPaths, List.mem_cons, List.not_mem_nil, or_false] at mem
  rcases mem with rfl | rfl
  · exact script.pathExists
  · obtain ⟨place, executable, found, shown⟩ := FileTree.look_storeFile written
    refine FileTree.pathExists_iff.2 ⟨place, ?_, by simp [shown]⟩
    exact (FileTree.sameDirs_storeFile written).locate found

/-- A compilation that succeeds leaves its script and its page. -/
theorem there_of_returned (apart : s.SourcesApart) {w r : World} {content id : Text}
    (returned : (s.compileModule content).run w = (.ok (.compileOk id), r)) :
    ∃ u x, (s.newArtifact s.settings.sourceExtension).run w = (.ok ⟨u.toText, s.sourcePath u⟩, x) ∧
      id = u.toText ∧ ∀ path ∈ s.publicPaths u, FileTree.pathExists r.files path = .ok true := by
  obtain ⟨u, v, made, dirs⟩ := made_of_returned returned
  obtain ⟨x, deleted, run⟩ := run_compileModule content made dirs
  have fresh : Fresh ⟨u.toText, s.sourcePath u⟩
      (s.readied v (s.sourcePath u) (FileTree.makeDirs v.files s.genDir).1) :=
    (fresh_of_newArtifact made).grown (FileTree.makeDirs_grown _ _)
  dsimp only at deleted run
  rw [← scriptPath] at deleted run
  rw [run] at returned
  -- only a compilation whose source was written and whose process left a script says that it is ok
  cases encoded : Utf8.encode content with
  | error fault =>
      obtain ⟨files, stored⟩ := fresh.store []
      rw [compileArtifact_rejects encoded stored] at returned
      cases returned
  | ok bytes =>
      obtain ⟨files, stored⟩ := fresh.store bytes
      obtain ⟨result, ran⟩ := compileArtifact_runs encoded stored
      generalize (s.compileArtifact _ _ _).run _ = body at deleted returned result ran
      rcases body with ⟨ended, t⟩
      dsimp only at deleted returned result
      have left := ran.files
      dsimp only at left
      rw [← left] at result
      subst result
      cases judged : (Toolchain.verdict (s.compileLaunch u) _).bind
          (s.toolchain.compiled t.files (s.scriptPath u)) with
      | error failure =>
          rw [judged] at returned
          cases returned
      | ok found =>
          rw [judged] at returned
          dsimp only [Except.map] at returned
          obtain ⟨-, ⟨ok, same, written, -⟩ | ⟨-, ⟨-, declined⟩ | ⟨-, declined⟩⟩⟩ :=
            compileAnswer_returned returned
          · rw [← pagePath] at written
            exact ⟨u, v, made, Response.compileOk.inj same,
              there_of_written apart ((refused_of_compiled judged).1 ok) deleted written⟩
          · cases declined
          · cases declined

/-! ## The invariant -/

/-- The deletion is not due before a deadline, or if there is none, never. -/
def NotBefore (deadline : Option Rat) (t : Timer) : Prop :=
  ∀ due, t.due = some due → ∃ latest, deadline = some latest ∧ latest ≤ due

/-- What was published is as it was in the given tree, and deletions that are due before the
deadline are of files that lie elsewhere. -/
structure Served (s : Service) (u : Uuid) (deadline : Option Rat) (f : Folder) (w : World) :
    Prop where
  past : s.Past u w
  kept : ∀ path ∈ s.publicPaths u, FileTree.Kept path f w.files
  late : ∀ t ∈ w.timers, NotBefore deadline t ∨ ∀ path ∈ s.publicPaths u, t.path.Distinct path

section
variable {deadline : Option Rat} {f : Folder} {w : World}

/-- Deletions that fire elsewhere leave what was published. -/
theorem kept_foldl_fire {due : List Timer} {path : FilePath} (kept : FileTree.Kept path f w.files)
    (elsewhere : ∀ t ∈ due, t.path.Distinct path) :
    FileTree.Kept path f (due.foldl fire w).files := by
  induction due generalizing w with
  | nil => exact kept
  | cons timer more ih =>
      have apart := elsewhere timer List.mem_cons_self
      refine ih ?_ fun t mem => elsewhere t (List.mem_cons_of_mem _ mem)
      rcases fire_cases w timer with gone | ⟨same, -⟩
      · exact kept.touched gone.touched (by simpa using apart)
      · rw [same]
        exact kept

/-- Until the deadline the clock may move on. -/
theorem served_elapse {seconds : Rat} (served : s.Served u deadline f w)
    (early : ∀ latest, deadline = some latest → w.clock + seconds < latest) :
    s.Served u deadline f (elapse seconds w) where
  past := served.past.mono (Nat.le_of_eq (drawn_elapse seconds w).symm)
  kept := by
    intro path mem
    refine kept_foldl_fire (served.kept path mem) fun t inside => ?_
    obtain ⟨pending, isDue⟩ := List.mem_filter.1 (List.mem_mergeSort.1 inside)
    rcases served.late t pending with after | apart
    · -- a deletion of what was published is not due yet
      obtain ⟨due, shown, before⟩ := (Option.any_eq_true _ _).1 isDue
      obtain ⟨latest, ends, late⟩ := after due shown
      have before : due ≤ w.clock + seconds := of_decide_eq_true before
      exact absurd (late.trans before) (not_le_of_gt (early latest ends))
    · exact apart path mem
  late t mem := served.late t (mem_of_elapse mem)

/-- A request that draws an identifier of its own leaves what was published. -/
theorem Framed.served {kind : Request.Kind} {v : Uuid} {after : World}
    (framed : s.Framed kind v w after) (apart : s.SourcesApart) (output : s.OutputOnly)
    (ids : s.IdsDistinct after.drawn) (served : s.Served u deadline f w) :
    s.Served u deadline f after := by
  have other : v ≠ u := (framed.drew.ne_of_past ids served.past).symm
  refine ⟨served.past.mono framed.later, fun path mem => ?_, fun t mem => ?_⟩
  · exact (served.kept path mem).touched (framed.touched output)
      fun own inside => distinct_of_ne apart other inside mem
  · rcases framed.timers t mem with before | ⟨own, -⟩
    · exact served.late t before
    · exact .inr fun path mem => distinct_of_ne apart other own mem

theorem served_step (apart : s.SourcesApart) (output : s.OutputOnly) (next : Step)
    (ids : s.IdsDistinct (s.step w next).drawn) (served : s.Served u deadline f w)
    (early : ∀ latest, deadline = some latest → (s.step w next).clock < latest) :
    s.Served u deadline f (s.step w next) := by
  rcases s.framed_step w next with ⟨seconds, rfl⟩ | ⟨_, _, later, same⟩ | ⟨kind, v, framed⟩
  · rw [step, clock_elapse] at early
    exact served_elapse served early
  · rw [same]
    exact ⟨served.past.mono later, served.kept, served.late⟩
  · exact framed.served apart output ids served

theorem served_after (apart : s.SourcesApart) (output : s.OutputOnly) (steps : List Step)
    (ids : s.IdsDistinct (s.after w steps).drawn) (served : s.Served u deadline f w)
    (early : ∀ latest, deadline = some latest → (s.after w steps).clock < latest) :
    s.Served u deadline f (s.after w steps) := by
  induction steps generalizing w with
  | nil => exact served
  | cons next more ih =>
      obtain ⟨clock, drawn⟩ := s.le_after (s.step w next) more
      have soon : ∀ latest, deadline = some latest → (s.step w next).clock < latest :=
        fun latest ends => lt_of_le_of_lt clock (early latest ends)
      exact ih ids (served_step apart output next (ids.mono drawn) served soon) early

/-- When a compilation succeeds, its life is before what it has published. -/
theorem served_of_returned (apart : s.SourcesApart) (owned : s.Owned w) {content id : Text}
    {r : World} (ids : s.IdsDistinct r.drawn)
    (returned : (s.compileModule content).run w = (.ok (.compileOk id), r)) :
    ∃ u, id = u.toText ∧ s.Served u (s.expiry r.clock) r.files r := by
  obtain ⟨u, x, made, text, there⟩ := there_of_returned apart returned
  have framed : s.Framed .compile u w r := by
    have effected : s.Effected .compile w ((s.compileModule content).run w).2 :=
      compileModule_effects content
    rw [returned] at effected
    exact effected.framed_of_made made
  refine ⟨u, text, framed.drew.past, fun path mem => .of_pathExists (there path mem), ?_⟩
  intro t mem
  rcases framed.timers t mem with before | ⟨-, due⟩
  · -- an older deletion belongs to an identifier that was drawn before
    obtain ⟨old, past, own⟩ := owned t before
    have other := framed.drew.ne_of_past ids past
    exact .inr fun path mem => distinct_of_ne apart other own mem
  · rw [← framed.clock] at due
    exact .inl fun time shown => ⟨time, due.symm.trans shown, le_refl _⟩

end

/-- Scripts and pages live for their whole life. In a run that starts without pending deletions, in
which identifiers do not repeat, where processes write nothing but scripts and temporary and public
files lie in disjoint directories, what a compilation has published when it succeeds is there, as it
was then, in every world of the run until the life of an artifact is over, if it ever is; unless the
names of sources lead back up and some source has the place of a script or a page. -/
theorem served_for_whole_life (s : Service) (dirs : s.tempDir.Apart s.genDir)
    (apart : s.Climbs → s.SourcesApart) (output : s.OutputOnly) {start : World}
    (idle : start.timers = []) (first : List Step) {content id : Text} {r : World}
    (returned : (s.compileModule content).run (s.after start first) = (.ok (.compileOk id), r))
    (later : List Step) (ids : s.IdsDistinct (s.after r later).drawn)
    (early : ∀ latest, s.expiry r.clock = some latest → (s.after r later).clock < latest) :
    ∀ path ∈ [s.generatedPath id (lit ".js"), s.generatedPath id (lit ".html")],
      FileTree.pathExists r.files path = .ok true ∧
      FileTree.pathExists (s.after r later).files path = .ok true ∧
      FileTree.fileContent (s.after r later).files path = FileTree.fileContent r.files path := by
  have apart : s.SourcesApart := by
    by_cases climbs : s.Climbs
    · exact apart climbs
    · exact sourcesApart_of_dirs dirs climbs
  obtain ⟨u, text, served⟩ := served_of_returned apart
    (owned_after (owned_of_idle idle) first) (ids.mono (s.le_after r later).2) returned
  subst id
  have still := served_after apart output later ids served early
  intro path mem
  rw [← scriptPath, ← pagePath] at mem
  exact ⟨(served.kept path mem).pathExists, (still.kept path mem).pathExists,
    (still.kept path mem).fileContent⟩

/-! ## An obedient compiler -/

/-- The obedient compiler writes the second last argument, and nothing else. -/
theorem stored_obedientRunner (n : Nat) (launch : Launch) (files : Folder) :
    (obedientRunner n launch files).2 = files ∨ launch.program = lit "fay" ∧
      ∃ source out rest, launch.argv.reverse = source :: out :: rest ∧
        FileTree.storeFile files (FilePath.ofText out) [0x3B] =
          .ok (obedientRunner n launch files).2 := by
  unfold obedientRunner
  split
  · rename_i source out rest reversed
    by_cases compiler : launch.program = lit "fay"
    · rw [if_pos compiler]
      cases stored : FileTree.storeFile files (FilePath.ofText out) [0x3B] with
      | error fault => exact .inl rfl
      | ok left => exact .inr ⟨compiler, source, out, rest, reversed, stored⟩
    · rw [if_neg compiler]
      exact .inl rfl
  · exact .inl rfl

/-- With the obedient compiler processes write nothing but scripts, unless a type check is taken for
a compilation. -/
theorem outputOnly_of_obedient (runner : s.runner = obedientRunner)
    (other : s.settings.typecheckCommand ≠ lit "fay") : s.OutputOnly := by
  have compiling : ∀ n u files,
      (s.runner n (s.compileLaunch u) files).2 = files ∨
        FileTree.storeFile files (s.scriptPath u) [0x3B] =
          .ok (s.runner n (s.compileLaunch u) files).2 := by
    intro n u files
    have named : FilePath.ofText (s.scriptPath u).toText = s.scriptPath u := by
      rw [scriptPath, FilePath.ofText_toText (s.wellFormed_generatedPath _ _)]
    -- the output that the compiler reads off its command line is the script
    rw [runner]
    refine (stored_obedientRunner n (s.compileLaunch u) files).imp_right ?_
    rintro ⟨-, source, out, rest, reversed, stored⟩
    simp only [compileLaunch, Toolchain.compileArgv, List.reverse_append, List.reverse_cons,
      List.reverse_nil, List.nil_append, List.cons_append, List.cons.injEq] at reversed
    rwa [← reversed.2.1, named] at stored
  constructor
  case check =>
    intro n u dirs files q
    rw [runner]
    rcases stored_obedientRunner n (s.checkLaunchOn u dirs) files with same | ⟨compiler, -⟩
    · rw [same]
    · exact absurd compiler other
  case compile =>
    intro n u files q elsewhere
    rcases compiling n u files with same | stored
    · rw [same]
    · obtain ⟨place, executable, found, after⟩ := FileTree.look_storeFile stored
      rw [after, if_neg]
      rintro rfl
      exact elsewhere found
  case spares =>
    intro n u files q dir
    rcases compiling n u files with same | stored
    · rw [same, dir]
    · exact (FileTree.sameDirs_storeFile stored q).1 dir

/-- A script and a page live on while another source is compiled and a deletion fires. -/
theorem served_for_whole_life_obedient :
    let first : List Step := [.check (lit "x"), .wait 1]
    let later : List Step := [.compile (lit "y"), .wait 4]
    ∃ r, (obedientService.compileModule (lit "main")).run (obedientService.after emptyWorld first) =
        (.ok (.compileOk (Uuid.ofNat 2).toText), r) ∧
      (obedientService.after r later).clock = 5 ∧
      ∀ path ∈ [obedientService.generatedPath (Uuid.ofNat 2).toText (lit ".js"),
          obedientService.generatedPath (Uuid.ofNat 2).toText (lit ".html")],
        FileTree.pathExists r.files path = .ok true ∧
        FileTree.pathExists (obedientService.after r later).files path = .ok true ∧
        FileTree.fileContent (obedientService.after r later).files path =
          FileTree.fileContent r.files path := by
  intro first later
  obtain ⟨r, isR⟩ : ∃ r, ((obedientService.compileModule (lit "main")).run
      (obedientService.after emptyWorld first)).2 = r := ⟨_, rfl⟩
  -- everything that is evaluated of the run, at once
  have facts : ((obedientService.compileModule (lit "main")).run
        (obedientService.after emptyWorld first)).1.toOption =
          some (.compileOk (Uuid.ofNat 2).toText) ∧
      r.clock = 1 ∧ (obedientService.after r later).clock = 5 ∧
      (obedientService.after r later).drawn = 3 := by
    rw [← isR]
    decide +kernel
  obtain ⟨ok, clock, clock', drawn⟩ := facts
  have returned : (obedientService.compileModule (lit "main")).run
      (obedientService.after emptyWorld first) = (.ok (.compileOk (Uuid.ofNat 2).toText), r) :=
    Prod.ext (ok_of_toOption ok) isR
  have ids : obedientService.IdsDistinct (obedientService.after r later).drawn := by
    rw [drawn]
    exact idsDistinct_of_counted rfl (by decide)
  have dirs : obedientService.tempDir.Apart obedientService.genDir := by decide
  refine ⟨r, returned, clock', served_for_whole_life obedientService dirs
    (fun climbs => absurd climbs (not_climbs_of_noSlash (by decide)))
    (outputOnly_of_obedient rfl (by decide)) rfl first returned later ids ?_⟩
  intro latest ends
  rw [expiry, life_obedientService, clock] at ends
  obtain rfl : 1 + 5 = latest := Option.some.inj ends
  rw [clock']
  decide +kernel

/-! ## Files that are lost before -/

/-- A service whose sources have the place of the page of the second request. -/
def climbingService : Service :=
  { obedientService with
    settings :=
      { sourceExtension := lit "/../../static/gen/00000000-0000-0000-0000-000000000002.html" } }

/-- A world in which these sources can be written. -/
def climbingWorld : World where
  files := .dir (lit "static") (.dir (lit "gen") .empty .empty)
    (.dir (lit "tmp")
      (.dir (Uuid.ofNat 1).toText .empty (.dir (Uuid.ofNat 2).toText .empty .empty)) .empty)

/-- A toolchain that writes its number where it is told to, whatever the command. -/
def writingRunner : Runner := fun n launch files =>
  match ScriptedRun.outputPath? launch.argv with
  | none => (.exited 0 none, files)
  | some out =>
    match FileTree.storeFile files (FilePath.ofText out) [UInt8.ofNat n] with
    | .ok left => (.exited 0 none, left)
    | .error _ => (.exited 1 none, files)

/-- A service whose type checks are told to write the script of the first request. -/
def flaggedService : Service :=
  { obedientService with
    settings :=
      { packageFlags := [lit "-o", lit "static/gen/00000000-0000-0000-0000-000000000001.js"] }
    runner := writingRunner }

/-- A page may be gone before its life is over where the names of sources lead back up: here the
deletion of an earlier source, which has its place, fires. And a script may be written anew where
the package flags tell type checks to. -/
theorem published_files_lost :
    (climbingService.OutputOnly ∧ climbingService.tempDir.Apart climbingService.genDir ∧
      let w := climbingService.after climbingWorld [.check (lit "x"), .wait 1]
      let request := (climbingService.compileModule (lit "main")).run w
      let after := climbingService.after request.2 [.wait 4]
      climbingWorld.timers = [] ∧ climbingService.IdsDistinct after.drawn ∧
      request.1.toOption = some (.compileOk (Uuid.ofNat 2).toText) ∧
      after.clock < request.2.clock + 5 ∧
      (FileTree.pathExists after.files
        (climbingService.pagePath (Uuid.ofNat 2))).toOption = some false) ∧
    (flaggedService.tempDir.Apart flaggedService.genDir ∧
      let request := (flaggedService.compileModule (lit "main")).run emptyWorld
      let after := flaggedService.after request.2 [.check (lit "x")]
      emptyWorld.timers = [] ∧ flaggedService.IdsDistinct after.drawn ∧
      request.1.toOption = some (.compileOk (Uuid.ofNat 1).toText) ∧
      after.clock < request.2.clock + 5 ∧
      (FileTree.fileContent request.2.files
        (flaggedService.scriptPath (Uuid.ofNat 1))).toOption = some [0] ∧
      (FileTree.fileContent after.files
        (flaggedService.scriptPath (Uuid.ofNat 1))).toOption = some [1]) := by
  have drawn : (climbingService.after ((climbingService.compileModule (lit "main")).run
        (climbingService.after climbingWorld [.check (lit "x"), .wait 1])).2
        [.wait 4]).drawn = 2 ∧
      (flaggedService.after ((flaggedService.compileModule (lit "main")).run emptyWorld).2
        [.check (lit "x")]).drawn = 2 := by
    decide +kernel
  refine ⟨⟨outputOnly_of_obedient rfl (by decide), by decide, rfl, ?_, ?_⟩,
    ⟨by decide, rfl, ?_, ?_⟩⟩
  · rw [drawn.1]
    exact idsDistinct_of_counted rfl (by decide)
  · rw [pagePath]
    decide +kernel
  · rw [drawn.2]
    exact idsDistinct_of_counted rfl (by decide)
  · rw [scriptPath]
    decide +kernel

end CompileService.Service
