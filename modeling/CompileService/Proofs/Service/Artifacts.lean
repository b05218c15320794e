import CompileService.Proofs.Action
import CompileService.Proofs.FileTree.Directories
import CompileService.Proofs.Identifier
import CompileService.Proofs.Path
import CompileService.Proofs.Text.Utf8
import CompileService.Service.Artifacts

/-!
# Artifacts: runs and paths

What the actions on artifacts do to the world, one lemma for each.

* `tempPath_eq`, `generatedPath_eq`: the paths named after identifiers. `id_of_append`: a name
  tells the identifier that it begins with.
* `run_newIdFrom_of_given`, `run_newIdFrom_of_last`, `run_newIdFrom_of_missed`: what a request for an
  identifier comes to.
* `newArtifact_cases`: a new artifact, or a failure that leaves files and timers alone.
  `made_of_newArtifact`: what the world is like with the new artifact; `waited_of_unmade`: and
  without.
* `run_scheduleDelete`, `run_delete`: deletions, scheduled and carried out.
-/

namespace CompileService.Service

variable (s : Service)

/-! ## Paths -/

theorem isPart_id (u : Uuid) {ext : Text} (noSlash : FilePath.slash ∉ ext) :
    FilePath.IsPart (u.toText ++ ext) where
  nonempty := by
    intro empty
    have length := congrArg List.length empty
    simp [Uuid.length_toText] at length
  notHere := by
    intro here
    have length := congrArg List.length here
    simp only [List.length_append, Uuid.length_toText] at length
    have dot : FilePath.here.length = 1 := by decide
    omega
  noSlash := by
    rw [List.mem_append, not_or]
    refine ⟨?_, noSlash⟩
    intro inside
    have other : ∀ d < 16, FilePath.slash ≠ CodePoint.ofChar d.digitChar := by decide
    rcases Uuid.point_of_mem_toText inside with hyphen | ⟨d, small, digit⟩
    · revert hyphen
      decide
    · exact other d small digit

/-- The name of an artifact's source, cut at the slashes that the extension may have. -/
theorem partsOf_id (ext : Text) :
    ∃ first more, ∀ u : Uuid, FilePath.partsOf (u.toText ++ ext) = (u.toText ++ first) :: more := by
  obtain ⟨first, more, cut⟩ := List.exists_cons_of_ne_nil (Text.splitAt_ne_nil FilePath.slash ext)
  refine ⟨first, more.filter fun p => p ≠ [] ∧ p ≠ FilePath.here, fun u => ?_⟩
  have noSlash : FilePath.slash ∉ first := Text.not_mem_of_mem_splitAt (by rw [cut]; simp)
  have part := isPart_id u noSlash
  have free : FilePath.slash ∉ u.toText := fun mem => part.noSlash (List.mem_append_left _ mem)
  rw [FilePath.partsOf, Text.splitAt_append_left free cut, List.filter_cons_of_pos]
  exact decide_eq_true ⟨part.nonempty, part.notHere⟩

/-- The path of an artifact's source. -/
theorem tempPath_eq (u : Uuid) (ext : Text) :
    s.tempPath u.toText ext =
      { s.tempDir with parts := s.tempDir.parts ++ FilePath.partsOf (u.toText ++ ext) } := by
  have front : FilePath.slash ∉ ([] : Text) := by simp
  have part := isPart_id u front
  rw [List.append_nil] at part
  obtain ⟨c, tail, text⟩ := List.exists_cons_of_ne_nil part.nonempty
  have relative : FilePath.anchorOf (u.toText ++ ext) = .relative := by
    rw [text]
    exact FilePath.anchorOf_cons (fun same => part.noSlash (by rw [text, same]; simp)) _
  rw [tempPath, FilePath.join, if_pos relative]

theorem id_of_append {u v : Uuid} {x y : Text} (h : u.toText ++ x = v.toText ++ y) : u = v := by
  have length : u.toText.length = v.toText.length := by
    rw [Uuid.length_toText, Uuid.length_toText]
  exact Uuid.toText_injective (List.append_inj h length).1

/-- A public file lies in the directory of public files, under the identifier and the extension. -/
theorem generatedPath_eq (u : Uuid) {ext : Text} (noSlash : FilePath.slash ∉ ext) :
    s.generatedPath u.toText ext =
      { s.genDir with parts := s.genDir.parts ++ [u.toText ++ ext] } :=
  FilePath.join_name s.genDir (isPart_id u noSlash)

theorem up_ne_name (u : Uuid) (ext : Text) : FilePath.up ≠ u.toText ++ ext := by
  intro same
  have length := congrArg List.length same
  have two : FilePath.up.length = 2 := by decide
  simp only [List.length_append, Uuid.length_toText] at length
  omega

theorem name_generatedPath (u : Uuid) {ext : Text} (noSlash : FilePath.slash ∉ ext) :
    (s.generatedPath u.toText ext).name = u.toText ++ ext := by
  rw [s.generatedPath_eq u noSlash]
  simp [FilePath.name]

theorem wellFormed_generatedPath (id ext : Text) : (s.generatedPath id ext).WellFormed :=
  (FilePath.wellFormed_ofText _).join _

theorem encodable_id (u : Uuid) : Text.Encodable u.toText := by
  intro c inside
  have digit : ∀ d < 16, (CodePoint.ofChar d.digitChar).isSurrogate = false := by decide
  rcases Uuid.point_of_mem_toText inside with rfl | ⟨d, small, rfl⟩
  · decide
  · exact digit d small

/-! ## New artifacts -/

/-- Where a request gives an identifier this is the one, however many attempts may be left. -/
theorem run_newIdFrom_of_given {u : Uuid} {w : World} (given : (s.ids w.drawn).id? = some u)
    (made left : Nat) :
    (s.newIdFrom made left).run w = (.ok u.toText, { w with drawn := w.drawn + 1 }) := by
  have drawn : s.draw.run w = (.ok (s.ids w.drawn), { w with drawn := w.drawn + 1 }) := rfl
  cases left with
  | zero =>
      rw [newIdFrom, Action.run_bind, drawn]
      simp only [given]
      rfl
  | succ left =>
      rw [newIdFrom, Action.run_bind, drawn]
      simp only [given]
      rfl

/-- Where the last request gives none the attempts are used up. -/
theorem run_newIdFrom_of_last {w : World} (missed : (s.ids w.drawn).id? = none) (made : Nat) :
    (s.newIdFrom made 0).run w = (.error (.idsExhausted made), { w with drawn := w.drawn + 1 }) := by
  have drawn : s.draw.run w = (.ok (s.ids w.drawn), { w with drawn := w.drawn + 1 }) := rfl
  rw [newIdFrom, Action.run_bind, drawn]
  simp only [missed]
  rfl

/-- Where a request gives none and attempts are left, there is a pause and then the next one. -/
theorem run_newIdFrom_of_missed {w : World} (missed : (s.ids w.drawn).id? = none)
    (made left : Nat) :
    (s.newIdFrom made (left + 1)).run w =
      match pauseTime s.settings.idRetryDelay with
      | .ok time => (s.newIdFrom (made + 1) left).run
          { w with drawn := w.drawn + 1, pauses := w.pauses ++ [time] }
      | .error fault => (.error (.badPause fault), { w with drawn := w.drawn + 1 }) := by
  have drawn : s.draw.run w = (.ok (s.ids w.drawn), { w with drawn := w.drawn + 1 }) := rfl
  rw [newIdFrom, Action.run_bind, drawn]
  simp only [missed, Action.run_bind, pause]
  cases pauseTime s.settings.idRetryDelay with
  | ok time => rfl
  | error fault => rfl

/-- A world after some requests for an identifier and the pauses between them. -/
def Waited (w v : World) : Prop :=
  ∃ drawn pauses, w.drawn ≤ drawn ∧ v = { w with drawn := drawn, pauses := pauses }

/-- The identifier was given by a request between two worlds. -/
def Drew (u : Uuid) (w v : World) : Prop :=
  ∃ n, w.drawn ≤ n ∧ n < v.drawn ∧ (s.ids n).id? = some u

variable {s} in
theorem Drew.once {u : Uuid} {w : World} (given : (s.ids w.drawn).id? = some u) :
    s.Drew u w { w with drawn := w.drawn + 1 } :=
  ⟨w.drawn, Nat.le_refl _, Nat.lt_succ_self _, given⟩

/-- A request for an identifier counts, and so does a pause. -/
theorem Waited.once {w : World} (pauses : List Rat) :
    Waited w { w with drawn := w.drawn + 1, pauses := pauses } :=
  ⟨w.drawn + 1, pauses, Nat.le_succ _, rfl⟩

/-- Asking for an identifier changes the counts of requests and pauses, and nothing else. -/
theorem newIdFrom_ends (w : World) (made left : Nat) :
    let done := (s.newIdFrom made left).run w
    Waited w done.2 ∧ ∀ id, done.1 = .ok id → ∃ u : Uuid, id = u.toText ∧ s.Drew u w done.2 := by
  induction left generalizing made w with
  | zero =>
      cases given : (s.ids w.drawn).id? with
      | some u =>
          rw [s.run_newIdFrom_of_given given]
          exact ⟨.once w.pauses, fun id same => ⟨u, (Except.ok.inj same).symm, .once given⟩⟩
      | none =>
          rw [s.run_newIdFrom_of_last given]
          exact ⟨.once w.pauses, fun id same => by cases same⟩
  | succ left ih =>
      cases given : (s.ids w.drawn).id? with
      | some u =>
          rw [s.run_newIdFrom_of_given given]
          exact ⟨.once w.pauses, fun id same => ⟨u, (Except.ok.inj same).symm, .once given⟩⟩
      | none =>
          rw [s.run_newIdFrom_of_missed given]
          cases pauseTime s.settings.idRetryDelay with
          | error fault => exact ⟨.once w.pauses, fun id same => by cases same⟩
          | ok time =>
              obtain ⟨⟨drawn, pauses, later, ended⟩, named⟩ :=
                ih { w with drawn := w.drawn + 1, pauses := w.pauses ++ [time] } (made + 1)
              refine ⟨⟨drawn, pauses, Nat.le_of_succ_le later, ended⟩, fun id same => ?_⟩
              obtain ⟨u, text, n, least, most, drew⟩ := named id same
              exact ⟨u, text, n, Nat.le_of_succ_le least, most, drew⟩

/-- A new artifact is an empty file named after an identifier that it has asked for; where there is
none, neither the files nor the timers have changed. -/
theorem newArtifact_cases (ext : Text) (w : World) :
    (∃ failure v, (s.newArtifact ext).run w = (.error failure, v) ∧ Waited w v) ∨
      ∃ (u : Uuid) (v : World) (files : Folder), Waited w v ∧ s.Drew u w v ∧
        FileTree.createFile w.files (s.tempPath u.toText ext) = .ok files ∧
        (s.newArtifact ext).run w =
          (.ok ⟨u.toText, s.tempPath u.toText ext⟩, { v with files := files }) := by
  have asked := s.newIdFrom_ends w 1 (s.attempts - 1)
  unfold newArtifact
  rw [Action.run_bind]
  rcases drawn : s.newId.run w with ⟨r, v⟩
  unfold newId at drawn
  rw [drawn] at asked
  obtain ⟨waited, named⟩ := asked
  cases r with
  | error failure => exact .inl ⟨failure, v, rfl, waited⟩
  | ok id =>
      obtain ⟨u, text, drew⟩ := named id rfl
      obtain rfl := text.symm
      have same : v.files = w.files := by
        obtain ⟨_, _, _, rfl⟩ := waited
        rfl
      simp only [Action.run_bind, Action.run_change, same]
      cases made : FileTree.createFile w.files (s.tempPath u.toText ext) with
      | error fault => exact .inl ⟨.onPath (s.tempPath u.toText ext) fault, v, rfl, waited⟩
      | ok files => exact .inr ⟨u, v, files, waited, drew, made, rfl⟩

/-- Without an artifact only identifiers were asked for. -/
theorem waited_of_unmade {ext : Text} {failure : Failure} {w v : World}
    (unmade : (s.newArtifact ext).run w = (.error failure, v)) : Waited w v := by
  rcases s.newArtifact_cases ext w with ⟨_, _, run, waited⟩ | ⟨_, _, _, -, -, -, run⟩
  · rw [run] at unmade
    cases unmade
    exact waited
  · rw [run] at unmade
    cases unmade

/-- What a new artifact changes: it is named after an identifier that was asked for, and there is an
empty file at its path. -/
structure Made (ext : Text) (artifact : Artifact) (w v : World) : Prop where
  id : ∃ u : Uuid, artifact.id = u.toText ∧ s.Drew u w v
  path : artifact.path = s.tempPath artifact.id ext
  files : FileTree.createFile w.files artifact.path = .ok v.files
  clock : v.clock = w.clock
  timers : v.timers = w.timers
  calls : v.calls = w.calls

variable {s} in
theorem made_of_newArtifact {ext : Text} {artifact : Artifact} {w v : World}
    (made : (s.newArtifact ext).run w = (.ok artifact, v)) : s.Made ext artifact w v := by
  rcases s.newArtifact_cases ext w with
    ⟨failure, u, run, -⟩ | ⟨u, x, files, ⟨drawn, pauses, -, rfl⟩, drew, created, run⟩
  · rw [run] at made
    cases made
  · rw [run] at made
    simp only [Prod.mk.injEq, Except.ok.injEq] at made
    obtain ⟨rfl, rfl⟩ := made
    constructor <;> dsimp only
    · exact ⟨u, rfl, drew⟩
    · exact created

/-! ## Deletions -/

/-- The time at which the life of an artifact that is made now is over, if it ever is. -/
def expiry (clock : Rat) : Option Rat := s.lifetime?.map (clock + ·)

/-- The world in which the deletion of an artifact is scheduled, with other files. -/
def readied (w : World) (path : FilePath) (files : Folder) : World :=
  { w with files := files, timers := w.timers ++ [⟨path, s.expiry w.clock⟩] }

section
variable (w : World) (path : FilePath) (files : Folder)

@[simp] theorem readied_files : (s.readied w path files).files = files := rfl

@[simp] theorem readied_clock : (s.readied w path files).clock = w.clock := rfl

@[simp] theorem readied_calls : (s.readied w path files).calls = w.calls := rfl

@[simp] theorem readied_drawn : (s.readied w path files).drawn = w.drawn := rfl

@[simp] theorem readied_timers :
    (s.readied w path files).timers = w.timers ++ [⟨path, s.expiry w.clock⟩] := rfl

/-- The deletion of an artifact is due when its life is over, and never if that does not end. -/
theorem run_scheduleDelete :
    (s.scheduleDelete path).run w = (.ok (), s.readied w path w.files) := rfl

end

theorem run_delete (path : FilePath) (w : World) :
    (delete path).run w =
      match FileTree.dropFile w.files path with
      | .ok files => (.ok (), { w with files := files })
      | .error (.system .notFound) => (.ok (), w)
      | .error (.system errno) =>
        (.ok (), w.logged LogLevel.debug artifactLog (lit "Could not delete " ++ path.toText ++
          lit ": " ++ (PathFault.system errno).message path))
      | .error fault => (.error (.onPath path fault), w) := rfl

/-- A world after an attempt to delete a file. -/
structure Deleted (path : FilePath) (w v : World) : Prop where
  files : FileTree.dropFile w.files path = .ok v.files ∨
    (∃ fault, FileTree.dropFile w.files path = .error fault) ∧ v.files = w.files
  clock : v.clock = w.clock
  timers : v.timers = w.timers
  calls : v.calls = w.calls
  drawn : v.drawn = w.drawn

theorem deleted_delete (path : FilePath) (w : World) : Deleted path w ((delete path).run w).2 := by
  rw [run_delete]
  cases dropped : FileTree.dropFile w.files path with
  | ok files => exact ⟨.inl dropped, rfl, rfl, rfl, rfl⟩
  | error fault =>
      have kept : ∃ fault, FileTree.dropFile w.files path = .error fault := ⟨fault, dropped⟩
      split
      · exact ⟨.inl (dropped.trans ‹_›), rfl, rfl, rfl, rfl⟩
      · exact ⟨.inr ⟨kept, rfl⟩, rfl, rfl, rfl, rfl⟩
      · exact ⟨.inr ⟨kept, by simp⟩, by simp, by simp, by simp, by simp⟩
      · exact ⟨.inr ⟨kept, rfl⟩, rfl, rfl, rfl, rfl⟩

/-- Where a path has led anywhere once, an attempt to delete its file does not fail. -/
theorem ok_delete {path : FilePath} {f : Folder} {place : Location}
    (led : FileTree.locate f path = .ok place) (w : World) : ((delete path).run w).1 = .ok () := by
  -- the text of the path is without fault, since it was followed before
  have system : ∀ fault, FileTree.dropFile w.files path = .error fault →
      ∃ errno, fault = .system errno := by
    intro fault refused
    rw [FileTree.dropFile_eq, FileTree.LeafRule.applyAt] at refused
    cases found : FileTree.locate w.files path with
    | error other =>
        simp only [found, Except.error.injEq] at refused
        subst refused
        exact FileTree.system_of_locate led found
    | ok there =>
        rw [found] at refused
        dsimp only at refused
        split at refused
        · simp only [Except.error.injEq] at refused
          exact ⟨_, refused.symm⟩
        · cases refused
  rw [run_delete]
  split
  · rfl
  · rfl
  · rfl
  · rename_i fault _ other refused
    obtain ⟨errno, rfl⟩ := system fault refused
    exact absurd rfl (other errno)

end CompileService.Service
