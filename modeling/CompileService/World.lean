import CompileService.Failure
import CompileService.Identifier
import CompileService.Log
import CompileService.Text.Breaks

/-!
# The world of the service

Everything that a request can see or change: the file tree, the clock, the pending deletions, how
many identifiers were drawn, the processes started so far, the log and the pauses made. A request is
an `Action`: from a world it gives an answer or a failure, and in both cases the world afterwards.

The clock moves between requests only. What is pending while a process runs is kept with the record
of its start.

* `Action.guarded`: a body whose cleanup takes place however the body ends.
* `Action.ask`, `Action.change`, `Action.readText`, `Action.writeText`: files.
* `Action.log`: the log, from the root level on.
-/

namespace CompileService

/-- A deletion to come. -/
structure Timer where
  path : FilePath
  /-- The time at which it is due, in seconds. A timer without one is never due. -/
  due : Option Rat
deriving DecidableEq

namespace Timer

/-- Whether a deletion is due. -/
def isDue (clock : Rat) (timer : Timer) : Bool := timer.due.any (· ≤ clock)

/-- Whether a deletion is due before another one or at the same time; those that are never due come
last. -/
def isEarlier (a b : Timer) : Bool :=
  match a.due, b.due with
  | some x, some y => x ≤ y
  | none, some _ => false
  | _, none => true

end Timer

/-- A process that was started, and what the world was like then. -/
structure Call where
  launch : Launch
  startedAt : Rat
  files : Folder
  timers : List Timer
deriving DecidableEq

/-- The state of everything around the service. -/
structure World where
  files : Folder
  /-- The time in seconds. -/
  clock : Rat := 0
  /-- The pending deletions in the order in which they were scheduled. -/
  timers : List Timer := []
  /-- The number of requests to the source of identifiers. -/
  drawn : Nat := 0
  /-- The processes started, the first one first. -/
  calls : List Call := []
  /-- The pauses made, in seconds. -/
  pauses : List Rat := []
  /-- The records logged. -/
  records : List LogRecord := []
  /-- The level from which records are logged. -/
  logLevel : LogLevel := LogLevel.debug
deriving DecidableEq

namespace World

/-- The paths of all files below a directory, in order. -/
def filesBelow (w : World) (dir : FilePath) : List Text :=
  match FileTree.openFolder w.files dir with
  | .error _ => []
  | .ok folder =>
    ((folder.allFiles []).map fun entry =>
      FilePath.toText { dir with parts := dir.parts ++ entry.1 }).mergeSort Text.le

/-- The pending deletions by due time, and then in the order in which they were scheduled. -/
def pending (w : World) : List Timer := w.timers.mergeSort Timer.isEarlier

end World

/-- The files in a directory when a process was started, by name and text. -/
def Call.textsIn (c : Call) (dir : FilePath) : List (Text × Text) :=
  match FileTree.openFolder c.files dir with
  | .error _ => []
  | .ok folder =>
    folder.entries.filterMap fun entry =>
      match entry with
      | (name, .file content _) => some (name, Utf8.decodeReplacing content)
      | (_, .dir _) => none

/-- A computation on the world; a failure leaves the world as it is by then. -/
def Action (α : Type) := World → Except Failure α × World

namespace Action

/-- The answer of an action and the world after it. -/
def run (a : Action α) (w : World) : Except Failure α × World := a w

/-- An answer without any effect. -/
protected def pure (x : α) : Action α := fun w => (.ok x, w)

/-- One action after another; a failure of the first is a failure of both. -/
protected def bind (a : Action α) (f : α → Action β) : Action β := fun w =>
  match a w with
  | (.ok x, w) => f x w
  | (.error failure, w) => (.error failure, w)

instance : Monad Action where
  pure := Action.pure
  bind := Action.bind

@[simp] theorem run_pure (x : α) (w : World) : (pure x : Action α).run w = (.ok x, w) := rfl

/-- A sequence of two actions is run one after the other. -/
theorem run_bind (a : Action α) (f : α → Action β) (w : World) :
    (a >>= f).run w =
      match a.run w with
      | (.ok x, w) => (f x).run w
      | (.error failure, w) => (.error failure, w) := rfl

/-- A failure. -/
def fail (failure : Failure) : Action α := fun w => (.error failure, w)

/-- A part of the world. -/
def read (f : World → α) : Action α := fun w => (.ok (f w), w)

/-- A change of the world. -/
def modify (f : World → World) : Action Unit := fun w => (.ok (), f w)

/-- An answer or a failure that is known already. -/
def ofExcept (e : Except Failure α) : Action α := fun w => (e, w)

/-- The answer of an action or its failure, as an answer. -/
def attempt (a : Action α) : Action (Except Failure α) := fun w =>
  match a w with
  | (r, w) => (.ok r, w)

/-- A body and a cleanup that follows it whether the body answers or fails. The body's answer or
failure stands, unless the cleanup fails. -/
def guarded (body : Action α) (cleanup : Action Unit) : Action α := fun w =>
  match body w with
  | (r, w) =>
    match cleanup w with
    | (.ok (), w) => (r, w)
    | (.error failure, w) => (.error failure, w)

/-! ## Log -/

/-- Logs a record, if its level is high enough. -/
def log (level : LogLevel) (source : String) (message : Text) : Action Unit :=
  modify fun w =>
    if w.logLevel ≤ level then { w with records := w.records ++ [⟨level, source, message⟩] } else w

/-! ## Files -/

/-- Asks something about the files. -/
def ask (path : FilePath) (question : Folder → FilePath → Except PathFault α) : Action α := fun w =>
  match question w.files path with
  | .ok x => (.ok x, w)
  | .error fault => (.error (.onPath path fault), w)

/-- Changes the files. -/
def change (path : FilePath) (f : Folder → FilePath → Except PathFault Folder) : Action Unit :=
  fun w =>
    match f w.files path with
    | .ok files => (.ok (), { w with files := files })
    | .error fault => (.error (.onPath path fault), w)

/-- The text of a file, with every line break as a line feed. -/
def readText (path : FilePath) : Action Text := do
  let bytes ← ask path FileTree.fileContent
  match Utf8.decode bytes with
  | .ok t => return t.unifyBreaks
  | .error fault => fail (.undecodable fault)

/-- Writes a text to a file. A text without UTF-8 form leaves the file empty. -/
def writeText (path : FilePath) (t : Text) : Action Unit :=
  match Utf8.encode t with
  | .ok bytes => change path fun files p => FileTree.storeFile files p bytes
  | .error fault => do
    change path fun files p => FileTree.storeFile files p []
    fail (.unencodable fault)

/-- Creates a directory and the missing ones above it. What is created before a failure stays. -/
def makeDirs (path : FilePath) : Action Unit := fun w =>
  match FileTree.makeDirs w.files path with
  | (files, none) => (.ok (), { w with files := files })
  | (files, some (at_, fault)) => (.error (.onPath at_ fault), { w with files := files })

end Action

end CompileService
