import CompileService.Service.Basic

/-!
# Artifacts

Scratch sources, compiled scripts and preview pages are files named after an identifier. Each has a
deletion scheduled when it is made; a file that is gone by then is no failure.

* `Service.newId`: an identifier, asked for as often as the settings allow with a pause in between.
* `Service.newArtifact`: a new empty file in the temporary directory.
* `Service.scheduleDelete`, `Service.deleteNow`: the two ways in which files go.
* `Service.advance`: moves the clock and carries out what is due, in the order of the due times.
-/

namespace CompileService.Service

/-- The name of this part of the service in the log. -/
def artifactLog : String := "playground.artifacts"

/-- The seconds, without a fraction of a nanosecond, that a pause has to stay below: the clock
counts nanoseconds in 64 bits. -/
def pauseLimit : Rat := 9223372036854775808 / 1000000000

/-- The seconds that a pause takes, if it can be made. Below zero the nanoseconds are counted up to
a rounding to 53 bits. -/
def pauseTime : Binary64 → Except PauseFault Rat
  | .nan => .error .undefined
  | .infinite _ => .error .outOfClock
  | .finite negative m e =>
    let seconds := Binary64.value negative m e
    if pauseLimit ≤ seconds ∨ seconds < -(pauseLimit + 1024 / 1000000000) then .error .outOfClock
    else if seconds < 0 then .error .negative
    else .ok seconds

/-- Makes a pause. -/
def pause (seconds : Binary64) : Action Unit := do
  let time ← Action.ofExcept ((pauseTime seconds).mapError .badPause)
  Action.modify fun w => { w with pauses := w.pauses ++ [time] }

/-- Asks the source of identifiers once. -/
def draw (s : Service) : Action Draw := fun w =>
  (.ok (s.ids w.drawn), { w with drawn := w.drawn + 1 })

/-- Asks for an identifier, and again after a pause for as long as attempts are left; `made` is the
number of the next attempt. -/
def newIdFrom (s : Service) (made : Nat) : Nat → Action Text
  | 0 => do
    match (← s.draw).id? with
    | some id => return id.toText
    | none => Action.fail (.idsExhausted made)
  | left + 1 => do
    match (← s.draw).id? with
    | some id => return id.toText
    | none =>
      pause s.settings.idRetryDelay
      newIdFrom s (made + 1) left

/-- The number of attempts at an identifier: one at least. -/
def attempts (s : Service) : Nat := max 1 s.settings.idMaxAttempts.toNat

/-- A new identifier. -/
def newId (s : Service) : Action Text := s.newIdFrom 1 (s.attempts - 1)

/-- A file named after an identifier. -/
structure Artifact where
  id : Text
  path : FilePath
deriving DecidableEq

/-- The path of a temporary file. -/
def tempPath (s : Service) (id ext : Text) : FilePath := s.tempDir.join (id ++ ext)

/-- The path of a public file. -/
def generatedPath (s : Service) (id ext : Text) : FilePath := s.genDir.join (id ++ ext)

/-- Creates an empty file in the temporary directory, under a name that is not taken. -/
def newArtifact (s : Service) (ext : Text) : Action Artifact := do
  let id ← s.newId
  let path := s.tempPath id ext
  Action.change path FileTree.createFile
  return ⟨id, path⟩

/-- Creates the directory of public files, if it is missing. -/
def ensureDirs (s : Service) : Action Unit := Action.makeDirs s.genDir

/-- Deletes a file, if it can be deleted. `label` is the path as the log shows it. -/
def deleteNow (label : Text) (path : FilePath) : Action Unit := fun w =>
  match FileTree.dropFile w.files path with
  | .ok files => (.ok (), { w with files := files })
  | .error (.system .notFound) => (.ok (), w)
  | .error (.system errno) =>
    Action.log LogLevel.debug artifactLog
      (lit "Could not delete " ++ label ++ lit ": " ++ (PathFault.system errno).message path) w
  | .error fault => (.error (.onPath path fault), w)

/-- Deletes a file of the service, if it can be deleted. -/
def delete (path : FilePath) : Action Unit := deleteNow path.toText path

/-- A delay in seconds. -/
inductive Delay where
  /-- A whole number, which counts exactly. -/
  | whole (seconds : Int)
  | number (seconds : Binary64)

/-- The longest time that a timer can wait, in seconds: it counts microseconds in the thousandth
part of 64 bits. -/
def longestWait : Rat := 9223372036854775 / 1000000

/-- The time that a timer waits. One that would have to wait longer than it can, or for ever, never
comes to its end. -/
def waited (seconds : Rat) : Option Rat := if longestWait < seconds then none else some seconds

/-- The seconds that a timer with a delay waits, if it ever comes to its end. A delay that is no
number is none, and one below zero is over at once. -/
def Delay.wait? : Delay → Option Rat
  | .whole n => waited n
  | .number .nan => some 0
  | .number (.infinite negative) => if negative then some 0 else none
  | .number (.finite negative m e) => waited (Binary64.value negative m e)

/-- Schedules a deletion. -/
def scheduleAfter (path : FilePath) (delay : Delay) : Action Unit :=
  Action.modify fun w =>
    { w with timers := w.timers ++ [⟨path, delay.wait?.map (w.clock + ·)⟩] }

/-- The seconds that an artifact lives, if its life ever ends. -/
def lifetime? (s : Service) : Option Rat := Delay.wait? (.number s.settings.artifactTtl)

/-- Schedules the deletion of an artifact at the end of its life. -/
def scheduleDelete (s : Service) (path : FilePath) : Action Unit :=
  scheduleAfter path (.number s.settings.artifactTtl)

/-- Carries out a scheduled deletion. -/
def expire (timer : Timer) : Action Unit := do
  if ← Action.ask timer.path FileTree.pathExists then
    Action.log LogLevel.debug artifactLog (lit "Expiring " ++ timer.path.toText)
    delete timer.path

/-- Carries out scheduled deletions one after the other. -/
def expireAll : List Timer → Action Unit
  | [] => pure ()
  | timer :: more => do
    expire timer
    expireAll more

/-- The deletions that are due, by due time and then by the order in which they were scheduled. -/
def dueTimers (clock : Rat) (timers : List Timer) : List Timer :=
  (timers.filter (·.isDue clock)).mergeSort Timer.isEarlier

/-- Moves the clock on and carries out the deletions that are due then; gives their paths. -/
def advance (seconds : Rat) : Action (List FilePath) := do
  Action.modify fun w => { w with clock := w.clock + seconds }
  let due ← Action.read fun w => dueTimers w.clock w.timers
  -- taken off before they are carried out: none happens twice
  Action.modify fun w => { w with timers := w.timers.filter (!·.isDue w.clock) }
  expireAll due
  return due.map (·.path)

end CompileService.Service
