import CompileService.FileTree.Access
import CompileService.Json.Basic

/-!
# Processes

Starting a process is the one thing that this library does not do itself. A `Runner` stands for
everything outside: given how many processes were started before, what is to be started and the file
tree, it says how the process ended and what the tree is like then.
-/

namespace CompileService

/-- Why a process could not be started. -/
inductive LaunchFault where
  /-- The system refused to start the program. -/
  | system (errno : Errno) (program : Text)
  /-- A refusal given by its details: nothing, a note, or a number, a text and perhaps a program. -/
  | reported (details : List Json)

/-- The fault in words. -/
def LaunchFault.message : LaunchFault → Text
  | .system errno program => errno.shown ++ lit ": " ++ program.quoted
  | .reported [] => []
  | .reported [note] => note.plain
  | .reported (code :: text :: more) =>
    let program := match more with
      | [] | .null :: _ => []
      | program :: _ => lit ": " ++ program.shown
    lit "[Errno " ++ code.plain ++ lit "] " ++ text.plain ++ program

/-- A failure of the runner itself, which nothing in the service handles. -/
inductive Crash where
  /-- A failure at run time, given by its details. -/
  | runtime (details : List Json)
  /-- A program that is to write a file was not told which. -/
  | noOutputPath
  /-- An argument holds a code point U+0000. -/
  | embeddedNul
  /-- An argument holds a surrogate. -/
  | unencodable (fault : Utf8.Unencodable)
  /-- A file that a process reads is not UTF-8. -/
  | undecodable (fault : Utf8.Fault)
  /-- The time limit is infinite or no number. -/
  | endlessLimit (limit : Binary64)
  /-- The time limit is out of the range of the clock. -/
  | limitOutOfClock
  /-- The time limit is too long to wait for. -/
  | limitTooLong

/-- The failure in words. -/
def Crash.message : Crash → Text
  | .runtime [] => []
  | .runtime [note] => note.plain
  | .runtime details => lit "(" ++ Json.shownItems details ++ lit ")"
  | .noOutputPath => lit "'-o' is not in list"
  | .embeddedNul => lit "embedded null byte"
  | .unencodable fault => fault.message
  | .undecodable fault => fault.message
  | .endlessLimit limit => Binary64.notWholeMessage limit
  | .limitOutOfClock => lit "timestamp too large to convert to C _PyTime_t"
  | .limitTooLong => lit "timeout is too large"

/-- How a process ended. -/
inductive Outcome where
  | exited (status : Int) (output : Option Text)
  | timedOut
  | notStarted (fault : LaunchFault)
  | crashed (crash : Crash)

/-- A process to be started. -/
structure Launch where
  argv : List Text
  /-- The seconds after which it is stopped, if any. -/
  timeout : Option Binary64
deriving DecidableEq

namespace Launch

/-- The command itself. -/
def program (l : Launch) : Text := l.argv.headD []

end Launch

/-- What starting a process does, by the number of processes started before. -/
abbrev Runner := Nat → Launch → Folder → Outcome × Folder

end CompileService
