import CompileService.Diagnostic.Report
import CompileService.Process.Basic
import CompileService.Validation

/-!
# Failures

What can keep a request from an answer. A failure names its cause; `Failure.message` puts it into
words, and `Failure.kind` is the word for all failures of its kind. Everything that the toolchain
does wrong is an answer and not a failure.
-/

namespace CompileService

/-- Why a pause cannot be made. -/
inductive PauseFault where
  /-- Its length is no number. -/
  | undefined
  /-- Its length is infinite, or beyond what the clock can count. -/
  | outOfClock
  | negative
deriving DecidableEq

/-- The reason in words. -/
def PauseFault.message : PauseFault → String
  | .undefined => "Invalid value NaN (not a number)"
  | .outOfClock => "timestamp out of range for platform time_t"
  | .negative => "sleep length must be non-negative"

/-- The causes of failure. -/
inductive Failure where
  /-- An operation on a path failed. -/
  | onPath (path : FilePath) (fault : PathFault)
  /-- A file is not UTF-8. -/
  | undecodable (fault : Utf8.Fault)
  /-- A text has no UTF-8 form. -/
  | unencodable (fault : Utf8.Unencodable)
  /-- A report has a line number that is no number. -/
  | badReport (fault : Report.LineFault)
  /-- The source of identifiers gave none in the given number of attempts. -/
  | idsExhausted (attempts : Nat)
  /-- A command is not valid. -/
  | invalidCommand (fault : ValidationFault)
  /-- Something was dispatched that is no command. -/
  | unhandledCommand (value : Json)
  /-- The runner failed. -/
  | crashed (crash : Crash)
  /-- A pause cannot be made. -/
  | badPause (fault : PauseFault)
  /-- A walk went down further than calls may be nested. -/
  | nestedTooDeep

/-- The message about an operation on a path. -/
def PathFault.message (path : FilePath) : PathFault → Text
  | .system errno => errno.shown ++ lit ": " ++ path.toText.quoted
  | .embeddedNul => lit "embedded null byte"
  | .unencodable u => u.message

/-- A failure in words. -/
def Failure.message : Failure → Text
  | .onPath path fault => fault.message path
  | .undecodable fault => fault.message
  | .unencodable fault => fault.message
  | .badReport fault => fault.message
  | .idsExhausted attempts =>
    lit "No unique id available after " ++ Text.ofNat attempts ++ lit " attempts"
  | .invalidCommand fault => fault.kind.message
  | .unhandledCommand value => lit "Unhandled command: " ++ value.shown
  | .crashed crash => crash.message
  | .badPause fault => lit fault.message
  | .nestedTooDeep => lit "maximum recursion depth exceeded"

/-- The kind of a fault of the system. -/
def Errno.kind : Errno → String
  | .notFound => "FileNotFoundError"
  | .permissionDenied => "PermissionError"
  | .fileExists => "FileExistsError"
  | .notDirectory => "NotADirectoryError"
  | .isDirectory => "IsADirectoryError"
  | .badExecutable | .nameTooLong | .tooManyLinks => "OSError"

/-- The kind of a failure of the runner. -/
def Crash.kind : Crash → String
  | .runtime _ => "RuntimeError"
  | .noOutputPath | .embeddedNul | .endlessLimit .nan => "ValueError"
  | .unencodable _ => "UnicodeEncodeError"
  | .undecodable _ => "UnicodeDecodeError"
  | .endlessLimit _ | .limitOutOfClock | .limitTooLong => "OverflowError"

/-- The kind of a failure. -/
def Failure.kind : Failure → String
  | .onPath _ (.system errno) => errno.kind
  | .onPath _ .embeddedNul | .badReport _ => "ValueError"
  | .badPause .undefined | .badPause .negative => "ValueError"
  | .onPath _ (.unencodable _) | .unencodable _ => "UnicodeEncodeError"
  | .undecodable _ => "UnicodeDecodeError"
  | .idsExhausted _ => "IdExhausted"
  | .invalidCommand _ => "ValidationError"
  | .unhandledCommand _ => "TypeError"
  | .crashed crash => crash.kind
  | .badPause .outOfClock => "OverflowError"
  | .nestedTooDeep => "RecursionError"

end CompileService
