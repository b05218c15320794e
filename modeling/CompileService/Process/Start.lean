import CompileService.Process.Basic
import CompileService.Text.Breaks

/-!
# Starting programs

Programs are part of the system, and so is what they do. A runner hands them their arguments as
bytes and waits for them. What they print is read as text with every line break as a line feed, and
a program that a signal ends has the negative number of the signal as its status.

* `argumentBytes`: the bytes of an argument, in which an escaped byte stands for itself.
* `waitFault?`: what keeps a runner from waiting.
* `Programs.runner`: the runner for the programs of a system.
-/

namespace CompileService

/-- The bytes of an argument. -/
def argumentBytes (t : Text) : Except Crash (List UInt8) :=
  match Utf8.firstStray? t with
  | some fault => .error (.unencodable fault)
  | none =>
    if t.any (·.val == 0) then .error .embeddedNul
    else
      .ok (t.flatMap fun c =>
        if Utf8.isEscape c then [(c.val - 0xDC00).toUInt8] else Utf8.encodePoint c)

/-- What keeps a runner from waiting for a program: a wait is a whole number of milliseconds that
has to fit the clock, which counts nanoseconds in 64 bits, and a number of 32 bits. -/
def waitFault? : Binary64 → Option Crash
  | .nan => some (.endlessLimit .nan)
  | .infinite negative => if negative then none else some (.endlessLimit (.infinite false))
  | .finite negative m e =>
    let (num, den) := Binary64.ratio m e
    if negative then none
    else if !(Binary64.ofRatio false (num * 1000) den).isFinite then
      some (.endlessLimit (.infinite false))
    else if 9223372036854 * den < num * 1000 then some .limitOutOfClock
    else if 2147483647 * den < num * 1000 then some .limitTooLong
    else none

/-- How a program comes to its end, and what it has printed. -/
inductive Finish where
  | exited (status : Nat) (output : List UInt8)
  | killed (signal : Nat) (output : List UInt8)
  /-- Its time is up before its end. -/
  | overdue

/-- The end of a program as the runner reports it. -/
def Finish.outcome : Finish → Outcome
  | .exited status output => .exited status (some (Utf8.decodeReplacing output).unifyBreaks)
  | .killed signal output =>
    .exited (-(signal : Int)) (some (Utf8.decodeReplacing output).unifyBreaks)
  | .overdue => .timedOut

/-- The programs of a system. Given a command line and the files, the system refuses to start the
program or lets it run, for as long as it may take. -/
abbrev Programs := List (List UInt8) → Folder → Except Errno (Option Binary64 → Finish × Folder)

/-- The runner that starts programs and waits for their end. -/
def Programs.runner (programs : Programs) : Runner := fun _ launch files =>
  match launch.argv.mapM argumentBytes with
  | .error crash => (.crashed crash, files)
  | .ok argv =>
    match programs argv files with
    | .error errno => (.notStarted (.system errno launch.program), files)
    | .ok program =>
      match launch.timeout.bind waitFault? with
      | some crash => (.crashed crash, files)
      | none =>
        let (finish, files) := program launch.timeout
        (finish.outcome, files)

end CompileService
