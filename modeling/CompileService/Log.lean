import CompileService.Calendar
import CompileService.Text.Capital
import CompileService.Text.Quoted

/-!
# Log

A record has a level, which is a number, the name of its source and a message. The root logger lets
records through from a level on; the level is set by name, in any case. The first setting also gives
the logger the handler that writes its lines.

* `RootLogger.setup`: sets the level, or refuses a name that is no level.
* `logLine`: a record as a line, with its date and time in UTC.
-/

namespace CompileService

/-- Importance of a log record. -/
abbrev LogLevel := Int

namespace LogLevel

def debug : LogLevel := 10
def info : LogLevel := 20
def warning : LogLevel := 30
def error : LogLevel := 40
def critical : LogLevel := 50

/-- The levels that have a name; the first name of a level is the one it is shown by. -/
def names : List (LogLevel × String) :=
  [(critical, "CRITICAL"), (critical, "FATAL"), (error, "ERROR"), (warning, "WARNING"),
    (warning, "WARN"), (info, "INFO"), (debug, "DEBUG"), (0, "NOTSET")]

/-- The level with the given name. -/
def ofName? (name : Text) : Option LogLevel :=
  (names.find? fun entry => lit entry.2 = name).map (·.1)

/-- A level as it is shown. -/
def shown (level : LogLevel) : Text :=
  match names.lookup level with
  | some name => lit name
  | none => lit "Level " ++ Text.ofInt level

end LogLevel

/-- A logged message. -/
structure LogRecord where
  level : LogLevel
  source : String
  message : Text
deriving DecidableEq

/-- The settings of logging: from which level records are let through, and how many handlers write
them. -/
structure RootLogger where
  level : LogLevel := LogLevel.warning
  handlers : Nat := 0
deriving DecidableEq

namespace RootLogger

/-- Sets the level by its name; a name that is no level is given back in capital letters. -/
def setup (logger : RootLogger) (name : Text) : Except Text RootLogger :=
  let name := name.capital
  match LogLevel.ofName? name with
  | none => .error name
  | some level => .ok { level := level, handlers := max logger.handlers 1 }

/-- Sets the level again and again, and lists the logger after each time. -/
def setups (logger : RootLogger) : List Text → Except Text (List RootLogger)
  | [] => .ok []
  | name :: more =>
    match logger.setup name with
    | .error name => .error name
    | .ok logger =>
      match logger.setups more with
      | .error name => .error name
      | .ok rest => .ok (logger :: rest)

end RootLogger

/-- The message about a name that is no level. -/
def unknownLevelMessage (name : Text) : Text := lit "Unknown level: " ++ name.quoted

/-- Why a second cannot be shown as a date and time. -/
inductive ClockFault where
  /-- The second does not fit the clock. -/
  | beyondClock
  /-- The distance of its year from 1900 does not fit the calendar. -/
  | beyondYears
  /-- Its year is too great to be written. -/
  | yearTooGreat
deriving DecidableEq

/-- The fault in words. -/
def ClockFault.message : ClockFault → String
  | .beyondClock => "timestamp out of range for platform time_t"
  | .beyondYears => "[Errno 75] Value too large for defined data type"
  | .yearTooGreat => "signed integer is greater than maximum"

/-- Whether a number fits a signed word of the given number of bits. -/
def fitsWord (bits : Nat) (n : Int) : Bool := n.bmod (Nat.pow 2 bits) = n

/-- The date and time of a whole second since 1970. Seconds have 64 bits and years have 32, counted
from 1900 while they are reckoned. The year has as many digits as it needs. -/
def timestamp (epoch : Int) : Except ClockFault Text :=
  let day := CalendarDay.ofDays (epoch.fdiv 86400)
  let second := (epoch.fmod 86400).toNat
  let two := Text.padded 10 2
  if !fitsWord 64 epoch then .error .beyondClock
  else if !fitsWord 32 (day.year - 1900) then .error .beyondYears
  else if !fitsWord 32 day.year then .error .yearTooGreat
  else .ok <| Text.ofInt day.year ++ lit "-" ++ two day.month ++ lit "-" ++ two day.day ++ lit " " ++
    two (second / 3600) ++ lit ":" ++ two (second / 60 % 60) ++ lit ":" ++ two (second % 60)

/-- A line of the log. -/
def logLine (epoch : Int) (level : LogLevel) (source message : Text) : Except ClockFault Text :=
  (timestamp epoch).map fun time =>
    time ++ lit ",000 " ++ level.shown ++ lit " [" ++ source ++ lit "] " ++ message

end CompileService
