import CompileService.Calendar
import CompileService.Number.Reading
import CompileService.Text.Quoted
import CompileService.Text.Utf8

/-!
# Moments

A date and a time of day, with an offset from UTC if one is known. `Moment.ofIso` reads the ISO 8601
notations: dates by month or by week, with and without hyphens, any one code point before the time,
and times with and without colons that may end after the hour, the minute, the second or a fraction.
`Moment.shown` writes a moment with a space between date and time, and with six digits after the
second unless they are all zero.
-/

namespace CompileService

/-- A date and a time of day. -/
structure Moment where
  year : Nat
  month : Nat
  day : Nat
  hour : Nat
  minute : Nat
  second : Nat
  microsecond : Nat
  /-- Microseconds that the time is ahead of UTC. -/
  offset : Option Int
deriving DecidableEq

namespace Moment

/-- Why a text is no moment. -/
inductive Fault where
  | malformed (t : Text)
  | noYear (year : Int)
  | noMonth
  | noDay
  | noHour
  | noMinute
  | noSecond
  /-- An offset, in microseconds, of a whole day or more. -/
  | farOffset (microseconds : Int)
deriving DecidableEq

/-- A span of time as days, seconds and microseconds; what is zero is left out. -/
def spanText (microseconds : Int) : Text :=
  let days := microseconds.fdiv 86400000000
  let rest := (microseconds.fmod 86400000000).toNat
  let part (name : String) (n : Int) := if n = 0 then [] else [lit name ++ lit "=" ++ Text.ofInt n]
  let parts := part "days" days ++ part "seconds" (rest / 1000000 : Nat) ++
    part "microseconds" (rest % 1000000 : Nat)
  lit "datetime.timedelta(" ++ Text.joinWith (lit ", ") parts ++ lit ")"

/-- The message about a text that is no moment. -/
def Fault.message : Fault → Text
  | .malformed t => lit "Invalid isoformat string: " ++ t.quoted
  | .noYear year => lit "year " ++ Text.ofInt year ++ lit " is out of range"
  | .noMonth => lit "month must be in 1..12"
  | .noDay => lit "day is out of range for month"
  | .noHour => lit "hour must be in 0..23"
  | .noMinute => lit "minute must be in 0..59"
  | .noSecond => lit "second must be in 0..59"
  | .farOffset us =>
    lit "offset must be a timedelta strictly between -timedelta(hours=24) and timedelta(hours=24), not " ++
      spanText us ++ lit "."

/-- A number of exactly so many digits, and the rest. -/
def digits? (count : Nat) (t : Text) : Option (Nat × Text) :=
  let front := t.take count
  if front.length = count ∧ front.all CodePoint.isAsciiDigit then
    some (Reading.natural (Reading.asciiValues front), t.drop count)
  else none

/-- The rest after a certain code point. -/
def after? (c : Char) : Text → Option Text
  | [] => none
  | d :: rest => if d = CodePoint.ofChar c then some rest else none

/-! ## Dates -/

/-- The length of the date at the front of a text. Where a week is followed by a hyphen and two
digits, the digits are the hour; where it is followed by digits without a hyphen, an odd number of
them begins with the weekday. -/
def dateLength (t : Text) : Nat :=
  let isDigitAt (i : Nat) := (t[i]?.map CodePoint.isAsciiDigit).getD false
  let isAt (i : Nat) (c : Char) := t[i]? = some (CodePoint.ofChar c)
  if t.length = 7 then 7
  else if isAt 4 '-' then
    if isAt 5 'W' then (if isAt 8 '-' ∧ ¬isDigitAt 10 then 10 else 8) else 10
  else if isAt 4 'W' then
    let stop := 7 + ((t.drop 7).takeWhile CodePoint.isAsciiDigit).length
    if stop < 9 then stop else if stop % 2 = 0 then 7 else 8
  else 8

/-- The day that a text names by year, week and weekday, after the year and the mark of the week;
without a weekday it is a Monday. -/
def weekDate? (year : Nat) (hyphens : Bool) (t : Text) : Option CalendarDay := do
  let (week, t) ← digits? 2 t
  if t = [] then CalendarDay.ofWeek? year week 1
  else
    let t ← if hyphens then after? '-' t else some t
    let (weekday, t) ← digits? 1 t
    if t = [] then CalendarDay.ofWeek? year week weekday else none

/-- The day that a text names. -/
def date? (t : Text) : Option CalendarDay := do
  let (year, t) ← digits? 4 t
  let (hyphens, t) := match after? '-' t with
    | some rest => (true, rest)
    | none => (false, t)
  match after? 'W' t with
  | some t => weekDate? year hyphens t
  | none =>
    let (month, t) ← digits? 2 t
    let t ← if hyphens then after? '-' t else some t
    let (day, t) ← digits? 2 t
    if t = [] then some ⟨year, month, day⟩ else none

/-! ## Times -/

/-- A time of day, or the size of an offset. -/
structure Clock where
  hour : Nat := 0
  minute : Nat := 0
  second : Nat := 0
  microsecond : Nat := 0

/-- The microseconds that digits after the second stand for; from the seventh on they are dropped. -/
def fraction? (t : Text) : Option (Nat × Text) := do
  let count := min 6 t.length
  let (n, rest) ← digits? count t
  some (n * Nat.pow 10 (6 - count), rest.dropWhile CodePoint.isAsciiDigit)

/-- Where a time goes on after one of its numbers. -/
inductive Joint where
  | number (rest : Text)
  | fraction (rest : Text)

/-- Where a time goes on. With colons, each number but the first comes after one. -/
def joint? (colons : Bool) (c : CodePoint) (rest : Text) : Option Joint :=
  if colons ∧ c = CodePoint.ofChar ':' then some (.number rest)
  else if c = CodePoint.ofChar '.' ∨ c = CodePoint.ofChar ',' then some (.fraction rest)
  else if colons then none
  else some (.number (c :: rest))

/-- A time and what is left after it. One code point may be left after its last number, and
whatever is no digit after its fraction. -/
def clock? (t : Text) : Option (Clock × Text) := do
  let (hour, t) ← digits? 2 t
  match t with
  | [] | [_] => return ({ hour := hour }, t)
  | c :: rest =>
    let colons := c = CodePoint.ofChar ':'
    match ← joint? colons c rest with
    | .fraction rest =>
      let (us, t) ← fraction? rest
      return ({ hour := hour, microsecond := us }, t)
    | .number t =>
      let (minute, t) ← digits? 2 t
      match t with
      | [] | [_] => return ({ hour := hour, minute := minute }, t)
      | c :: rest =>
        match ← joint? colons c rest with
        | .fraction rest =>
          let (us, t) ← fraction? rest
          return ({ hour := hour, minute := minute, microsecond := us }, t)
        | .number t =>
          let (second, t) ← digits? 2 t
          match t with
          | [] | [_] => return ({ hour := hour, minute := minute, second := second }, t)
          | c :: rest =>
            match ← joint? colons c rest with
            | .fraction rest | .number rest =>
              let (us, t) ← fraction? rest
              return ({ hour := hour, minute := minute, second := second, microsecond := us }, t)

/-- Whether a code point begins an offset. -/
def beginsOffset (c : CodePoint) : Bool :=
  c = CodePoint.ofChar '+' || c = CodePoint.ofChar '-' || c = CodePoint.ofChar 'Z'

/-- The offset that a text names. An offset of no whole second is none at all. -/
def offset? : Text → Option Int
  | [] => none
  | c :: rest =>
    if c = CodePoint.ofChar 'Z' then (if rest = [] then some 0 else none)
    else
      match clock? rest with
      | some (clock, []) =>
        let seconds := clock.hour * 3600 + clock.minute * 60 + clock.second
        let us := if seconds = 0 then 0 else seconds * 1000000 + clock.microsecond
        some (Binary64.signed (c = CodePoint.ofChar '-') us)
      | _ => none

/-- The time and the offset that a text names. Before an offset something may be left of the time. -/
def time? (t : Text) : Option (Clock × Option Int) :=
  let zone := t.dropWhile (!beginsOffset ·)
  match clock? (t.takeWhile (!beginsOffset ·)), zone with
  | some (clock, []), [] => some (clock, none)
  | some (clock, _), _ :: _ => (offset? zone).map fun us => (clock, some us)
  | _, _ => none

/-- The moment of a day, a time and an offset, if there is such a moment. -/
def ofParts (day : CalendarDay) (clock : Clock) (offset : Option Int) : Except Fault Moment :=
  match offset.filter fun us => 86400000000 ≤ us.natAbs with
  | some us => .error (.farOffset us)
  | none =>
    if day.year < 1 ∨ 9999 < day.year then .error (.noYear day.year)
    else if day.month < 1 ∨ 12 < day.month then .error .noMonth
    else if day.day < 1 ∨ CalendarDay.monthLength day.year day.month < day.day then .error .noDay
    else if 23 < clock.hour then .error .noHour
    else if 59 < clock.minute then .error .noMinute
    else if 59 < clock.second then .error .noSecond
    else .ok
      { year := day.year.toNat, month := day.month, day := day.day, hour := clock.hour
        minute := clock.minute, second := clock.second, microsecond := clock.microsecond
        offset := offset }

/-- Reads a date, which any one code point and a time may follow. -/
def ofIso (t : Text) : Except Fault Moment :=
  let size := dateLength t
  let parts := do
    let day ← date? (t.take size)
    match t.drop size with
    | [] => some (day, {}, none)
    | _ :: rest =>
      if rest.any CodePoint.isSurrogate then none
      else (time? rest).map fun (clock, offset) => (day, clock, offset)
  match parts with
  | none => .error (.malformed t)
  | some (day, clock, offset) => ofParts day clock offset

/-- An offset: hours and minutes, and smaller units if there are any. -/
def offsetText (us : Int) : Text :=
  let two := Text.padded 10 2
  let n := us.natAbs
  let seconds := n / 1000000
  let micro := if n % 1000000 = 0 then [] else lit "." ++ Text.padded 10 6 (n % 1000000)
  let second := if n % 60000000 = 0 then [] else lit ":" ++ two (seconds % 60) ++ micro
  lit (if us < 0 then "-" else "+") ++ two (seconds / 3600) ++ lit ":" ++ two (seconds / 60 % 60) ++
    second

/-- The text of a moment. -/
def shown (m : Moment) : Text :=
  let two := Text.padded 10 2
  let micro := if m.microsecond = 0 then [] else lit "." ++ Text.padded 10 6 m.microsecond
  let zone := (m.offset.map offsetText).getD []
  Text.padded 10 4 m.year ++ lit "-" ++ two m.month ++ lit "-" ++ two m.day ++ lit " " ++
    two m.hour ++ lit ":" ++ two m.minute ++ lit ":" ++ two m.second ++ micro ++ zone

end Moment

end CompileService
