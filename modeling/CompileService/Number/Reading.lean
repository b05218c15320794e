import CompileService.Number.Binary64
import CompileService.Text.Blank
import CompileService.Text.Quoted

/-!
# Reading numbers

* `Reading.natural`: the value of a row of digit values.
* `Reading.float?`: the text of a binary64 value, as a setting may hold it: a decimal with an
  optional fraction and exponent, or a word for infinity or for an undefined number, in any case;
  an underscore may stand between two code points.
* `Reading.integer`: the text of an integer, as a setting may hold it: leading zeros, underscores
  between digits and a fraction of zeros are accepted; among leading zeros underscores may stand
  anywhere, and a minus sign may follow them.
* `Reading.numeral?`: the value of a numeral in any script.
-/

namespace CompileService.Reading

/-- The value of digits, the most significant first. -/
def natural (digits : List Nat) : Nat := digits.foldl (fun n d => 10 * n + d) 0

/-- The values of ASCII digits. -/
def asciiValues (t : Text) : List Nat := t.map fun c => c.val - 0x30

/-- The longest front of ASCII digits and what follows. -/
def spanDigits (t : Text) : Text × Text := t.span CodePoint.isAsciiDigit

/-- A sign, if there is one: whether the number is negative, and what follows. -/
def sign : Text → Bool × Text
  | c :: rest =>
    if c = CodePoint.ofChar '-' then (true, rest)
    else if c = CodePoint.ofChar '+' then (false, rest)
    else (false, c :: rest)
  | [] => (false, [])

/-- The fraction after a point, if there is one, and what follows. -/
def fraction : Text → Text × Text
  | c :: rest => if c = CodePoint.ofChar '.' then spanDigits rest else ([], c :: rest)
  | [] => ([], [])

/-- The number after `e` or `E`, which has to be there and has to end the text. -/
def exponent? : Text → Option Int
  | [] => some 0
  | c :: rest =>
    if c = CodePoint.ofChar 'e' ∨ c = CodePoint.ofChar 'E' then
      let (negative, rest) := sign rest
      let (digits, rest) := spanDigits rest
      if digits = [] ∨ rest ≠ [] then none
      else some (Binary64.signed negative (natural (asciiValues digits)))
    else none

/-- The value of a decimal: digits, a fraction, an exponent. -/
def decimal? (negative : Bool) (t : Text) : Option Binary64 :=
  let (whole, rest) := spanDigits t
  let (part, rest) := fraction rest
  if whole = [] ∧ part = [] then none
  else (exponent? rest).map fun e =>
    .ofDecimal negative (natural (asciiValues (whole ++ part))) (e - part.length)

/-- The value of a text without blanks: a decimal or a word. -/
def bareFloat? (t : Text) : Option Binary64 :=
  let (negative, body) := sign t
  let word := body.toAsciiLower
  if word = lit "inf" ∨ word = lit "infinity" then some (.infinite negative)
  else if word = lit "nan" then some .nan
  else decimal? negative body

/-- Whether every underscore of a text stands by itself and between two other code points. -/
def spacedUnderscores (t : Text) : Bool :=
  let pieces := Text.splitAt '_' t
  1 < pieces.length && pieces.all (· ≠ [])

/-- The value that a text holds between blanks, or with underscores and no blanks. -/
def float? (t : Text) : Option Binary64 :=
  match bareFloat? (t.trim CodePoint.isWhiteSpace) with
  | some x => some x
  | none =>
    if spacedUnderscores t then bareFloat? (t.filter (· ≠ CodePoint.ofChar '_')) else none

/-- Why a text is no integer. -/
inductive IntegerFault where
  | malformed
  /-- There are more digits than are read. -/
  | tooLong
deriving DecidableEq

/-- The greatest length of an integer, its sign included. -/
def integerLimit : Nat := 4300

/-- The integer that a text writes in the plain way: digits, the first of several not a zero, after
a minus sign if it is negative. What is too long is refused even where more than digits follow. -/
def plainInteger (t : Text) : Except IntegerFault Int :=
  let (negative, body) := match t with
    | c :: rest => if c = CodePoint.ofChar '-' then (true, rest) else (false, t)
    | [] => (false, [])
  let (digits, rest) := spanDigits body
  if digits = [] ∨ (digits.head? = some (CodePoint.ofChar '0') ∧ digits.length ≠ 1) then
    .error .malformed
  else if integerLimit < t.length - rest.length then .error .tooLong
  else if rest ≠ [] then .error .malformed
  else .ok (Binary64.signed negative (natural (asciiValues digits)))

/-- The text before a fraction of zeros. -/
def dropZeroFraction (t : Text) : Text :=
  match t.cut '.' with
  | (whole, some (c :: zeros)) => if (c :: zeros).all (· = CodePoint.ofChar '0') then whole else t
  | _ => t

/-- What follows the zeros and underscores at the front of a number; if nothing does, its last code
point. A minus sign may follow them. -/
def afterZeros? : Text → Option Text
  | [] => none
  | [c] => some [c]
  | c :: d :: rest =>
    if c = CodePoint.ofChar '0' ∨ c = CodePoint.ofChar '_' then afterZeros? (d :: rest)
    else some (c :: d :: rest)

/-- A number without the zeros at its front. -/
def dropZeros? (t : Text) : Option Text :=
  match t with
  | [] => none
  | c :: _ => if c.isAsciiDigit ∨ c = CodePoint.ofChar '-' then afterZeros? t else none

/-- A number in the plain way of writing: without blanks around it, a plus sign, a fraction of
zeros, zeros at its front and underscores between digits. -/
def plainForm? (t : Text) : Option Text := do
  let t := t.trim CodePoint.isWhiteSpace
  let t ← match t with
    | c :: d :: rest =>
      if c ≠ CodePoint.ofChar '+' then some t
      else if d = CodePoint.ofChar '-' then none
      else some (d :: rest)
    | _ => some t
  let t ← match dropZeroFraction t with
    | c :: rest =>
      if c = CodePoint.ofChar '-' then (dropZeros? rest).map (c :: ·) else dropZeros? (c :: rest)
    | [] => none
  return if spacedUnderscores t then t.filter (· ≠ CodePoint.ofChar '_') else t

/-- The integer that a text holds. -/
def integer (t : Text) : Except IntegerFault Int :=
  match plainInteger t with
  | .error .malformed =>
    match plainForm? t with
    | some plain => plainInteger plain
    | none => .error .malformed
  | read => read

/-! ## Numerals of every script -/

/-- A code point as ASCII: decimal digits and blanks of every script have an ASCII form. -/
def asciiForm? (c : CodePoint) : Option CodePoint :=
  if c.val < 0x7F then some c
  else if c.isBlank then some ' '
  else c.decimalValue?.map fun n => .ofNat (0x30 + n)

/-- A blank that may stand around a numeral. -/
def isNumeralBlank (c : CodePoint) : Bool := c.val = 0x20 || (0x09 ≤ c.val && c.val ≤ 0x0D)

/-- A numeral without underscores, each of which has to stand between two digits; `afterDigit` says
whether a digit stands before the text. -/
def dropGrouping? (afterDigit : Bool) : Text → Option Text
  | [] => some []
  | [c] =>
    if c = CodePoint.ofChar '_' then none else some [c]
  | c :: d :: rest =>
    if c = CodePoint.ofChar '_' then
      if afterDigit ∧ d.isAsciiDigit then dropGrouping? false (d :: rest) else none
    else (dropGrouping? c.isAsciiDigit (d :: rest)).map (c :: ·)

/-- The value of a numeral: a decimal or a word between blanks, in digits of any script, with
underscores between digits. -/
def numeral? (t : Text) : Option Binary64 := do
  let t ← t.mapM asciiForm?
  let t ← dropGrouping? false (Text.trim isNumeralBlank t)
  bareFloat? t

/-- The message about a text that is no numeral. -/
def notNumeralMessage (t : Text) : Text := lit "could not convert string to float: " ++ t.quoted

end CompileService.Reading
