/-!
# Code points and text

Source text, names and messages are sequences of Unicode code points in which a surrogate may
stand alone: a submitted program can hold one, and the service has to say where it stands instead
of losing it. `Char` excludes surrogates, so text here is a list of `CodePoint`.

* `CodePoint`: a number below `0x110000`; `CodePoint.ofChar` embeds `Char`.
* `Text`: a list of code points, compared code point by code point.
* `lit`: the text of a string constant.
* `Text.splitAt`, `Text.joinWith`: cutting at a separator and the way back.
-/

namespace CompileService

/-- A Unicode code point; surrogates are included. -/
structure CodePoint where
  /-- The number of the code point. -/
  val : Nat
  isLt : val < 0x110000 := by decide
deriving DecidableEq

namespace CodePoint

/-- A character is a code point that is not a surrogate. -/
def ofChar (c : Char) : CodePoint :=
  ⟨c.val.toNat, by
    have h := c.valid
    rcases h with h | ⟨_, h⟩ <;> omega⟩

instance : Coe Char CodePoint := ⟨ofChar⟩

/-- The code point with the given number, if there is one. -/
def ofNat? (n : Nat) : Option CodePoint :=
  if h : n < 0x110000 then some ⟨n, h⟩ else none

/-- The code point with the given number; numbers out of range give U+FFFD. -/
def ofNat (n : Nat) : CodePoint :=
  if h : n < 0x110000 then ⟨n, h⟩ else ⟨0xFFFD, by decide⟩

/-- A surrogate: a code point that no encoded text may hold. -/
def isSurrogate (c : CodePoint) : Bool := 0xD800 ≤ c.val && c.val ≤ 0xDFFF

/-- The first half of a surrogate pair. -/
def isHighSurrogate (c : CodePoint) : Bool := 0xD800 ≤ c.val && c.val ≤ 0xDBFF

instance : LT CodePoint := ⟨fun a b => a.val < b.val⟩

instance (a b : CodePoint) : Decidable (a < b) := inferInstanceAs (Decidable (a.val < b.val))

/-- One of the digits `0` to `9`. -/
def isAsciiDigit (c : CodePoint) : Bool := 0x30 ≤ c.val && c.val ≤ 0x39

/-- One of the letters `A` to `Z`. -/
def isAsciiUpper (c : CodePoint) : Bool := 0x41 ≤ c.val && c.val ≤ 0x5A

/-- One of the letters `a` to `z`. -/
def isAsciiLower (c : CodePoint) : Bool := 0x61 ≤ c.val && c.val ≤ 0x7A

/-- `A` to `Z` become small; every other code point stays. -/
def toAsciiLower (c : CodePoint) : CodePoint := if c.isAsciiUpper then ofNat (c.val + 32) else c

/-- `a` to `z` become capital; every other code point stays. -/
def toAsciiUpper (c : CodePoint) : CodePoint := if c.isAsciiLower then ofNat (c.val - 32) else c

/-- The line feed, which ends a line. -/
def lineFeed : CodePoint := '\n'

/-- The carriage return. -/
def carriageReturn : CodePoint := '\r'

end CodePoint

/-- Text is a sequence of code points. -/
abbrev Text := List CodePoint

/-- The text of a string constant. -/
def lit (s : String) : Text := s.toList.map CodePoint.ofChar

namespace Text

/-- The string of a text; a surrogate, which a string cannot hold, becomes U+FFFD. -/
def toStr (t : Text) : String :=
  String.ofList (t.map fun c => if c.isSurrogate then Char.ofNat 0xFFFD else Char.ofNat c.val)

/-- The order by code points. -/
def le (a b : Text) : Bool := decide (a ≤ b)

/-- Cuts a text at every occurrence of `sep`; there is always one more piece than separators. -/
def splitAt (sep : CodePoint) : Text → List Text
  | [] => [[]]
  | c :: rest =>
    if c = sep then [] :: splitAt sep rest
    else match splitAt sep rest with
      | [] => [[c]]
      | piece :: pieces => (c :: piece) :: pieces

/-- Puts `sep` between the pieces. -/
def joinWith (sep : Text) : List Text → Text
  | [] => []
  | [piece] => piece
  | piece :: pieces => piece ++ sep ++ joinWith sep pieces

/-- The part before the first `sep` and, if there is one, the part after it. -/
def cut (sep : CodePoint) : Text → Text × Option Text
  | [] => ([], none)
  | c :: rest =>
    if c = sep then ([], some rest)
    else let (before, after) := cut sep rest; (c :: before, after)

/-- The text without the given end, if it has that end. -/
def dropEnd? (ending t : Text) : Option Text :=
  if ending.isSuffixOf t then some (t.take (t.length - ending.length)) else none

/-- The text without the given start, if it has that start. -/
def dropStart? : Text → Text → Option Text
  | [], t => some t
  | _ :: _, [] => none
  | a :: as, b :: bs => if a = b then dropStart? as bs else none

/-- Drops the code points that satisfy `p` at both ends. -/
def trim (p : CodePoint → Bool) (t : Text) : Text :=
  ((t.dropWhile p).reverse.dropWhile p).reverse

/-- Capital ASCII letters become small. -/
def toAsciiLower (t : Text) : Text := t.map CodePoint.toAsciiLower

/-- Small ASCII letters become capital. -/
def toAsciiUpper (t : Text) : Text := t.map CodePoint.toAsciiUpper

/-- The digits of a natural number in the given base, `A` after `9` written small. -/
def ofNatBase (base n : Nat) : Text := (Nat.toDigits base n).map CodePoint.ofChar

/-- A natural number in decimal digits. -/
def ofNat (n : Nat) : Text := ofNatBase 10 n

/-- An integer in decimal digits, with a sign if it is negative. -/
def ofInt : Int → Text
  | .ofNat n => ofNat n
  | .negSucc n => CodePoint.ofChar '-' :: ofNat (n + 1)

/-- A number in the given base, filled up with zeros to at least `width` digits. -/
def padded (base width n : Nat) : Text :=
  let digits := ofNatBase base n
  List.replicate (width - digits.length) (CodePoint.ofChar '0') ++ digits

end Text

end CompileService
