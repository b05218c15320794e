import CompileService.Text.Digit

/-!
# Binary floating point numbers

Durations and JSON numbers with a fraction are binary64 values. They are kept as exact numbers
`± mantissa * 2 ^ exponent`, so that rounding, reading and printing are arithmetic on naturals.

* `Binary64.ofRatio` rounds a quotient of naturals to the nearest value, ties to the even mantissa.
* `Binary64.ofDecimal` rounds a decimal number `digits * 10 ^ exponent`.
* `Binary64.value` is the exact value of a finite number, as a rational.

A finite value has a mantissa below `2 ^ 53` and an exponent from `-1074` to `971`, and the mantissa
is at least `2 ^ 52` unless the exponent is `-1074`; the functions here only build such values.
-/

namespace CompileService

/-- A binary64 value. -/
inductive Binary64 where
  | nan
  | infinite (negative : Bool)
  | finite (negative : Bool) (mantissa : Nat) (exponent : Int)
deriving DecidableEq

/-- The quotient of two naturals rounded to the nearest natural, a half to the even one. -/
def roundRatio (num den : Nat) : Nat :=
  let q := num / den
  let r := num % den
  if 2 * r < den then q else if den < 2 * r then q + 1 else if q % 2 = 0 then q else q + 1

/-- Whether `num / den` is at least `base ^ e`. -/
def reachesPower (base num den : Nat) (e : Int) : Bool :=
  if 0 ≤ e then den * Nat.pow base e.toNat ≤ num else den ≤ num * Nat.pow base (-e).toNat

namespace Binary64

/-- Zero with the given sign. -/
def zero (negative : Bool) : Binary64 := .finite negative 0 (-1074)

/-- The value nearest to `num / den`. -/
def ofRatio (negative : Bool) (num den : Nat) : Binary64 :=
  if num = 0 then zero negative
  else
    let near : Int := num.log2 - den.log2
    let top := if reachesPower 2 num den near then near else near - 1
    let e := max (top - 52) (-1074)
    let m :=
      if 0 ≤ e then roundRatio num (den * Nat.pow 2 e.toNat)
      else roundRatio (num * Nat.pow 2 (-e).toNat) den
    let (m, e) := if m = 0x20000000000000 then (0x10000000000000, e + 1) else (m, e)
    if 971 < e then .infinite negative else .finite negative m e

/-- The number of decimal digits of a natural number. -/
def digitCount (n : Nat) : Nat := (Nat.toDigits 10 n).length

/-- The value nearest to `digits * 10 ^ exponent`. -/
def ofDecimal (negative : Bool) (digits : Nat) (exponent : Int) : Binary64 :=
  if digits = 0 then zero negative
  else
    let size : Int := digitCount digits + exponent
    if 400 < size then .infinite negative
    else if size < -400 then zero negative
    else if 0 ≤ exponent then ofRatio negative (digits * Nat.pow 10 exponent.toNat) 1
    else ofRatio negative digits (Nat.pow 10 (-exponent).toNat)

/-- The value nearest to an integer. -/
def ofInt (n : Int) : Binary64 := ofRatio (n < 0) n.natAbs 1

/-- Numerator and denominator of `mantissa * 2 ^ exponent`. -/
def ratio (mantissa : Nat) (exponent : Int) : Nat × Nat :=
  if 0 ≤ exponent then (mantissa * Nat.pow 2 exponent.toNat, 1) else (mantissa, Nat.pow 2 (-exponent).toNat)

/-- An integer from its sign and its size. -/
def signed (negative : Bool) (n : Nat) : Int := if negative then -(n : Int) else n

/-- The integer that a value is equal to, if it is one. -/
def toInt? : Binary64 → Option Int
  | .finite negative m e =>
    let (num, den) := ratio m e
    if num % den = 0 then some (signed negative (num / den)) else none
  | _ => none

/-- Whether a value is a number, neither infinite nor undefined. -/
def isFinite : Binary64 → Bool
  | .finite .. => true
  | _ => false

/-- The exact value of `± mantissa * 2 ^ exponent`. -/
def value (negative : Bool) (mantissa : Nat) (exponent : Int) : Rat :=
  let (num, den) := ratio mantissa exponent
  mkRat (signed negative num) den

/-- The message about a value that is near to no integer. -/
def notWholeMessage : Binary64 → Text
  | .nan => lit "cannot convert float NaN to integer"
  | _ => lit "cannot convert float infinity to integer"

end Binary64

end CompileService
