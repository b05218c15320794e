import CompileService.Number.Binary64

/-!
# Shortest decimal text

A binary64 value is shown by the fewest digits that read back as the value; among decimals of that
length the nearest to the value is taken. `Shortest.digits` looks for it one length after the
other: on each decimal grid only the two neighbours of the value can be the answer.
`Binary64.shown` writes the digits, positionally from `1e-4` up to below `1e16` and with a two-digit
exponent elsewhere; there is always a point or an exponent.
-/

namespace CompileService

namespace Shortest

/-- The reals that round to a value, as numerators over a common denominator: the value itself and
the two ends, which belong to it if the mantissa is even. -/
structure Interval where
  low : Nat
  value : Nat
  high : Nat
  den : Nat
  closed : Bool

/-- The interval of a positive finite value. Its lower half is half as wide at a power of two. -/
def interval (mantissa : Nat) (exponent : Int) : Interval :=
  let (scale, den) := Binary64.ratio 1 (exponent - 2)
  let below := if mantissa = 0x10000000000000 ∧ -1074 < exponent then 1 else 2
  { low := (4 * mantissa - below) * scale
    value := 4 * mantissa * scale
    high := (4 * mantissa + 2) * scale
    den := den
    closed := mantissa % 2 == 0 }

/-- The decimal exponent of a positive quotient: `10 ^ e ≤ num / den < 10 ^ (e + 1)`. -/
def magnitude (num den : Nat) : Int :=
  let near : Int := Binary64.digitCount num - Binary64.digitCount den
  if reachesPower 10 num den near then near else near - 1

/-- The multiple of `10 ^ unit` that the interval holds and that is nearest to its value, if the
interval holds one: as a number of units. A tie goes to the even number. -/
def onGrid (i : Interval) (unit : Int) : Option Nat :=
  let (up, down) : Nat × Nat :=
    if 0 ≤ unit then (Nat.pow 10 unit.toNat, 1) else (1, Nat.pow 10 (-unit).toNat)
  -- a count `k` stands for `k * up / down`, which is compared with fractions over `i.den`
  let step := up * i.den
  let value := i.value * down
  let below := value / step
  let fitsBelow := if i.closed then i.low * down ≤ below * step else i.low * down < below * step
  let above := below + 1
  let fitsAbove := if i.closed then above * step ≤ i.high * down else above * step < i.high * down
  if fitsBelow ∧ fitsAbove then some (roundRatio value step)
  else if fitsBelow then some below
  else if fitsAbove then some above
  else none

/-- Tries the grids with `count`, `count + 1`, ... digits. -/
def search (i : Interval) (top : Int) : Nat → Nat → Nat × Int
  | _, 0 => (roundRatio i.value i.den, 0)
  | count, tries + 1 =>
    let unit := top - count + 1
    match onGrid i unit with
    | some n => (n, unit)
    | none => search i top (count + 1) tries

/-- The digits of a positive finite value, as `n * 10 ^ unit`. Seventeen digits always suffice. -/
def digits (mantissa : Nat) (exponent : Int) : Nat × Int :=
  let i := interval mantissa exponent
  search i (magnitude i.value i.den) 1 17

end Shortest

namespace Binary64

/-- Digits with a point after the first `before` ones, filled up with zeros on either side. -/
def positional (digits : Text) (before : Int) : Text :=
  let z : CodePoint := '0'
  if before ≤ 0 then lit "0." ++ List.replicate (-before).toNat z ++ digits
  else
    let n := before.toNat
    if digits.length ≤ n then digits ++ List.replicate (n - digits.length) z ++ lit ".0"
    else digits.take n ++ lit "." ++ digits.drop n

/-- Digits with a point after the first one and a power of ten of two digits or more. -/
def scientific (digits : Text) (exponent : Int) : Text :=
  let fraction := match digits with
    | [] => []
    | [d] => [d]
    | d :: ds => d :: lit "." ++ ds
  fraction ++ lit (if exponent < 0 then "e-" else "e+") ++ Text.padded 10 2 exponent.natAbs

/-- Digits without the zeros at their end. -/
def trimZeros (digits : Text) : Text :=
  (digits.reverse.dropWhile (· = CodePoint.ofChar '0')).reverse

/-- The text of a value. -/
def shown : Binary64 → Text
  | .nan => lit "nan"
  | .infinite negative => lit (if negative then "-inf" else "inf")
  | .finite negative m e =>
    let size :=
      if m = 0 then lit "0.0"
      else
        let (n, unit) := Shortest.digits m e
        let all := Text.ofNat n
        let exponent := unit + all.length - 1
        let digits := trimZeros all
        if -4 ≤ exponent ∧ exponent < 16 then positional digits (exponent + 1)
        else scientific digits exponent
    if negative then CodePoint.ofChar '-' :: size else size

end Binary64

end CompileService
