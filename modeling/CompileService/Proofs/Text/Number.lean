import CompileService.Number.Reading
import CompileService.Text.Digit

/-!
# Digits of numbers

* `Text.foldl_ofNatBase`: the digits of a number are read as the number, in every base.
* `Text.digit_of_mem_ofNatBase`: each of them is the digit of a value below the base.
* `Text.natural_ofNat`: decimal digits by their values.
-/

namespace CompileService.Text

section
variable {base : Nat} (large : 1 < base)
include large

/-- The digits of a number are read as the number. -/
theorem foldl_ofNatBase {value : CodePoint → Nat}
    (reads : ∀ d < base, value (CodePoint.ofChar d.digitChar) = d) (n : Nat) :
    (ofNatBase base n).foldl (fun total c => base * total + value c) 0 = n := by
  induction n using Nat.strongRecOn with
  | ind n ih =>
      unfold ofNatBase
      rw [Nat.toDigits_eq_if large]
      split
      · rename_i small
        simp [reads n small]
      · -- the remainder is the last digit, and the digits of the quotient stand before it
        have positive : 0 < base := by omega
        have last := reads (n % base) (Nat.mod_lt n positive)
        have front := ih (n / base) (Nat.div_lt_self (by omega) large)
        unfold ofNatBase at front
        rw [List.map_append, List.map_singleton, List.foldl_append, front]
        simp only [List.foldl_cons, List.foldl_nil, last]
        exact Nat.div_add_mod n base

theorem digit_of_mem_ofNatBase {n : Nat} {c : CodePoint} (h : c ∈ ofNatBase base n) :
    ∃ d < base, c = CodePoint.ofChar d.digitChar := by
  induction n using Nat.strongRecOn generalizing c with
  | ind n ih =>
      unfold ofNatBase at h
      rw [Nat.toDigits_eq_if large] at h
      split at h
      · rename_i small
        exact ⟨n, small, by simpa using h⟩
      · rw [List.map_append, List.mem_append] at h
        rcases h with front | last
        · exact ih (n / base) (Nat.div_lt_self (by omega) large) front
        · exact ⟨n % base, Nat.mod_lt n (by omega), by simpa using last⟩

end

/-- Decimal digits are read as the number, value by value. -/
theorem natural_ofNat (n : Nat) :
    Reading.natural ((ofNat n).map fun c => c.decimalValue?.getD 0) = n := by
  have reads : ∀ d < 10, (CodePoint.ofChar d.digitChar).decimalValue?.getD 0 = d := by decide
  rw [Reading.natural, List.foldl_map]
  exact foldl_ofNatBase (by decide) reads n

theorem isDecimal_of_mem_ofNat {n : Nat} {c : CodePoint} (h : c ∈ ofNat n) :
    c.isDecimal = true := by
  have all : ∀ d < 10, (CodePoint.ofChar d.digitChar).isDecimal = true := by decide
  obtain ⟨d, small, rfl⟩ := digit_of_mem_ofNatBase (by decide) h
  exact all d small

end CompileService.Text
