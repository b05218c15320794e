import CompileService.Text.Basic

/-!
# The order of texts

Texts are in the order of their code points, which is a linear one, so sorting by a text puts the
texts in order.

* `sorted_mergeSort`: what is sorted by a text is in the order of the texts.
-/

namespace CompileService

namespace CodePoint

instance : LE CodePoint := ⟨fun a b => a.val ≤ b.val⟩

instance : Std.IsLinearOrder CodePoint where
  le_refl a := Nat.le_refl a.val
  le_trans a b c := Nat.le_trans (n := a.val)
  le_antisymm a b le ge := by
    cases a
    cases b
    congr
    exact Nat.le_antisymm le ge
  le_total a b := Nat.le_total a.val b.val

instance : Std.LawfulOrderLT CodePoint where
  lt_iff a b := by
    show a.val < b.val ↔ a.val ≤ b.val ∧ ¬ b.val ≤ a.val
    omega

end CodePoint

namespace Text

theorem le_iff {a b : Text} : le a b = true ↔ a ≤ b := decide_eq_true_iff

/-- What is sorted by a text is in the order of the texts. -/
theorem sorted_mergeSort {α : Type} (key : α → Text) (l : List α) :
    (l.mergeSort fun a b => le (key a) (key b)).Pairwise fun a b => key a ≤ key b := by
  have trans (a b c : α) (first : le (key a) (key b) = true) (second : le (key b) (key c) = true) :
      le (key a) (key c) = true := le_iff.2 (List.le_trans (le_iff.1 first) (le_iff.1 second))
  have total (a b : α) : (le (key a) (key b) || le (key b) (key a)) = true := by
    rw [Bool.or_eq_true, le_iff, le_iff]
    exact List.le_total (key a) (key b)
  exact (List.pairwise_mergeSort trans total l).imp le_iff.1

end Text

end CompileService
