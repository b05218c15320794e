import CompileService.Identifier
import CompileService.Proofs.Text.Number

/-!
# Texts of identifiers

* `Uuid.toText_injective`: two identifiers with one text are one.
* `Uuid.point_of_mem_toText`: the text holds hyphens and hexadecimal digits only.
* `Uuid.length_toText`: it has 36 code points.
-/

namespace CompileService

namespace Uuid

/-- The value of a hexadecimal digit. -/
def hexValue (c : CodePoint) : Nat := if c.val < 0x3A then c.val - 0x30 else c.val - 0x57

/-- The value of hexadecimal digits. -/
def hexNumber (t : Text) : Nat := t.foldl (fun total c => 16 * total + hexValue c) 0

theorem hexValue_digitChar : ∀ d < 16, hexValue (CodePoint.ofChar d.digitChar) = d := by decide

/-- The digits of a number are read as the number. -/
theorem hexNumber_ofNatBase (n : Nat) : hexNumber (Text.ofNatBase 16 n) = n :=
  Text.foldl_ofNatBase (by decide) hexValue_digitChar n

theorem hexNumber_padded (width n : Nat) : hexNumber (Text.padded 16 width n) = n := by
  have zeros : ∀ count (t : Text),
      hexNumber (List.replicate count (CodePoint.ofChar '0') ++ t) = hexNumber t := by
    intro count t
    induction count with
    | zero => rfl
    | succ count ih =>
        rw [List.replicate_succ, List.cons_append, ← ih]
        rfl
  rw [Text.padded]
  exact (zeros _ _).trans (hexNumber_ofNatBase n)

/-- A hexadecimal digit, written small. -/
def IsHex (c : CodePoint) : Prop := ∃ d < 16, c = CodePoint.ofChar d.digitChar

/-- The digits of an identifier. -/
def digits (u : Uuid) : Text := Text.padded 16 32 u.val

theorem isHex_of_mem_digits {u : Uuid} {c : CodePoint} (h : c ∈ u.digits) : IsHex c := by
  rcases List.mem_append.1 h with zero | digit
  · exact ⟨0, by decide, List.eq_of_mem_replicate zero⟩
  · exact Text.digit_of_mem_ofNatBase (by decide) digit

theorem length_digits (u : Uuid) : u.digits.length = 32 := by
  have bound : (Text.ofNatBase 16 u.val).length ≤ 32 := by
    rw [Text.ofNatBase, List.length_map]
    exact (Nat.length_toDigits_le_iff (by decide) (by decide)).2 u.isLt
  simp only [digits, Text.padded, List.length_append, List.length_replicate]
  omega

/-- The digits in their groups. -/
theorem toText_eq (u : Uuid) :
    u.toText = u.digits.take 8 ++ lit "-" ++ (u.digits.drop 8).take 4 ++ lit "-" ++
      (u.digits.drop 12).take 4 ++ lit "-" ++ (u.digits.drop 16).take 4 ++ lit "-" ++
        (u.digits.drop 20).take 12 := by
  simp [toText, digits]

theorem length_toText (u : Uuid) : u.toText.length = 36 := by
  simp [toText_eq, length_digits, lit]

/-- An identifier is written with hyphens and hexadecimal digits. -/
theorem point_of_mem_toText {u : Uuid} {c : CodePoint} (h : c ∈ u.toText) :
    c = '-' ∨ IsHex c := by
  rw [toText_eq] at h
  simp only [List.mem_append, lit, String.toList, List.mem_map] at h
  have inside : ∀ {start count}, c ∈ (u.digits.drop start).take count → IsHex c :=
    fun mem => isHex_of_mem_digits (List.mem_of_mem_drop (List.mem_of_mem_take mem))
  have first : c ∈ u.digits.take 8 → IsHex c :=
    fun mem => isHex_of_mem_digits (List.mem_of_mem_take mem)
  have hyphen : (∃ a ∈ "-".toList, CodePoint.ofChar a = c) → c = '-' := by
    rintro ⟨a, mem, rfl⟩
    simp at mem
    rw [mem]
  rcases h with (((((((h | h) | h) | h) | h) | h) | h) | h) | h
  · exact .inr (first h)
  · exact .inl (hyphen h)
  · exact .inr (inside h)
  · exact .inl (hyphen h)
  · exact .inr (inside h)
  · exact .inl (hyphen h)
  · exact .inr (inside h)
  · exact .inl (hyphen h)
  · exact .inr (inside h)

/-- The text without its hyphens is the digits. -/
theorem filter_toText (u : Uuid) : u.toText.filter (· ≠ CodePoint.ofChar '-') = u.digits := by
  have keep : ∀ t : Text, (∀ c ∈ t, c ∈ u.digits) → t.filter (· ≠ CodePoint.ofChar '-') = t := by
    intro t within
    refine List.filter_eq_self.2 ?_
    intro c mem
    obtain ⟨d, small, rfl⟩ := isHex_of_mem_digits (within c mem)
    have all : ∀ d < 16, decide (CodePoint.ofChar d.digitChar ≠ CodePoint.ofChar '-') = true := by
      decide
    exact all d small
  have none : (lit "-").filter (· ≠ CodePoint.ofChar '-') = [] := by decide
  have part : ∀ start count, ((u.digits.drop start).take count).filter (· ≠ CodePoint.ofChar '-') =
      (u.digits.drop start).take count :=
    fun start count => keep _ fun c mem => List.mem_of_mem_drop (List.mem_of_mem_take mem)
  have first := part 0 8
  simp only [List.drop_zero] at first
  rw [toText_eq]
  simp only [List.filter_append, none, part, first, List.append_nil]
  have whole : u.digits.take 8 ++ (u.digits.drop 8).take 4 ++ (u.digits.drop 12).take 4 ++
      (u.digits.drop 16).take 4 ++ (u.digits.drop 20).take 12 = u.digits.take 32 := by
    simp only [← List.take_add]
  rw [whole, List.take_of_length_le (Nat.le_of_eq (length_digits u))]

/-- Two identifiers with one text are one. -/
theorem toText_injective {u v : Uuid} (h : u.toText = v.toText) : u = v := by
  -- without the hyphens the digits are left, and they are read as the value
  have same : u.digits = v.digits := by rw [← filter_toText, ← filter_toText, h]
  rcases u with ⟨n, small⟩
  rcases v with ⟨m, small'⟩
  have value : n = m := by
    rw [← hexNumber_padded 32 n, ← hexNumber_padded 32 m]
    exact congrArg hexNumber same
  subst value
  rfl

end Uuid

end CompileService
