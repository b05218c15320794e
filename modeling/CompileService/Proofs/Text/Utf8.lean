import CompileService.Preview
import CompileService.Text.Utf8

/-!
# Texts with a UTF-8 form

* `Text.Encodable`: no code point is a surrogate; just these texts have a UTF-8 form
  (`Utf8.encode_of_encodable`, `Utf8.firstSurrogate?_eq_none`). Where there is a surrogate, the first
  one is found (`Utf8.firstSurrogate?_eq_some`).
* `Text.Spellable`: the texts that can stand in a path (`Utf8.firstStray?_eq_none`).
* `Preview.encodable_render`: a page of encodable texts is encodable.
-/

namespace CompileService

/-- No code point of the text is a surrogate. -/
def Text.Encodable (t : Text) : Prop := ∀ c ∈ t, c.isSurrogate = false

/-- The text can stand in a path: its surrogates stand for bytes. -/
def Text.Spellable (t : Text) : Prop :=
  ∀ c ∈ t, c.isSurrogate = true → Utf8.isEscape c = true

namespace Text

theorem Encodable.spellable {t : Text} (valid : t.Encodable) : t.Spellable := by
  intro c mem surrogate
  rw [valid c mem] at surrogate
  cases surrogate

theorem spellable_append {a b : Text} : Spellable (a ++ b) ↔ a.Spellable ∧ b.Spellable := by
  simp [Spellable, or_imp, forall_and]

theorem encodable_append {a b : Text} : Encodable (a ++ b) ↔ a.Encodable ∧ b.Encodable := by
  simp [Encodable, or_imp, forall_and]

/-- No character is a surrogate. -/
theorem encodable_chars (cs : List Char) : Encodable (cs.map CodePoint.ofChar) := by
  intro c mem
  obtain ⟨char, -, rfl⟩ := List.mem_map.1 mem
  unfold CodePoint.isSurrogate CodePoint.ofChar
  rw [Bool.and_eq_false_iff]
  rcases char.valid with low | ⟨high, -⟩
  · exact .inl (decide_eq_false (Nat.not_le_of_lt low))
  · exact .inr (decide_eq_false (Nat.not_le_of_lt high))

theorem encodable_lit (s : String) : Encodable (lit s) := encodable_chars _

theorem encodable_flatMap {parts : List α} {f : α → Text} (h : ∀ part ∈ parts, (f part).Encodable) :
    Encodable (parts.flatMap f) := by
  intro c mem
  obtain ⟨part, inside, here⟩ := List.mem_flatMap.1 mem
  exact h part inside c here

end Text

namespace Utf8

theorem firstSurrogate?_eq_none {t : Text} : firstSurrogate? t = none ↔ t.Encodable := by
  induction t with
  | nil => simp [firstSurrogate?, Text.Encodable]
  | cons c rest ih =>
      have split : Text.Encodable (c :: rest) ↔ c.isSurrogate = false ∧ Text.Encodable rest := by
        simp [Text.Encodable]
      rw [firstSurrogate?, split, ← ih]
      cases h : c.isSurrogate <;> simp

/-- The position of the first surrogate is the number of code points before it. -/
theorem firstSurrogate?_eq_some {t : Text} {u : Unencodable} (h : firstSurrogate? t = some u) :
    ∃ (before : Text) (c : CodePoint) (rest : Text), t = before ++ c :: rest ∧ before.Encodable ∧
      c.isSurrogate = true ∧ u.position = before.length := by
  induction t generalizing u with
  | nil => cases h
  | cons c rest ih =>
      rw [firstSurrogate?] at h
      cases surrogate : c.isSurrogate with
      | true =>
          simp only [surrogate, if_true, Option.some.injEq] at h
          subst h
          exact ⟨[], c, rest, rfl, by simp [Text.Encodable], surrogate, rfl⟩
      | false =>
          simp only [surrogate, Bool.false_eq_true, if_false, Option.map_eq_some_iff] at h
          obtain ⟨later, found, rfl⟩ := h
          obtain ⟨before, c', rest', rfl, valid, isSurrogate, position⟩ := ih found
          refine ⟨c :: before, c', rest', rfl, ?_, isSurrogate, by simp [position]⟩
          exact List.forall_mem_cons.2 ⟨surrogate, valid⟩

theorem size_append (a b : Text) : size (a ++ b) = size a + size b := by
  induction a with
  | nil => simp [size]
  | cons c rest ih =>
      simp only [size, List.cons_append, List.foldr_cons] at ih ⊢
      omega

/-! ## Texts in paths -/

theorem firstStray?_eq_none {t : Text} : firstStray? t = none ↔ t.Spellable := by
  induction t with
  | nil => simp [firstStray?, Text.Spellable]
  | cons c rest ih =>
      have split : Text.Spellable (c :: rest) ↔
          (c.isSurrogate = true → isEscape c = true) ∧ Text.Spellable rest := by
        simp [Text.Spellable]
      rw [firstStray?, split, ← ih]
      cases c.isSurrogate <;> cases isEscape c <;> simp

theorem encode_of_encodable {t : Text} (h : t.Encodable) : encode t = .ok (encodeAll t) := by
  rw [encode, firstSurrogate?_eq_none.2 h]

theorem eq_encodeAll_of_encode {t : Text} {bytes : List UInt8} (h : encode t = .ok bytes) :
    bytes = encodeAll t := by
  unfold encode at h
  split at h
  · cases h
  · exact (Except.ok.inj h).symm

theorem encode_of_not_encodable {t : Text} (h : ¬ t.Encodable) :
    ∃ u, encode t = .error u ∧ firstSurrogate? t = some u := by
  unfold encode
  cases found : firstSurrogate? t with
  | none => exact absurd (firstSurrogate?_eq_none.1 found) h
  | some u => exact ⟨u, rfl, rfl⟩

end Utf8

namespace Preview

theorem encodable_pageLines {script : Text} {stylesheets scripts : List Text}
    (one : script.Encodable) (sheets : ∀ t ∈ stylesheets, t.Encodable)
    (libraries : ∀ t ∈ scripts, t.Encodable) :
    ∀ line ∈ pageLines script stylesheets scripts, line.Encodable := by
  have element : ∀ before after (t : Text), t.Encodable →
      Text.Encodable (indent ++ (lit before ++ t ++ lit after)) := by
    intro before after t valid
    simp [Text.encodable_append, indent, Text.encodable_lit, valid]
  intro line mem
  simp only [pageLines, List.mem_append, List.mem_cons, List.mem_map, List.not_mem_nil,
    or_false] at mem
  rcases mem with
    (((rfl | rfl | rfl | rfl) | ⟨href, inside, rfl⟩) | ⟨src, inside, rfl⟩) | rfl | rfl | rfl
  · exact Text.encodable_lit _
  · exact Text.encodable_lit _
  · exact Text.encodable_lit _
  · simp [Text.encodable_append, indent, Text.encodable_lit]
  · exact element _ _ href (sheets href inside)
  · rcases inside with library | rfl
    · exact element _ _ src (libraries src library)
    · exact element _ _ src one
  · exact Text.encodable_lit _
  · exact Text.encodable_lit _
  · exact Text.encodable_lit _

/-- A page of encodable texts is encodable. -/
theorem encodable_render {script : Text} {stylesheets scripts : List Text}
    (one : script.Encodable) (sheets : ∀ t ∈ stylesheets, t.Encodable)
    (libraries : ∀ t ∈ scripts, t.Encodable) : (render script stylesheets scripts).Encodable := by
  refine Text.encodable_flatMap ?_
  intro line mem
  refine Text.encodable_append.2 ⟨encodable_pageLines one sheets libraries line mem, ?_⟩
  exact Text.encodable_lit "\n"

end Preview

end CompileService
