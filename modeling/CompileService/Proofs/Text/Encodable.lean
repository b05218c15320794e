import CompileService.Number.Shortest
import CompileService.Proofs.Text.Split
import CompileService.Proofs.Text.Utf8
import CompileService.Text.Breaks
import CompileService.Text.Quoted

/-!
# Texts made of encodable texts

What the service writes by itself is encodable: numbers, quoted texts, and whatever was read from
bytes. So is every piece of an encodable text, and what is joined from such pieces.

* `Text.encodable_ofNat`, `Text.encodable_quoted`, `Binary64.encodable_shown`: what messages show.
* `Utf8.encodable_of_decode`: what bytes are read as.
* `Text.encodable_of_mem_splitAt`, `Text.encodable_joinWith`: pieces.
-/

namespace CompileService

namespace Text

variable {t : Text}

theorem encodable_nil : Encodable [] := fun c inside => by cases inside

theorem encodable_cons {c : CodePoint} :
    Encodable (c :: t) ↔ c.isSurrogate = false ∧ t.Encodable := List.forall_mem_cons

theorem encodable_singleton {c : CodePoint} : Encodable [c] ↔ c.isSurrogate = false :=
  List.forall_mem_singleton

/-- A text whose code points are all from an encodable one is encodable. -/
theorem Encodable.subset {part : Text} (h : t.Encodable) (from_ : ∀ c ∈ part, c ∈ t) :
    part.Encodable := fun c inside => h c (from_ c inside)

/-! ## Numbers -/

theorem encodable_ofNatBase (base n : Nat) : Encodable (ofNatBase base n) := encodable_chars _

theorem encodable_ofNat (n : Nat) : Encodable (ofNat n) := encodable_chars _

theorem encodable_replicate (n : Nat) {c : CodePoint} (valid : c.isSurrogate = false) :
    Encodable (List.replicate n c) := by
  intro d inside
  rw [List.eq_of_mem_replicate inside, valid]

theorem encodable_padded (base width n : Nat) : Encodable (padded base width n) :=
  encodable_append.2 ⟨encodable_replicate _ (by decide), encodable_ofNatBase base n⟩

/-! ## Quoted texts -/

/-- No surrogate is printable. -/
theorem isSurrogate_of_isPrintable {c : CodePoint} (printable : c.isPrintable = true) :
    c.isSurrogate = false := by
  have run : (⟨0xD7FC, 0xF8FF, 1⟩ : CodeRun) ∈ unprintableRuns := by decide +kernel
  rw [← Bool.not_eq_true]
  intro surrogate
  have inside : c.inRuns unprintableRuns = true := by
    refine List.any_eq_true.2 ⟨_, run, ?_⟩
    simp only [CodePoint.isSurrogate, Bool.and_eq_true, decide_eq_true_eq] at surrogate
    simp only [CodeRun.has, Nat.mod_one, beq_self_eq_true, Bool.and_true, Bool.and_eq_true,
      decide_eq_true_eq]
    omega
  rw [CodePoint.isPrintable, inside] at printable
  cases printable

theorem encodable_escapedNumber (c : CodePoint) : Encodable (escapedNumber c) := by
  unfold escapedNumber
  split
  · exact encodable_append.2 ⟨encodable_lit _, encodable_padded _ _ _⟩
  · split
    · exact encodable_append.2 ⟨encodable_lit _, encodable_padded _ _ _⟩
    · exact encodable_append.2 ⟨encodable_lit _, encodable_padded _ _ _⟩

theorem encodable_quotePoint {quote : CodePoint} (valid : quote.isSurrogate = false)
    (c : CodePoint) : Encodable (quotePoint quote c) := by
  have backslash : (CodePoint.ofChar '\\').isSurrogate = false := by decide
  fun_cases quotePoint quote c
  case case1 marked =>
    refine encodable_cons.2 ⟨backslash, encodable_singleton.2 ?_⟩
    rcases marked with rfl | rfl
    · exact valid
    · exact backslash
  case case5 printable => exact encodable_singleton.2 (isSurrogate_of_isPrintable printable)
  case case6 => exact encodable_escapedNumber c
  all_goals exact encodable_lit _

/-- A quoted text shows a surrogate by its number. -/
theorem encodable_quoted (t : Text) : t.quoted.Encodable := by
  have quote : (quoteFor t).isSurrogate = false := by
    unfold quoteFor
    split
    · decide
    · decide
  have inner : Encodable (t.flatMap (quotePoint (quoteFor t))) :=
    encodable_flatMap fun c _ => encodable_quotePoint quote c
  exact encodable_cons.2 ⟨quote, encodable_append.2 ⟨inner, encodable_singleton.2 quote⟩⟩

/-! ## Pieces -/

theorem encodable_of_mem_splitAt {sep : CodePoint} {piece : Text} (h : t.Encodable)
    (mem : piece ∈ splitAt sep t) : piece.Encodable := by
  refine h.subset fun c inside => ?_
  rw [← joinWith_splitAt sep t]
  exact mem_joinWith_of_mem mem inside

theorem encodable_joinWith {sep : CodePoint} {pieces : List Text} (valid : sep.isSurrogate = false)
    (all : ∀ piece ∈ pieces, piece.Encodable) : Encodable (joinWith [sep] pieces) := by
  intro c inside
  rcases mem_joinWith inside with rfl | ⟨piece, mem, here⟩
  · exact valid
  · exact all piece mem c here

theorem encodable_unifyBreaks (h : t.Encodable) : t.unifyBreaks.Encodable := by
  have lineFeed : CodePoint.lineFeed.isSurrogate = false := by decide
  induction t using unifyBreaks.induct with
  | case1 => exact h
  | case2 => exact encodable_singleton.2 lineFeed
  | case3 c other =>
      rw [unifyBreaks, if_neg other]
      exact h
  | case4 rest ih =>
      rw [unifyBreaks, if_pos rfl, if_pos rfl]
      exact encodable_cons.2 ⟨lineFeed, ih (encodable_cons.1 (encodable_cons.1 h).2).2⟩
  | case5 d rest other ih =>
      rw [unifyBreaks, if_pos rfl, if_neg other]
      exact encodable_cons.2 ⟨lineFeed, ih (encodable_cons.1 h).2⟩
  | case6 c d rest other ih =>
      rw [unifyBreaks, if_neg other]
      exact encodable_cons.2 ⟨(encodable_cons.1 h).1, ih (encodable_cons.1 h).2⟩

end Text

/-! ## Values -/

namespace Binary64

theorem encodable_positional {digits : Text} (valid : digits.Encodable) (before : Int) :
    (positional digits before).Encodable := by
  have zeros : ∀ n, Text.Encodable (List.replicate n (CodePoint.ofChar '0')) := fun n =>
    Text.encodable_replicate n (by decide)
  unfold positional
  dsimp only
  split
  · simp [Text.encodable_append, Text.encodable_lit, zeros, valid]
  · split
    · simp [Text.encodable_append, Text.encodable_lit, zeros, valid]
    · have front : Text.Encodable (digits.take before.toNat) :=
        valid.subset fun c => List.mem_of_mem_take
      have back : Text.Encodable (digits.drop before.toNat) :=
        valid.subset fun c => List.mem_of_mem_drop
      simp [Text.encodable_append, Text.encodable_lit, front, back]

theorem encodable_scientific {digits : Text} (valid : digits.Encodable) (exponent : Int) :
    (scientific digits exponent).Encodable := by
  have power := Text.encodable_padded 10 2 exponent.natAbs
  unfold scientific
  refine Text.encodable_append.2 ⟨Text.encodable_append.2 ⟨?_, Text.encodable_lit _⟩, power⟩
  split
  · exact valid
  · exact valid
  · obtain ⟨first, more⟩ := Text.encodable_cons.1 valid
    exact Text.encodable_cons.2 ⟨first, Text.encodable_append.2 ⟨Text.encodable_lit _, more⟩⟩

theorem encodable_shown (x : Binary64) : x.shown.Encodable := by
  have signed : ∀ (negative : Bool) {size : Text}, size.Encodable →
      Text.Encodable (if negative then CodePoint.ofChar '-' :: size else size) := by
    intro negative size valid
    split
    · exact Text.encodable_cons.2 ⟨by decide, valid⟩
    · exact valid
  have trimmed : ∀ n, Text.Encodable (trimZeros (Text.ofNat n)) := by
    intro n
    refine (Text.encodable_ofNat n).subset fun c inside => ?_
    rw [trimZeros, List.mem_reverse] at inside
    exact List.mem_reverse.1 ((List.dropWhile_sublist _).subset inside)
  cases x with
  | nan => exact Text.encodable_lit _
  | infinite negative => exact Text.encodable_lit _
  | finite negative m e =>
      refine signed negative ?_
      split
      · exact Text.encodable_lit _
      · dsimp only
        split
        · exact encodable_positional (trimmed _) _
        · exact encodable_scientific (trimmed _) _

end Binary64

namespace Utf8

theorem val_ofNat (n : Nat) : (CodePoint.ofNat n).val = n ∨ (CodePoint.ofNat n).val = 0xFFFD := by
  unfold CodePoint.ofNat
  split
  · exact .inl rfl
  · exact .inr rfl

/-- A number is no surrogate if it lies below them or above. -/
theorem isSurrogate_ofNat {n : Nat} (outside : n < 0xD800 ∨ 0xDFFF < n) :
    (CodePoint.ofNat n).isSurrogate = false := by
  rw [← Bool.not_eq_true]
  intro surrogate
  simp only [CodePoint.isSurrogate, Bool.and_eq_true, decide_eq_true_eq] at surrogate
  rcases val_ofNat n with same | same <;> omega

/-- After 0xED a second byte stays below what would lead to the surrogates, and after 0xF0 above what
fewer bytes can write. -/
theorem second_of_mayFollow {first second : UInt8} (follows : mayFollow first second = true) :
    0x80 ≤ second.toNat ∧ second.toNat ≤ 0xBF ∧
      (first.toNat = 0xED → second.toNat < 0xA0) ∧ (first.toNat = 0xF0 → 0x90 ≤ second.toNat) := by
  simp only [mayFollow, isContinuation, Bool.and_eq_true, decide_eq_true_eq, Bool.not_eq_true',
    Bool.and_eq_false_iff, beq_eq_false_iff_ne, ne_eq, decide_eq_false_iff_not,
    UInt8.le_iff_toNat_le, UInt8.lt_iff_toNat_lt, ← UInt8.toNat_inj] at follows
  simp only [UInt8.reduceToNat] at follows
  omega

/-- No bytes are read as a surrogate: the second byte of an encoding keeps it from being one. -/
theorem isSurrogate_of_front {b : UInt8} {rest : List UInt8} {c : CodePoint} {used : Nat}
    (point : front b rest = .point c used) : c.isSurrogate = false := by
  revert point
  fun_cases front b rest
  all_goals
    intro point
    cases point
  case case1 ascii =>
    have low : b.toNat < 0x80 := ascii
    exact isSurrogate_ofNat (.inl (by omega))
  case case5 large start second tail follows short =>
    -- two bytes write numbers below 0x800
    exact isSurrogate_ofNat (.inl (by unfold payload; omega))
  case case8 large start second follows long third tail more short =>
    obtain ⟨_, _, notSurrogate, _⟩ := second_of_mayFollow (by simpa using follows)
    have low : b.toNat < 0xF0 := short
    have high : ¬ b.toNat < 0xE0 := long
    -- the surrogates are the numbers after 0xED with a second byte from 0xA0 on
    refine isSurrogate_ofNat ?_
    unfold payload
    omega
  case case11 large start second follows long third more longest fourth tail last =>
    obtain ⟨_, _, _, notShorter⟩ := second_of_mayFollow (by simpa using follows)
    have high : ¬ b.toNat < 0xF0 := longest
    have top : ¬ (b.toNat < 0xC2 ∨ 0xF5 ≤ b.toNat) := start
    -- four bytes write numbers from 0x10000 on
    refine isSurrogate_ofNat (.inr ?_)
    unfold payload
    omega

theorem encodable_of_decodeFrom {offset : Nat} {bytes : List UInt8} {t : Text}
    (decoded : decodeFrom offset bytes = .ok t) : t.Encodable := by
  induction offset, bytes using decodeFrom.induct generalizing t with
  | case1 offset =>
      rw [decodeFrom] at decoded
      cases decoded
      exact Text.encodable_nil
  | case2 offset b rest kind used fault =>
      rw [decodeFrom, fault] at decoded
      cases decoded
  | case3 offset b rest c used point more behind ih =>
      rw [decodeFrom, point] at decoded
      simp only [behind, Except.ok.injEq] at decoded
      subst t
      exact Text.encodable_cons.2 ⟨isSurrogate_of_front point, ih behind⟩
  | case4 offset b rest c used point fault behind _ =>
      rw [decodeFrom, point] at decoded
      simp only [behind] at decoded
      cases decoded

theorem encodable_of_decode {bytes : List UInt8} {t : Text} (decoded : decode bytes = .ok t) :
    t.Encodable := encodable_of_decodeFrom decoded

end Utf8

end CompileService
