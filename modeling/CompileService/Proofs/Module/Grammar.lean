import CompileService.Module.Name
import CompileService.Proofs.Text.Split

/-!
# The grammar of names

A well-formed name is a row of identifiers with one dot between each two. An identifier begins with
a capital letter, and letters, digits, underscores and apostrophes may follow it.

The test of names goes through a name once and keeps nothing but where it is. It accepts what the
grammar gives, with or without one line feed behind it, and nothing else.

* `IsIdentifier`, `WellFormed`: the grammar, with its letters written out.
* `checkRest_joinWith`, `of_checkRest`: what may follow inside an identifier, both ways.
* `check_iff_wellFormed`: the names that pass.
-/

namespace CompileService.ModuleName

/-- The dot between two components. -/
abbrev dot : CodePoint := CodePoint.ofChar '.'

/-- The letters that an identifier may begin with. -/
def capitals : Text := lit "ABCDEFGHIJKLMNOPQRSTUVWXYZ"

/-- The code points that may follow in an identifier. -/
def identifierPoints : Text := capitals ++ lit "abcdefghijklmnopqrstuvwxyz0123456789_'"

/-- A capital letter and what may follow it. -/
def IsIdentifier (part : Text) : Prop :=
  ∃ c rest, part = c :: rest ∧ c ∈ capitals ∧ ∀ x ∈ rest, x ∈ identifierPoints

/-- A row of identifiers, at least one, with a dot between each two. -/
def WellFormed (name : Text) : Prop :=
  ∃ parts : List Text, parts ≠ [] ∧ (∀ part ∈ parts, IsIdentifier part) ∧
    name = Text.joinWith [dot] parts

/-! ## Letters -/

/-- Whether a test accepts just the code points of a text is settled by ASCII, if both keep to
it. -/
theorem mem_iff_of_ascii {p : CodePoint → Bool} {t : Text}
    (same : ∀ n : Fin 128, p (CodePoint.ofNat n) = true ↔ CodePoint.ofNat n ∈ t)
    (accepted : ∀ c, p c = true → c.val < 128) (held : ∀ c ∈ t, c.val < 128) (c : CodePoint) :
    p c = true ↔ c ∈ t := by
  by_cases ascii : c.val < 128
  · have here : CodePoint.ofNat c.val = c := dif_pos c.isLt
    simpa only [here] using same ⟨c.val, ascii⟩
  · exact ⟨fun yes => absurd (accepted c yes) ascii, fun mem => absurd (held c mem) ascii⟩

theorem isAsciiUpper_iff {c : CodePoint} : c.isAsciiUpper = true ↔ c ∈ capitals := by
  refine mem_iff_of_ascii (by decide +kernel) (fun c upper => ?_) (by decide) c
  simp only [CodePoint.isAsciiUpper, Bool.and_eq_true, decide_eq_true_eq] at upper
  omega

theorem isNamePoint_iff {c : CodePoint} : isNamePoint c = true ↔ c ∈ identifierPoints := by
  refine mem_iff_of_ascii (by decide +kernel) (fun c point => ?_) (by decide) c
  simp only [isNamePoint, CodePoint.isAsciiUpper, CodePoint.isAsciiLower, CodePoint.isAsciiDigit,
    Bool.or_eq_true, Bool.and_eq_true, decide_eq_true_eq, beq_iff_eq] at point
  omega

theorem ne_dot_of_isNamePoint {c : CodePoint} (point : isNamePoint c = true) : c ≠ dot := by
  rintro rfl
  revert point
  decide

/-! ## Inside an identifier -/

/-- The test goes on behind a code point of an identifier. -/
theorem checkRest_cons {c : CodePoint} (point : isNamePoint c = true) (rest : Text) :
    checkRest (c :: rest) = checkRest rest := by
  cases rest with
  | nil => simp [checkRest, point]
  | cons d more => rw [checkRest, if_neg (ne_dot_of_isNamePoint point), point, Bool.true_and]

theorem checkRest_append {front : Text} (points : ∀ c ∈ front, isNamePoint c = true)
    (rest : Text) : checkRest (front ++ rest) = checkRest rest := by
  induction front with
  | nil => rfl
  | cons c more ih =>
      obtain ⟨point, others⟩ := List.forall_mem_cons.1 points
      rw [List.cons_append, checkRest_cons point, ih others]

/-- A dot needs a capital letter behind it. -/
theorem checkRest_dot (d : CodePoint) (rest : Text) :
    checkRest (dot :: d :: rest) = (d.isAsciiUpper && checkRest rest) := by
  rw [checkRest, if_pos rfl]

/-- A text may follow inside an identifier if it goes on with this one and then has identifiers
behind dots. -/
theorem checkRest_joinWith {front ending : Text} {more : List Text}
    (points : ∀ c ∈ front, isNamePoint c = true) (identifiers : ∀ part ∈ more, IsIdentifier part)
    (ends : checkRest ending = true) :
    checkRest (Text.joinWith [dot] (front :: more) ++ ending) = true := by
  induction more generalizing front with
  | nil =>
      rw [Text.joinWith, checkRest_append points]
      exact ends
  | cons part others ih =>
      obtain ⟨⟨c, rest, rfl, capital, follow⟩, later⟩ := List.forall_mem_cons.1 identifiers
      have inside := ih (fun x mem => isNamePoint_iff.2 (follow x mem)) later
      rw [Text.joinWith_cons_cons, List.append_assoc, List.append_assoc, checkRest_append points,
        Text.joinWith_cons_left, List.singleton_append, List.cons_append, checkRest_dot,
        isAsciiUpper_iff.2 capital, inside]
      rfl

/-- What may follow inside an identifier goes on with it and then has identifiers behind dots. One
line feed may stand at the end. -/
theorem of_checkRest {t : Text} (checked : checkRest t = true) :
    ∃ front more ending, t = Text.joinWith [dot] (front :: more) ++ ending ∧
      (∀ c ∈ front, c ∈ identifierPoints) ∧ (∀ part ∈ more, IsIdentifier part) ∧
      (ending = [] ∨ ending = [CodePoint.lineFeed]) := by
  induction t using checkRest.induct with
  | case1 => exact ⟨[], [], [], rfl, by simp, by simp, .inl rfl⟩
  | case2 c =>
      rw [checkRest, Bool.or_eq_true, beq_iff_eq] at checked
      rcases checked with point | rfl
      · exact ⟨[c], [], [], rfl, by simpa using isNamePoint_iff.1 point, by simp, .inl rfl⟩
      · exact ⟨[], [], [CodePoint.lineFeed], rfl, by simp, by simp, .inr rfl⟩
  | case3 d rest ih =>
      -- behind the dot a new identifier begins
      rw [checkRest_dot, Bool.and_eq_true] at checked
      obtain ⟨front, more, ending, rfl, follow, identifiers, ends⟩ := ih checked.2
      have identifier : IsIdentifier (d :: front) :=
        ⟨d, front, rfl, isAsciiUpper_iff.1 checked.1, follow⟩
      refine ⟨[], (d :: front) :: more, ending, ?_, by simp,
        List.forall_mem_cons.2 ⟨identifier, identifiers⟩, ends⟩
      rw [Text.joinWith_cons_cons, Text.joinWith_cons_left]
      rfl
  | case4 c d rest other ih =>
      rw [checkRest, if_neg other, Bool.and_eq_true] at checked
      obtain ⟨front, more, ending, rest_eq, follow, identifiers, ends⟩ := ih checked.2
      refine ⟨c :: front, more, ending, ?_,
        List.forall_mem_cons.2 ⟨isNamePoint_iff.1 checked.1, follow⟩, identifiers, ends⟩
      rw [rest_eq, Text.joinWith_cons_left]
      rfl

/-! ## Names -/

/-- A name that passes is a row of identifiers between dots, and one line feed may stand behind
it. -/
theorem of_check {name : Text} (checked : check name = true) :
    ∃ parts ending, parts ≠ [] ∧ (∀ part ∈ parts, IsIdentifier part) ∧
      (ending = [] ∨ ending = [CodePoint.lineFeed]) ∧
      name = Text.joinWith [dot] parts ++ ending := by
  cases name with
  | nil => cases checked
  | cons c rest =>
      rw [check, Bool.and_eq_true] at checked
      obtain ⟨front, more, ending, rfl, follow, identifiers, ends⟩ := of_checkRest checked.2
      have identifier : IsIdentifier (c :: front) :=
        ⟨c, front, rfl, isAsciiUpper_iff.1 checked.1, follow⟩
      refine ⟨(c :: front) :: more, ending, List.cons_ne_nil _ _,
        List.forall_mem_cons.2 ⟨identifier, identifiers⟩, ends, ?_⟩
      rw [Text.joinWith_cons_left]
      rfl

/-- A well-formed name passes, and a line feed behind it makes no difference. -/
theorem check_of_wellFormed {name ending : Text} (wellFormed : WellFormed name)
    (ends : ending = [] ∨ ending = [CodePoint.lineFeed]) : check (name ++ ending) = true := by
  obtain ⟨parts, nonempty, identifiers, rfl⟩ := wellFormed
  obtain ⟨part, more, rfl⟩ := List.exists_cons_of_ne_nil nonempty
  obtain ⟨⟨c, rest, rfl, capital, follow⟩, others⟩ := List.forall_mem_cons.1 identifiers
  have closed : checkRest ending = true := by
    rcases ends with rfl | rfl
    · rfl
    · decide
  have inside := checkRest_joinWith (fun x mem => isNamePoint_iff.2 (follow x mem)) others closed
  rw [Text.joinWith_cons_left, List.cons_append, check, isAsciiUpper_iff.2 capital, inside]
  rfl

/-- The names that pass are the well-formed ones and those with one line feed behind them. -/
theorem check_iff_wellFormed {name : Text} :
    check name = true ↔
      WellFormed name ∨ ∃ shorter, WellFormed shorter ∧ name = shorter ++ [CodePoint.lineFeed] := by
  constructor
  · intro checked
    obtain ⟨parts, ending, nonempty, identifiers, rfl | rfl, rfl⟩ := of_check checked
    · exact .inl ⟨parts, nonempty, identifiers, List.append_nil _⟩
    · exact .inr ⟨_, ⟨parts, nonempty, identifiers, rfl⟩, rfl⟩
  · rintro (wellFormed | ⟨shorter, wellFormed, rfl⟩)
    · have passes := check_of_wellFormed wellFormed (.inl rfl)
      rwa [List.append_nil] at passes
    · exact check_of_wellFormed wellFormed (.inr rfl)

/-- A well-formed name consists of dots and what identifiers are made of. -/
theorem WellFormed.points {name : Text} (wellFormed : WellFormed name) :
    ∀ c ∈ name, c = dot ∨ c ∈ identifierPoints := by
  obtain ⟨parts, -, identifiers, rfl⟩ := wellFormed
  intro c mem
  refine (Text.mem_joinWith mem).imp_right ?_
  rintro ⟨part, among, inside⟩
  obtain ⟨d, rest, rfl, capital, follow⟩ := identifiers part among
  rcases List.mem_cons.1 inside with rfl | behind
  · exact List.mem_append_left _ capital
  · exact follow c behind

/-- A line feed behind a name is let pass, and no name has one. -/
theorem line_feed_passes :
    check (lit "Foo\n") = true ∧ ¬ WellFormed (lit "Foo\n") := by
  refine ⟨by decide, fun wellFormed => ?_⟩
  have point := wellFormed.points CodePoint.lineFeed (by decide)
  revert point
  decide

end CompileService.ModuleName
