import CompileService.Proofs.Module.Grammar
import CompileService.Proofs.Path

/-!
# Names and their files

A module name is taken apart into components, and its file is the row of the components with the
extension after the last one. Read back, the file gives the name again.

* `parts_of_check`: the components of a name that passes the test.
* `partsOf_toFile`: the parts of the file of a name.
* `ofFile_file`: the file of a name, read back, gives the name.
* `InPlace`: a file that is the file of a name.
-/

namespace CompileService.ModuleName

/-- The backslash. -/
def backslash : CodePoint := CodePoint.ofChar '\\'

/-- A code point that a component may have after its first one; the line feed is for the last
component. -/
def Inner (c : CodePoint) : Prop := isNamePoint c = true ∨ c = CodePoint.lineFeed

/-- A component of a name: a capital letter and what may follow it. -/
def Component (part : Text) : Prop :=
  ∃ c rest, part = c :: rest ∧ c.isAsciiUpper = true ∧ ∀ x ∈ rest, Inner x

/-! ## Components -/

theorem Inner.plain {c : CodePoint} (inner : Inner c) :
    c ≠ dot ∧ c ≠ FilePath.slash ∧ c ≠ backslash := by
  refine ⟨?_, ?_, ?_⟩
  all_goals
    rintro rfl
    rcases inner with point | lineFeed
    · revert point
      decide
    · revert lineFeed
      decide

theorem inner_of_upper {c : CodePoint} (upper : c.isAsciiUpper = true) : Inner c :=
  .inl (by simp [isNamePoint, upper])

theorem Component.inner {part : Text} (component : Component part) : ∀ c ∈ part, Inner c := by
  obtain ⟨c, rest, rfl, upper, inner⟩ := component
  exact List.forall_mem_cons.2 ⟨inner_of_upper upper, inner⟩

/-- An identifier is a component, and so is one with a line feed behind it. -/
theorem IsIdentifier.component {part ending : Text} (identifier : IsIdentifier part)
    (ends : ending = [] ∨ ending = [CodePoint.lineFeed]) : Component (part ++ ending) := by
  obtain ⟨c, rest, rfl, capital, follow⟩ := identifier
  refine ⟨c, rest ++ ending, rfl, isAsciiUpper_iff.2 capital, fun x mem => ?_⟩
  rcases List.mem_append.1 mem with inside | behind
  · exact .inl (isNamePoint_iff.2 (follow x inside))
  · rcases ends with rfl | rfl
    · cases behind
    · exact .inr (List.mem_singleton.1 behind)

/-- A name that passes the test is a row of components between dots. -/
theorem parts_of_check {name : Text} (checked : check name = true) :
    ∃ front last, (∀ part ∈ front, Component part) ∧ Component last ∧
      name = Text.joinWith [dot] (front ++ [last]) := by
  obtain ⟨parts, ending, nonempty, identifiers, ends, rfl⟩ := of_check checked
  obtain ⟨front, last, rfl⟩ := (List.eq_nil_or_concat parts).resolve_left nonempty
  rw [List.concat_eq_append] at identifiers ⊢
  refine ⟨front, last ++ ending, fun part mem => ?_, ?_, Text.joinWith_append_last _ _ _ _⟩
  · have alone := (identifiers part (List.mem_append_left _ mem)).component (.inl rfl)
    rwa [List.append_nil] at alone
  · exact (identifiers last (by simp)).component ends

/-! ## The file of a name -/

section
variable {ext : Text}

theorem isPart_component {part : Text} (component : Component part)
    (slash : FilePath.slash ∉ ext) : FilePath.IsPart (part ++ ext) := by
  have inner := component.inner
  obtain ⟨c, rest, rfl, upper, -⟩ := component
  refine ⟨by simp, ?_, ?_⟩
  · intro here
    have first : c = dot := (List.cons.inj here).1
    exact (inner_of_upper upper).plain.1 first
  · rw [List.mem_append, not_or]
    exact ⟨fun mem => (inner _ mem).plain.2.1 rfl, slash⟩

/-- The dots between pieces become slashes. -/
theorem map_joinWith {parts : List Text} (free : ∀ part ∈ parts, dot ∉ part) :
    (Text.joinWith [dot] parts).map (fun c => if c = dot then FilePath.slash else c) =
      Text.joinWith [FilePath.slash] parts := by
  have same : ∀ part : Text, dot ∉ part →
      part.map (fun c => if c = dot then FilePath.slash else c) = part := by
    intro part free
    have kept : ∀ c ∈ part, (if c = dot then FilePath.slash else c) = id c := by
      rintro c mem
      refine if_neg ?_
      rintro rfl
      exact free mem
    rw [List.map_congr_left kept, List.map_id]
  induction parts with
  | nil => rfl
  | cons part more ih =>
      cases more with
      | nil => exact same part (free part List.mem_cons_self)
      | cons next rest =>
          rw [Text.joinWith_cons_cons, Text.joinWith_cons_cons, List.map_append, List.map_append,
            same part (free part List.mem_cons_self),
            ih fun p mem => free p (List.mem_cons_of_mem _ mem)]
          rfl

variable {front : List Text} {last : Text}

/-- All components consist of what may stand inside one. -/
theorem inner_of_components (components : ∀ part ∈ front, Component part)
    (component : Component last) : ∀ part ∈ front ++ [last], ∀ c ∈ part, Inner c := by
  intro part mem
  rcases List.mem_append.1 mem with before | here
  · exact (components part before).inner
  · rw [List.mem_singleton.1 here]
    exact component.inner

/-- The file of a name lies below the directories of the first components, and has the extension
after the last one. -/
theorem toFile_eq (components : ∀ part ∈ front, Component part) (component : Component last) :
    toFile (Text.joinWith [dot] (front ++ [last])) ext =
      Text.joinWith [FilePath.slash] (front ++ [last ++ ext]) := by
  have free : ∀ part ∈ front ++ [last], dot ∉ part := fun part mem inside =>
    (inner_of_components components component part mem _ inside).plain.1 rfl
  rw [← Text.joinWith_append_last, ← map_joinWith free]
  rfl

theorem isPart_file (slash : FilePath.slash ∉ ext) (components : ∀ part ∈ front, Component part)
    (component : Component last) : ∀ part ∈ front ++ [last ++ ext], FilePath.IsPart part := by
  intro part mem
  rcases List.mem_append.1 mem with before | here
  · have alone := isPart_component (components part before) (List.not_mem_nil)
    rwa [List.append_nil] at alone
  · rw [List.mem_singleton.1 here]
    exact isPart_component component slash

theorem partsOf_toFile (slash : FilePath.slash ∉ ext) (components : ∀ part ∈ front, Component part)
    (component : Component last) :
    FilePath.partsOf (toFile (Text.joinWith [dot] (front ++ [last])) ext) =
      front ++ [last ++ ext] := by
  rw [toFile_eq components component,
    FilePath.partsOf_joinWith (isPart_file slash components component)]

/-! ## And back -/

theorem isUppercase_of_upper {c : CodePoint} (upper : c.isAsciiUpper = true) :
    c.isUppercase = true := by
  rw [CodePoint.isUppercase, CodePoint.inRuns, uppercaseRuns, List.any_cons, Bool.or_eq_true]
  left
  rw [CodePoint.isAsciiUpper] at upper
  rw [CodeRun.has, upper]
  simp [Nat.mod_one]

theorem startsUppercase_component {part : Text} (component : Component part) (more : Text) :
    startsUppercase (part ++ more) = true := by
  obtain ⟨c, rest, rfl, upper, -⟩ := component
  exact isUppercase_of_upper upper

theorem dropExtension_append (ext name : Text) : dropExtension ext (name ++ ext) = name := by
  unfold dropExtension
  split
  · rename_i empty
    rw [empty, List.append_nil]
  · rw [Text.dropEnd?_append, Option.getD_some]

/-- A part of the file of a name has no backslash. -/
theorem free_of_file (backslash : backslash ∉ ext) (components : ∀ part ∈ front, Component part)
    (component : Component last) :
    ModuleName.backslash ∉ Text.joinWith [FilePath.slash] (front ++ [last ++ ext]) := by
  intro inside
  rcases Text.mem_joinWith inside with same | ⟨part, mem, here⟩
  · revert same
    decide
  · rcases List.mem_append.1 mem with before | final
    · exact ((components part before).inner _ here).plain.2.2 rfl
    · rw [List.mem_singleton.1 final, List.mem_append] at here
      rcases here with point | extension
      · exact (component.inner _ point).plain.2.2 rfl
      · exact backslash extension

/-- Every part of the file of a name begins with a capital letter. -/
theorem startsUppercase_file (components : ∀ part ∈ front, Component part)
    (component : Component last) :
    ∀ part ∈ front ++ [last ++ ext], startsUppercase part = true := by
  intro part mem
  rcases List.mem_append.1 mem with before | final
  · have alone := startsUppercase_component (components part before) []
    rwa [List.append_nil] at alone
  · rw [List.mem_singleton.1 final]
    exact startsUppercase_component component ext

/-- If the parts up to some point do not satisfy a test and those from there on do, these are
kept. -/
theorem fromFirst_append {p : Text → Bool} {front back : List Text}
    (none : ∀ part ∈ front, p part = false) (all : ∀ part ∈ back, p part = true)
    (nonempty : back ≠ []) : fromFirst p (front ++ back) = back := by
  obtain ⟨part, more, rfl⟩ := List.exists_cons_of_ne_nil nonempty
  have first : p part = true := all part List.mem_cons_self
  have some : (front ++ part :: more).any p = true :=
    List.any_eq_true.2 ⟨part, by simp, first⟩
  rw [fromFirst, if_pos some, List.dropWhile_append_of_pos fun x mem => by simp [none x mem]]
  simp [List.dropWhile, first]

/-- A relative path that begins with a component. -/
theorem anchorOf_file (components : ∀ part ∈ front, Component part) (component : Component last) :
    FilePath.anchorOf (Text.joinWith [FilePath.slash] (front ++ [last ++ ext])) = .relative := by
  have begins : ∃ c rest, Text.joinWith [FilePath.slash] (front ++ [last ++ ext]) = c :: rest ∧
      c.isAsciiUpper = true := by
    cases front with
    | nil =>
        obtain ⟨c, rest, rfl, upper, -⟩ := component
        exact ⟨c, rest ++ ext, rfl, upper⟩
    | cons part more =>
        obtain ⟨c, rest, rfl, upper, -⟩ := components part List.mem_cons_self
        rw [Text.joinWith_append_singleton (List.cons_ne_nil _ _)]
        cases more with
        | nil => exact ⟨c, _, rfl, upper⟩
        | cons next others => exact ⟨c, _, rfl, upper⟩
  obtain ⟨c, rest, text, upper⟩ := begins
  rw [text]
  exact FilePath.anchorOf_cons (inner_of_upper upper).plain.2.1 rest

theorem anchorOf_toFile {name : Text} (checked : check name = true) :
    FilePath.anchorOf (toFile name ext) = .relative := by
  obtain ⟨front, last, components, component, rfl⟩ := parts_of_check checked
  rw [toFile_eq components component]
  exact anchorOf_file components component

/-- A text with slashes in place of its backslashes. -/
def slashed (t : Text) : Text := t.map fun c => if c = backslash then FilePath.slash else c

theorem slashed_of_free {t : Text} (free : backslash ∉ t) : slashed t = t := by
  have kept : ∀ c ∈ t, (if c = backslash then FilePath.slash else c) = id c := by
    rintro c mem
    refine if_neg ?_
    rintro rfl
    exact free mem
  rw [slashed, List.map_congr_left kept, List.map_id]

/-- A reading takes backslashes for slashes. -/
theorem ofFile_congr {path other : Text} (same : slashed path = slashed other) :
    ofFile path ext = ofFile other ext :=
  congrArg (fun t => dropExtension ext (Text.joinWith [dot]
    (fromFirst startsUppercase (FilePath.ofText t).allParts))) same

/-- A path whose last parts are those of the file of a name, and the first one that begins with an
uppercase letter is one of them, is read as the name. -/
theorem ofFile_of_parts {path : Text} {above : List Text}
    (parts : (FilePath.ofText (slashed path)).allParts = above ++ (front ++ [last ++ ext]))
    (lower : ∀ part ∈ above, startsUppercase part = false)
    (components : ∀ part ∈ front, Component part) (component : Component last) :
    ofFile path ext = Text.joinWith [dot] (front ++ [last]) := by
  have upper : ∀ part ∈ front ++ [last ++ ext], startsUppercase part = true :=
    startsUppercase_file components component
  have read : ofFile path ext = dropExtension ext (Text.joinWith [dot]
      (fromFirst startsUppercase (FilePath.ofText (slashed path)).allParts)) := rfl
  rw [read, parts, fromFirst_append lower upper (by simp), ← Text.joinWith_append_last,
    dropExtension_append]

/-- The file of a name, read back, gives the name. -/
theorem ofFile_file (slash : FilePath.slash ∉ ext) (backslash : backslash ∉ ext)
    (components : ∀ part ∈ front, Component part) (component : Component last) :
    ofFile (Text.joinWith [FilePath.slash] (front ++ [last ++ ext])) ext =
      Text.joinWith [dot] (front ++ [last]) := by
  have noneAbove : ∀ part ∈ ([] : List Text), startsUppercase part = false := by simp
  refine ofFile_of_parts ?_ noneAbove components component
  rw [slashed_of_free (free_of_file backslash components component), FilePath.ofText,
    FilePath.allParts]
  simp only [anchorOf_file components component, if_true]
  exact FilePath.partsOf_joinWith (isPart_file slash components component)

/-! ## Files in their place -/

/-- A file stands where the name of a module leads. -/
def InPlace (ext : Text) (file : List Text) : Prop :=
  ∃ name, check name = true ∧ FilePath.partsOf (toFile name ext) = file

/-- The name that is read off a file in its place leads to this file. -/
theorem InPlace.name {file : List Text} (slash : FilePath.slash ∉ ext)
    (backslash : ModuleName.backslash ∉ ext) (inPlace : InPlace ext file) :
    let name := ofFile (Text.joinWith [FilePath.slash] file) ext
    check name = true ∧ FilePath.partsOf (toFile name ext) = file ∧
      FilePath.anchorOf (toFile name ext) = .relative := by
  obtain ⟨name, checked, rfl⟩ := inPlace
  have relative : FilePath.anchorOf (toFile name ext) = .relative := anchorOf_toFile checked
  obtain ⟨front, last, components, component, rfl⟩ := parts_of_check checked
  rw [partsOf_toFile slash components component, ofFile_file slash backslash components component]
  exact ⟨checked, partsOf_toFile slash components component, relative⟩

end

end CompileService.ModuleName
