import CompileService.Proofs.FileTree.Leaves
import CompileService.Proofs.FileTree.Proper

/-!
# Paths that are too long

The one fault that a question about a path does not take for a no is that a name is too long. It
comes up in two ways: the path has too many bytes as a whole, or a part has too many and the parts
above it lead to a directory, so that it is looked for there.

* `Overlong`: a path that meets one of the limits, told by its parts and the directories on its way.
* `tooLong_of_part`, `part_of_tooLong`: where following parts ends at one that is too long.
* `locate_tooLong_iff`: following a path ends at a limit just if the path meets one.
* `Overlong.of_below`: what is too long in a path that goes on from a directory.
* `isFile_error_iff`, `isDirectory_error_iff`: so does asking for a file or a directory.
-/

namespace CompileService.FileTree

/-- A path meets a limit: it is too long as a whole, or one of its parts is and the parts above this
one lead to a directory. A path that the system does not take at all, for a surrogate that stands
for no byte or a U+0000, meets none. -/
def Overlong (f : Folder) (path : FilePath) : Prop :=
  path.toText.Spellable ∧ path.toText.any (·.val == 0) = false ∧
    (pathLimit < Utf8.size path.toText ∨
      ∃ above part below, path.parts = above ++ part :: below ∧ nameLimit < Utf8.size part ∧
        isDirectory f { path with parts := above } = .ok true)

variable {f : Folder} {path : FilePath}

theorem isDirectory_iff : isDirectory f path = .ok true ↔
    ∃ place, locate f path = .ok place ∧ f.look place = some .dir := by
  rw [isDirectory_eq]
  constructor
  · intro dir
    unfold answer at dir
    split at dir
    · rename_i place found
      refine ⟨place, found, ?_⟩
      cases here : f.look place with
      | none => simp [here] at dir
      | some entry => simpa [here] using dir
    · cases dir
    · cases dir
  · rintro ⟨place, found, shown⟩
    rw [answer_of_locate found, shown]
    rfl

section
variable {place : Location} {parts : List Text}

/-- A part that is too long is not followed from a directory. -/
theorem tooLong_of_part {above below : List Text} {part : Text} {reached : Location}
    (led : descend f place above = .ok reached) (dir : f.look reached = some .dir)
    (long : nameLimit < Utf8.size part) :
    descend f place (above ++ part :: below) = .error .nameTooLong := by
  have other : part ≠ FilePath.up := by
    rintro rfl
    revert long
    decide
  rw [descend_append, led]
  show descend f reached (part :: below) = .error .nameTooLong
  rw [descend_cons, dir]
  exact if_pos ⟨other, long⟩

/-- Where parts are not followed because of a limit, one is too long and those before it lead to a
directory. -/
theorem part_of_tooLong (stopped : descend f place parts = .error .nameTooLong) :
    ∃ above part below, parts = above ++ part :: below ∧ nameLimit < Utf8.size part ∧
      ∃ reached, descend f place above = .ok reached ∧ f.look reached = some .dir := by
  induction parts generalizing place with
  | nil => cases stopped
  | cons part more ih =>
      rw [descend_cons] at stopped
      cases here : f.look place with
      | none => simp [here] at stopped
      | some entry =>
          cases entry with
          | file content executable => simp [here] at stopped
          | dir =>
              simp only [here] at stopped
              split at stopped
              · rename_i long
                exact ⟨[], part, more, rfl, long.2, place, rfl, here⟩
              · rename_i fits
                obtain ⟨above, p, below, rfl, long, reached, led, dir⟩ := ih stopped
                refine ⟨part :: above, p, below, rfl, long, reached, ?_, dir⟩
                rw [descend_cons, here]
                exact (if_neg fits).trans led

end

/-- The parts of a path without fault are followed to a limit just if one of them is too long and
those above it lead to a directory. -/
theorem followed_tooLong_iff (faultless : pathFault? path = none) :
    locate f path = .error (.system .nameTooLong) ↔
      ∃ above part below, path.parts = above ++ part :: below ∧ nameLimit < Utf8.size part ∧
        isDirectory f { path with parts := above } = .ok true := by
  obtain ⟨anchor, parts⟩ := path
  have only {e : Except Errno Location} :
      e.mapError PathFault.system = .error (.system .nameTooLong) ↔ e = .error .nameTooLong := by
    cases e with
    | ok place => exact ⟨fun same => (nomatch same), fun same => (nomatch same)⟩
    | error errno =>
        show Except.error (PathFault.system errno) = _ ↔ _
        simp
  have faultless_above {above below : List Text} (whole : parts = above ++ below) :
      pathFault? ⟨anchor, above⟩ = none := faultless_of_prefix (whole ▸ faultless)
  rw [locate_eq, faultless]
  dsimp only
  rw [only]
  constructor
  · intro stopped
    obtain ⟨above, part, below, whole, long, reached, led, dir⟩ := part_of_tooLong stopped
    have found := (locate_ok_iff (faultless_above whole)).2 led
    exact ⟨above, part, below, whole, long, isDirectory_iff.2 ⟨reached, found, dir⟩⟩
  · rintro ⟨above, part, below, whole, long, isDir⟩
    obtain ⟨reached, found, dir⟩ := isDirectory_iff.1 isDir
    rw [whole]
    exact tooLong_of_part (descend_of_locate found) dir long

/-- The text of a path is too long if nothing else is wrong with it. -/
theorem pathFault?_tooLong_iff :
    pathFault? path = some (.system .nameTooLong) ↔ path.toText.Spellable ∧
      path.toText.any (·.val == 0) = false ∧ pathLimit < Utf8.size path.toText := by
  unfold pathFault?
  cases stray : Utf8.firstStray? path.toText with
  | some fault =>
      have not : ¬ path.toText.Spellable := by
        intro valid
        rw [Utf8.firstStray?_eq_none.2 valid] at stray
        cases stray
      simp [not]
  | none =>
      have valid := Utf8.firstStray?_eq_none.1 stray
      cases path.toText.any (·.val == 0) with
      | true => simp
      | false => simp [valid]

/-- Following a path ends at a limit just if the path meets one. -/
theorem locate_tooLong_iff :
    locate f path = .error (.system .nameTooLong) ↔ Overlong f path := by
  cases wrong : pathFault? path with
  | none =>
      obtain ⟨valid, noNul, short⟩ := pathFault?_eq_none.1 wrong
      rw [followed_tooLong_iff wrong, Overlong]
      simp [valid, noNul, Nat.not_lt.2 short]
  | some fault =>
      rw [locate_eq, wrong]
      constructor
      · intro stopped
        rw [Except.error.inj stopped] at wrong
        obtain ⟨valid, noNul, long⟩ := pathFault?_tooLong_iff.1 wrong
        exact ⟨valid, noNul, .inl long⟩
      · rintro ⟨valid, noNul, -⟩
        -- nothing but the length of the whole can be wrong with the text
        have long : pathLimit < Utf8.size path.toText := Nat.not_le.1 fun short => by
          rw [pathFault?_eq_none.2 ⟨valid, noNul, short⟩] at wrong
          cases wrong
        rw [pathFault?_tooLong_iff.2 ⟨valid, noNul, long⟩] at wrong
        rw [← Option.some.inj wrong]

/-- Below a directory only the parts that go on from it can be too long. -/
theorem Overlong.of_below {parts : List Text}
    (overlong : Overlong f { path with parts := path.parts ++ parts })
    (there : isDirectory f path = .ok true) :
    pathLimit < Utf8.size (FilePath.toText { path with parts := path.parts ++ parts }) ∨
      ∃ part ∈ parts, nameLimit < Utf8.size part := by
  obtain ⟨-, -, whole | ⟨above, part, below, split, long, isDir⟩⟩ := overlong
  · exact .inl whole
  refine .inr ⟨part, ?_, long⟩
  rcases List.append_eq_append_iff.1 split with ⟨more, -, rest⟩ | ⟨more, front, rest⟩
  · rw [rest]
    simp
  · cases more with
    | nil =>
        rw [← show part :: below = parts from rest]
        exact List.mem_cons_self
    | cons next others =>
        -- the part is one of the directory itself, which could not be looked at then
        obtain ⟨rfl, -⟩ := List.cons.inj rest
        obtain ⟨place, found, -⟩ := isDirectory_iff.1 there
        have stopped := (followed_tooLong_iff (faultless_of_locate found)).2
          ⟨above, part, others, front, long, isDir⟩
        rw [found] at stopped
        cases stopped

/-- A question about what is at a path has no answer just if the path meets a limit. -/
theorem answer_error_iff {question : Entry → Bool} {fault : PathFault} :
    answer question f path = .error fault ↔ fault = .system .nameTooLong ∧ Overlong f path := by
  rw [← locate_tooLong_iff, answer]
  cases locate f path with
  | ok place => simp
  | error found =>
      cases found with
      | system errno => cases errno <;> simp [eq_comm]
      | embeddedNul => simp
      | unencodable u => simp

/-- It cannot be told whether a file is there just if the path meets a limit. -/
theorem isFile_error_iff {fault : PathFault} :
    isFile f path = .error fault ↔ fault = .system .nameTooLong ∧ Overlong f path := by
  rw [isFile_eq, answer_error_iff]

/-- It cannot be told whether a directory is there just if the path meets a limit. -/
theorem isDirectory_error_iff {fault : PathFault} :
    isDirectory f path = .error fault ↔ fault = .system .nameTooLong ∧ Overlong f path := by
  rw [isDirectory_eq, answer_error_iff]

end CompileService.FileTree
