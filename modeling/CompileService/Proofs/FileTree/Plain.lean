import CompileService.Proofs.FileTree.Operations
import CompileService.Proofs.Text.Split
import CompileService.Proofs.Text.Utf8

/-!
# Plain paths

A path is plain if it has no `..` and no part that is too long: then it leads to the place with its
own parts or nowhere.

* `descend_of_dirs`, `descend_of_missing`, `descend_of_file`: following plain parts.
* `Sound`: a plain path that nothing is wrong with. `locate_sound`: where it leads.
* `isDirectory_congr`: whether a plain path is a directory depends on the place with its parts
  alone.
-/

namespace CompileService

/-- No part leads back up, and none is too long to be a name. -/
def FileTree.PlainParts (parts : List Text) : Prop :=
  ∀ part ∈ parts, part ≠ FilePath.up ∧ Utf8.size part ≤ FileTree.nameLimit

/-- A path that names each of its places by the parts. -/
def FilePath.Plain (path : FilePath) : Prop := FileTree.PlainParts path.parts

namespace FileTree

/-! ## Plain paths -/

theorem PlainParts.noUp {parts : List Text} (plain : PlainParts parts) : FilePath.up ∉ parts :=
  fun mem => (plain _ mem).1 rfl

section
variable {f : Folder} {place : Location} {parts : List Text}

theorem descend_cons_plain {part : Text} (plain : PlainParts (part :: parts)) :
    descend f place (part :: parts) =
      match f.look place with
      | none => .error .notFound
      | some (.file ..) => .error .notDirectory
      | some .dir => descend f (place ++ [part]) parts := by
  obtain ⟨name, short⟩ := plain part List.mem_cons_self
  have fits : ¬ (part ≠ FilePath.up ∧ nameLimit < Utf8.size part) :=
    fun both => Nat.not_lt.2 short both.2
  rw [descend_cons, onward, if_neg name]
  cases f.look place with
  | none => rfl
  | some entry =>
      cases entry with
      | file content executable => rfl
      | dir => exact if_neg fits

theorem passed_cons_plain {part : Text} (plain : PlainParts (part :: parts)) :
    passed place (part :: parts) = place :: passed (place ++ [part]) parts := by
  rw [passed, onward, if_neg (plain part List.mem_cons_self).1]

theorem descend_of_dirs (plain : PlainParts parts)
    (dirs : ∀ t ∈ passed place parts, f.look t = some .dir) :
    descend f place parts = .ok (place ++ parts) := by
  induction parts generalizing place with
  | nil => simp [descend]
  | cons part more ih =>
      rw [passed_cons_plain plain] at dirs
      have rest : PlainParts more := fun p mem => plain p (List.mem_cons_of_mem _ mem)
      rw [descend_cons_plain plain, dirs place List.mem_cons_self]
      simpa using ih rest fun t mem => dirs t (List.mem_cons_of_mem _ mem)

theorem descend_of_missing (plain : PlainParts parts)
    (clear : ∀ t ∈ passed place parts, ¬ f.FileAt t)
    (missing : ∃ t ∈ passed place parts, f.look t ≠ some .dir) :
    descend f place parts = .error .notFound := by
  induction parts generalizing place with
  | nil => simp [passed] at missing
  | cons part more ih =>
      rw [passed_cons_plain plain] at clear missing
      have rest : PlainParts more := fun p mem => plain p (List.mem_cons_of_mem _ mem)
      rw [descend_cons_plain plain]
      cases here : f.look place with
      | none => rfl
      | some entry =>
          cases entry with
          | file content executable =>
              exact absurd ⟨content, executable, here⟩ (clear place List.mem_cons_self)
          | dir =>
              refine ih rest (fun t mem => clear t (List.mem_cons_of_mem _ mem)) ?_
              obtain ⟨t, mem, other⟩ := missing
              rcases List.mem_cons.1 mem with rfl | later
              · exact absurd here other
              · exact ⟨t, later, other⟩

theorem descend_of_file (plain : PlainParts parts)
    (file : ∃ t ∈ passed place parts, f.FileAt t) :
    descend f place parts = .error .notDirectory := by
  induction parts generalizing place with
  | nil => simp [passed] at file
  | cons part more ih =>
      rw [passed_cons_plain plain] at file
      have rest : PlainParts more := fun p mem => plain p (List.mem_cons_of_mem _ mem)
      rw [descend_cons_plain plain]
      obtain ⟨t, mem, content, executable, shown⟩ := file
      cases here : f.look place with
      | none =>
          -- below nothing there is no file
          rcases List.mem_cons.1 mem with rfl | later
          · simp [here] at shown
          · obtain ⟨⟨more, rfl⟩, -⟩ := prefix_of_passed rest.noUp later
            have none : f.look (place ++ ([part] ++ more)) = none :=
              Folder.look_append_of_not_dir (by simp [here]) (by simp)
            rw [List.append_assoc, none] at shown
            cases shown
      | some entry =>
          cases entry with
          | file content executable => rfl
          | dir =>
              refine ih rest ?_
              rcases List.mem_cons.1 mem with rfl | later
              · simp [here] at shown
              · exact ⟨t, later, content, executable, shown⟩

end

/-- No file stands at a location or above it. -/
def Clear (f : Folder) (place : Location) : Prop := ∀ t, t <+: place → ¬ f.FileAt t

/-- A plain path that nothing is wrong with. -/
structure Sound (path : FilePath) : Prop where
  plain : path.Plain
  faultless : pathFault? path = none

/-- Where a plain path leads depends on what the tree shows only if the path is sound. -/
theorem sound_or_faulty {path : FilePath} (plain : path.Plain) :
    Sound path ∨ ∃ fault, pathFault? path = some fault := by
  cases wrong : pathFault? path with
  | none => exact .inl ⟨plain, wrong⟩
  | some fault => exact .inr ⟨fault, rfl⟩

section
variable {path : FilePath} {fault : PathFault}

/-- A faulty path is refused in all trees alike. -/
theorem locate_of_faulty (faulty : pathFault? path = some fault) (f : Folder) :
    locate f path = .error fault := by
  rw [locate_eq, faulty]

theorem isDirectory_of_faulty (faulty : pathFault? path = some fault) (f g : Folder) :
    isDirectory f path = isDirectory g path := by
  rw [isDirectory_eq, isDirectory_eq]
  unfold answer
  rw [locate_of_faulty faulty f, locate_of_faulty faulty g]
  cases fault with
  | system errno => cases errno <;> rfl
  | _ => rfl

end

section
variable {f : Folder} {path : FilePath}

theorem locate_of_sound (sound : Sound path) :
    locate f path = (descend f [] path.parts).mapError .system := by
  rw [locate_eq, sound.faultless]

/-- Above a place that shows something a sound path goes through directories. -/
theorem locate_of_look (sound : Sound path) (there : f.look path.parts ≠ none) :
    locate f path = .ok path.parts := by
  have dirs : ∀ t ∈ passed [] path.parts, f.look t = some .dir := by
    intro t mem
    obtain ⟨-, before, proper⟩ := prefix_of_passed sound.plain.noUp mem
    exact Folder.look_dir_of_prefix there (by simpa using before) (by simpa using proper)
  rw [locate_of_sound sound, descend_of_dirs sound.plain dirs]
  rfl

/-- Where a sound path is refused, nothing stands at its place. -/
theorem look_of_refused (sound : Sound path) {fault : PathFault}
    (refused : locate f path = .error fault) : f.look path.parts = none := by
  cases here : f.look path.parts with
  | none => rfl
  | some entry =>
      rw [locate_of_look sound (by simp [here])] at refused
      cases refused

theorem proper_of_passed (sound : Sound path) {t : Location} (mem : t ∈ passed [] path.parts) :
    t <+: path.parts ∧ t ≠ path.parts := by
  obtain ⟨-, before, proper⟩ := prefix_of_passed sound.plain.noUp mem
  exact ⟨by simpa using before, by simpa using proper⟩

/-- A sound path leads to the place with its parts, or something above that is missing, or a file
stands above it. -/
theorem locate_sound (sound : Sound path) :
    locate f path = .ok path.parts ∨
      locate f path = .error (.system .notFound) ∧ Clear f path.parts ∨
      locate f path = .error (.system .notDirectory) ∧ ¬ Clear f path.parts := by
  rw [locate_of_sound sound]
  by_cases dirs : ∀ t ∈ passed [] path.parts, f.look t = some .dir
  · rw [descend_of_dirs sound.plain dirs]
    exact .inl rfl
  · by_cases file : ∃ t ∈ passed [] path.parts, f.FileAt t
    · rw [descend_of_file sound.plain file]
      obtain ⟨t, mem, there⟩ := file
      exact .inr (.inr ⟨rfl, fun clear => clear t (proper_of_passed sound mem).1 there⟩)
    · have missing : ∃ t ∈ passed [] path.parts, f.look t ≠ some .dir := by
        simpa using dirs
      rw [descend_of_missing sound.plain (fun t mem there => file ⟨t, mem, there⟩) missing]
      refine .inr (.inl ⟨rfl, ?_⟩)
      rintro t before there
      by_cases here : t = path.parts
      · -- above a file there are directories only
        obtain ⟨above, mem, other⟩ := missing
        obtain ⟨higher, proper⟩ := proper_of_passed sound mem
        obtain ⟨content, executable, shown⟩ := there
        refine other (Folder.look_dir_of_prefix (by rw [shown]; simp) (here ▸ higher) ?_)
        rw [here]
        exact proper
      · exact file ⟨t, mem_passed_of_prefix sound.plain.noUp before here, there⟩

theorem isDirectory_of_sound (sound : Sound path) :
    isDirectory f path = .ok (decide (f.look path.parts = some .dir)) := by
  have answered : ∀ errno, errno ≠ .nameTooLong → locate f path = .error (.system errno) →
      isDirectory f path = .ok (decide (f.look path.parts = some .dir)) := by
    intro errno other refused
    rw [isDirectory_eq, answer, refused, look_of_refused sound refused]
    cases errno <;> first | rfl | exact absurd rfl other
  rcases locate_sound sound with found | refused | refused
  · rw [isDirectory_eq, answer_of_locate found]
    cases f.look path.parts with
    | none => rfl
    | some entry => simp
  · exact answered .notFound (by decide) refused.1
  · exact answered .notDirectory (by decide) refused.1

/-- Whether a plain path is a directory depends on the place with its parts alone. -/
theorem isDirectory_congr {g : Folder} (plain : path.Plain)
    (same : f.look path.parts = g.look path.parts) :
    isDirectory f path = isDirectory g path := by
  rcases sound_or_faulty plain with sound | ⟨fault, faulty⟩
  · rw [isDirectory_of_sound sound, isDirectory_of_sound sound, same]
  · exact isDirectory_of_faulty faulty f g

end

/-! ## Directories above -/

theorem pathFault?_eq_none {path : FilePath} :
    pathFault? path = none ↔ path.toText.Spellable ∧ path.toText.any (·.val == 0) = false ∧
      Utf8.size path.toText ≤ pathLimit := by
  unfold pathFault?
  cases stray : Utf8.firstStray? path.toText with
  | some fault =>
      have not : ¬ path.toText.Spellable := by
        intro valid
        rw [Utf8.firstStray?_eq_none.2 valid] at stray
        cases stray
      simp [not]
  | none =>
      have valid := Utf8.firstStray?_eq_none.1 stray
      cases nul : path.toText.any (·.val == 0) with
      | true => simp
      | false =>
          by_cases long : pathLimit < Utf8.size path.toText
          · simp [long, Nat.not_le.2 long]
          · simp [long, valid, Nat.not_lt.1 long]

/-- Nothing is wrong with a directory above if nothing is wrong with the path. -/
theorem faultless_of_prefix {anchor : Anchor} {above below : List Text}
    (h : pathFault? ⟨anchor, above ++ below⟩ = none) : pathFault? ⟨anchor, above⟩ = none := by
  rcases above with _ | ⟨first, more⟩
  · cases anchor <;> decide
  rcases below with _ | ⟨next, rest⟩
  · rwa [List.append_nil] at h
  have whole : FilePath.toText ⟨anchor, first :: more ++ next :: rest⟩ =
      FilePath.toText ⟨anchor, first :: more⟩ ++
        FilePath.slash :: Text.joinWith [FilePath.slash] (next :: rest) := by
    have joined : Text.joinWith [FilePath.slash] (first :: more ++ next :: rest) = _ :=
      Text.joinWith_append (List.cons_ne_nil first more) (List.cons_ne_nil next rest)
    simpa [FilePath.toText] using joined
  obtain ⟨valid, nul, short⟩ := pathFault?_eq_none.1 h
  rw [whole] at valid nul short
  rw [List.any_append, Bool.or_eq_false_iff] at nul
  rw [Utf8.size_append] at short
  exact pathFault?_eq_none.2 ⟨(Text.spellable_append.1 valid).1, nul.1, by omega⟩

theorem Sound.above {anchor : Anchor} {parts : List Text} {part : Text}
    (sound : Sound ⟨anchor, parts ++ [part]⟩) : Sound ⟨anchor, parts⟩ :=
  ⟨fun p mem => sound.plain p (List.mem_append_left _ mem), faultless_of_prefix sound.faultless⟩

end FileTree

end CompileService
