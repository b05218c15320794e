import CompileService.Proofs.Module.Name
import Mathlib.Data.List.Forall2

/-!
# Names below a root

The file of a name is read back as the name wherever the module root stands: the parts of the root
are passed over up to the first one that begins with an uppercase letter, and that is the first
component. Backslashes separate parts as slashes do.

* `Respelled`: the same path with some of its slashes written as backslashes.
* `IsRoot`: a text in front of the file of a name that is passed over.
* `ofFile_rooted`: below a root the name is read. `files_and_names`: that names and the files of
  names are the same under every root, both ways.
-/

namespace CompileService.ModuleName

/-- A path is the same as another, but for slashes that it has written as backslashes. -/
def Respelled (file path : Text) : Prop :=
  List.Forall₂ (fun c d => d = c ∨ c = FilePath.slash ∧ d = backslash) file path

/-- The pieces of a text between slashes and backslashes. -/
def segments (t : Text) : List Text := Text.splitAt FilePath.slash (slashed t)

/-- What stands above a module without being taken for a part of its name: no segment begins with an
uppercase letter. -/
def IsRoot (root : Text) : Prop := ∀ segment ∈ segments root, startsUppercase segment = false

/-- The spelling of the separators makes no difference to a reading. -/
theorem Respelled.slashed {file path : Text} (respelled : Respelled file path) :
    ModuleName.slashed path = ModuleName.slashed file := by
  induction respelled with
  | nil => rfl
  | @cons c d file path spelled _ ih =>
      have same : (if d = backslash then FilePath.slash else d) =
          if c = backslash then FilePath.slash else c := by
        rcases spelled with rfl | ⟨rfl, rfl⟩
        · rfl
        · decide
      rw [ModuleName.slashed, List.map_cons, same]
      exact congrArg _ ih

theorem slashed_append_slash (front rest : Text) :
    slashed (front ++ FilePath.slash :: rest) = slashed front ++ FilePath.slash :: slashed rest := by
  rw [slashed, List.map_append, List.map_cons]
  rfl

/-- The parts of a root are passed over, whatever it is anchored at. -/
theorem allParts_rooted {root : Text} (isRoot : IsRoot root) (file : Text) :
    ∃ above, (FilePath.ofText (slashed root ++ FilePath.slash :: file)).allParts =
        above ++ FilePath.partsOf file ∧
      ∀ part ∈ above, startsUppercase part = false := by
  obtain ⟨anchors, all, slashes⟩ :=
    FilePath.allParts_ofText (slashed root ++ FilePath.slash :: file)
  refine ⟨anchors ++ FilePath.partsOf (slashed root), ?_, fun part mem => ?_⟩
  · rw [all, FilePath.partsOf_append_slash, List.append_assoc]
  · rcases List.mem_append.1 mem with anchor | inside
    · obtain ⟨rest, rfl⟩ := List.head?_eq_some_iff.1 (slashes part anchor)
      show FilePath.slash.isUppercase = false
      decide
    · exact isRoot part (List.mem_filter.1 inside).1

section
variable {ext name path : Text}

/-- The file of a name is read as the name, however its slashes are written. -/
theorem ofFile_respelled (slash : FilePath.slash ∉ ext) (backslash : backslash ∉ ext)
    (checked : check name = true) (respelled : Respelled (toFile name ext) path) :
    ofFile path ext = name := by
  obtain ⟨front, last, components, component, rfl⟩ := parts_of_check checked
  rw [toFile_eq components component] at respelled
  have same : ofFile path ext = ofFile _ ext := ofFile_congr respelled.slashed
  rw [same, ofFile_file slash backslash components component]

/-- Below a root, too. -/
theorem ofFile_rooted (slash : FilePath.slash ∉ ext) (backslash : backslash ∉ ext)
    (checked : check name = true) {root : Text} (isRoot : IsRoot root)
    (respelled : Respelled (root ++ FilePath.slash :: toFile name ext) path) :
    ofFile path ext = name := by
  obtain ⟨front, last, components, component, rfl⟩ := parts_of_check checked
  have free : ModuleName.backslash ∉ toFile (Text.joinWith [dot] (front ++ [last])) ext := by
    rw [toFile_eq components component]
    exact free_of_file backslash components component
  obtain ⟨above, parts, lower⟩ :=
    allParts_rooted isRoot (toFile (Text.joinWith [dot] (front ++ [last])) ext)
  rw [partsOf_toFile slash components component] at parts
  refine ofFile_of_parts ?_ lower components component
  rw [respelled.slashed, slashed_append_slash, slashed_of_free free, parts]

end

/-- The file of a name is read as the name, by itself and below every root, with slashes or
backslashes; and identifiers in a row of directories, the extension after the last one, are the file
of the name that is read off them. -/
theorem files_and_names {ext : Text} (slash : FilePath.slash ∉ ext) (backslash : backslash ∉ ext) :
    (∀ name path : Text, check name = true →
      (Respelled (toFile name ext) path → ofFile path ext = name) ∧
      ∀ root, IsRoot root → Respelled (root ++ FilePath.slash :: toFile name ext) path →
        ofFile path ext = name) ∧
    ∀ parts : List Text, parts ≠ [] → (∀ part ∈ parts, IsIdentifier part) →
      toFile (ofFile (Text.joinWith [FilePath.slash] parts ++ ext) ext) ext =
        Text.joinWith [FilePath.slash] parts ++ ext := by
  refine ⟨fun name path checked => ⟨ofFile_respelled slash backslash checked,
    fun root isRoot => ofFile_rooted slash backslash checked isRoot⟩,
    fun parts nonempty identifiers => ?_⟩
  obtain ⟨front, last, rfl⟩ := (List.eq_nil_or_concat parts).resolve_left nonempty
  rw [List.concat_eq_append] at identifiers ⊢
  have each : ∀ part ∈ front ++ [last], Component part := by
    intro part mem
    have alone := (identifiers part mem).component (.inl rfl)
    rwa [List.append_nil] at alone
  have components : ∀ part ∈ front, Component part := fun part mem =>
    each part (List.mem_append_left _ mem)
  have component : Component last := each last (by simp)
  rw [Text.joinWith_append_last, ofFile_file slash backslash components component,
    toFile_eq components component]

/-- A module of the library under a root with a dot directory, a way up and doubled and mixed
separators. -/
theorem files_and_names_library :
    FilePath.slash ∉ lit ".hs" ∧ backslash ∉ lit ".hs" ∧ check (lit "Demo.Calc") = true ∧
    IsRoot (lit "//./srv\\..//library") ∧
    ofFile (lit "//./srv\\..//library/Demo\\Calc.hs") (lit ".hs") = lit "Demo.Calc" ∧
    toFile (ofFile (lit "Demo/Calc.hs") (lit ".hs")) (lit ".hs") = lit "Demo/Calc.hs" := by
  have slash : FilePath.slash ∉ lit ".hs" := by decide
  have free : backslash ∉ lit ".hs" := by decide
  have checked : check (lit "Demo.Calc") = true := by decide
  have isRoot : IsRoot (lit "//./srv\\..//library") := by
    unfold IsRoot
    decide
  have respelled : Respelled (lit "//./srv\\..//library" ++ FilePath.slash ::
      toFile (lit "Demo.Calc") (lit ".hs")) (lit "//./srv\\..//library/Demo\\Calc.hs") := by
    unfold Respelled
    decide
  have identifiers : ∀ part ∈ [lit "Demo", lit "Calc"], IsIdentifier part := by
    intro part mem
    rcases List.mem_pair.1 mem with rfl | rfl
    · exact ⟨_, _, rfl, by decide, by decide⟩
    · exact ⟨_, _, rfl, by decide, by decide⟩
  obtain ⟨back, forth⟩ := files_and_names slash free
  exact ⟨slash, free, checked, isRoot, (back _ _ checked).2 _ isRoot respelled,
    forth [lit "Demo", lit "Calc"] (by simp) identifiers⟩

end CompileService.ModuleName
