import CompileService.Proofs.FileTree.Plain

/-!
# Making directories

`makeDirs` tries the last directory first and goes up for as long as one is missing.

* `makeDirs_grown`: whatever it ends with, directories appear where nothing was, and nothing else
  happens.
* `makeDirs_plain`: making a plain directory succeeds unless a file is in the way, and then makes
  just the directories above it and itself.
* `makeDirs_alike`: trees that show the same on the way end with the same fault.
-/

namespace CompileService

namespace Folder

/-- The second tree shows what the first one does, and directories where that shows nothing. -/
def Grown (f g : Folder) : Prop :=
  ∀ q, g.look q = f.look q ∨ f.look q = none ∧ g.look q = some .dir

theorem Grown.refl (f : Folder) : f.Grown f := fun _ => .inl rfl

theorem Grown.trans {f g h : Folder} (first : f.Grown g) (second : g.Grown h) : f.Grown h := by
  intro q
  rcases first q with same | ⟨before, now⟩
  · rw [← same]
    exact second q
  · rcases second q with same | ⟨missing, -⟩
    · exact .inr ⟨before, same.trans now⟩
    · rw [now] at missing
      cases missing

theorem Grown.dir {f g : Folder} (grown : f.Grown g) {q : Location} (h : f.look q = some .dir) :
    g.look q = some .dir := by
  rcases grown q with same | ⟨-, now⟩
  · rw [same, h]
  · exact now

end Folder

namespace FileTree

open Folder

theorem makeDir_grown {f g : Folder} {path : FilePath} (h : makeDir f path = .ok g) :
    f.Grown g := by
  rw [makeDir_eq] at h
  obtain ⟨place, change, -, result, after⟩ := LeafRule.applyAt_ok h
  intro q
  rw [after]
  by_cases here : q = place
  · subst here
    cases old : f.look q with
    | none =>
        simp only [LeafRule.makeDir, old, Except.ok.injEq] at result
        subst result
        exact .inr ⟨rfl, by simp [Node.entry]⟩
    | some entry => simp [LeafRule.makeDir, old] at result
  · exact .inl (if_neg here)

theorem makeDirsOf_grown (f : Folder) (anchor : Anchor) (parts : List Text) :
    f.Grown (makeDirsOf f anchor parts).1 := by
  induction parts with
  | nil =>
      unfold makeDirsOf
      dsimp only
      split
      · exact makeDir_grown ‹_›
      · exact Grown.refl f
      · exact Grown.refl f
  | cons part above ih =>
      unfold makeDirsOf
      dsimp only
      split
      · exact makeDir_grown ‹_›
      · -- the directory above is missing: it is made first, and then this one is tried again
        rcases made : makeDirsOf f anchor above with ⟨g, _ | fault⟩
        · rw [made] at ih
          dsimp only
          split
          · exact Grown.trans ih (makeDir_grown ‹_›)
          · exact ih
          · exact ih
        · rw [made] at ih
          exact ih
      · exact Grown.refl f

/-- Making directories puts directories where nothing was. -/
theorem makeDirs_grown (f : Folder) (path : FilePath) : f.Grown (makeDirs f path).1 :=
  makeDirsOf_grown f path.anchor path.parts.reverse

/-! ## Making a plain directory -/

theorem makeDir_of_locate {f : Folder} {path : FilePath} {place : Location}
    (found : locate f path = .ok place) :
    makeDir f path = match f.look place with
      | none => .ok (f.set place (some (.dir .empty)))
      | some _ => .error (.system .fileExists) := by
  rw [makeDir_eq, LeafRule.applyAt_of_locate found]
  cases f.look place <;> rfl

theorem look_made {f : Folder} {path : FilePath} {place : Location}
    (found : locate f path = .ok place) (nothing : f.look place = none) (q : Location) :
    (f.set place (some (.dir .empty))).look q = if q = place then some .dir else f.look q := by
  refine look_set_of_locate found (by simp [nothing]) ?_ q
  rintro node ⟨⟩
  exact Node.bare_emptyDir

theorem makeDir_of_refused {f : Folder} {path : FilePath} {fault : PathFault}
    (refused : locate f path = .error fault) : makeDir f path = .error fault := by
  rw [makeDir_eq, LeafRule.applyAt_of_refused refused]

theorem settle_of_sound {f : Folder} {path : FilePath} (sound : Sound path) (errno : Errno) :
    settle f path (.system errno) =
      if f.look path.parts = some .dir then none else some (path, .system errno) := by
  unfold settle
  rw [isDirectory_of_sound sound]
  by_cases dir : f.look path.parts = some .dir
  · simp [dir]
  · simp [dir]

/-- What is left of a refusal other than that a directory above is missing. -/
theorem makeDirsOf_of_refused {f : Folder} {anchor : Anchor} {parts : List Text} {fault : PathFault}
    (refused : makeDir f ⟨anchor, parts.reverse⟩ = .error fault)
    (other : fault ≠ .system .notFound) :
    makeDirsOf f anchor parts = (f, settle f ⟨anchor, parts.reverse⟩ fault) := by
  cases parts with
  | nil =>
      rw [List.reverse_nil] at refused
      rw [makeDirsOf, refused]
      cases fault with
      | system errno =>
          cases errno with
          | notFound => exact absurd rfl other
          | _ => rfl
      | _ => rfl
  | cons part above =>
      rw [makeDirsOf, refused]
      cases fault with
      | system errno =>
          cases errno with
          | notFound => exact absurd rfl other
          | _ => rfl
      | _ => rfl

/-- A tree with the place a directory, and as before off the way to it, shows directories all the way
down to the place. -/
theorem look_of_dir {f g : Folder} {above : Location} {part : Text}
    (dir : g.look (above ++ [part]) = some .dir)
    (other : ∀ q, q ≠ above ++ [part] → ¬ q <+: above → g.look q = f.look q) (q : Location) :
    g.look q = if q <+: above ++ [part] then some .dir else f.look q := by
  by_cases way : q <+: above ++ [part]
  · rw [if_pos way, Folder.look_dir_of_prefix_dir dir way]
  · rw [if_neg way]
    rw [List.prefix_concat_iff, not_or] at way
    exact other q way.1 way.2

/-- With the directories above it made, a sound path that was missing is made as well. -/
theorem makeDirsOf_of_above {f g : Folder} {anchor : Anchor} {part : Text} {above : List Text}
    (sound : Sound ⟨anchor, above.reverse ++ [part]⟩)
    (missing : locate f ⟨anchor, above.reverse ++ [part]⟩ = .error (.system .notFound))
    (made : makeDirsOf f anchor above = (g, none))
    (after : ∀ q, g.look q = if q <+: above.reverse then some .dir else f.look q) :
    ∃ h, makeDirsOf f anchor (part :: above) = (h, none) ∧
      ∀ q, h.look q = if q <+: above.reverse ++ [part] then some .dir else f.look q := by
  have longer : ¬ above.reverse ++ [part] <+: above.reverse := not_prefix_of_longer _ _
  have nothing : g.look (above.reverse ++ [part]) = none := by
    rw [after, if_neg longer, look_of_refused sound missing]
  -- in the tree with the directories above, the path leads to its place
  have found : locate g ⟨anchor, above.reverse ++ [part]⟩ = .ok (above.reverse ++ [part]) := by
    rw [locate_of_sound sound, descend_of_dirs sound.plain]
    · rfl
    · intro t mem
      obtain ⟨way, proper⟩ := proper_of_passed sound mem
      rw [after, if_pos ((List.prefix_concat_iff.1 way).resolve_left proper)]
  have final := look_made found nothing
  rw [makeDirsOf, List.reverse_cons, makeDir_of_refused missing]
  simp only [made, makeDir_of_locate found, nothing]
  refine ⟨_, rfl, look_of_dir (by simp [final]) fun q other short => ?_⟩
  rw [final, if_neg other, after, if_neg short]

/-- A sound path whose way is clear is made a directory, and so are the ones above it. -/
theorem makeDirsOf_clear {f : Folder} {anchor : Anchor} {parts : List Text}
    (sound : Sound ⟨anchor, parts.reverse⟩) (clear : Clear f parts.reverse) :
    ∃ g, makeDirsOf f anchor parts = (g, none) ∧
      ∀ q, g.look q = if q <+: parts.reverse then some .dir else f.look q := by
  induction parts with
  | nil =>
      have root : Sound ⟨anchor, []⟩ := sound
      have found : locate f ⟨anchor, []⟩ = .ok [] := locate_of_look root (by simp)
      refine ⟨f, ?_, ?_⟩
      · rw [makeDirsOf, makeDir_of_locate found]
        simp [settle_of_sound root]
      · intro q
        by_cases here : q = []
        · simp [here]
        · simp [here]
  | cons part above ih =>
      rw [List.reverse_cons] at sound clear ⊢
      -- the path leads to its place, or something above it is missing and is made before it
      rcases locate_sound (f := f) sound with found | ⟨missing, -⟩ | ⟨-, blocked⟩
      · rw [makeDirsOf, List.reverse_cons, makeDir_of_locate found]
        cases here : f.look (above.reverse ++ [part]) with
        | none =>
            have after := look_made found here
            refine ⟨_, rfl, look_of_dir (by simp [after]) fun q other _ => ?_⟩
            rw [after, if_neg other]
        | some entry =>
            cases entry with
            | file content executable =>
                exact absurd ⟨content, executable, here⟩ (clear _ (List.prefix_refl _))
            | dir =>
                refine ⟨f, ?_, look_of_dir here fun _ _ _ => rfl⟩
                simp [settle_of_sound sound, here]
      · have clearAbove : Clear f above.reverse :=
          fun t way => clear t (List.prefix_concat_iff.2 (.inr way))
        obtain ⟨g, made, after⟩ := ih sound.above clearAbove
        exact makeDirsOf_of_above sound missing made after
      · exact absurd clear blocked

/-- What keeps a sound path from being made a directory: a file at the place or above it. -/
def blockedBy : Option Entry → Errno
  | some (.file ..) => .fileExists
  | _ => .notDirectory

/-- A sound path whose way is blocked by a file is not made a directory, and nothing is made. -/
theorem makeDirsOf_blocked {f : Folder} {anchor : Anchor} {parts : List Text}
    (sound : Sound ⟨anchor, parts.reverse⟩) (blocked : ¬ Clear f parts.reverse) :
    makeDirsOf f anchor parts =
      (f, some (⟨anchor, parts.reverse⟩, .system (blockedBy (f.look parts.reverse)))) := by
  have failed : makeDir f ⟨anchor, parts.reverse⟩ =
        .error (.system (blockedBy (f.look parts.reverse))) ∧ f.look parts.reverse ≠ some .dir := by
    rcases locate_sound (f := f) sound with found | ⟨-, clear⟩ | ⟨refused, -⟩
    · obtain ⟨t, way, file⟩ : ∃ t, t <+: parts.reverse ∧ f.FileAt t := by
        simpa [Clear, Classical.not_forall] using blocked
      obtain ⟨content, executable, shown⟩ := file
      -- the path leads to its place, so the file is not above it
      have here : t = parts.reverse := by
        by_cases here : t = parts.reverse
        · exact here
        · have mem : [] ++ t ∈ passed [] parts.reverse :=
            mem_passed_of_prefix sound.plain.noUp way here
          have dir := (locate_of_passes found).1 t (by simpa [FilePath.passes] using mem)
          rw [shown] at dir
          cases dir
      rw [here] at shown
      rw [makeDir_of_locate found]
      simp [shown, blockedBy]
    · exact absurd clear blocked
    · have nothing : f.look parts.reverse = none := look_of_refused sound refused
      rw [makeDir_of_refused refused, nothing]
      exact ⟨rfl, by simp⟩
  have settled := settle_of_sound (f := f) sound (blockedBy (f.look parts.reverse))
  rw [if_neg failed.2] at settled
  have other : blockedBy (f.look parts.reverse) ≠ .notFound := by
    unfold blockedBy
    split <;> decide
  rw [makeDirsOf_of_refused failed.1 fun same => other (PathFault.system.inj same), settled]

/-- A faulty path is made a directory in no tree. -/
theorem makeDirsOf_faulty {anchor : Anchor} {parts : List Text} {wrong : PathFault}
    (faulty : pathFault? ⟨anchor, parts.reverse⟩ = some wrong) (f : Folder) :
    makeDirsOf f anchor parts = (f, some (⟨anchor, parts.reverse⟩, wrong)) := by
  have nowhere : locate f ⟨anchor, parts.reverse⟩ = .error wrong := by
    rw [locate_eq, faulty]
  have other : wrong ≠ .system .notFound := by
    rintro rfl
    unfold pathFault? at faulty
    split at faulty
    · cases faulty
    · split at faulty
      · cases faulty
      · split at faulty <;> cases faulty
  rw [makeDirsOf_of_refused (makeDir_of_refused nowhere) other]
  unfold settle
  cases wrong with
  | system errno =>
      rw [isDirectory_eq, answer, nowhere]
      cases errno <;> rfl
  | _ => rfl

/-- What making a plain directory does. Either the path is faulty and refused in all trees alike, or
it depends on whether a file stands at the place or above it. -/
theorem makeDirs_plain {path : FilePath} (plain : path.Plain) :
    (∃ fault, ∀ f, makeDirs f path = (f, some fault)) ∨
      (∀ f, Clear f path.parts → ∃ g, makeDirs f path = (g, none) ∧
        ∀ q, g.look q = if q <+: path.parts then some .dir else f.look q) ∧
      ∀ f, ¬ Clear f path.parts →
        makeDirs f path = (f, some (path, .system (blockedBy (f.look path.parts)))) := by
  rcases path with ⟨anchor, parts⟩
  have twice : parts.reverse.reverse = parts := List.reverse_reverse parts
  rcases sound_or_faulty plain with sound | ⟨wrong, faulty⟩
  · rw [← twice] at sound
    refine .inr ⟨fun f clear => ?_, fun f blocked => ?_⟩
    · dsimp only at clear ⊢
      rw [← twice] at clear
      simpa [makeDirs] using makeDirsOf_clear sound clear
    · dsimp only at blocked ⊢
      rw [← twice] at blocked
      simpa [makeDirs] using makeDirsOf_blocked sound blocked
  · rw [← twice] at faulty
    exact .inl ⟨_, makeDirsOf_faulty faulty⟩

/-! ## The same directory in two trees -/

/-- Two trees show the same on the way to a path, or no file is on it in either. -/
def Alike (path : FilePath) (f g : Folder) : Prop :=
  (∀ q, q <+: path.parts → f.look q = g.look q) ∨ Clear f path.parts ∧ Clear g path.parts

section
variable {f g : Folder} {path : FilePath} {q : Location}

theorem clear_congr {place : Location} (same : ∀ q, q <+: place → f.look q = g.look q) :
    Clear f place ↔ Clear g place := by
  unfold Clear Folder.FileAt
  constructor
  · intro clear t way
    rw [← same t way]
    exact clear t way
  · intro clear t way
    rw [same t way]
    exact clear t way

/-- A directory that cannot be made leaves the tree as it is. -/
theorem makeDirs_refused (plain : path.Plain) (refused : (makeDirs f path).2 ≠ none) :
    (makeDirs f path).1 = f := by
  rcases makeDirs_plain plain with ⟨fault, fixed⟩ | ⟨cleared, blocked⟩
  · rw [fixed]
  · by_cases clear : Clear f path.parts
    · obtain ⟨g, made, -⟩ := cleared f clear
      rw [made] at refused
      exact absurd rfl refused
    · rw [blocked f clear]

/-- Off the way to it, making a directory changes nothing. -/
theorem look_makeDirs_off (plain : path.Plain) (off : ¬ q <+: path.parts) :
    (makeDirs f path).1.look q = f.look q := by
  rcases makeDirs_plain plain with ⟨fault, fixed⟩ | ⟨cleared, blocked⟩
  · rw [fixed]
  · by_cases clear : Clear f path.parts
    · obtain ⟨g, made, after⟩ := cleared f clear
      rw [made]
      show g.look q = f.look q
      rw [after, if_neg off]
    · rw [blocked f clear]

/-- What making a directory leaves at a location depends on what is there and on the way. -/
theorem look_makeDirs_congr (plain : path.Plain)
    (same : ∀ t, t <+: path.parts → f.look t = g.look t) (here : f.look q = g.look q) :
    (makeDirs f path).1.look q = (makeDirs g path).1.look q := by
  rcases makeDirs_plain plain with ⟨fault, fixed⟩ | ⟨cleared, blocked⟩
  · rw [fixed, fixed, here]
  · by_cases clear : Clear f path.parts
    · obtain ⟨f', made, after⟩ := cleared f clear
      obtain ⟨g', made', after'⟩ := cleared g ((clear_congr same).1 clear)
      rw [made, made']
      show f'.look q = g'.look q
      rw [after, after', here]
    · rw [blocked f clear, blocked g fun clear' => clear ((clear_congr same).2 clear')]
      exact here

/-- In trees that are alike a directory is made or refused alike, and where it is made they show the
same on the way to it. -/
theorem makeDirs_alike (plain : path.Plain) (alike : Alike path f g) :
    (makeDirs f path).2 = (makeDirs g path).2 ∧
      ((makeDirs f path).2 = none →
        ∀ t, t <+: path.parts → (makeDirs f path).1.look t = (makeDirs g path).1.look t) := by
  rcases makeDirs_plain plain with ⟨fault, fixed⟩ | ⟨cleared, blocked⟩
  · rw [fixed, fixed]
    exact ⟨rfl, fun made => by cases made⟩
  · have both : Clear f path.parts → Clear g path.parts →
        (makeDirs f path).2 = (makeDirs g path).2 ∧
          ((makeDirs f path).2 = none →
            ∀ t, t <+: path.parts → (makeDirs f path).1.look t = (makeDirs g path).1.look t) := by
      intro clear clear'
      obtain ⟨f', made, after⟩ := cleared f clear
      obtain ⟨g', made', after'⟩ := cleared g clear'
      rw [made, made']
      refine ⟨rfl, fun _ t way => ?_⟩
      show f'.look t = g'.look t
      rw [after, after', if_pos way, if_pos way]
    rcases alike with same | ⟨clear, clear'⟩
    · by_cases clear : Clear f path.parts
      · exact both clear ((clear_congr same).1 clear)
      · rw [blocked f clear, blocked g fun clear' => clear ((clear_congr same).2 clear')]
        rw [same path.parts (List.prefix_refl _)]
        exact ⟨rfl, fun made => by cases made⟩
    · exact both clear clear'

/-- A tree is alike to one in which the directory was made. -/
theorem alike_makeDirs (plain : path.Plain) : Alike path f (makeDirs f path).1 := by
  rcases makeDirs_plain plain with ⟨fault, fixed⟩ | ⟨cleared, blocked⟩
  · exact .inl fun q _ => by rw [fixed]
  · by_cases clear : Clear f path.parts
    · obtain ⟨g, made, after⟩ := cleared f clear
      refine .inr ⟨clear, ?_⟩
      rintro t way ⟨content, executable, file⟩
      rw [made] at file
      change g.look t = _ at file
      rw [after, if_pos way] at file
      cases file
    · exact .inl fun q _ => by rw [blocked f clear]

/-- Being alike depends on what the trees show on the way. -/
theorem Alike.congr {f' g' : Folder} (h : Alike path f g)
    (left : ∀ t, t <+: path.parts → f'.look t = f.look t)
    (right : ∀ t, t <+: path.parts → g'.look t = g.look t) : Alike path f' g' := by
  rcases h with same | ⟨clear, clear'⟩
  · exact .inl fun q way => by rw [left q way, right q way, same q way]
  · exact .inr ⟨(clear_congr left).2 clear, (clear_congr right).2 clear'⟩

end

end FileTree

end CompileService
