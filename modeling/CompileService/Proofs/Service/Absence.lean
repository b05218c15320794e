import CompileService.Proofs.FileTree.Overlong
import CompileService.Proofs.Service.Lookup
import CompileService.Service.Commands

/-!
# Modules that are not there

A lookup of a module that no root has answers that there is none, whatever the name is. One thing
keeps it from that: a well-formed name may be longer than the file system takes. Asking for its file
is then a fault, and the lookup fails.

* `run_lookupIn_of_absent`: a search through roots none of which has the file.
* `Holds`, `MeetsLimit`: the root of a scope has the module; a name that is too long for a root.
* `not_meetsLimit_of_within`: names within the limits meet none, whatever the tree holds.
* `getModule_of_absent`: how the lookup of an absent module ends. `absent_module_iff`: when it is
  answered that there is none.
-/

namespace CompileService.Service

variable {s : Service} {name : Text} {w : World}

/-- A search through roots none of which is found to have the file answers that there is no module,
unless a path in one of them meets a limit; then it fails. -/
theorem run_lookupIn_of_absent {file : Text} {roots : List FilePath}
    (absent : ∀ root ∈ roots, FileTree.isFile w.files (root.join file) ≠ .ok true) :
    ((∀ root ∈ roots, ¬ FileTree.Overlong w.files (root.join file)) ∧
        (lookupIn name file roots).run w = (.ok (.moduleNotFound name), w)) ∨
      ∃ root ∈ roots, FileTree.Overlong w.files (root.join file) ∧
        (lookupIn name file roots).run w =
          (.error (.onPath (root.join file) (.system .nameTooLong)), w) := by
  -- the search goes on until a path meets a limit, if one does
  induction roots with
  | nil => exact .inl ⟨by simp, rfl⟩
  | cons root more ih =>
      obtain ⟨here, rest⟩ := List.forall_mem_cons.1 absent
      rw [lookupIn, Action.run_bind]
      cases asked : FileTree.isFile w.files (root.join file) with
      | error fault =>
          obtain ⟨rfl, overlong⟩ := FileTree.isFile_error_iff.1 asked
          rw [Action.run_ask, asked]
          exact .inr ⟨root, List.mem_cons_self, overlong, rfl⟩
      | ok there =>
          have none : there = false := by
            cases there
            · rfl
            · exact absurd asked here
          have free : ¬ FileTree.Overlong w.files (root.join file) := by
            intro overlong
            rw [FileTree.isFile_error_iff.2 ⟨rfl, overlong⟩] at asked
            cases asked
          rw [Action.run_ask_of_ok w asked, none]
          dsimp only
          rw [if_neg Bool.false_ne_true]
          rcases ih rest with ⟨others, run⟩ | ⟨other, mem, overlong, run⟩
          · exact .inl ⟨List.forall_mem_cons.2 ⟨free, others⟩, run⟩
          · exact .inr ⟨other, List.mem_cons_of_mem _ mem, overlong, run⟩

/-- The root of a scope has the module of a name. -/
def Holds (s : Service) (files : Folder) (name scope : Text) : Prop :=
  ModuleName.check name = true ∧ s.rootThere files scope = true ∧
    FileTree.isFile files (s.modulePath name scope) = .ok true

/-- A name is too long for the root of a scope: it is well-formed, the root is there, and the path of
the module in it meets a limit. -/
def MeetsLimit (s : Service) (files : Folder) (name scope : Text) : Prop :=
  ModuleName.check name = true ∧ s.rootThere files scope = true ∧
    FileTree.Overlong files (s.modulePath name scope)

/-- A name that the file system takes wherever the module is looked for. -/
def WithinLimits (s : Service) (name : Text) : Prop :=
  (∀ scope ∈ s.settings.moduleScopes,
      Utf8.size (s.modulePath name scope).toText ≤ FileTree.pathLimit) ∧
    ∀ part ∈ FilePath.partsOf (ModuleName.toFile name s.settings.sourceExtension),
      Utf8.size part ≤ FileTree.nameLimit

section
variable {scope : Text}

/-- The parts of the path of a module are those of its root and those of its file. -/
theorem modulePath_eq (checked : ModuleName.check name = true) :
    s.modulePath name scope = { s.scopeDir scope with
      parts := (s.scopeDir scope).parts ++
        FilePath.partsOf (ModuleName.toFile name s.settings.sourceExtension) } := by
  rw [modulePath, FilePath.join, if_pos (ModuleName.anchorOf_toFile checked)]

/-- A name within the limits meets none, whatever the tree holds. -/
theorem not_meetsLimit_of_within {files : Folder} (within : s.WithinLimits name)
    (configured : scope ∈ s.settings.moduleScopes) : ¬ s.MeetsLimit files name scope := by
  rintro ⟨checked, root, overlong⟩
  have whole := within.1 scope configured
  rw [modulePath_eq checked] at overlong whole
  rcases overlong.of_below (rootThere_iff.1 root) with long | ⟨part, mem, long⟩
  · exact absurd whole (Nat.not_le.2 long)
  · exact absurd (within.2 part mem) (Nat.not_le.2 long)

end

/-- The lookup of a module that is absent: no name meets a limit and there is no module, or it fails
at a name that is too long. -/
theorem getModule_of_absent (shown : s.RootsShown w.files s.settings.moduleScopes)
    (absent : ∀ scope ∈ s.settings.moduleScopes, ¬ s.Holds w.files name scope) :
    ((∀ scope ∈ s.settings.moduleScopes, ¬ s.MeetsLimit w.files name scope) ∧
        (s.getModule name).run w = (.ok (.moduleNotFound name), w)) ∨
      ∃ scope ∈ s.settings.moduleScopes, s.MeetsLimit w.files name scope ∧
        (s.getModule name).run w =
          (.error (.onPath (s.modulePath name scope) (.system .nameTooLong)), w) := by
  unfold getModule
  by_cases checked : ModuleName.check name = true
  · rw [if_pos checked, Action.run_bind, roots, run_rootsOf shown]
    dsimp only
    have missing : ∀ root ∈ (s.settings.moduleScopes.filter (s.rootThere w.files)).map s.scopeDir,
        FileTree.isFile w.files
          (root.join (ModuleName.toFile name s.settings.sourceExtension)) ≠ .ok true := by
      intro root mem
      obtain ⟨scope, configured, there, rfl⟩ := mem_roots_iff.1 mem
      exact fun file => absent scope configured ⟨checked, there, file⟩
    rcases run_lookupIn_of_absent missing with ⟨free, run⟩ | ⟨root, mem, overlong, run⟩
    · refine .inl ⟨fun scope configured meets => ?_, run⟩
      exact free _ (mem_roots_iff.2 ⟨scope, configured, meets.2.1, rfl⟩) meets.2.2
    · obtain ⟨scope, configured, there, rfl⟩ := mem_roots_iff.1 mem
      exact .inr ⟨scope, configured, ⟨checked, there, overlong⟩, run⟩
  · rw [if_neg checked]
    exact .inl ⟨fun scope _ meets => checked meets.1, rfl⟩

/-- A module that no root has, of roots that can be looked at, is answered as such just if its name
is too long for none of them; otherwise the lookup fails at a root that it is too long for. A name
within the limits is always answered, and so is the request for it. -/
theorem absent_module_iff (shown : s.RootsShown w.files s.settings.moduleScopes)
    (absent : ∀ scope ∈ s.settings.moduleScopes, ¬ s.Holds w.files name scope) :
    s.dispatch (.getModule name) = s.getModule name ∧
    ((s.getModule name).run w = (.ok (.moduleNotFound name), w) ↔
      ∀ scope ∈ s.settings.moduleScopes, ¬ s.MeetsLimit w.files name scope) ∧
    ((∃ scope ∈ s.settings.moduleScopes, s.MeetsLimit w.files name scope) →
      ∃ scope ∈ s.settings.moduleScopes, s.MeetsLimit w.files name scope ∧
        (s.getModule name).run w =
          (.error (.onPath (s.modulePath name scope) (.system .nameTooLong)), w)) ∧
    (s.WithinLimits name → (s.getModule name).run w = (.ok (.moduleNotFound name), w)) := by
  have answered : (s.getModule name).run w = (.ok (.moduleNotFound name), w) ↔
      ∀ scope ∈ s.settings.moduleScopes, ¬ s.MeetsLimit w.files name scope := by
    rcases getModule_of_absent shown absent with ⟨free, run⟩ | ⟨scope, configured, meets, run⟩
    · exact ⟨fun _ => free, fun _ => run⟩
    · refine ⟨fun found => ?_, fun free => absurd meets (free scope configured)⟩
      rw [run] at found
      cases found
  refine ⟨rfl, answered, ?_, fun within => answered.2 fun scope configured =>
    not_meetsLimit_of_within within configured⟩
  rintro ⟨scope, configured, meets⟩
  rcases getModule_of_absent shown absent with ⟨free, -⟩ | failed
  · exact absurd meets (free scope configured)
  · exact failed

theorem shown_shelf :
    obedientService.RootsShown (worldWith shelf).files obedientService.settings.moduleScopes := by
  have asked : ∀ scope ∈ obedientService.settings.moduleScopes,
      (FileTree.isDirectory (worldWith shelf).files
        (obedientService.scopeDir scope)).toOption.isSome := by
    decide
  exact fun scope configured => ok_of_isSome (asked scope configured)

/-- The shelf has no module of a name if it has no file for it in any scope. -/
theorem not_holds_shelf {name : Text}
    (missing : ∀ scope ∈ obedientService.settings.moduleScopes,
      (FileTree.isFile (worldWith shelf).files (obedientService.modulePath name scope)).toOption ≠
        some true) :
    ∀ scope ∈ obedientService.settings.moduleScopes,
      ¬ obedientService.Holds (worldWith shelf).files name scope := by
  rintro scope configured ⟨-, -, file⟩
  have none := missing scope configured
  rw [file] at none
  exact none rfl

/-- A module that the shelf does not have. -/
theorem absent_module_iff_shelf :
    obedientService.RootsShown (worldWith shelf).files obedientService.settings.moduleScopes ∧
    (∀ scope ∈ obedientService.settings.moduleScopes,
      ¬ obedientService.Holds (worldWith shelf).files (lit "No.Such") scope) ∧
    obedientService.WithinLimits (lit "No.Such") ∧
    (obedientService.dispatch (.getModule (lit "No.Such"))).run (worldWith shelf) =
      (.ok (.moduleNotFound (lit "No.Such")), worldWith shelf) := by
  have absent : ∀ scope ∈ obedientService.settings.moduleScopes,
      ¬ obedientService.Holds (worldWith shelf).files (lit "No.Such") scope :=
    not_holds_shelf (by decide)
  have within : obedientService.WithinLimits (lit "No.Such") := by
    unfold WithinLimits
    decide
  obtain ⟨same, -, -, answered⟩ := absent_module_iff shown_shelf absent
  rw [same]
  exact ⟨shown_shelf, absent, within, answered within⟩

/-- A module name whose one component is too long for a file. -/
def longModule : Text := List.replicate 256 (CodePoint.ofChar 'A')

/-- The name is well-formed and no root has its module, and the lookup fails. -/
theorem long_name_fails :
    ModuleName.check longModule = true ∧
    obedientService.RootsShown (worldWith shelf).files obedientService.settings.moduleScopes ∧
    (∀ scope ∈ obedientService.settings.moduleScopes,
      ¬ obedientService.Holds (worldWith shelf).files longModule scope) ∧
    ((obedientService.dispatch (.getModule longModule)).run (worldWith shelf)).1.toOption = none := by
  refine ⟨by decide +kernel, shown_shelf, not_holds_shelf ?_, by decide +kernel⟩
  decide +kernel

end CompileService.Service
