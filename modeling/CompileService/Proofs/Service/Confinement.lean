import CompileService.Proofs.FileTree.Below
import CompileService.Proofs.Service.Lookup

/-!
# What a lookup depends on

A module is looked up by a name that may be any text. Only a well-formed name becomes a path, and
the path goes down from a module root: so the answer is read off what the roots hold.

* `ModuleName.place`: where a module stands below a root. `ModuleName.place_of_check`: the path of a
  well-formed name leads there.
* `moduleIn?`: the bytes of a module in the root of a scope. `firstModule?`: in the first that has it.
* `answer_of_getModule`: a lookup that answers gives the module of the first scope that has one.
* `SameModules`: trees that hold the same below the roots.
* `lookup_exact`: what a lookup finds, and that nothing outside the roots matters.
-/

namespace CompileService

/-- Where the module of a name stands below a root: all components but the last are directories, and
the last one with the extension is the file. -/
def ModuleName.place (name ext : Text) : Location :=
  let parts := Text.splitAt dot name
  parts.dropLast ++ [parts.getLastD [] ++ ext]

/-- The components have no dot of their own, so cutting at dots gives them back. -/
theorem ModuleName.place_joinWith {front : List Text} {last : Text} (ext : Text)
    (components : ∀ part ∈ front, Component part) (component : Component last) :
    place (Text.joinWith [dot] (front ++ [last])) ext = front ++ [last ++ ext] := by
  have free : ∀ part ∈ front ++ [last], dot ∉ part := fun part mem inside =>
    (inner_of_components components component part mem _ inside).plain.1 rfl
  rw [place, Text.splitAt_joinWith (by simp) free]
  simp

/-- The path of a well-formed name goes down from a root to the place of the module. -/
theorem ModuleName.place_of_check {name ext : Text} (slash : FilePath.slash ∉ ext)
    (checked : check name = true) :
    place name ext ≠ [] ∧ FilePath.up ∉ place name ext ∧
      ∀ dir : FilePath, dir.join (toFile name ext) = Service.below dir (place name ext) := by
  obtain ⟨front, last, components, component, rfl⟩ := parts_of_check checked
  have here := place_joinWith ext components component
  have upper : ∀ part ∈ front ++ [last ++ ext], startsUppercase part = true :=
    startsUppercase_file components component
  refine ⟨by simp [here], fun climbs => ?_, fun dir => ?_⟩
  · rw [here] at climbs
    have up := upper _ climbs
    revert up
    decide
  · rw [FilePath.join, if_pos (anchorOf_toFile checked),
      partsOf_toFile slash components component, here]
    rfl

namespace Service

variable {s : Service} {name : Text} {scopes : List Text} {r : Response} {w v : World}

/-- The bytes of the module of a name in the root of a scope, if this is there and has it. -/
def moduleIn? (s : Service) (files : Folder) (name scope : Text) : Option (List UInt8) :=
  match FileTree.lookBelow files (s.scopeDir scope)
      (ModuleName.place name s.settings.sourceExtension) with
  | some (.file bytes _) => some bytes
  | _ => none

/-- The bytes of the module that a name stands for: those in the root of the first scope that has it,
if the name is well-formed. -/
def firstModule? (s : Service) (files : Folder) (name : Text) : Option (List UInt8) :=
  if ModuleName.check name = true then
    s.settings.moduleScopes.findSome? (s.moduleIn? files name)
  else none

/-- The answer to a lookup by the bytes of the module: its text with all line breaks as line feeds,
or that there is none. -/
def Answers (name : Text) (r : Response) : Option (List UInt8) → Prop
  | none => r = .moduleNotFound name
  | some bytes => ∃ t, Utf8.decode bytes = .ok t ∧ r = .moduleFound name t.unifyBreaks

/-- A file that is read has a text. -/
theorem of_readText {path : FilePath} {t : Text}
    (read : (Action.readText path).run w = (.ok t, v)) :
    ∃ bytes decoded, FileTree.fileContent w.files path = .ok bytes ∧
      Utf8.decode bytes = .ok decoded ∧ t = decoded.unifyBreaks ∧ v = w := by
  rw [Action.readText, Action.run_bind, Action.run_ask] at read
  cases content : FileTree.fileContent w.files path with
  | error fault =>
      rw [content] at read
      cases read
  | ok bytes =>
      rw [content] at read
      dsimp only [Except.mapError] at read
      cases decoded : Utf8.decode bytes with
      | error fault =>
          rw [decoded] at read
          cases read
      | ok found =>
          rw [decoded] at read
          cases read
          exact ⟨bytes, found, rfl, decoded, rfl, rfl⟩

/-- Where there is no root there is no module. -/
theorem moduleIn?_of_missing {files : Folder} {scope : Text}
    (missing : s.rootThere files scope = false) : s.moduleIn? files name scope = none := by
  have none : FileTree.isDirectory files (s.scopeDir scope) ≠ .ok true := by
    rw [Ne, ← rootThere_iff, missing]
    exact Bool.false_ne_true
  rw [moduleIn?, FileTree.lookBelow_of_missing none]

/-- A lookup in the roots of scopes that answers gives the module of the first one that has it. -/
theorem answer_of_lookupIn (proper : w.files.Proper)
    (slash : FilePath.slash ∉ s.settings.sourceExtension) (checked : ModuleName.check name = true)
    (returned : (lookupIn name (ModuleName.toFile name s.settings.sourceExtension)
      ((scopes.filter (s.rootThere w.files)).map s.scopeDir)).run w = (.ok r, v)) :
    Answers name r (scopes.findSome? (s.moduleIn? w.files name)) := by
  obtain ⟨nonempty, plain, path⟩ := ModuleName.place_of_check slash checked
  -- the search goes along the scopes: a root that is missing or has no such file is passed over
  induction scopes with
  | nil =>
      cases returned
      exact rfl
  | cons scope more ih =>
      rw [List.findSome?_cons]
      cases there : s.rootThere w.files scope with
      | false =>
          rw [List.filter_cons_of_neg (by simp [there])] at returned
          rw [moduleIn?_of_missing there]
          exact ih returned
      | true =>
          rw [List.filter_cons_of_pos there, List.map_cons, lookupIn, path, Action.run_bind,
            Action.run_ask] at returned
          obtain ⟨folder, opened⟩ := FileTree.isDirectory_iff_opened.1 (rootThere_iff.1 there)
          cases asked : FileTree.isFile w.files (Service.below (s.scopeDir scope)
              (ModuleName.place name s.settings.sourceExtension)) with
          | error fault =>
              rw [asked] at returned
              cases returned
          | ok here =>
              have file := FileTree.isFile_below_iff proper opened plain asked
              rw [asked] at returned
              dsimp only [Except.mapError] at returned
              cases here with
              | false =>
                  have none : s.moduleIn? w.files name scope = none := by
                    unfold moduleIn?
                    rw [FileTree.lookBelow_of_opened opened]
                    split
                    · rename_i bytes executable shown
                      exact absurd (file.2 ⟨bytes, executable, shown⟩) Bool.false_ne_true
                    · rfl
                  rw [none]
                  exact ih returned
              | true =>
                  rw [if_pos rfl, Action.run_bind] at returned
                  rcases read : (Action.readText _).run w with ⟨failure | t, u⟩
                  · rw [read] at returned
                    cases returned
                  · rw [read] at returned
                    cases returned
                    obtain ⟨bytes, decoded, content, valid, rfl, -⟩ := of_readText read
                    obtain ⟨executable, shown⟩ :=
                      FileTree.fileContent_below opened plain content
                    have some : s.moduleIn? w.files name scope = some bytes := by
                      rw [moduleIn?, FileTree.lookBelow_of_opened opened, shown]
                    rw [some]
                    exact ⟨decoded, valid, rfl⟩

/-- A lookup that answers gives the module of the first scope whose root has one, if its name is
well-formed, and otherwise none. -/
theorem answer_of_getModule (slash : FilePath.slash ∉ s.settings.sourceExtension)
    (proper : w.files.Proper) (answered : ((s.getModule name).run w).1 = .ok r) :
    Answers name r (s.firstModule? w.files name) := by
  unfold getModule at answered
  unfold firstModule?
  by_cases checked : ModuleName.check name = true
  · rw [if_pos checked, Action.run_bind, roots] at answered
    rw [if_pos checked]
    by_cases shown : s.RootsShown w.files s.settings.moduleScopes
    · rw [run_rootsOf shown] at answered
      exact answer_of_lookupIn proper slash checked (Prod.ext answered rfl)
    · obtain ⟨failure, run⟩ := run_rootsOf_of_hidden shown
      rw [run] at answered
      cases answered
  · rw [if_neg checked] at answered
    rw [if_neg checked]
    cases answered
    exact rfl

/-! ## What makes a difference -/

/-- There is one answer to a lookup. -/
theorem Answers.unique {found : Option (List UInt8)} {r' : Response}
    (mine : Answers name r found) (other : Answers name r' found) : r' = r := by
  cases found with
  | none => exact Eq.trans other (Eq.symm mine)
  | some bytes =>
      obtain ⟨t, decoded, rfl⟩ := mine
      obtain ⟨t', decoded', rfl⟩ := other
      obtain rfl : t = t' := Except.ok.inj (decoded.symm.trans decoded')
      rfl

theorem Answers.found_iff {found : Option (List UInt8)} (answers : Answers name r found) :
    (∃ content, r = .moduleFound name content) ↔ found.isSome = true := by
  cases found with
  | none =>
      obtain rfl : r = .moduleNotFound name := answers
      simp
  | some bytes =>
      obtain ⟨t, -, rfl⟩ := answers
      simp

/-- Two trees hold the same below the module roots. -/
def SameModules (s : Service) (files files' : Folder) : Prop :=
  ∀ scope ∈ s.settings.moduleScopes, ∀ place : Location, place ≠ [] →
    FileTree.lookBelow files' (s.scopeDir scope) place =
      FileTree.lookBelow files (s.scopeDir scope) place

/-- Trees that hold the same below the module roots have the same modules. -/
theorem SameModules.firstModule? {files files' : Folder} (same : s.SameModules files files')
    (slash : FilePath.slash ∉ s.settings.sourceExtension) :
    s.firstModule? files' name = s.firstModule? files name := by
  unfold Service.firstModule?
  split
  · rename_i checked
    have place : ModuleName.place name s.settings.sourceExtension ≠ [] :=
      (ModuleName.place_of_check slash checked).1
    have each : ∀ scope ∈ s.settings.moduleScopes,
        s.moduleIn? files' name scope = s.moduleIn? files name scope := by
      intro scope configured
      rw [moduleIn?, moduleIn?, same scope configured _ place]
    generalize s.settings.moduleScopes = scopes at each
    induction scopes with
    | nil => rfl
    | cons scope more ih =>
        obtain ⟨head, rest⟩ := List.forall_mem_cons.1 each
        rw [List.findSome?_cons, List.findSome?_cons, head, ih rest]
  · rfl

/-- A lookup that answers finds a module exactly if its name is well-formed and the root of some
scope has it, and then gives the text of the one in the first such root; otherwise it answers that
there is none. In a tree that holds the same below the roots it gives the same answer, if nothing
stands in its way there. -/
theorem lookup_exact (slash : FilePath.slash ∉ s.settings.sourceExtension)
    (proper : w.files.Proper) (answered : ((s.getModule name).run w).1 = .ok r) :
    ((∃ content, r = .moduleFound name content) ↔ ModuleName.check name = true ∧
      ∃ scope ∈ s.settings.moduleScopes, (s.moduleIn? w.files name scope).isSome = true) ∧
    (∀ content, r = .moduleFound name content →
      ∃ earlier scope later bytes decoded,
        s.settings.moduleScopes = earlier ++ scope :: later ∧
        (∀ other ∈ earlier, s.moduleIn? w.files name other = none) ∧
        s.moduleIn? w.files name scope = some bytes ∧
        Utf8.decode bytes = .ok decoded ∧ content = decoded.unifyBreaks) ∧
    ((¬ ∃ content, r = .moduleFound name content) → r = .moduleNotFound name) ∧
    (∀ w' : World, w'.files.Proper → s.SameModules w.files w'.files →
      ((s.getModule name).run w').1 = .ok r ∨
        (∃ failure, ((s.getModule name).run w').1 = .error failure) ∧
          s.Obstructed w'.files name) := by
  have answers := answer_of_getModule slash proper answered
  refine ⟨?_, ?_, ?_, fun w' proper' same => ?_⟩
  · -- when a module is found
    rw [answers.found_iff, firstModule?]
    by_cases checked : ModuleName.check name = true
    · rw [if_pos checked, List.findSome?_isSome_iff]
      exact ⟨fun there => ⟨checked, there⟩, And.right⟩
    · simp [checked]
  · -- which one, and what is given of it
    rintro content rfl
    unfold firstModule? at answers
    split at answers
    · cases found : s.settings.moduleScopes.findSome? (s.moduleIn? w.files name) with
      | none =>
          rw [found] at answers
          cases answers
      | some bytes =>
          rw [found] at answers
          obtain ⟨decoded, valid, same⟩ := answers
          obtain ⟨earlier, scope, later, split, here, before⟩ :=
            List.findSome?_eq_some_iff.1 found
          cases same
          exact ⟨earlier, scope, later, bytes, decoded, split, before, here, valid, rfl⟩
    · cases answers
  · -- no other answer
    intro missing
    rw [answers.found_iff, Bool.not_eq_true, Option.isSome_eq_false_iff,
      Option.isNone_iff_eq_none] at missing
    rw [missing] at answers
    exact answers
  · -- nothing outside the roots makes a difference
    rcases s.getModule_cases name w' with ⟨r', run, -⟩ | ⟨⟨failure, run⟩, obstructed⟩
    · have answered' : ((s.getModule name).run w').1 = .ok r' := by rw [run]
      have answers' := answer_of_getModule slash proper' answered'
      rw [same.firstModule? slash] at answers'
      rw [answered', answers.unique answers']
      exact .inl rfl
    · exact .inr ⟨⟨failure, by rw [run]⟩, obstructed⟩

/-- The world with the shelf, and a file beside the module roots. -/
def shelfBesideFile : World where
  files := .dir (lit "modules") (.dir (lit "library") shelf .empty)
    (.file (lit "secret") [0x73] false .empty)

/-- What the shelf has is found, whatever stands beside the module roots. -/
theorem lookup_exact_shelf :
    FilePath.slash ∉ obedientService.settings.sourceExtension ∧
    (worldWith shelf).files.Proper ∧
    ((obedientService.getModule (lit "Demo.Calc")).run (worldWith shelf)).1 =
      .ok (.moduleFound (lit "Demo.Calc") []) ∧
    obedientService.SameModules (worldWith shelf).files shelfBesideFile.files ∧
    ((obedientService.getModule (lit "Demo.Calc")).run shelfBesideFile).1 =
      .ok (.moduleFound (lit "Demo.Calc") []) := by
  have slash : FilePath.slash ∉ obedientService.settings.sourceExtension := by decide
  have proper : (worldWith shelf).files.Proper := by decide
  have answered : ((obedientService.getModule (lit "Demo.Calc")).run (worldWith shelf)).1 =
      .ok (.moduleFound (lit "Demo.Calc") []) := ok_of_toOption (by decide +kernel)
  have same : obedientService.SameModules (worldWith shelf).files shelfBesideFile.files := by
    intro scope configured place _
    have scopes : scope ∈ [lit "library", lit "project", lit "global"] := configured
    simp only [List.mem_cons, List.not_mem_nil, or_false] at scopes
    rcases scopes with rfl | rfl | rfl <;> rfl
  refine ⟨slash, proper, answered, same, ?_⟩
  have clear : ((obedientService.getModule (lit "Demo.Calc")).run
      shelfBesideFile).1.toOption.isSome := by decide +kernel
  rcases (lookup_exact slash proper answered).2.2.2 shelfBesideFile (by decide) same with
    found | ⟨⟨failure, failed⟩, -⟩
  · exact found
  · rw [failed] at clear
    cases clear

end Service

end CompileService
