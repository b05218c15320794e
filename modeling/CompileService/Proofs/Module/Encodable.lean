import CompileService.Proofs.Module.Listing
import CompileService.Proofs.Module.Name
import CompileService.Proofs.Text.Encodable

/-!
# Encodable module names

A name that passes the test consists of ASCII code points, and a name that is read off a file is made
of the names in its path.

* `ModuleName.encodable_of_check`: names that come from outside.
* `Listing.encodable_moduleNames`: names that a listing gives.
-/

namespace CompileService

namespace ModuleName

theorem Inner.encodable {c : CodePoint} (inner : Inner c) : c.isSurrogate = false := by
  rcases inner with point | rfl
  · rw [← Bool.not_eq_true]
    intro surrogate
    simp only [isNamePoint, CodePoint.isAsciiUpper, CodePoint.isAsciiLower, CodePoint.isAsciiDigit,
      CodePoint.isSurrogate, Bool.or_eq_true, Bool.and_eq_true, decide_eq_true_eq, beq_iff_eq]
      at point surrogate
    omega
  · decide

/-- A name that passes the test has no surrogate. -/
theorem encodable_of_check {name : Text} (checked : check name = true) : name.Encodable := by
  obtain ⟨front, last, components, component, rfl⟩ := parts_of_check checked
  exact Text.encodable_joinWith (by decide) fun part mem c inside =>
    (inner_of_components components component part mem c inside).encodable

theorem encodable_of_mem_allParts {t part : Text} (valid : t.Encodable)
    (mem : part ∈ (FilePath.ofText t).allParts) : part.Encodable := by
  have pieces : ∀ piece ∈ (FilePath.ofText t).parts, piece.Encodable := fun piece inside =>
    Text.encodable_of_mem_splitAt valid (List.mem_filter.1 inside).1
  unfold FilePath.allParts at mem
  split at mem
  · exact pieces part mem
  · rcases List.mem_cons.1 mem with rfl | inside
    · unfold Anchor.toText
      split
      · exact Text.encodable_nil
      · exact Text.encodable_lit _
      · exact Text.encodable_lit _
    · exact pieces part inside

theorem encodable_dropExtension {name : Text} (valid : name.Encodable) (ext : Text) :
    (dropExtension ext name).Encodable := by
  unfold dropExtension
  split
  · exact valid
  · unfold Text.dropEnd?
    split
    · exact valid.subset fun c inside => List.mem_of_mem_take inside
    · exact valid

/-- What is read off an encodable path is encodable. -/
theorem encodable_ofFile {path : Text} (valid : path.Encodable) (ext : Text) :
    (ofFile path ext).Encodable := by
  have slashed : Text.Encodable
      (path.map fun c => if c = CodePoint.ofChar '\\' then FilePath.slash else c) := by
    intro c inside
    obtain ⟨d, mem, rfl⟩ := List.mem_map.1 inside
    split
    · decide
    · exact valid d mem
  have parts : ∀ part ∈ fromFirst startsUppercase (FilePath.ofText
      (path.map fun c => if c = CodePoint.ofChar '\\' then FilePath.slash else c)).allParts,
      part.Encodable := by
    intro part mem
    refine encodable_of_mem_allParts slashed ?_
    unfold fromFirst at mem
    split at mem
    · exact (List.dropWhile_sublist _).subset mem
    · exact mem
  exact encodable_dropExtension (Text.encodable_joinWith (by decide : dot.isSurrogate = false) parts) ext

end ModuleName

namespace Listing

/-- The names of the modules of a proper tree are encodable. -/
theorem encodable_moduleNames {folder : Folder} (proper : folder.Proper) (ext : Text) :
    ∀ name ∈ moduleNames ext folder, name.Encodable := by
  intro name mem
  obtain ⟨file, listed, rfl⟩ := (mem_moduleNames proper).1 mem
  obtain ⟨content, executable, shown⟩ := listed.file
  have names : ∀ part ∈ file, IsName part := proper.isName (by simp [shown])
  have path : Text.Encodable (Text.joinWith [FilePath.slash] file) :=
    Text.encodable_joinWith (by decide) fun part inside => (names part inside).encodable
  exact ModuleName.encodable_ofFile path ext

end Listing

end CompileService
