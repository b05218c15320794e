import CompileService.Proofs.Diagnostic.Layout
import CompileService.Proofs.Text.Encodable

/-!
# Encodable diagnostics

Reading a report drops code points and puts line feeds between lines; it makes up nothing else. So
what is read from an encodable report is encodable.

* `afterColon_subset`, `dropReturns_subset`, `blocks_subset`: what the steps of the reader keep.
* `encodable_parse`: the texts of the diagnostics.
-/

namespace CompileService.Report

theorem afterColon_subset {t : Text} : ∀ c ∈ afterColon t, c ∈ t := by
  induction t with
  | nil => exact fun c inside => inside
  | cons d rest ih =>
      intro c inside
      rw [afterColon] at inside
      split at inside
      · exact List.mem_cons_of_mem _ inside
      · exact List.mem_cons_of_mem _ (ih c inside)

theorem dropReturns_subset {t : Text} : ∀ c ∈ t.dropReturns, c ∈ t := by
  induction t using Text.dropReturns.induct with
  | case1 => exact fun c inside => inside
  | case2 c => exact fun c inside => inside
  | case3 c d rest both ih =>
      intro x inside
      rw [Text.dropReturns, if_pos both] at inside
      rcases List.mem_cons.1 inside with rfl | later
      · simp [both.2]
      · simp [ih x later]
  | case4 c d rest other ih =>
      intro x inside
      rw [Text.dropReturns, if_neg other] at inside
      rcases List.mem_cons.1 inside with rfl | later
      · exact List.mem_cons_self
      · exact List.mem_cons_of_mem _ (ih x later)

theorem blocks_subset {t : Text} : ∀ block ∈ blocks t, ∀ c ∈ block, c ∈ t := by
  induction t using blocks_induction with
  | nil => simp [blocks]
  | pair t ih =>
      intro block mem x inside
      rw [blocks_pair] at mem
      rcases List.mem_cons.1 mem with rfl | later
      · cases inside
      · simp [ih block later x inside]
  | single c t alone ih =>
      obtain ⟨first, more, cut⟩ := List.exists_cons_of_ne_nil (blocks_ne_nil t)
      rw [blocks_cons alone, cut, List.modifyHead_cons]
      rw [cut] at ih
      intro block mem x inside
      rcases List.mem_cons.1 mem with rfl | later
      · rcases List.mem_cons.1 inside with rfl | further
        · exact List.mem_cons_self
        · exact List.mem_cons_of_mem _ (ih first List.mem_cons_self x further)
      · exact List.mem_cons_of_mem _ (ih block (List.mem_cons_of_mem _ later) x inside)

/-- The text of a block is made of what stands in it and of line feeds. -/
theorem encodable_message {block : Text} (valid : block.Encodable) : (message block).Encodable := by
  have behind : Text.Encodable ((afterColon (afterColon (afterColon block))).dropWhile
      (· = CodePoint.ofChar ' ')) := by
    refine valid.subset fun c inside => ?_
    exact afterColon_subset c (afterColon_subset c (afterColon_subset c
      ((List.dropWhile_sublist _).subset inside)))
  refine Text.encodable_joinWith (by decide) fun line mem => ?_
  obtain ⟨whole, among, rfl⟩ := List.mem_map.1 (List.mem_filter.1 mem).1
  have line := Text.encodable_of_mem_splitAt behind among
  rcases dedent_cases whole with same | indented
  · rwa [same]
  · rw [indented] at line
    exact line.subset fun c inside => List.mem_append_right _ inside

theorem encodable_splitWarning {t : Text} (valid : t.Encodable) :
    (splitWarning t).2.Encodable := by
  rcases splitWarning_cases t with same | ⟨-, alone⟩ | ⟨c, rest, -, rfl, split⟩
  · rwa [same]
  · rw [alone]
    exact Text.encodable_nil
  · rw [split]
    exact valid.subset fun d inside => List.mem_append_right _ (List.mem_cons_of_mem _ inside)

/-- What is read from an encodable report can be sent. -/
theorem encodable_parse {lineSkip : Int} {raw : Text} {diagnostics : List Diagnostic}
    (valid : raw.Encodable) (parsed : parse lineSkip raw = .ok diagnostics) :
    ∀ d ∈ diagnostics, d.text.Encodable := by
  intro d mem
  obtain ⟨block, among, read⟩ := (mem_parseBlocks_iff parsed).1 mem
  obtain ⟨n, -, -, rfl⟩ := parseBlock_some_iff.1 read
  have inBlock : block.Encodable :=
    valid.subset fun c inside => dropReturns_subset c (blocks_subset block among c inside)
  exact encodable_splitWarning (encodable_message inBlock)

end CompileService.Report
