import CompileService.Module.Listing
import CompileService.Proofs.FileTree.Proper
import CompileService.Proofs.Text.Order
import Mathlib.Data.List.Nodup

/-!
# What a listing holds

A walk finds every file below a directory once, except those behind a name of dots, and looks at
every entry that is not behind one.

* `mem_walk`, `nodup_walk`: what a walk finds, and that it finds nothing twice.
* `mem_visits_iff`: what a walk looks at on its way.
* `sorted_moduleNames`: the names listed are in order.
* `moduleNames_perm`: each of the files found with the extension gives one of them.
* `mem_moduleNames`, `count_moduleNames`: so these are the names of such files, and a name that is
  read off one file only is listed once.
-/

namespace CompileService.Listing

/-- No part of a place is passed over. -/
def Seen (place : Location) : Prop := ∀ part ∈ place, isHidden part = false

/-! ## The order of a walk -/

/-- A walk arranges the stops of a directory, and drops none. -/
theorem arrange_perm (l : List Stop) : (arrange l).Perm (l.flatMap (·.files)) := by
  unfold arrange
  have sorted : (l.mergeSort fun a b => Text.le a.name b.name).Perm l := List.mergeSort_perm l _
  have split := (List.perm_append_comm).trans
    (List.filter_append_perm (·.isDir) (l.mergeSort fun a b => Text.le a.name b.name))
  rw [← List.flatMap_append]
  exact ((split.trans sorted).flatMap_right _)

theorem mem_visitsOf {l : List (Text × List Location)} {place : Location} :
    place ∈ visitsOf l ↔ ∃ look ∈ l, place = [look.1] ∨ place ∈ look.2 := by
  unfold visitsOf
  have sorted : (l.mergeSort fun a b => Text.le a.1 b.1).Perm l := List.mergeSort_perm l _
  simp only [List.mem_append, List.mem_map, List.mem_flatMap, sorted.mem_iff]
  constructor
  · rintro (⟨look, mem, rfl⟩ | ⟨look, mem, below⟩)
    · exact ⟨look, mem, .inl rfl⟩
    · exact ⟨look, mem, .inr below⟩
  · rintro ⟨look, mem, rfl | below⟩
    · exact .inl ⟨look, mem, rfl⟩
    · exact .inr ⟨look, mem, below⟩

/-- The files of a directory and of those in it, in no particular order. -/
def places (f : Folder) : List Location := (stops f).flatMap (·.files)

theorem walk_perm (f : Folder) : (walk f).Perm (places f) := arrange_perm (stops f)

section
variable (name : Text) (content : List UInt8) (executable : Bool) (inner rest : Folder)

theorem places_file : places (.file name content executable rest) =
    if isHidden name then places rest else [name] :: places rest := by
  unfold places
  rw [stops]
  split <;> rfl

theorem places_dir : places (.dir name inner rest) =
    if isHidden name then places rest else (walk inner).map (name :: ·) ++ places rest := by
  unfold places
  rw [stops]
  split <;> rfl

end

/-! ## What is found -/

theorem seen_cons {name : Text} {more : Location} :
    Seen (name :: more) ↔ isHidden name = false ∧ Seen more := List.forall_mem_cons

section
variable (name : Text) (content : List UInt8) (executable : Bool) (inner rest : Folder)
  (place : Location)

theorem mem_places_file : place ∈ places (.file name content executable rest) ↔
    isHidden name = false ∧ place = [name] ∨ place ∈ places rest := by
  rw [places_file]
  by_cases hidden : isHidden name = true
  · simp [hidden]
  · simp [hidden]

theorem mem_places_dir : place ∈ places (.dir name inner rest) ↔
    isHidden name = false ∧ (∃ more ∈ places inner, place = name :: more) ∨
      place ∈ places rest := by
  rw [places_dir]
  by_cases hidden : isHidden name = true
  · simp [hidden]
  · simp [hidden, (walk_perm inner).mem_iff, eq_comm]

end

/-- The places of a directory are those of its files that are not behind a name of dots. -/
theorem mem_places {f : Folder} (proper : f.Proper) {place : Location} :
    place ∈ places f ↔ f.FileAt place ∧ Seen place := by
  induction f generalizing place with
  | empty =>
      cases place with
      | nil => simp [places, stops, Folder.fileAt_nil]
      | cons name more =>
          have nothing : ¬ Folder.empty.FileAt (name :: more) := Folder.fileAt_of_missing rfl more
          simp [places, stops, nothing]
  | file name content executable rest ih =>
      obtain ⟨-, missing, proper⟩ := proper
      rw [mem_places_file, ih proper]
      cases place with
      | nil => simp [Folder.fileAt_nil]
      | cons m more =>
          rw [Folder.fileAt_cons_file, seen_cons]
          by_cases same : name = m
          · -- names are distinct, so no later entry has this one
            subst same
            have none := Folder.fileAt_of_missing missing more
            cases more with
            | nil => simp [none, Seen]
            | cons next others => simp [none]
          · have other : m ≠ name := fun e => same e.symm
            simp [same, other]
  | dir name inner rest ihInner ih =>
      obtain ⟨-, missing, properInner, proper⟩ := proper
      rw [mem_places_dir, ih proper]
      cases place with
      | nil => simp [Folder.fileAt_nil]
      | cons m more =>
          rw [Folder.fileAt_cons_dir, seen_cons]
          by_cases same : name = m
          · subst same
            have none := Folder.fileAt_of_missing missing more
            simp [none, ihInner properInner, and_left_comm]
          · have other : m ≠ name := fun e => same e.symm
            simp [same, other]

/-- In a proper tree nothing has two places. -/
theorem nodup_places {f : Folder} (proper : f.Proper) : (places f).Nodup := by
  induction f with
  | empty => exact List.nodup_nil
  | file name content executable rest ih =>
      obtain ⟨-, missing, proper⟩ := proper
      rw [places_file]
      split
      · exact ih proper
      · refine List.nodup_cons.2 ⟨fun mem => ?_, ih proper⟩
        exact Folder.fileAt_of_missing missing [] ((mem_places proper).1 mem).1
  | dir name inner rest ihInner ih =>
      obtain ⟨-, missing, properInner, proper⟩ := proper
      rw [places_dir]
      split
      · exact ih proper
      · refine List.nodup_append.2 ⟨?_, ih proper, ?_⟩
        · -- places inside are distinct, and stay so below the name
          refine List.pairwise_map.2 (((walk_perm inner).nodup_iff.2 (ihInner properInner)).imp ?_)
          exact fun other same => other (List.cons.inj same).2
        · -- what is listed later has another first name
          intro a left b right same
          obtain ⟨more, -, rfl⟩ := List.mem_map.1 left
          subst same
          exact Folder.fileAt_of_missing missing more ((mem_places proper).1 right).1

/-- A walk finds the files of a directory that are not behind a name of dots. -/
theorem mem_walk {f : Folder} (proper : f.Proper) {place : Location} :
    place ∈ walk f ↔ f.FileAt place ∧ Seen place :=
  (walk_perm f).mem_iff.trans (mem_places proper)

/-- A walk finds nothing twice. -/
theorem nodup_walk {f : Folder} (proper : f.Proper) : (walk f).Nodup :=
  (walk_perm f).nodup_iff.2 (nodup_places proper)

/-! ## What a walk looks at -/

section
variable (name : Text) (content : List UInt8) (executable : Bool) (inner rest : Folder)
  (place : Location)

theorem mem_visits_file : place ∈ visits (.file name content executable rest) ↔
    isHidden name = false ∧ place = [name] ∨ place ∈ visits rest := by
  unfold visits
  rw [looks]
  by_cases hidden : isHidden name = true
  · simp [hidden]
  · simp [hidden, mem_visitsOf]

theorem mem_visits_dir : place ∈ visits (.dir name inner rest) ↔
    isHidden name = false ∧ (place = [name] ∨ ∃ more ∈ visits inner, place = name :: more) ∨
      place ∈ visits rest := by
  unfold visits
  rw [looks]
  by_cases hidden : isHidden name = true
  · simp [hidden]
  · simp [hidden, mem_visitsOf, eq_comm]

end

/-- A walk looks at the entries that are not behind a name of dots. -/
theorem mem_visits_iff {f : Folder} (proper : f.Proper) {place : Location} :
    place ∈ visits f ↔ place ≠ [] ∧ f.look place ≠ none ∧ Seen place := by
  induction f generalizing place with
  | empty =>
      cases place with
      | nil => simp [visits, looks, visitsOf]
      | cons m more =>
          have none : Folder.empty.look (m :: more) = none := Folder.look_of_missing rfl more
          simp [visits, looks, visitsOf, none]
  | file name content executable rest ih =>
      obtain ⟨-, missing, proper⟩ := proper
      rw [mem_visits_file, ih proper]
      cases place with
      | nil => simp
      | cons m more =>
          rw [Folder.look_cons_file, seen_cons]
          -- the first name leads to this entry or to a later one, since names are distinct
          by_cases same : name = m
          · subst same
            have none : rest.look (name :: more) = none := Folder.look_of_missing missing more
            cases more with
            | nil => simp [none, Seen, Node.entry]
            | cons next others => simp [none, Node.at?]
          · have other : m ≠ name := fun e => same e.symm
            simp [same, other]
  | dir name inner rest ihInner ih =>
      obtain ⟨-, missing, properInner, proper⟩ := proper
      rw [mem_visits_dir, ih proper]
      cases place with
      | nil => simp
      | cons m more =>
          rw [Folder.look_cons_dir, seen_cons]
          by_cases same : name = m
          · subst same
            have none : rest.look (name :: more) = none := Folder.look_of_missing missing more
            cases more with
            | nil => simp [none, Seen]
            | cons next others => simp [none, ihInner properInner, and_left_comm]
          · have other : m ≠ name := fun e => same e.symm
            simp [same, other]

/-! ## The names -/

/-- A file of a directory that a listing names. -/
structure Listed (ext : Text) (f : Folder) (place : Location) : Prop where
  file : f.FileAt place
  seen : Seen place
  extension : hasExtension ext place = true

section
variable {ext : Text} {f : Folder}

theorem mem_filter_walk (proper : f.Proper) {place : Location} :
    place ∈ (walk f).filter (hasExtension ext) ↔ Listed ext f place := by
  rw [List.mem_filter, mem_walk proper]
  exact ⟨fun ⟨⟨file, seen⟩, extension⟩ => ⟨file, seen, extension⟩,
    fun ⟨file, seen, extension⟩ => ⟨⟨file, seen⟩, extension⟩⟩

/-- The names listed are in order. -/
theorem sorted_moduleNames (ext : Text) (f : Folder) :
    (moduleNames ext f).Pairwise (· ≤ ·) := Text.sorted_mergeSort id _

/-- There is a name for each listed file, and no other. -/
theorem moduleNames_perm (ext : Text) (proper : f.Proper) :
    ∃ places : List Location, places.Nodup ∧ (∀ place, place ∈ places ↔ Listed ext f place) ∧
      (moduleNames ext f).Perm (places.map (nameOf ext)) :=
  ⟨(walk f).filter (hasExtension ext), (nodup_walk proper).filter _,
    fun _ => mem_filter_walk proper, List.mergeSort_perm _ _⟩

/-- The names listed are those of the listed files. -/
theorem mem_moduleNames (proper : f.Proper) {name : Text} :
    name ∈ moduleNames ext f ↔ ∃ place, Listed ext f place ∧ nameOf ext place = name := by
  obtain ⟨places, -, members, perm⟩ := moduleNames_perm ext proper
  rw [perm.mem_iff, List.mem_map]
  simp only [members]

/-- A name that is read off one listed file only is listed once. -/
theorem count_moduleNames (proper : f.Proper) {place : Location} (listed : Listed ext f place)
    (only : ∀ other, Listed ext f other → nameOf ext other = nameOf ext place → other = place) :
    (moduleNames ext f).count (nameOf ext place) = 1 := by
  obtain ⟨places, once, members, perm⟩ := moduleNames_perm ext proper
  rw [perm.count_eq, List.count_eq_countP, List.countP_map,
    ← List.count_eq_one_of_mem once ((members place).2 listed), List.count_eq_countP]
  refine List.countP_congr fun other inside => ?_
  simp only [Function.comp_apply, beq_iff_eq]
  refine ⟨only other ((members other).1 inside), ?_⟩
  rintro rfl
  rfl

end

end CompileService.Listing
