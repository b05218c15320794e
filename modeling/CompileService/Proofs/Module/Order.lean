import CompileService.Proofs.Module.Listing
import Mathlib.Data.List.Infix

/-!
# The order of a walk

Of two files, the one that a walk finds first can be told from their places: below the directory
that they have in common, a file of that directory comes before those further down, and otherwise
the names of the two entries decide. So what is below one directory stays together.

* `Precedes`: one place comes before another. `Precedes.asymm`, `Precedes.convex`: it does not come
  behind it as well, and nothing from elsewhere comes between two places below a directory.
* `IsWalk`: a row of places in the order of a walk, and all that a walk finds. `isWalk_walk`: the
  row of a walk is one. `IsWalk.unique`: there is no other.
-/

namespace CompileService.Listing

/-- One place comes before another in a walk. -/
inductive Precedes : Location → Location → Prop
  /-- The files of a directory are in the order of their names. -/
  | files {name other : Text} : name < other → Precedes [name] [other]
  /-- The files of a directory come before those further down. -/
  | own {name other : Text} {more : Location} : more ≠ [] → Precedes [name] (other :: more)
  /-- All that is in a directory comes before what is in one with a later name. -/
  | dirs {name other : Text} {more others : Location} : name < other → more ≠ [] → others ≠ [] →
      Precedes (name :: more) (other :: others)
  /-- What is in one directory is in the order that it has there. -/
  | within (name : Text) {more others : Location} : Precedes more others →
      Precedes (name :: more) (name :: others)

/-- A place below a directory, at any depth. -/
def IsBelow (dir place : Location) : Prop := dir <+: place ∧ place ≠ dir

instance (dir place : Location) : Decidable (IsBelow dir place) :=
  inferInstanceAs (Decidable (_ ∧ _))

/-- A row of places that holds what a walk finds, in its order. -/
structure IsWalk (f : Folder) (places : List Location) : Prop where
  /-- These are the files that are not behind a name of dots. -/
  found : ∀ place, place ∈ places ↔ f.FileAt place ∧ Seen place
  once : places.Nodup
  ordered : ∀ place ∈ places, ∀ other ∈ places,
    [place, other].Sublist places ↔ Precedes place other
  /-- The places below a directory follow each other. -/
  together : ∀ dir, (places.filter fun place => IsBelow dir place) <:+: places

/-! ## Rows in order -/

section
variable {α : Type} {R : α → α → Prop} {l : List α}

/-- Two of a row in order stand in it as the order says. -/
theorem sublist_pair_iff (sorted : l.Pairwise R) (asymm : ∀ a b, R a b → ¬ R b a) {a b : α}
    (left : a ∈ l) (right : b ∈ l) : [a, b].Sublist l ↔ R a b := by
  refine ⟨List.pairwise_iff_forall_sublist.1 sorted, fun before => ?_⟩
  obtain ⟨front, back, rfl⟩ := List.append_of_mem left
  obtain ⟨-, -, across⟩ := List.pairwise_append.1 sorted
  rcases List.mem_append.1 right with early | late
  · exact absurd (across b early a List.mem_cons_self) (asymm a b before)
  · rcases List.mem_cons.1 late with rfl | behind
    · exact absurd before (asymm b b before)
    · exact ((List.singleton_sublist.2 behind).cons_cons a).trans (List.sublist_append_right _ _)

variable {p : α → Bool}

/-- Behind one that satisfies `p`, those that do come first. -/
theorem filter_prefix_of_convex (convex : ∀ a b c, p a → p c → R a b → R b c → p b) {first : α}
    (here : p first) (before : ∀ a ∈ l, R first a) (sorted : l.Pairwise R) :
    l.filter p <+: l := by
  induction l with
  | nil => exact List.prefix_rfl
  | cons a more ih =>
      obtain ⟨next, rest⟩ := List.pairwise_cons.1 sorted
      obtain ⟨beforeNext, beforeRest⟩ := List.forall_mem_cons.1 before
      by_cases same : p a
      · rw [List.filter_cons_of_pos same]
        exact (List.prefix_cons_inj a).2 (ih beforeRest rest)
      · -- what does not satisfy it parts the first one from all others
        have none : more.filter p = [] := by
          rw [List.filter_eq_nil_iff]
          intro c mem other
          exact same (convex first a c here other beforeNext (next c mem))
        rw [List.filter_cons_of_neg same, none]
        exact List.nil_prefix

/-- In a row in order, those between two of which there is no other follow each other. -/
theorem filter_infix_of_convex (convex : ∀ a b c, p a → p c → R a b → R b c → p b)
    (sorted : l.Pairwise R) : l.filter p <:+: l := by
  induction l with
  | nil => exact List.infix_rfl
  | cons a more ih =>
      obtain ⟨next, rest⟩ := List.pairwise_cons.1 sorted
      by_cases here : p a
      · rw [List.filter_cons_of_pos here]
        exact ((List.prefix_cons_inj a).2
          (filter_prefix_of_convex convex here next rest)).isInfix
      · rw [List.filter_cons_of_neg here]
        exact List.infix_cons (ih rest)

end

/-! ## The order of places -/

section
variable {place other third dir : Location}

theorem Precedes.left_ne_nil (h : Precedes place other) : place ≠ [] := by
  cases h <;> exact List.cons_ne_nil _ _

theorem Precedes.right_ne_nil (h : Precedes place other) : other ≠ [] := by
  cases h <;> exact List.cons_ne_nil _ _

/-- No place comes both before and behind another. -/
theorem Precedes.asymm (h : Precedes place other) : ¬ Precedes other place := by
  induction h with
  | files before =>
      intro back
      cases back with
      | files after => exact List.lt_asymm before after
      | own deeper => exact deeper rfl
      | dirs _ inside _ => exact inside rfl
      | within _ inner => exact inner.left_ne_nil rfl
  | own deeper =>
      intro back
      cases back with
      | files _ => exact deeper rfl
      | own none => exact none rfl
      | dirs _ _ inside => exact inside rfl
      | within _ inner => exact inner.right_ne_nil rfl
  | dirs before inside insideOther =>
      intro back
      cases back with
      | files _ => exact inside rfl
      | own _ => exact insideOther rfl
      | dirs after _ _ => exact List.lt_asymm before after
      | within _ _ => exact List.lt_irrefl _ before
  | within name inner ih =>
      intro back
      cases back with
      | files same => exact List.lt_irrefl _ same
      | own _ => exact inner.right_ne_nil rfl
      | dirs same _ _ => exact List.lt_irrefl _ same
      | within _ innerBack => exact ih innerBack

theorem isBelow_nil : IsBelow [] place ↔ place ≠ [] := by
  simp [IsBelow]

theorem isBelow_cons {name m : Text} :
    IsBelow (name :: dir) (m :: place) ↔ name = m ∧ IsBelow dir place := by
  unfold IsBelow
  rw [List.cons_prefix_cons]
  constructor
  · rintro ⟨⟨rfl, front⟩, other⟩
    exact ⟨rfl, front, fun same => other (congrArg _ same)⟩
  · rintro ⟨rfl, front, other⟩
    exact ⟨⟨rfl, front⟩, fun same => other (List.cons.inj same).2⟩

theorem IsBelow.ne_nil (h : IsBelow dir place) : place ≠ [] := by
  rintro rfl
  exact h.2 (List.prefix_nil.1 h.1).symm

/-- Between two places below a directory there is only what is below it. -/
theorem Precedes.convex (left : IsBelow dir place) (right : IsBelow dir third)
    (h : Precedes place other) (next : Precedes other third) : IsBelow dir other := by
  induction dir generalizing place other third with
  | nil => exact isBelow_nil.2 h.right_ne_nil
  | cons name rest ih =>
      -- both places go through the directory, so they are more than one name long
      obtain ⟨m, more, rfl⟩ := List.exists_cons_of_ne_nil left.ne_nil
      obtain ⟨n, others, rfl⟩ := List.exists_cons_of_ne_nil right.ne_nil
      obtain ⟨rfl, leftInner⟩ := isBelow_cons.1 left
      obtain ⟨rfl, rightInner⟩ := isBelow_cons.1 right
      cases h with
      | files _ => exact absurd rfl leftInner.ne_nil
      | own _ => exact absurd rfl leftInner.ne_nil
      | dirs before _ inside =>
          cases next with
          | files _ => exact absurd rfl inside
          | own _ => exact absurd rfl inside
          | dirs after _ _ => exact absurd after (List.lt_asymm before)
          | within _ _ => exact absurd before (List.lt_irrefl _)
      | within _ inner =>
          cases next with
          | files _ => exact absurd rfl inner.right_ne_nil
          | own _ => exact absurd rfl inner.right_ne_nil
          | dirs same _ _ => exact absurd same (List.lt_irrefl _)
          | within _ innerNext =>
              exact isBelow_cons.2 ⟨rfl, ih leftInner rightInner inner innerNext⟩

end

/-! ## The stops of a directory -/

/-- A stop leads to itself if it is a file, and otherwise to places in it, in order. -/
structure Stop.Ordered (s : Stop) : Prop where
  file : s.isDir = false → s.files = [[s.name]]
  dir : s.isDir = true → ∃ inside : List Location, s.files = inside.map (s.name :: ·) ∧
    inside.Pairwise Precedes ∧ ∀ place ∈ inside, place ≠ []

section
variable {s : Stop} {place : Location}

theorem Stop.Ordered.pairwise (h : s.Ordered) : s.files.Pairwise Precedes := by
  cases kind : s.isDir with
  | false =>
      rw [h.file kind]
      exact List.pairwise_singleton _ _
  | true =>
      obtain ⟨inside, files, sorted, -⟩ := h.dir kind
      rw [files, List.pairwise_map]
      exact sorted.imp (Precedes.within s.name)

/-- What is in a directory has its name in front. -/
theorem Stop.Ordered.inside (h : s.Ordered) (dir : s.isDir = true) (mem : place ∈ s.files) :
    ∃ more, place = s.name :: more ∧ more ≠ [] := by
  obtain ⟨inside, files, -, deeper⟩ := h.dir dir
  rw [files] at mem
  obtain ⟨more, inner, rfl⟩ := List.mem_map.1 mem
  exact ⟨more, rfl, deeper more inner⟩

/-- A file leads to itself. -/
theorem Stop.Ordered.itself (h : s.Ordered) (file : s.isDir = false) (mem : place ∈ s.files) :
    place = [s.name] := by
  rw [h.file file] at mem
  exact List.mem_singleton.1 mem

/-- Stops with different names are arranged in the order of a walk. -/
theorem pairwise_arrange {l : List Stop} (distinct : l.Pairwise fun a b => a.name ≠ b.name)
    (ordered : ∀ s ∈ l, s.Ordered) : (arrange l).Pairwise Precedes := by
  have perm : (l.mergeSort fun a b => Text.le a.name b.name).Perm l := List.mergeSort_perm l _
  -- distinct names make the sorted row a strictly increasing one
  have increasing : (l.mergeSort fun a b => Text.le a.name b.name).Pairwise
      fun a b => a.name < b.name := by
    have apart := (perm.pairwise_iff fun other same => other same.symm).2 distinct
    refine (Text.sorted_mergeSort Stop.name l).imp₂ (fun a b le other => ?_) apart
    exact (List.le_iff_lt_or_eq.1 le).resolve_right other
  have each : ∀ s ∈ l.mergeSort fun a b => Text.le a.name b.name, s.Ordered :=
    fun s mem => ordered s (perm.mem_iff.1 mem)
  unfold arrange
  dsimp only
  generalize l.mergeSort (fun a b => Text.le a.name b.name) = row at increasing each
  have kind {q : Stop → Bool} : ∀ s ∈ row.filter q, s.Ordered ∧ q s = true := fun s mem =>
    ⟨each s (List.mem_filter.1 mem).1, (List.mem_filter.1 mem).2⟩
  refine List.pairwise_append.2 ⟨?files, ?dirs, ?across⟩
  case files =>
    refine List.pairwise_flatMap.2 ⟨fun s mem => (kind s mem).1.pairwise, ?_⟩
    refine (increasing.filter _).imp_of_mem fun {a b} left right before x inA y inB => ?_
    obtain ⟨orderedA, fileA⟩ := kind a left
    obtain ⟨orderedB, fileB⟩ := kind b right
    rw [orderedA.itself (by simpa using fileA) inA, orderedB.itself (by simpa using fileB) inB]
    exact .files before
  case dirs =>
    refine List.pairwise_flatMap.2 ⟨fun s mem => (kind s mem).1.pairwise, ?_⟩
    refine (increasing.filter _).imp_of_mem fun {a b} left right before x inA y inB => ?_
    obtain ⟨orderedA, dirA⟩ := kind a left
    obtain ⟨orderedB, dirB⟩ := kind b right
    obtain ⟨more, rfl, deeper⟩ := orderedA.inside dirA inA
    obtain ⟨others, rfl, deeperOther⟩ := orderedB.inside dirB inB
    exact .dirs before deeper deeperOther
  case across =>
    intro x left y right
    obtain ⟨a, memA, inA⟩ := List.mem_flatMap.1 left
    obtain ⟨b, memB, inB⟩ := List.mem_flatMap.1 right
    obtain ⟨orderedA, fileA⟩ := kind a memA
    obtain ⟨orderedB, dirB⟩ := kind b memB
    obtain ⟨more, rfl, deeper⟩ := orderedB.inside dirB inB
    rw [orderedA.itself (by simpa using fileA) inA]
    exact .own deeper

end

/-! ## What a walk finds, in order -/

section
variable {f : Folder}

/-- A stop of a directory has the name of an entry. -/
theorem find?_of_mem_stops {s : Stop} (mem : s ∈ stops f) : f.find? s.name ≠ none := by
  induction f with
  | empty => cases mem
  | file name content executable rest ih =>
      rw [stops] at mem
      rw [Folder.find?]
      split
      · exact Option.some_ne_none _
      · split at mem
        · exact ih mem
        · rcases List.mem_cons.1 mem with rfl | later
          · exact absurd rfl ‹name ≠ _›
          · exact ih later
  | dir name inner rest ihInner ih =>
      rw [stops] at mem
      rw [Folder.find?]
      split
      · exact Option.some_ne_none _
      · split at mem
        · exact ih mem
        · rcases List.mem_cons.1 mem with rfl | later
          · exact absurd rfl ‹name ≠ _›
          · exact ih later

/-- No stop of a directory has a name that no entry has. -/
theorem name_ne_of_missing {name : Text} (missing : f.find? name = none) :
    ∀ s ∈ stops f, name ≠ s.name := by
  intro s mem same
  exact find?_of_mem_stops mem (same ▸ missing)

theorem distinct_stops (proper : f.Proper) :
    (stops f).Pairwise fun a b => a.name ≠ b.name := by
  induction f with
  | empty => exact .nil
  | file name content executable rest ih =>
      obtain ⟨-, missing, proper⟩ := proper
      rw [stops]
      split
      · exact ih proper
      · exact .cons (name_ne_of_missing missing) (ih proper)
  | dir name inner rest ihInner ih =>
      obtain ⟨-, missing, -, proper⟩ := proper
      rw [stops]
      split
      · exact ih proper
      · exact .cons (name_ne_of_missing missing) (ih proper)

theorem ordered_stops (proper : f.Proper) : ∀ s ∈ stops f, s.Ordered := by
  induction f with
  | empty =>
      intro s mem
      cases mem
  | file name content executable rest ih =>
      obtain ⟨-, -, proper⟩ := proper
      rw [stops]
      split
      · exact ih proper
      · refine List.forall_mem_cons.2 ⟨⟨fun _ => rfl, fun dir => ?_⟩, ih proper⟩
        cases dir
  | dir name inner rest ihInner ih =>
      obtain ⟨-, -, properInner, proper⟩ := proper
      rw [stops]
      split
      · exact ih proper
      · refine List.forall_mem_cons.2 ⟨⟨fun file => ?_, fun _ => ?_⟩, ih proper⟩
        · cases file
        · have sorted := pairwise_arrange (distinct_stops properInner) (ihInner properInner)
          refine ⟨walk inner, rfl, sorted, ?_⟩
          rintro place mem rfl
          exact Folder.fileAt_nil inner ((mem_walk properInner).1 mem).1

/-- The places of a walk come one before the other. -/
theorem pairwise_walk (proper : f.Proper) : (walk f).Pairwise Precedes :=
  pairwise_arrange (distinct_stops proper) (ordered_stops proper)

/-- A walk finds the files that are not behind a name of dots, in its order. -/
theorem isWalk_walk (proper : f.Proper) : IsWalk f (walk f) where
  found _ := mem_walk proper
  once := nodup_walk proper
  ordered _ left _ right :=
    sublist_pair_iff (pairwise_walk proper) (fun _ _ => Precedes.asymm) left right
  together dir := by
    have convex (a b c : Location) (left : decide (IsBelow dir a) = true)
        (right : decide (IsBelow dir c) = true) (first : Precedes a b) (next : Precedes b c) :
        decide (IsBelow dir b) = true := by
      simp only [decide_eq_true_eq] at left right ⊢
      exact first.convex left right next
    exact filter_infix_of_convex convex (pairwise_walk proper)

/-- There is one order for what a walk finds. -/
theorem IsWalk.unique {places others : List Location} (h : IsWalk f places)
    (other : IsWalk f others) : places = others := by
  have perm : places.Perm others :=
    (List.perm_ext_iff_of_nodup h.once other.once).2 fun place =>
      (h.found place).trans (other.found place).symm
  have sorted {row : List Location} (isWalk : IsWalk f row) : row.Pairwise Precedes := by
    refine List.pairwise_iff_forall_sublist.2 fun {a b} pair => ?_
    exact (isWalk.ordered a (pair.subset (by simp)) b (pair.subset (by simp))).1 pair
  refine perm.eq_of_pairwise (fun a b _ _ before behind => ?_) (sorted h) (sorted other)
  exact absurd behind before.asymm

end

end CompileService.Listing
