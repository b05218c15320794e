import CompileService.Proofs.Service.Beside
import CompileService.Proofs.Service.Runs

/-!
# Requests do not interfere

Requests with different identifiers can be served in any order. Where one request changes nothing
that another one looks at, but for the directory of public files, which both make in the same way,
serving them in either order comes to the same; and every order is reached by such exchanges.

* `Request.seen_after`: what a request looks at is as it was after another request.
* `Request.exchange`: two requests served in either order.
* `requests_do_not_interfere`: any number of requests in any order.
-/

namespace CompileService

namespace Service

/-- Serves requests one after the other: their replies, and the world in the end. -/
def serve (s : Service) : List Request → World → List (Request × Reply) × World
  | [], w => ([], w)
  | r :: more, w =>
    let rest := serve s more (r.after s w)
    ((r, r.reply s w) :: rest.1, rest.2)

/-- Two worlds with the same files and clock, and the same deletions pending. -/
structure Similar (w v : World) : Prop where
  files : ∀ q, w.files.look q = v.files.look q
  clock : w.clock = v.clock
  timers : w.timers.Perm v.timers

theorem Similar.refl (w : World) : Similar w w := ⟨fun _ => rfl, rfl, List.Perm.refl _⟩

theorem Similar.trans {u v w : World} (first : Similar u v) (second : Similar v w) : Similar u w :=
  ⟨fun q => (first.files q).trans (second.files q), first.clock.trans second.clock,
    first.timers.trans second.timers⟩

/-! ## The directory of public files -/

section
variable (s : Service) (made : Bool) (w : World)

@[simp] theorem opened_clock : (s.opened made w).clock = w.clock := by cases made <;> rfl

@[simp] theorem opened_timers : (s.opened made w).timers = w.timers := by cases made <;> rfl

@[simp] theorem opened_calls : (s.opened made w).calls = w.calls := by cases made <;> rfl

theorem opened_opened (made' : Bool) :
    s.opened made (s.opened made' w) = s.opened made' (s.opened made w) := by
  cases made <;> cases made' <;> rfl

variable {s made w}

theorem dir_of_opened {q : Location} (dir : w.files.look q = some .dir) :
    (s.opened made w).files.look q = some .dir := by
  cases made with
  | false => exact dir
  | true => exact (FileTree.makeDirs_grown w.files s.genDir).dir dir

variable (plain : s.genDir.Plain)
include plain

theorem look_opened_off {q : Location} (off : ¬ Request.OnWay s q) :
    (s.opened made w).files.look q = w.files.look q := by
  cases made with
  | false => rfl
  | true => exact FileTree.look_makeDirs_off plain off

theorem look_opened_congr {v : World} {q : Location}
    (same : ∀ t, Request.OnWay s t → w.files.look t = v.files.look t)
    (here : w.files.look q = v.files.look q) :
    (s.opened made w).files.look q = (s.opened made v).files.look q := by
  cases made with
  | false => exact here
  | true =>
      exact FileTree.look_makeDirs_congr plain same here

theorem alike_opened : FileTree.Alike s.genDir w.files (s.opened made w).files := by
  cases made with
  | false => exact .inl fun _ _ => rfl
  | true => exact FileTree.alike_makeDirs plain

end

end Service

namespace Request

open Service

section
variable {r a b : Request} {s : Service} {w v : World} (orderly : s.Orderly)
include orderly

theorem reply_congr (agree : ∀ q, r.Seen s q → w.files.look q = v.files.look q)
    (alike : FileTree.Alike s.genDir w.files v.files) (clock : w.clock = v.clock) :
    r.reply s w = r.reply s v := by
  obtain ⟨same, made, after⟩ := beside orderly agree alike clock
  obtain ⟨timers, calls, calls', since, since', glimpsed⟩ := after.since
  have left := since.calls
  have right := since'.calls
  rw [opened_calls] at left right
  unfold reply
  rw [same, left, right, List.drop_left, List.drop_left, glimpsed]

/-- What a request does to a world by itself. -/
theorem since_request (r : Request) (w : World) :
    ∃ made timers calls, Since (r.Own s) (s.opened made w) (r.after s w) timers calls := by
  have alike : FileTree.Alike s.genDir w.files w.files := .inl fun _ _ => rfl
  obtain ⟨-, made, after⟩ := beside (r := r) orderly (fun _ _ => rfl) alike rfl
  obtain ⟨timers, calls, calls', since, -⟩ := after.since
  exact ⟨made, timers, calls, since⟩

/-- A request keeps similar worlds similar. -/
theorem similar_after (similar : Similar w v) :
    r.reply s w = r.reply s v ∧ Similar (r.after s w) (r.after s v) := by
  have alike : FileTree.Alike s.genDir w.files v.files :=
    .inl fun q _ => similar.files q
  refine ⟨reply_congr orderly (fun q _ => similar.files q) alike similar.clock, ?_⟩
  obtain ⟨-, made, after⟩ :=
    beside (r := r) orderly (fun q _ => similar.files q) alike similar.clock
  obtain ⟨timers, calls, calls', since, since', -⟩ := after.since
  refine ⟨fun q => ?_, after.clock, ?_⟩
  · -- own places are seen, and elsewhere nothing is changed but by making directories
    by_cases own : r.Own s q
    · exact after.agree q own
    · rw [since.frame q own, since'.frame q own]
      exact look_opened_congr orderly.gen (fun t _ => similar.files t) (similar.files q)
  · rw [since.timers, since'.timers, opened_timers, opened_timers]
    exact similar.timers.append_right timers

end

/-- A request that changes the files has a source whose way was there before. -/
theorem after_cases (r : Request) (s : Service) (w : World) :
    (r.after s w).files = w.files ∨ ∀ t ∈ (r.source s).passes, w.files.look t = some .dir := by
  cases made : FileTree.createFile w.files (r.source s) with
  | ok files =>
      rw [FileTree.createFile_eq] at made
      obtain ⟨place, -, found, -⟩ := FileTree.LeafRule.applyAt_ok made
      exact .inr (FileTree.locate_of_passes found).1
  | error fault =>
      have failed : ((r.service s).newArtifact (r.service s).settings.sourceExtension).run w =
          (.error (.onPath (r.source s) fault), { w with drawn := w.drawn + 1 }) :=
        run_newArtifact_of_refused (fun _ => rfl) rfl made
      left
      unfold after action
      cases r.kind with
      | check =>
          dsimp only
          unfold checkModule
          rw [Action.run_bind, failed]
      | compile =>
          dsimp only
          unfold compileModule
          rw [Action.run_bind, failed]

section
variable {a b : Request} {s : Service} {w : World} (orderly : s.Orderly)
include orderly

/-- What a request looks at is as it was after another request. -/
theorem seen_after (other : a.id ≠ b.id) :
    (∀ q, a.Seen s q → w.files.look q = (b.after s w).files.look q) ∧
      FileTree.Alike s.genDir w.files (b.after s w).files ∧ w.clock = (b.after s w).clock := by
  obtain ⟨made, timers, calls, since⟩ := since_request orderly b w
  have same : ∀ q, ¬ b.Own s q → ¬ OnWay s q →
      w.files.look q = (b.after s w).files.look q := by
    intro q notOwn off
    rw [since.frame q notOwn, look_opened_off orderly.gen off]
  refine ⟨?_, ?_, ?_⟩
  · rintro q (own | pass | root)
    · exact same q (not_own_of_own orderly other own) fun way => not_own_of_onWay orderly way own
    · -- where the ways to both sources part, the other request is no longer in the way
      rcases after_cases b s w with kept | dirs
      · rw [kept]
      · rcases pass_cases orderly other pass with shared | ⟨notOwn, off⟩
        · rw [dirs q shared, since.dirs q (dir_of_opened (dirs q shared))]
        · exact same q notOwn off
    · exact same q (not_own_of_root orderly root) (not_onWay_of_root orderly root)
  · have alike : FileTree.Alike s.genDir w.files (s.opened made w).files := alike_opened orderly.gen
    refine alike.congr (fun _ _ => rfl) fun t way => ?_
    exact since.frame t (not_own_of_onWay orderly way)
  · rw [since.clock, opened_clock]

/-- Two requests served in either order: neither changes the reply to the other, and both orders end
in similar worlds. -/
theorem exchange (other : a.id ≠ b.id) (w : World) :
    a.reply s (b.after s w) = a.reply s w ∧
      Similar (b.after s (a.after s w)) (a.after s (b.after s w)) := by
  obtain ⟨seenA, alikeA, clockA⟩ := seen_after (w := w) orderly other
  obtain ⟨seenB, alikeB, clockB⟩ := seen_after (w := w) orderly (Ne.symm other)
  obtain ⟨-, madeA, afterA⟩ := beside orderly seenA alikeA clockA
  obtain ⟨-, madeB, afterB⟩ := beside orderly seenB alikeB clockB
  obtain ⟨timersA, _, _, first, second, -⟩ := afterA.since
  obtain ⟨timersB, _, _, first', second', -⟩ := afterB.since
  refine ⟨(reply_congr orderly seenA alikeA clockA).symm, fun q => ?_, ?_, ?_⟩
  · -- an own place of one request is left alone by the other; elsewhere only directories are made,
    -- and in which order they are made does not matter
    by_cases ownA : a.Own s q
    · have off : ¬ OnWay s q := fun way => not_own_of_onWay orderly way ownA
      rw [second'.frame q (not_own_of_own orderly other ownA), look_opened_off orderly.gen off]
      exact afterA.agree q ownA
    · by_cases ownB : b.Own s q
      · have off : ¬ OnWay s q := fun way => not_own_of_onWay orderly way ownB
        rw [second.frame q ownA, look_opened_off orderly.gen off]
        exact (afterB.agree q ownB).symm
      · rw [second'.frame q ownB, second.frame q ownA]
        have left : (s.opened madeB (a.after s w)).files.look q =
            (s.opened madeB (s.opened madeA w)).files.look q :=
          look_opened_congr orderly.gen (fun t way => first.frame t (not_own_of_onWay orderly way))
            (first.frame q ownA)
        have right : (s.opened madeA (b.after s w)).files.look q =
            (s.opened madeA (s.opened madeB w)).files.look q :=
          look_opened_congr orderly.gen (fun t way => first'.frame t (not_own_of_onWay orderly way))
            (first'.frame q ownB)
        rw [left, right, opened_opened]
  · rw [second'.clock, second.clock, opened_clock, opened_clock, ← clockA, ← clockB]
  · rw [second'.timers, second.timers, opened_timers, opened_timers, first.timers, first'.timers,
      opened_timers, opened_timers, List.append_assoc, List.append_assoc]
    exact List.perm_append_comm.append_left _

end

end Request

namespace Service

section
variable {s : Service} (orderly : s.Orderly)
include orderly

theorem serve_similar (rs : List Request) {w v : World} (similar : Similar w v) :
    (s.serve rs w).1 = (s.serve rs v).1 ∧ Similar (s.serve rs w).2 (s.serve rs v).2 := by
  induction rs generalizing w v with
  | nil => exact ⟨rfl, similar⟩
  | cons r more ih =>
      obtain ⟨reply, after⟩ := Request.similar_after (r := r) orderly similar
      obtain ⟨replies, final⟩ := ih after
      refine ⟨?_, final⟩
      simp only [serve, reply, replies]

end

/-- Requests do not interfere. With different identifiers, served in any order, each gets the same
response or failure and starts the same processes on the same source, and in the end the files are
the same and the same deletions are pending. -/
theorem requests_do_not_interfere {s : Service} (orderly : s.Orderly) {rs rs' : List Request}
    (perm : rs.Perm rs') (different : (rs.map (·.id)).Nodup) (w : World) :
    (s.serve rs w).1.Perm (s.serve rs' w).1 ∧ Similar (s.serve rs w).2 (s.serve rs' w).2 := by
  -- every order is reached by exchanging neighbours, and the requests after them see similar worlds
  induction perm generalizing w with
  | nil => exact ⟨List.Perm.refl _, Similar.refl w⟩
  | cons r perm ih =>
      simp only [List.map_cons, List.nodup_cons] at different
      obtain ⟨replies, final⟩ := ih different.2 (r.after s w)
      exact ⟨replies.cons _, final⟩
  | swap a b more =>
      have other : a.id ≠ b.id := by
        simp only [List.map_cons, List.nodup_cons, List.mem_cons, not_or] at different
        exact Ne.symm different.1.1
      obtain ⟨replyA, -⟩ := Request.exchange orderly other w
      obtain ⟨replyB, similar⟩ := Request.exchange orderly (Ne.symm other) w
      obtain ⟨replies, final⟩ := serve_similar orderly more similar
      refine ⟨?_, final⟩
      simp only [serve, replyA, replyB, replies]
      exact List.Perm.swap _ _ _
  | trans first second ih ih' =>
      obtain ⟨replies, final⟩ := ih different w
      obtain ⟨replies', final'⟩ := ih' ((first.map _).nodup_iff.1 different) w
      exact ⟨replies.trans replies', final.trans final'⟩

/-! ## Requests of a service -/

theorem orderly_obedientService : obedientService.Orderly where
  temp_gen := by decide
  temp_roots := by decide
  gen_roots := by decide
  gen := by unfold FilePath.Plain FileTree.PlainParts; decide
  scopes := by unfold FilePath.Plain FileTree.PlainParts; decide
  sources u := by
    have name : FilePath.partsOf (u.toText ++ lit ".hs") = [u.toText ++ lit ".hs"] :=
      FilePath.partsOf_name (isPart_id u (by decide))
    show FilePath.up ∉ FilePath.partsOf (u.toText ++ lit ".hs")
    rw [name, List.mem_singleton]
    exact up_ne_name u _

/-- A toolchain that finds nothing wrong and writes a script if it is told where. -/
def writing : Behaviour := ⟨fun _ _ => .exited 0 none, fun _ _ => some [0x3B]⟩

/-- A compilation with the identifier of the given value. -/
def compilation (n : Nat) : Request := ⟨.compile, lit "main", Uuid.ofNat n, writing⟩

/-- A type check with the identifier of the given value. -/
def typeCheck (n : Nat) : Request := ⟨.check, lit "main", Uuid.ofNat n, writing⟩

/-- The hypotheses hold of requests that do leave files. -/
theorem requests_do_not_interfere_obedient :
    let rs := [typeCheck 1, compilation 2, compilation 3]
    (obedientService.serve rs emptyWorld).2.files.FileAt
      [lit "static", lit "gen", (Uuid.ofNat 2).toText ++ lit ".js"] ∧
    (obedientService.serve rs emptyWorld).1.Perm (obedientService.serve rs.reverse emptyWorld).1 ∧
    Similar (obedientService.serve rs emptyWorld).2
      (obedientService.serve rs.reverse emptyWorld).2 := by
  intro rs
  refine ⟨⟨[0x3B], false, ?_⟩, requests_do_not_interfere orderly_obedientService
    (List.reverse_perm rs).symm ?_ emptyWorld⟩
  · decide +kernel
  · decide +kernel

/-- Two requests with different identifiers do not both get the same reply in both orders, although
the directories of the service are disjoint. -/
def Interfere (settings : Settings) (w : World) (a b : Request) : Prop :=
  let s : Service := { obedientService with settings := settings }
  s.tempDir.Apart s.genDir ∧ s.tempDir.Apart s.modulesDir ∧ s.genDir.Apart s.modulesDir ∧
    a.id ≠ b.id ∧ ¬ (s.serve [a, b] w).1.Perm (s.serve [b, a] w).1

/-- What replies show: the identifiers with the messages of failures and with the command lines. -/
def shown (replies : List (Request × Reply)) : List (Uuid × Option Text × List (List Text)) :=
  replies.map fun (r, reply) =>
    let message := match reply.result with
      | .ok _ => none
      | .error failure => some failure.message
    (r.id, message, reply.calls.map (·.1.argv))

theorem interfere_of_shown {settings : Settings} {w : World} {a b : Request}
    (h : let s : Service := { obedientService with settings := settings }
      s.tempDir.Apart s.genDir ∧ s.tempDir.Apart s.modulesDir ∧ s.genDir.Apart s.modulesDir ∧
        a.id ≠ b.id ∧ ¬ (shown (s.serve [a, b] w).1).Perm (shown (s.serve [b, a] w).1)) :
    Interfere settings w a b :=
  ⟨h.1, h.2.1, h.2.2.1, h.2.2.2.1, fun perm => h.2.2.2.2 (perm.map _)⟩

/-- A world with a module root. -/
def worldWithModules : World where
  files := .dir (lit "modules") (.dir (lit "library") .empty .empty)
    (.dir (lit "tmp") .empty .empty)

/-- A world in which the directory of public files cannot be made, and temporary directories bear
the names of two requests. -/
def blockedWorld : World where
  files := .file (lit "static") [] false
    (.dir (lit "tmp")
      (.dir (Uuid.ofNat 1).toText .empty (.dir (Uuid.ofNat 2).toText .empty .empty)) .empty)

/-- A name of one byte more than names may have. -/
def longName : Text := List.replicate 256 (CodePoint.ofChar 'x')

/-- Disjoint directories are not enough. Requests interfere where the path of the modules leads
through a directory that a compilation makes, or is too long to be looked at beyond it; where making
the directory of public files makes a module root on the way, anchored or not; and where sources of
several requests share a place. -/
theorem requests_interfere_on_crooked_paths :
    Interfere { modulesDir := lit "static/../modules" } worldWithModules (compilation 1)
      (typeCheck 2) ∧
    Interfere { modulesDir := lit "static/" ++ longName } emptyWorld (compilation 1) (typeCheck 2) ∧
    Interfere { modulesDir := lit "lib", moduleScopes := [lit "."], genDir := lit "lib/../gen" }
      emptyWorld (compilation 1) (typeCheck 2) ∧
    Interfere { modulesDir := lit "/c/lib", moduleScopes := [lit "."],
                genDir := lit "/c/lib/../gen" }
      emptyWorld (compilation 1) (typeCheck 2) ∧
    Interfere { sourceExtension := lit "/../x" } blockedWorld (compilation 1) (compilation 2) := by
  refine ⟨interfere_of_shown ?_, interfere_of_shown ?_, interfere_of_shown ?_,
    interfere_of_shown ?_, interfere_of_shown ?_⟩
  · decide +kernel
  · decide +kernel
  · decide +kernel
  · decide +kernel
  · decide +kernel

end Service

end CompileService
