import CompileService.Proofs.Service.Footprint

/-!
# Requests that depend on little

A request comes with its own identifier and its own toolchain. Where its toolchain reads the source
and writes the script and nothing else, all that the request depends on and all that it changes is
known beforehand.

* `Behaviour`, `Request`, `Reply`: a request with a toolchain of its own, and what it gives.
* `Service.Orderly`: the directories of the service are disjoint and their paths plain.
* `Request.Own`, `Request.Seen`: the places that a request changes, and those that it looks at.
* `Request.beside`: where two worlds show the same at the places seen, the request gives the same
  reply, and the worlds after it differ from those before at its own places only.
-/

namespace CompileService

/-- What a toolchain does, by the command line and the bytes of the source. -/
structure Behaviour where
  ending : List Text → Option (List UInt8) → Outcome
  /-- The script that is written, if there is one. -/
  written : List Text → Option (List UInt8) → Option (List UInt8)

/-- What writing a script leaves of a tree; where it cannot be written nothing is changed. -/
def Behaviour.left (files : Folder) : Option FilePath → Option (List UInt8) → Folder
  | some out, some script =>
    match FileTree.storeFile files out script with
    | .ok files => files
    | .error _ => files
  | _, _ => files

/-- A runner that reads a source and writes an output file, if it is told one. -/
def Behaviour.runner (b : Behaviour) (source : FilePath) (out : Option FilePath) : Runner :=
  fun _ launch files =>
    let bytes := (FileTree.fileContent files source).toOption
    (b.ending launch.argv bytes, left files out (b.written launch.argv bytes))

/-- What a request asks for. -/
inductive Request.Kind where
  | check
  | compile

/-- A request with its own identifier and its own toolchain. -/
structure Request where
  kind : Request.Kind
  content : Text
  id : Uuid
  behaviour : Behaviour

/-- What a request gives: a response or a failure, and the processes that were started. -/
structure Reply where
  result : Except Failure Response
  calls : List (Launch × Option (List UInt8))

namespace Request

variable (r : Request) (s : Service)

/-- The path of the source. -/
def source : FilePath := s.tempPath r.id.toText s.settings.sourceExtension

/-- The path of the script. -/
def script : FilePath := s.generatedPath r.id.toText (lit ".js")

/-- The path of the preview page. -/
def page : FilePath := s.generatedPath r.id.toText (lit ".html")

/-- The file that the toolchain is told to write. -/
def output : Kind → Option FilePath
  | .check => none
  | .compile => some (r.script s)

/-- The service as the request meets it. -/
def service : Service :=
  { s with
    ids := fun _ => .issued r.id
    runner := r.behaviour.runner (r.source s) (r.output s r.kind) }

def action : Action Response :=
  match r.kind with
  | .check => (r.service s).checkModule r.content
  | .compile => (r.service s).compileModule r.content

/-- The world after the request. -/
def after (w : World) : World := ((r.action s).run w).2

def reply (w : World) : Reply where
  result := ((r.action s).run w).1
  calls := ((r.after s w).calls.drop w.calls.length).map (Service.glimpse (r.source s))

end Request

/-- Neither of two paths leads into the tree below the other. -/
def FilePath.Apart (a b : FilePath) : Prop := ¬ a.home <+: b.home ∧ ¬ b.home <+: a.home

instance (a b : FilePath) : Decidable (a.Apart b) := inferInstanceAs (Decidable (_ ∧ _))

/-- No location is in both of two trees of which neither is inside the other. -/
theorem FilePath.not_in_both {a b q : Location} (apart : ¬ a <+: b ∧ ¬ b <+: a) (left : a <+: q) :
    ¬ b <+: q := by
  intro right
  rcases List.prefix_or_prefix_of_prefix left right with inside | inside
  · exact apart.1 inside
  · exact apart.2 inside

namespace Service

/-- The directory with the module roots. -/
def modulesDir (s : Service) : FilePath := FilePath.ofText s.settings.modulesDir

/-- The directories of temporary files and public files are disjoint, and so is each of them from the
module roots. The paths of public files and module roots name their places by their parts, and so do
the names of sources below the first. -/
structure Orderly (s : Service) : Prop where
  temp_gen : s.tempDir.Apart s.genDir
  temp_roots : ∀ scope ∈ s.settings.moduleScopes, s.tempDir.Apart (s.scopeDir scope)
  gen_roots : ∀ scope ∈ s.settings.moduleScopes, s.genDir.Apart (s.scopeDir scope)
  gen : s.genDir.Plain
  scopes : ∀ scope ∈ s.settings.moduleScopes, (s.scopeDir scope).Plain
  sources : ∀ u : Uuid, FilePath.up ∉ FilePath.partsOf (u.toText ++ s.settings.sourceExtension)

end Service

namespace Request

variable (r : Request) (s : Service)

/-- The places that a request may change: those of its source, its script and its page. -/
def Own (q : Location) : Prop :=
  q = (r.source s).home ∨ q = s.genDir.parts ++ [r.id.toText ++ lit ".js"] ∨
    q = s.genDir.parts ++ [r.id.toText ++ lit ".html"]

/-- The places of module roots. -/
def Root (q : Location) : Prop :=
  ∃ scope ∈ s.settings.moduleScopes, q = (s.scopeDir scope).parts

/-- The places on the way to the directory of public files. -/
def OnWay (q : Location) : Prop := q <+: s.genDir.parts

/-- The places that a request looks at before the directory of public files is made. -/
def Seen (q : Location) : Prop := r.Own s q ∨ q ∈ (r.source s).passes ∨ Root s q

/-- The places that a compilation looks at afterwards. -/
def SeenLater (q : Location) : Prop := r.Own s q ∨ q ∈ (r.source s).passes ∨ OnWay s q

/-! ## Places -/

theorem parts_source :
    (r.source s).parts =
      s.tempDir.parts ++ FilePath.partsOf (r.id.toText ++ s.settings.sourceExtension) := by
  rw [source, Service.tempPath_eq]

section
variable {r s} {r' : Request} (orderly : s.Orderly) {q : Location}
include orderly

theorem home_source : (r.source s).home =
    s.tempDir.home ++ FilePath.partsOf (r.id.toText ++ s.settings.sourceExtension) := by
  rw [FilePath.home, parts_source, List.foldl_append,
    FileTree.foldl_onward_plain (orderly.sources r.id)]
  rfl

theorem home_genDir : s.genDir.home = s.genDir.parts :=
  FileTree.home_of_plain orderly.gen.noUp

theorem home_scopeDir {scope : Text} (mem : scope ∈ s.settings.moduleScopes) :
    (s.scopeDir scope).home = (s.scopeDir scope).parts :=
  FileTree.home_of_plain (orderly.scopes scope mem).noUp

theorem below_source (here : q = (r.source s).home) : s.tempDir.home <+: q := by
  rw [here, home_source orderly]
  exact List.prefix_append _ _

/-- A public file lies below the directory of public files. -/
theorem below_public {name name' : Text}
    (here : q = s.genDir.parts ++ [name] ∨ q = s.genDir.parts ++ [name']) :
    s.genDir.home <+: q ∧ ¬ q <+: s.genDir.home := by
  obtain ⟨file, rfl⟩ : ∃ file, q = s.genDir.parts ++ [file] :=
    here.elim (fun h => ⟨name, h⟩) fun h => ⟨name', h⟩
  rw [home_genDir orderly]
  exact ⟨List.prefix_append _ _, FileTree.not_prefix_of_longer _ _⟩

/-- An own place is below the directory of temporary files or below that of public files. -/
theorem below_of_own (own : r.Own s q) :
    s.tempDir.home <+: q ∨ s.genDir.home <+: q ∧ ¬ q <+: s.genDir.home := by
  rcases own with here | here
  · exact .inl (below_source orderly here)
  · exact .inr (below_public orderly here)

theorem not_own_of_onWay (way : OnWay s q) : ¬ r.Own s q := by
  have before : q <+: s.genDir.home := by rwa [home_genDir orderly]
  intro own
  rcases below_of_own orderly own with below | ⟨-, proper⟩
  · exact orderly.temp_gen.1 (below.trans before)
  · exact proper before

theorem not_own_of_root (root : Root s q) : ¬ r.Own s q := by
  obtain ⟨scope, mem, rfl⟩ := root
  rw [← home_scopeDir orderly mem]
  intro own
  rcases below_of_own orderly own with below | ⟨below, -⟩
  · exact (orderly.temp_roots scope mem).1 below
  · exact (orderly.gen_roots scope mem).1 below

theorem not_onWay_of_root (root : Root s q) : ¬ OnWay s q := by
  obtain ⟨scope, mem, rfl⟩ := root
  intro before
  refine (orderly.gen_roots scope mem).2 ?_
  rw [home_genDir orderly, home_scopeDir orderly mem]
  exact before

/-- Requests with different identifiers have no place in common. -/
theorem not_own_of_own (other : r.id ≠ r'.id) (own : r.Own s q) : ¬ r'.Own s q := by
  have named : ∀ {x y : Text}, q = s.genDir.parts ++ [r.id.toText ++ x] →
      q ≠ s.genDir.parts ++ [r'.id.toText ++ y] := by
    intro x y here there
    have same := List.append_cancel_left (here.symm.trans there)
    exact other (Service.id_of_append (List.cons.inj same).1)
  intro own'
  -- a source and a public file lie in disjoint trees; two of a kind are told by their names
  rcases own with here | here
  · rcases own' with there | there
    · obtain ⟨first, more, cut⟩ := Service.partsOf_id s.settings.sourceExtension
      rw [home_source orderly, cut] at here there
      have same := List.append_cancel_left (here.symm.trans there)
      exact other (Service.id_of_append (List.cons.inj same).1)
    · exact FilePath.not_in_both orderly.temp_gen (below_source orderly here)
        (below_public orderly there).1
  · rcases own' with there | there
    · exact FilePath.not_in_both orderly.temp_gen (below_source orderly there)
        (below_public orderly here).1
    · rcases here with here | here
      · exact there.elim (named here) (named here)
      · exact there.elim (named here) (named here)

/-- A place on the way to the source of one request is on the way to that of another too, or the
other one does not change it. -/
theorem pass_cases (other : r.id ≠ r'.id) (pass : q ∈ (r.source s).passes) :
    q ∈ (r'.source s).passes ∨ ¬ r'.Own s q ∧ ¬ OnWay s q := by
  simp only [FilePath.passes, parts_source, FileTree.passed_append, List.mem_append] at pass ⊢
  -- all requests pass the way to the directory; below it lies what the extension leads through
  rcases pass with shared | alone
  · exact .inl (.inl shared)
  · right
    change q ∈ FileTree.passed s.tempDir.home _ at alone
    obtain ⟨inside, before, -⟩ := FileTree.prefix_of_passed (orderly.sources r.id) alone
    refine ⟨?_, ?_⟩
    · rintro (there | there)
      · obtain ⟨first, more, cut⟩ := Service.partsOf_id s.settings.sourceExtension
        rw [there, home_source orderly, cut, cut, List.prefix_append_right_inj,
          List.cons_prefix_cons] at before
        exact other (Service.id_of_append before.1).symm
      · exact FilePath.not_in_both orderly.temp_gen inside (below_public orderly there).1
    · intro way
      refine orderly.temp_gen.1 (inside.trans ?_)
      rw [home_genDir orderly]
      exact way

omit orderly in
/-- The path of the source can be used where the places on its way are seen. -/
theorem usable_source {seen : Location → Prop} (own : ∀ q, r.Own s q → seen q)
    (passes : ∀ q ∈ (r.source s).passes, seen q) :
    Service.Usable (r.Own s) seen (r.source s) where
  passes := passes
  place f place found := by
    have here : r.Own s place := .inl (FileTree.home_of_locate found)
    exact ⟨here, own place here⟩

/-- The paths of public files can be used once their directory is made. -/
theorem usable_public {ext : Text} (known : ext = lit ".js" ∨ ext = lit ".html") :
    Service.Usable (r.Own s) (r.SeenLater s) (s.generatedPath r.id.toText ext) := by
  have noSlash : FilePath.slash ∉ ext := by
    rcases known with rfl | rfl
    · decide
    · decide
  rw [s.generatedPath_eq r.id noSlash]
  have straight : FilePath.up ∉ s.genDir.parts ++ [r.id.toText ++ ext] := by
    rw [List.mem_append, not_or]
    exact ⟨orderly.gen.noUp,
      fun mem => Service.up_ne_name r.id ext (List.mem_singleton.1 mem)⟩
  constructor
  · intro t pass
    obtain ⟨-, before, proper⟩ := FileTree.prefix_of_passed straight pass
    rw [List.nil_append] at before proper
    exact .inr (.inr ((List.prefix_concat_iff.1 before).resolve_left proper))
  · intro f place found
    have here := FileTree.parts_of_locate straight found
    have own : r.Own s place := by
      refine .inr ?_
      rcases known with rfl | rfl
      · exact .inl here
      · exact .inr here
    exact ⟨own, .inl own⟩

end

end Request

end CompileService
