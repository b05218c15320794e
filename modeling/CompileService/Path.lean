import CompileService.Text.Basic

/-!
# Paths

A path is a row of parts, anchored at the root of the file system or relative. Reading one drops
empty parts and parts that are a single dot, and keeps `..`. One leading slash anchors a path; two
leading slashes, but not three, anchor it in a way of their own.

* `FilePath.ofText`, `FilePath.toText`: reading and writing.
* `FilePath.join`: a path inside another; an anchored one replaces it.
-/

namespace CompileService

/-- What a path starts from. -/
inductive Anchor where
  | relative
  | root
  | doubleRoot
deriving DecidableEq

/-- The slashes that write an anchor. -/
def Anchor.toText : Anchor → Text
  | .relative => []
  | .root => lit "/"
  | .doubleRoot => lit "//"

/-- A path without empty parts and single dots. -/
structure FilePath where
  anchor : Anchor
  parts : List Text
deriving DecidableEq

namespace FilePath

/-- The slash between two parts. -/
def slash : CodePoint := '/'

/-- The part that stands for the directory itself. -/
def here : Text := lit "."

/-- The part that leads to the directory above. -/
def up : Text := lit ".."

/-- The parts that a text has between its slashes. -/
def partsOf (t : Text) : List Text := (Text.splitAt slash t).filter fun p => p ≠ [] ∧ p ≠ here

/-- The anchor that a text starts with. -/
def anchorOf : Text → Anchor
  | a :: b :: c :: _ =>
    if a ≠ slash then .relative else if b = slash ∧ c ≠ slash then .doubleRoot else .root
  | [a, b] => if a ≠ slash then .relative else if b = slash then .doubleRoot else .root
  | [a] => if a = slash then .root else .relative
  | [] => .relative

/-- Reads a path. -/
def ofText (t : Text) : FilePath := ⟨anchorOf t, partsOf t⟩

/-- Writes a path; the empty relative path is a single dot. -/
def toText (p : FilePath) : Text :=
  if p.anchor = .relative ∧ p.parts = [] then here
  else p.anchor.toText ++ Text.joinWith [slash] p.parts

/-- The path that a text leads to from `p`. -/
def join (p : FilePath) (t : Text) : FilePath :=
  if anchorOf t = .relative then { p with parts := p.parts ++ partsOf t } else ofText t

/-- The directory that a path lies in, by its parts. -/
def parent (p : FilePath) : FilePath := { p with parts := p.parts.dropLast }

/-- The last part. -/
def name (p : FilePath) : Text := p.parts.getLastD []

/-- The parts with the anchor, if there is one, in front. -/
def allParts (p : FilePath) : List Text :=
  if p.anchor = .relative then p.parts else p.anchor.toText :: p.parts

end FilePath

end CompileService
