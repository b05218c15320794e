import CompileService.Text.Basic

/-!
# Identifiers

Every artifact is named after a number of 128 bits, written in hexadecimal groups of 8, 4, 4, 4 and
12 digits. The source of identifiers may be out of them for a moment.
-/

namespace CompileService

/-- The number of identifiers that 128 bits tell apart. -/
def uuidCount : Nat := 0x100000000000000000000000000000000

/-- A universally unique identifier. -/
structure Uuid where
  val : Nat
  isLt : val < uuidCount
deriving DecidableEq

namespace Uuid

/-- The identifier with the given number, taken modulo their count. -/
def ofNat (n : Nat) : Uuid := ⟨n % uuidCount, Nat.mod_lt _ (Nat.succ_pos _)⟩

/-- The text of an identifier. -/
def toText (u : Uuid) : Text :=
  let digits := Text.padded 16 32 u.val
  let group (start count : Nat) := (digits.drop start).take count
  group 0 8 ++ lit "-" ++ group 8 4 ++ lit "-" ++ group 12 4 ++ lit "-" ++ group 16 4 ++ lit "-" ++
    group 20 12

end Uuid

/-- What one request to the source of identifiers gives. -/
inductive Draw where
  | issued (id : Uuid)
  /-- The source had nothing to give. -/
  | nothing
  /-- The source was not available. -/
  | unavailable
deriving DecidableEq

/-- The identifier of a draw, if there is one. -/
def Draw.id? : Draw → Option Uuid
  | .issued id => some id
  | .nothing => none
  | .unavailable => none

/-- A source that gives the listed draws first and then identifiers counted from one. -/
def drawsThenCount (draws : List Draw) (n : Nat) : Draw :=
  match draws[n]? with
  | some draw => draw
  | none => .issued (.ofNat (n - draws.length + 1))

end CompileService
