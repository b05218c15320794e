import CompileService.Text.Range

/-!
# Blank code points

The property White_Space has twenty-five code points. Where text is searched or cut, the four
information separators U+001C to U+001F count as blank too. The zero width space and the byte order
mark are in neither class.
-/

namespace CompileService

/-- The code points with the property White_Space, as runs. -/
def whiteSpaceRuns : List CodeRun := [
  ⟨0x9, 0xD, 1⟩, ⟨0x20, 0x20, 1⟩, ⟨0x85, 0x85, 1⟩, ⟨0xA0, 0xA0, 1⟩, ⟨0x1680, 0x1680, 1⟩,
  ⟨0x2000, 0x200A, 1⟩, ⟨0x2028, 0x2029, 1⟩, ⟨0x202F, 0x202F, 1⟩, ⟨0x205F, 0x205F, 1⟩, ⟨0x3000, 0x3000, 1⟩
]

namespace CodePoint

/-- Whether a code point has the property White_Space. -/
def isWhiteSpace (c : CodePoint) : Bool := c.inRuns whiteSpaceRuns

/-- Whether a code point is blank. -/
def isBlank (c : CodePoint) : Bool := c.isWhiteSpace || (0x1C ≤ c.val && c.val ≤ 0x1F)

end CodePoint

end CompileService
