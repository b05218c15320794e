import CompileService.Path
import CompileService.Text.Uppercase

/-!
# Module names

A module name is a row of components between dots; each component is a capital ASCII letter
followed by ASCII letters, digits, underscores and apostrophes. The module `Demo.Calc` is kept in
the file `Demo/Calc.hs` below a module root.

* `ModuleName.check`: the test that a name from outside passes before it becomes a file. A name also
  passes when one line feed follows it.
* `ModuleName.toFile`: the file of a name, relative to a root.
* `ModuleName.ofFile`: the name of a file: the parts of its path from the first one that begins with
  an uppercase code point, without the extension.
-/

namespace CompileService.ModuleName

/-- A code point that may stand after the first one of a component. -/
def isNamePoint (c : CodePoint) : Bool :=
  c.isAsciiUpper || c.isAsciiLower || c.isAsciiDigit || c.val == 0x5F || c.val == 0x27

/-- Whether the rest of a name can go on from inside a component. -/
def checkRest : Text → Bool
  | [] => true
  | [c] => isNamePoint c || c == CodePoint.lineFeed
  | c :: d :: rest =>
    if c = CodePoint.ofChar '.' then d.isAsciiUpper && checkRest rest
    else isNamePoint c && checkRest (d :: rest)

/-- Whether a text passes as a module name. -/
def check : Text → Bool
  | [] => false
  | c :: rest => c.isAsciiUpper && checkRest rest

/-- The file of a module below its root. -/
def toFile (name ext : Text) : Text :=
  name.map (fun c => if c = CodePoint.ofChar '.' then FilePath.slash else c) ++ ext

/-- Whether a part of a path begins with an uppercase code point. -/
def startsUppercase : Text → Bool
  | [] => false
  | c :: _ => c.isUppercase

/-- The parts from the first one that satisfies `p`; all of them if none does. -/
def fromFirst (p : α → Bool) (parts : List α) : List α :=
  if parts.any p then parts.dropWhile (!p ·) else parts

/-- The name without the extension at its end. -/
def dropExtension (ext name : Text) : Text :=
  if ext = [] then name else (Text.dropEnd? ext name).getD name

/-- The name of the module that a file holds. A backslash separates parts as a slash does. -/
def ofFile (path ext : Text) : Text :=
  let slashed := path.map fun c => if c = CodePoint.ofChar '\\' then FilePath.slash else c
  let parts := (FilePath.ofText slashed).allParts
  dropExtension ext (Text.joinWith (lit ".") (fromFirst startsUppercase parts))

end CompileService.ModuleName
