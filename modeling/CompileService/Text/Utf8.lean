import CompileService.Text.Basic

/-!
# UTF-8

* `Utf8.encode` writes a text as bytes and refuses a surrogate, naming the first one.
* `Utf8.firstStray?` and `Utf8.size` are about paths, in which some surrogates stand for bytes.
* `Utf8.decode` reads bytes strictly. A refusal says which bytes are at fault: the span is the
  longest start of an encoded code point found there, so the next byte may begin a new one.
* `Utf8.decodeReplacing` reads any bytes and puts U+FFFD for each such span.

Encodings longer than needed, encoded surrogates and numbers above U+10FFFF are refused at the
byte that makes them so.
-/

namespace CompileService.Utf8

/-- The bytes of one code point; the surrogates follow the same scheme as their neighbours. -/
def encodePoint (c : CodePoint) : List UInt8 :=
  let n := c.val
  if n < 0x80 then [n.toUInt8]
  else if n < 0x800 then [(0xC0 + n / 0x40).toUInt8, (0x80 + n % 0x40).toUInt8]
  else if n < 0x10000 then
    [(0xE0 + n / 0x1000).toUInt8, (0x80 + n / 0x40 % 0x40).toUInt8, (0x80 + n % 0x40).toUInt8]
  else
    [(0xF0 + n / 0x40000).toUInt8, (0x80 + n / 0x1000 % 0x40).toUInt8,
      (0x80 + n / 0x40 % 0x40).toUInt8, (0x80 + n % 0x40).toUInt8]

/-- Why a text has no encoding: the place of its first surrogate, the surrogate itself and how
many surrogates stand there in a row. -/
structure Unencodable where
  position : Nat
  surrogate : CodePoint
  count : Nat
deriving DecidableEq

/-- The first surrogate of a text and the run that it begins. -/
def firstSurrogate? : Text → Option Unencodable
  | [] => none
  | c :: rest =>
    if c.isSurrogate then some ⟨0, c, ((c :: rest).takeWhile CodePoint.isSurrogate).length⟩
    else (firstSurrogate? rest).map fun u => { u with position := u.position + 1 }

/-- The bytes of a text, surrogates and all. -/
def encodeAll (t : Text) : List UInt8 := t.flatMap encodePoint

/-- The bytes of a text without surrogates. -/
def encode (t : Text) : Except Unencodable (List UInt8) :=
  match firstSurrogate? t with
  | some u => .error u
  | none => .ok (encodeAll t)

/-! ## Texts in paths -/

/-- Whether a code point stands for a byte that is not UTF-8, in the way of paths: U+DC80 to U+DCFF
stand for the bytes 0x80 to 0xFF. -/
def isEscape (c : CodePoint) : Bool := 0xDC80 ≤ c.val && c.val ≤ 0xDCFF

/-- The first surrogate of a text that stands for no byte, and the run of surrogates that it
begins. -/
def firstStray? : Text → Option Unencodable
  | [] => none
  | c :: rest =>
    if c.isSurrogate && !isEscape c then
      some ⟨0, c, ((c :: rest).takeWhile CodePoint.isSurrogate).length⟩
    else (firstStray? rest).map fun u => { u with position := u.position + 1 }

/-- The number of bytes that a code point takes in a path. -/
def pointSize (c : CodePoint) : Nat := if isEscape c then 1 else (encodePoint c).length

/-- The number of bytes that a text takes in a path. -/
def size (t : Text) : Nat := t.foldr (fun c bytes => pointSize c + bytes) 0

/-! ## Reading -/

/-- What is wrong with a span of bytes. -/
inductive FaultKind where
  /-- No encoding starts with this byte. -/
  | invalidStart
  /-- The byte after the span does not go on from it. -/
  | invalidContinuation
  /-- The input ends inside an encoding. -/
  | unexpectedEnd
deriving DecidableEq

/-- The reason as it is shown. -/
def FaultKind.reason : FaultKind → String
  | .invalidStart => "invalid start byte"
  | .invalidContinuation => "invalid continuation byte"
  | .unexpectedEnd => "unexpected end of data"

/-- A span of bytes that encodes nothing. -/
structure Fault where
  kind : FaultKind
  /-- The offset of the first byte at fault. -/
  start : Nat
  /-- The number of bytes at fault. -/
  length : Nat
  /-- The first byte at fault. -/
  byte : UInt8
deriving DecidableEq

/-- What the front of some bytes holds, and how many bytes it takes. -/
inductive Front where
  | point (c : CodePoint) (used : Nat)
  | fault (kind : FaultKind) (used : Nat)
deriving DecidableEq

/-- The bytes that may follow others inside an encoding. -/
def isContinuation (b : UInt8) : Bool := 0x80 ≤ b && b ≤ 0xBF

/-- The second bytes that may follow a first byte of a longer encoding: they leave out encodings
that are too long, the surrogates and the numbers that are too large. -/
def mayFollow (first second : UInt8) : Bool :=
  isContinuation second &&
    !(first == 0xE0 && second < 0xA0) && !(first == 0xED && 0xA0 ≤ second) &&
    !(first == 0xF0 && second < 0x90) && !(first == 0xF4 && 0x90 ≤ second)

/-- The six low bits of a continuation byte. -/
def payload (b : UInt8) : Nat := b.toNat % 0x40

/-- Looks at the first byte `b` and the bytes after it. -/
def front (b : UInt8) (rest : List UInt8) : Front :=
  if b < 0x80 then .point (.ofNat b.toNat) 1
  else if b < 0xC2 ∨ 0xF5 ≤ b then .fault .invalidStart 1
  else match rest with
    | [] => .fault .unexpectedEnd 1
    | b₂ :: rest₂ =>
      if !mayFollow b b₂ then .fault .invalidContinuation 1
      else if b < 0xE0 then .point (.ofNat (b.toNat % 0x20 * 0x40 + payload b₂)) 2
      else match rest₂ with
        | [] => .fault .unexpectedEnd 2
        | b₃ :: rest₃ =>
          if !isContinuation b₃ then .fault .invalidContinuation 2
          else if b < 0xF0 then
            .point (.ofNat (b.toNat % 0x10 * 0x1000 + payload b₂ * 0x40 + payload b₃)) 3
          else match rest₃ with
            | [] => .fault .unexpectedEnd 3
            | b₄ :: _ =>
              if !isContinuation b₄ then .fault .invalidContinuation 3
              else .point (.ofNat (b.toNat % 0x08 * 0x40000 + payload b₂ * 0x1000 +
                payload b₃ * 0x40 + payload b₄)) 4

/-- Reads bytes that start at the given offset. -/
def decodeFrom (offset : Nat) : List UInt8 → Except Fault Text
  | [] => .ok []
  | b :: rest =>
    match front b rest with
    | .fault kind used => .error ⟨kind, offset, used, b⟩
    | .point c used =>
      match decodeFrom (offset + used) (rest.drop (used - 1)) with
      | .ok t => .ok (c :: t)
      | .error fault => .error fault
termination_by bytes => bytes.length
decreasing_by simp only [List.length_drop, List.length_cons]; omega

/-- The text of some bytes, or the first fault in them. -/
def decode (bytes : List UInt8) : Except Fault Text := decodeFrom 0 bytes

/-- U+FFFD, which stands for what could not be read. -/
def replacement : CodePoint := .ofNat 0xFFFD

/-- The text of some bytes, with U+FFFD for every span that encodes nothing. -/
def decodeReplacing : List UInt8 → Text
  | [] => []
  | b :: rest =>
    match front b rest with
    | .fault _ used => replacement :: decodeReplacing (rest.drop (used - 1))
    | .point c used => c :: decodeReplacing (rest.drop (used - 1))
termination_by bytes => bytes.length
decreasing_by all_goals simp only [List.length_drop, List.length_cons]; omega

/-- The message about a text without UTF-8 form. -/
def Unencodable.message (u : Unencodable) : Text :=
  let head := lit "'utf-8' codec can't encode character"
  let reason := lit ": surrogates not allowed"
  if u.count ≤ 1 then
    head ++ lit " '\\u" ++ Text.padded 16 4 u.surrogate.val ++ lit "' in position " ++
      Text.ofNat u.position ++ reason
  else
    head ++ lit "s in position " ++ Text.ofNat u.position ++ lit "-" ++
      Text.ofNat (u.position + u.count - 1) ++ reason

/-- The message about bytes that are not UTF-8. -/
def Fault.message (f : Fault) : Text :=
  let head := lit "'utf-8' codec can't decode byte"
  let reason := lit ": " ++ lit f.kind.reason
  if f.length ≤ 1 then
    head ++ lit " 0x" ++ Text.padded 16 2 f.byte.toNat ++ lit " in position " ++
      Text.ofNat f.start ++ reason
  else
    head ++ lit "s in position " ++ Text.ofNat f.start ++ lit "-" ++
      Text.ofNat (f.start + f.length - 1) ++ reason

end CompileService.Utf8
