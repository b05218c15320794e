import CompileService.Text.Utf8

/-!
# Encoded bodies

The bytes of a JSON document may be in UTF-8, UTF-16 or UTF-32. The encoding is told from a byte
order mark or, without one, from where zero bytes stand among the first four: a document starts
with two ASCII code points. Here a surrogate that stands alone is let through, in each encoding.
-/

namespace CompileService.Wide

/-- The order of the bytes of a unit. -/
inductive ByteOrder where
  | big
  | little
deriving DecidableEq

/-- The encodings of a document. -/
inductive Encoding where
  | utf8
  | utf16 (order : ByteOrder)
  | utf32 (order : ByteOrder)
deriving DecidableEq

/-- The number of two bytes. -/
def unit16 : ByteOrder → UInt8 → UInt8 → Nat
  | .big, a, b => a.toNat * 0x100 + b.toNat
  | .little, a, b => b.toNat * 0x100 + a.toNat

/-- The two-byte units of some bytes, unless a byte is left over. -/
def units16? (order : ByteOrder) : List UInt8 → Option (List Nat)
  | [] => some []
  | [_] => none
  | a :: b :: rest => (units16? order rest).map (unit16 order a b :: ·)

/-- Joins surrogate pairs; a surrogate without its partner stays. -/
def joinPairs : List Nat → Text
  | [] => []
  | [n] => [.ofNat n]
  | high :: low :: rest =>
    if 0xD800 ≤ high ∧ high ≤ 0xDBFF ∧ 0xDC00 ≤ low ∧ low ≤ 0xDFFF then
      .ofNat (0x10000 + (high - 0xD800) * 0x400 + (low - 0xDC00)) :: joinPairs rest
    else .ofNat high :: joinPairs (low :: rest)

/-- The four-byte units of some bytes, unless bytes are left over or a number is no code point. -/
def units32? (order : ByteOrder) : List UInt8 → Option Text
  | [] => some []
  | a :: b :: c :: d :: rest =>
    let n := match order with
      | .big => unit16 .big a b * 0x10000 + unit16 .big c d
      | .little => unit16 .little c d * 0x10000 + unit16 .little a b
    match CodePoint.ofNat? n, units32? order rest with
    | some point, some points => some (point :: points)
    | _, _ => none
  | _ => none

/-- The three bytes of an encoded surrogate. -/
def surrogate? (b : UInt8) : List UInt8 → Option CodePoint
  | b₂ :: b₃ :: _ =>
    if b == 0xED && Utf8.isContinuation b₂ && 0xA0 ≤ b₂ && Utf8.isContinuation b₃ then
      some (.ofNat (0xD000 + Utf8.payload b₂ * 0x40 + Utf8.payload b₃))
    else none
  | _ => none

/-- UTF-8 in which a surrogate may be encoded like its neighbours. -/
def utf8? : List UInt8 → Option Text
  | [] => some []
  | b :: rest =>
    match Utf8.front b rest with
    | .point c used => (utf8? (rest.drop (used - 1))).map (c :: ·)
    | .fault _ _ =>
      match surrogate? b rest with
      | some c => (utf8? (rest.drop 2)).map (c :: ·)
      | none => none
termination_by bytes => bytes.length
decreasing_by all_goals simp only [List.length_drop, List.length_cons]; omega

/-- The encoding of a document and the number of bytes of its byte order mark. -/
def detect (bytes : List UInt8) : Encoding × Nat :=
  match bytes with
  | 0x00 :: 0x00 :: 0xFE :: 0xFF :: _ => (.utf32 .big, 4)
  | 0xFF :: 0xFE :: 0x00 :: 0x00 :: _ => (.utf32 .little, 4)
  | 0xFE :: 0xFF :: _ => (.utf16 .big, 2)
  | 0xFF :: 0xFE :: _ => (.utf16 .little, 2)
  | 0xEF :: 0xBB :: 0xBF :: _ => (.utf8, 3)
  | a :: b :: c :: d :: _ =>
    if a == 0 then (if b == 0 then .utf32 .big else .utf16 .big, 0)
    else if b == 0 then (if c == 0 && d == 0 then .utf32 .little else .utf16 .little, 0)
    else (.utf8, 0)
  | [a, b] =>
    if a == 0 then (.utf16 .big, 0) else if b == 0 then (.utf16 .little, 0) else (.utf8, 0)
  | _ => (.utf8, 0)

/-- The text of a document, unless its bytes are not in the encoding that they start with. -/
def decode? (bytes : List UInt8) : Option Text :=
  let (encoding, mark) := detect bytes
  let body := bytes.drop mark
  match encoding with
  | .utf8 => utf8? body
  | .utf16 order => (units16? order body).map joinPairs
  | .utf32 order => units32? order body

end CompileService.Wide
