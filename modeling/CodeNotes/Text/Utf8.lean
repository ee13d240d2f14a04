import CodeNotes.Text
/-!
UTF-8, strict and lossy. Both readings cut a byte sequence into the same pieces: a
well-formed character, or a maximal part that cannot go on to be one. The strict
reading refuses such a part and the lossy one puts U+FFFD in its place.
-/
namespace CodeNotes.Utf8

def encode (t : Text) : List UInt8 :=
  t.flatMap String.utf8EncodeChar

/-- Whether a byte may continue a character. -/
def isTail (b : UInt8) : Bool :=
  0x80 ≤ b && b ≤ 0xBF

/-- Whether `b` may stand second behind a first byte of two, three or four. The ranges
shut out overlong forms, surrogates and numbers above U+10FFFF. -/
def isSecond (first b : UInt8) : Bool :=
  if first = 0xE0 then 0xA0 ≤ b && b ≤ 0xBF
  else if first = 0xED then 0x80 ≤ b && b ≤ 0x9F
  else if first = 0xF0 then 0x90 ≤ b && b ≤ 0xBF
  else if first = 0xF4 then 0x80 ≤ b && b ≤ 0x8F
  else isTail b

/-- How many bytes a character takes that begins with this one, if one can. -/
def width? (first : UInt8) : Option Nat :=
  if first ≤ 0x7F then some 1
  else if 0xC2 ≤ first && first ≤ 0xDF then some 2
  else if 0xE0 ≤ first && first ≤ 0xEF then some 3
  else if 0xF0 ≤ first && first ≤ 0xF4 then some 4
  else none

/-- The six low bits of a continuing byte. -/
def low (b : UInt8) : Nat :=
  b.toNat % 64

/-- The pieces of a byte sequence; a malformed part is `none`. -/
def pieces : List UInt8 → List (Option Char)
  | [] => []
  | a :: r =>
    match width? a with
    | some 1 => some (Char.ofNat a.toNat) :: pieces r
    | some 2 =>
      match r with
      | b :: r₁ =>
        if isSecond a b then some (Char.ofNat (a.toNat % 32 * 64 + low b)) :: pieces r₁
        else none :: pieces (b :: r₁)
      | [] => [none]
    | some 3 =>
      match r with
      | b :: r₁ =>
        if isSecond a b then
          match r₁ with
          | c :: r₂ =>
            if isTail c then
              some (Char.ofNat (a.toNat % 16 * 4096 + low b * 64 + low c)) :: pieces r₂
            else none :: pieces (c :: r₂)
          | [] => [none]
        else none :: pieces (b :: r₁)
      | [] => [none]
    | some 4 =>
      match r with
      | b :: r₁ =>
        if isSecond a b then
          match r₁ with
          | c :: r₂ =>
            if isTail c then
              match r₂ with
              | d :: r₃ =>
                if isTail d then
                  some (Char.ofNat
                    (a.toNat % 8 * 262144 + low b * 4096 + low c * 64 + low d)) :: pieces r₃
                else none :: pieces (d :: r₃)
              | [] => [none]
            else none :: pieces (c :: r₂)
          | [] => [none]
        else none :: pieces (b :: r₁)
      | [] => [none]
    | _ => none :: pieces r

def replacement : Char := '\uFFFD'

/-- Each malformed part becomes one replacement character. -/
def decodeLossy (bytes : List UInt8) : Text :=
  (pieces bytes).map (·.getD replacement)

/-- The text that a byte sequence encodes, if it encodes one. -/
def decode? (bytes : List UInt8) : Option Text :=
  (pieces bytes).mapM id

end CodeNotes.Utf8
