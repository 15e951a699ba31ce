/-!
The UTF-8 form of text. Decoding refuses overlong forms, surrogates and numbers beyond the last code
point, and says where the first bad sequence starts and how many bytes of it were still good.
-/

namespace DocView.Utf8

/-- The bytes of a character. -/
def encodeChar (char : Char) : List UInt8 :=
  let code := char.toNat
  if code < 0x80 then [.ofNat code]
  else if code < 0x800 then [.ofNat (0xc0 + code / 64), .ofNat (0x80 + code % 64)]
  else if code < 0x10000 then
    [.ofNat (0xe0 + code / 4096), .ofNat (0x80 + code / 64 % 64), .ofNat (0x80 + code % 64)]
  else
    [.ofNat (0xf0 + code / 262144), .ofNat (0x80 + code / 4096 % 64),
      .ofNat (0x80 + code / 64 % 64), .ofNat (0x80 + code % 64)]

/-- The bytes of a text. -/
def encode (chars : List Char) : List UInt8 := chars.flatMap encodeChar

/-- What keeps bytes from being the form of a text. -/
inductive Error where
  /-- A sequence of so many bytes, from the given byte on, begins no character. -/
  | invalid (length index : Nat)
  /-- The bytes end inside the character that begins at the given byte. -/
  | incomplete (index : Nat)
deriving DecidableEq

/-- The wording of an error. -/
def Error.message : Error → String
  | .invalid length index => s!"invalid utf-8 sequence of {length} bytes from index {index}"
  | .incomplete index => s!"incomplete utf-8 byte sequence from index {index}"

/-- A character of which not all bytes were read. -/
structure Begun where
  /-- The index of its first byte. -/
  start : Nat
  /-- How many of its bytes were read. -/
  taken : Nat
  /-- The bits that those bytes carry. -/
  code : Nat
  /-- How many bytes follow behind the next one. -/
  behind : Nat
  /-- The least value of the next byte. -/
  low : Nat
  /-- The least value above those of the next byte. -/
  high : Nat

/-- The character of several bytes that begins with a byte, if one does. -/
def begin? (index first : Nat) : Option Begun :=
  -- The bounds of the second byte leave out overlong forms, surrogates and too great numbers.
  if first < 0xc2 then none
  else if first < 0xe0 then some ⟨index, 1, first % 32, 0, 0x80, 0xc0⟩
  else if first < 0xf0 then
    some ⟨index, 1, first % 16, 1, if first = 0xe0 then 0xa0 else 0x80,
      if first = 0xed then 0xa0 else 0xc0⟩
  else if first < 0xf5 then
    some ⟨index, 1, first % 8, 2, if first = 0xf0 then 0x90 else 0x80,
      if first = 0xf4 then 0x90 else 0xc0⟩
  else none

namespace Begun

/-- Whether a byte may follow. -/
def takes (begun : Begun) (byte : Nat) : Bool := begun.low ≤ byte && byte < begun.high

/-- The bits with those of the next byte, which carries six. -/
def codeWith (begun : Begun) (byte : Nat) : Nat := begun.code * 64 + byte % 64

/-- The character with its next byte. -/
def extend (begun : Begun) (byte : Nat) : Begun :=
  ⟨begun.start, begun.taken + 1, begun.codeWith byte, begun.behind - 1, 0x80, 0xc0⟩

end Begun

/-- The characters of bytes from an index on, the first of which may be begun already. -/
def decodeFrom : Nat → Option Begun → List UInt8 → Except Error (List Char)
  | _, none, [] => .ok []
  | _, some begun, [] => .error (.incomplete begun.start)
  | index, none, byte :: rest =>
    if byte.toNat < 0x80 then
      (decodeFrom (index + 1) none rest).map (Char.ofNat byte.toNat :: ·)
    else
      match begin? index byte.toNat with
      | some begun => decodeFrom (index + 1) (some begun) rest
      | none => .error (.invalid 1 index)
  | index, some begun, byte :: rest =>
    if begun.takes byte.toNat then
      if begun.behind = 0 then
        (decodeFrom (index + 1) none rest).map (Char.ofNat (begun.codeWith byte.toNat) :: ·)
      else decodeFrom (index + 1) (some (begun.extend byte.toNat)) rest
    -- The byte may begin a character of its own, so only the bytes before it are bad.
    else .error (.invalid begun.taken begun.start)

/-- The characters of bytes. -/
def decode (bytes : List UInt8) : Except Error (List Char) := decodeFrom 0 none bytes

end DocView.Utf8
