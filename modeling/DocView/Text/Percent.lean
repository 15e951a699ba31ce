import DocView.Text.Utf8

/-!
Percent coding of text. Encoding leaves only unreserved characters as they are; decoding takes every
sign that is not followed by two hexadecimal digits for itself.
-/

namespace DocView.Percent

/-- Whether a byte stands for itself in an encoded text. -/
def isUnreserved (byte : Nat) : Bool :=
  let char := Char.ofNat byte
  byte < 128 && (char.isAlphanum || char = '-' || char = '_' || char = '.' || char = '~')

/-- The upper-case hexadecimal digit of a value below sixteen. -/
def hexDigit (value : Nat) : Char :=
  Char.ofNat (if value < 10 then '0'.toNat + value else 'A'.toNat + (value - 10))

/-- The value of a hexadecimal digit of either case. -/
def hexValue? (char : Char) : Option Nat :=
  if char.isDigit then some (char.toNat - '0'.toNat)
  else if 'a' ≤ char ∧ char ≤ 'f' then some (char.toNat - 'a'.toNat + 10)
  else if 'A' ≤ char ∧ char ≤ 'F' then some (char.toNat - 'A'.toNat + 10)
  else none

/-- The encoded form of a byte. -/
def encodeByte (byte : UInt8) : List Char :=
  if isUnreserved byte.toNat then [Char.ofNat byte.toNat]
  else ['%', hexDigit (byte.toNat / 16), hexDigit (byte.toNat % 16)]

/-- The encoded form of characters. -/
def encodeChars (chars : List Char) : List Char := (Utf8.encode chars).flatMap encodeByte

/-- The encoded form of a text. -/
def encode (text : String) : String := String.ofList (encodeChars text.toList)

/-- The bytes that an encoded text stands for. -/
def decodeBytes : List Char → List UInt8
  | [] => []
  | '%' :: high :: low :: rest =>
    match hexValue? high, hexValue? low with
    | some upper, some lower => .ofNat (upper * 16 + lower) :: decodeBytes rest
    -- The characters behind the sign are read on their own, for one of them may be a sign again.
    | _, _ => .ofNat '%'.toNat :: decodeBytes (high :: low :: rest)
  | char :: rest => Utf8.encodeChar char ++ decodeBytes rest

/-- The characters that an encoded text stands for, if its bytes are the form of a text. -/
def decodeChars (chars : List Char) : Except Utf8.Error (List Char) :=
  Utf8.decode (decodeBytes chars)

/-- The text that an encoded text stands for, if its bytes are the form of a text. -/
def decode (text : String) : Except Utf8.Error String :=
  (decodeChars text.toList).map String.ofList

end DocView.Percent
