import DocView.Double.Decimal
import DocView.Json
import DocView.Text.Percent

/-!
Reading JSON text. A reader takes what it reads off the front of the characters and leaves the rest;
where it fails, it leaves the characters from which the place of the fault is found.
-/

namespace DocView.Json

/-- What keeps a text from being JSON. -/
inductive Fault where
  /-- The text ends where a value, or the rest of one, is needed. -/
  | endInValue
  /-- The text ends inside a list. -/
  | endInList
  /-- The text ends inside an object. -/
  | endInObject
  /-- The text ends inside a quotation. -/
  | endInString
  /-- No value begins so. -/
  | noValue
  /-- A word other than the three that are values. -/
  | badWord
  /-- Neither a comma nor the end of the list. -/
  | noListEnd
  /-- Neither a comma nor the end of the object. -/
  | noObjectEnd
  /-- A key without a colon. -/
  | noColon
  /-- Nothing follows a comma. -/
  | trailingComma
  /-- A key that is not quoted. -/
  | badKey
  /-- A number that no digit continues. -/
  | badNumber
  /-- A number beyond the finite ones. -/
  | numberOutOfRange
  /-- More text behind the value. -/
  | trailingText
  /-- A control character inside a quotation. -/
  | controlChar
  /-- An escape that stands for nothing. -/
  | badEscape
  /-- Half of a pair of escapes where none may stand. -/
  | loneSurrogate
  /-- The first half of a pair of escapes without a second. -/
  | halfPair
  /-- Lists and objects nested too deep. -/
  | tooDeep
deriving DecidableEq

/-- The wording of a fault. -/
def Fault.message : Fault → String
  | endInValue => "EOF while parsing a value"
  | endInList => "EOF while parsing a list"
  | endInObject => "EOF while parsing an object"
  | endInString => "EOF while parsing a string"
  | noValue => "expected value"
  | badWord => "expected ident"
  | noListEnd => "expected `,` or `]`"
  | noObjectEnd => "expected `,` or `\x7d`"
  | noColon => "expected `:`"
  | trailingComma => "trailing comma"
  | badKey => "key must be a string"
  | badNumber => "invalid number"
  | numberOutOfRange => "number out of range"
  | trailingText => "trailing characters"
  | controlChar => "control character (\\u0000-\\u001F) found while parsing a string"
  | badEscape => "invalid escape"
  | loneSurrogate => "lone leading surrogate in hex escape"
  | halfPair => "unexpected end of hex escape"
  | tooDeep => "recursion limit exceeded"

/-- A fault together with the text from which its place is found. -/
structure Stop where
  /-- What is wrong. -/
  fault : Fault
  /-- The characters not yet read. -/
  rest : List Char
  /-- How many bytes of the rest belong to what is wrong. -/
  ahead : Nat

/-- Reads a value off the front of the characters and leaves the rest. -/
abbrev Reader (α : Type) := List Char → Except Stop (α × List Char)

/-- Fails at the next character, or at the end when there is none. -/
def stopAt {α : Type} (fault : Fault) (rest : List Char) : Except Stop α :=
  .error ⟨fault, rest, if rest.isEmpty then 0 else 1⟩

/-- Fails behind the last character read. -/
def stopBehind {α : Type} (fault : Fault) (rest : List Char) : Except Stop α :=
  .error ⟨fault, rest, 0⟩

/-- Whether a character may stand between the parts of a value. -/
def isSpace (char : Char) : Bool := char = ' ' || char = '\n' || char = '\t' || char = '\r'

/-- The characters from the next part on. -/
def skipSpace (chars : List Char) : List Char := chars.dropWhile isSpace

/-- Reads the given letters. -/
def readWord : List Char → Reader Unit
  | [], chars => .ok ((), chars)
  | _ :: _, [] => stopAt .endInValue []
  | letter :: letters, char :: rest =>
    if char = letter then readWord letters rest else stopAt .badWord (char :: rest)

/-! Quoted texts. -/

/-- Reads the four hexadecimal digits of an escape. -/
def readUnit (chars : List Char) : Except Stop (Nat × List Char) :=
  let bad : Except Stop (Nat × List Char) :=
    -- The digits are counted in bytes, and too few bytes mean that the text ends too early.
    if (Utf8.encode chars).length < 4 then stopAt .endInString []
    else .error ⟨.badEscape, chars, 4⟩
  match chars with
  | first :: second :: third :: fourth :: rest =>
    match Percent.hexValue? first, Percent.hexValue? second, Percent.hexValue? third,
      Percent.hexValue? fourth with
    | some a, some b, some c, some d => .ok (((a * 16 + b) * 16 + c) * 16 + d, rest)
    | _, _, _, _ => bad
  | _ => bad

/-- Whether a unit is the first half of a pair. -/
def isLeading (unit : Nat) : Bool := 0xd800 ≤ unit && unit < 0xdc00

/-- Whether a unit is the second half of a pair. -/
def isTrailing (unit : Nat) : Bool := 0xdc00 ≤ unit && unit < 0xe000

/-- Reads what follows the first half of a pair. -/
def readTrailing (leading : Nat) : List Char → Except Stop (Char × List Char)
  | '\\' :: 'u' :: rest => do
    let (trailing, rest) ← readUnit rest
    if isTrailing trailing then
      .ok (Char.ofNat (0x10000 + (leading - 0xd800) * 1024 + (trailing - 0xdc00)), rest)
    else stopBehind .loneSurrogate rest
  | ['\\'] => stopAt .endInString []
  | '\\' :: rest => stopAt .halfPair rest
  | [] => stopAt .endInString []
  | rest => stopAt .halfPair rest

/-- Reads what follows a backslash. -/
def readEscape : List Char → Except Stop (Char × List Char)
  | [] => stopAt .endInString []
  | 'u' :: rest => do
    let (unit, rest) ← readUnit rest
    if isTrailing unit then stopBehind .loneSurrogate rest
    else if isLeading unit then readTrailing unit rest
    else .ok (Char.ofNat unit, rest)
  | '"' :: rest => .ok ('"', rest)
  | '\\' :: rest => .ok ('\\', rest)
  | '/' :: rest => .ok ('/', rest)
  | 'b' :: rest => .ok ('\x08', rest)
  | 'f' :: rest => .ok ('\x0c', rest)
  | 'n' :: rest => .ok ('\n', rest)
  | 'r' :: rest => .ok ('\r', rest)
  | 't' :: rest => .ok ('\t', rest)
  | rest => stopAt .badEscape rest

/-- Reads the rest of a quotation of at most so many characters. -/
def readQuoted : Nat → Reader (List Char)
  | 0, rest => stopAt .endInString rest
  | _ + 1, [] => stopAt .endInString []
  | _ + 1, '"' :: rest => .ok ([], rest)
  | bound + 1, '\\' :: rest => do
    let (char, rest) ← readEscape rest
    let (chars, rest) ← readQuoted bound rest
    .ok (char :: chars, rest)
  | bound + 1, char :: rest =>
    if char.toNat < 32 then stopAt .controlChar (char :: rest)
    else do
      let (chars, rest) ← readQuoted bound rest
      .ok (char :: chars, rest)

/-- Reads the rest of a quotation; each character read shortens the text. -/
def readString (chars : List Char) : Except Stop (String × List Char) := do
  let (quoted, rest) ← readQuoted (chars.length + 1) chars
  .ok (String.ofList quoted, rest)

/-! Numbers. -/

/-- The value of a decimal digit. -/
def digitValue (char : Char) : Nat := char.toNat - '0'.toNat

/-- Whether a significand of 64 bits takes one more digit. -/
def takesDigit (significand : Nat) (char : Char) : Bool :=
  10 * significand + digitValue char < 2 ^ 64

/-- Gathers digits up to the first one that a significand does not take, and counts those taken. -/
def gatherDigits (significand taken : Nat) : List Char → Nat × Nat
  | [] => (significand, taken)
  | char :: rest =>
    if takesDigit significand char then
      gatherDigits (10 * significand + digitValue char) (taken + 1) rest
    -- The digits behind could fit again, but they stand for less than the one left out.
    else (significand, taken)

/-- Reads a power of at most 31 bits, or leaves what follows the digit that exceeds them. -/
def gatherPower (power : Nat) : List Char → Except (List Char) (Nat × List Char)
  | [] => .ok (power, [])
  | char :: rest =>
    if char.isDigit then
      if 10 * power + digitValue char < 2 ^ 31 then gatherPower (10 * power + digitValue char) rest
      else .error rest
    else .ok (power, char :: rest)

/-- The float of a significand and a power of ten. -/
def finishFloat (negative : Bool) (significand : Nat) (power : Int) (rest : List Char) :
    Except Stop (Number × List Char) :=
  match Double.ofDecimal? negative significand power with
  | some value => .ok (.float value, rest)
  | none => stopBehind .numberOutOfRange rest

/-- Reads the power of ten behind its letter. -/
def readPower (negative : Bool) (significand : Nat) (start : Int) (chars : List Char) :
    Except Stop (Number × List Char) :=
  let (down, digits) := match chars with
    | '+' :: rest => (false, rest)
    | '-' :: rest => (true, rest)
    | rest => (false, rest)
  match digits with
  | [] => stopAt .endInValue []
  | first :: _ =>
    if first.isDigit then
      match gatherPower 0 digits with
      | .ok (power, rest) =>
        finishFloat negative significand (if down then start - power else start + power) rest
      | .error rest =>
        -- Such a power leaves zero where it does not leave the finite numbers.
        if significand ≠ 0 && !down then stopBehind .numberOutOfRange rest
        else .ok (.float (Double.zero negative), rest.dropWhile Char.isDigit)
    else stopAt .badNumber digits

/-- Reads the power of ten, if there is one. -/
def readScale (negative : Bool) (significand : Nat) (power : Int) (chars : List Char) :
    Except Stop (Number × List Char) :=
  match chars with
  | 'e' :: rest => readPower negative significand power rest
  | 'E' :: rest => readPower negative significand power rest
  | rest => finishFloat negative significand power rest

/-- The number of a whole significand, which is a float if no integer of 64 bits equals it. -/
def finishWhole (negative : Bool) (significand : Nat) (rest : List Char) :
    Except Stop (Number × List Char) :=
  let value : Int := if negative then -significand else significand
  if fits : -2 ^ 63 ≤ value ∧ value < 2 ^ 64 then
    -- No integer is a negative zero.
    if negative && significand = 0 then .ok (.float (Double.zero true), rest)
    else .ok (.integer value fits, rest)
  else finishFloat negative significand 0 rest

/-- Reads what follows the whole digits of a number, so many of which the significand left out. -/
def readBehindWhole (negative : Bool) (significand left : Nat) (chars : List Char) :
    Except Stop (Number × List Char) :=
  match chars with
  | '.' :: behind =>
    let decimals := behind.takeWhile Char.isDigit
    let rest := behind.dropWhile Char.isDigit
    if decimals.isEmpty then
      if rest.isEmpty then stopAt .endInValue [] else stopAt .badNumber rest
    else
      let (significand, taken) := gatherDigits significand 0 decimals
      readScale negative significand (left - taken) rest
  | 'e' :: _ | 'E' :: _ => readScale negative significand left chars
  | _ =>
    if left = 0 then finishWhole negative significand chars
    else finishFloat negative significand left chars

/-- Reads a number behind its sign. -/
def readNumber (negative : Bool) : List Char → Except Stop (Number × List Char)
  | [] => stopAt .endInValue []
  | '0' :: rest =>
    match rest with
    | next :: _ =>
      if next.isDigit then stopAt .badNumber rest else readBehindWhole negative 0 0 rest
    | [] => readBehindWhole negative 0 0 rest
  | first :: rest =>
    if first.isDigit then
      let digits := (first :: rest).takeWhile Char.isDigit
      let (significand, taken) := gatherDigits 0 0 digits
      -- A whole digit that is not taken still makes the number ten times as great.
      readBehindWhole negative significand (digits.length - taken)
        ((first :: rest).dropWhile Char.isDigit)
    else stopAt .badNumber (first :: rest)

/-! Values. -/

/-- Reads a value that is neither a list nor an object. -/
def readScalar : Reader Json
  | [] => stopAt .endInValue []
  | 'n' :: rest => do
    let (_, rest) ← readWord ['u', 'l', 'l'] rest
    .ok (null, rest)
  | 't' :: rest => do
    let (_, rest) ← readWord ['r', 'u', 'e'] rest
    .ok (bool true, rest)
  | 'f' :: rest => do
    let (_, rest) ← readWord ['a', 'l', 's', 'e'] rest
    .ok (bool false, rest)
  | '"' :: rest => do
    let (value, rest) ← readString rest
    .ok (string value, rest)
  | '-' :: rest => do
    let (value, rest) ← readNumber true rest
    .ok (number value, rest)
  | first :: rest =>
    if first.isDigit then do
      let (value, rest) ← readNumber false (first :: rest)
      .ok (number value, rest)
    else stopAt .noValue (first :: rest)

/-- Reads at most so many items behind the first one, and the end of the list. -/
def readItems (readItem : Reader Json) : Nat → Reader (List Json)
  | 0, rest => stopAt .endInList rest
  | bound + 1, chars =>
    match skipSpace chars with
    | [] => stopAt .endInList []
    | ']' :: rest => .ok ([], rest)
    | ',' :: rest =>
      match skipSpace rest with
      | [] => stopAt .endInValue []
      | ']' :: rest => stopAt .trailingComma (']' :: rest)
      | next => do
        let (item, rest) ← readItem next
        let (items, rest) ← readItems readItem bound rest
        .ok (item :: items, rest)
    | rest => stopAt .noListEnd rest

/-- Reads a list behind its bracket. -/
def readList (readItem : Reader Json) : Reader Json := fun chars =>
  match skipSpace chars with
  | [] => stopAt .endInList []
  | ']' :: rest => .ok (array [], rest)
  | next => do
    let (item, rest) ← readItem next
    let (items, rest) ← readItems readItem (rest.length + 1) rest
    .ok (array (item :: items), rest)

/-- Reads a member behind the quote that opens its key. -/
def readMember (readItem : Reader Json) : Reader (String × Json) := fun chars => do
  let (key, rest) ← readString chars
  match skipSpace rest with
  | [] => stopAt .endInObject []
  | ':' :: rest =>
    let (value, rest) ← readItem rest
    .ok ((key, value), rest)
  | rest => stopAt .noColon rest

/-- Reads at most so many members behind the first one, and the end of the object. -/
def readMembers (readItem : Reader Json) : Nat → Reader (List (String × Json))
  | 0, rest => stopAt .endInObject rest
  | bound + 1, chars =>
    match skipSpace chars with
    | [] => stopAt .endInObject []
    | '\x7d' :: rest => .ok ([], rest)
    | ',' :: rest =>
      match skipSpace rest with
      | [] => stopAt .endInValue []
      | '"' :: rest => do
        let (member, rest) ← readMember readItem rest
        let (members, rest) ← readMembers readItem bound rest
        .ok (member :: members, rest)
      | '\x7d' :: rest => stopAt .trailingComma ('\x7d' :: rest)
      | rest => stopAt .badKey rest
    | rest => stopAt .noObjectEnd rest

/-- Reads an object behind its brace. -/
def readObject (readItem : Reader Json) : Reader Json := fun chars =>
  match skipSpace chars with
  | [] => stopAt .endInObject []
  | '\x7d' :: rest => .ok (object .nil, rest)
  | '"' :: rest => do
    let (member, rest) ← readMember readItem rest
    let (members, rest) ← readMembers readItem (rest.length + 1) rest
    .ok (ofMembers (member :: members), rest)
  | rest => stopAt .badKey rest

/-- Reads a value in which lists and objects nest at most so deep. -/
def readValue : Nat → Reader Json
  | 0 => fun chars =>
    match skipSpace chars with
    | '[' :: rest => stopAt .tooDeep ('[' :: rest)
    | '\x7b' :: rest => stopAt .tooDeep ('\x7b' :: rest)
    | rest => readScalar rest
  | depth + 1 => fun chars =>
    match skipSpace chars with
    | '[' :: rest => readList (readValue depth) rest
    | '\x7b' :: rest => readObject (readValue depth) rest
    | rest => readScalar rest

/-- How deep the lists and objects of a text may nest. -/
def depthLimit : Nat := 127

/-! Places in a text. -/

/-- A place in a text: the line, counted from one, and the number of bytes read of that line. -/
structure Place where
  /-- The line, counted from one. -/
  line : Nat
  /-- The bytes of the line up to and with the one in question. -/
  column : Nat
deriving DecidableEq

/-- The place behind one more byte. -/
def Place.advance (place : Place) (byte : UInt8) : Place :=
  if byte = 10 then ⟨place.line + 1, 0⟩ else ⟨place.line, place.column + 1⟩

/-- The place behind bytes. -/
def Place.behind (bytes : List UInt8) : Place := bytes.foldl Place.advance ⟨1, 0⟩

/-- A fault and its place. -/
structure SyntaxError where
  /-- What is wrong. -/
  fault : Fault
  /-- Where it is. -/
  place : Place
deriving DecidableEq

/-- The wording of an error. -/
def SyntaxError.message (error : SyntaxError) : String :=
  s!"{error.fault.message} at line {error.place.line} column {error.place.column}"

/-- Finds the place of a fault in the text it was found in. -/
def Stop.locate (stop : Stop) (chars : List Char) : SyntaxError :=
  let bytes := Utf8.encode chars
  let read := bytes.length - (Utf8.encode stop.rest).length + stop.ahead
  ⟨stop.fault, Place.behind (bytes.take read)⟩

/-- Reads a whole text as one value. -/
def parseChars (chars : List Char) : Except SyntaxError Json :=
  match readValue depthLimit chars with
  | .error stop => .error (stop.locate chars)
  | .ok (value, rest) =>
    match skipSpace rest with
    | [] => .ok value
    | more => .error (Stop.locate ⟨.trailingText, more, 1⟩ chars)

/-- Reads a whole text as one value. -/
def parse (text : String) : Except SyntaxError Json := parseChars text.toList

end DocView.Json
