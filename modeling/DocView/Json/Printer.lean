import DocView.Double.Shortest
import DocView.Json

/-! The compact text of a JSON value: no blanks, and the members of an object in key order. -/

namespace DocView.Json

/-- The lower-case digit of a value below sixteen. -/
def hexDigit (value : Nat) : Char := Nat.digitChar value

/-- A character inside a quoted text; quotes, backslashes and control characters are escaped. -/
def escapeChar (char : Char) : List Char :=
  if char = '"' then ['\\', '"']
  else if char = '\\' then ['\\', '\\']
  else if char = '\x08' then ['\\', 'b']
  else if char = '\t' then ['\\', 't']
  else if char = '\n' then ['\\', 'n']
  else if char = '\x0c' then ['\\', 'f']
  else if char = '\r' then ['\\', 'r']
  -- The other control characters have no short escape.
  else if char.toNat < 32 then
    ['\\', 'u', '0', '0', hexDigit (char.toNat / 16), hexDigit (char.toNat % 16)]
  else [char]

/-- A quoted text. -/
def renderString (text : String) : List Char :=
  '"' :: text.toList.flatMap escapeChar ++ ['"']

/-- The decimal text of a whole number. -/
def renderInt : Int → List Char
  | .ofNat magnitude => Nat.toDigits 10 magnitude
  | .negSucc below => '-' :: Nat.toDigits 10 (below + 1)

/-- The text of a number; only floats have a point or an exponent. -/
def Number.render : Number → List Char
  | .integer value _ => renderInt value
  | .float value => value.render

mutual

/-- The text of a value. -/
def render : Json → List Char
  | null => ['n', 'u', 'l', 'l']
  | bool true => ['t', 'r', 'u', 'e']
  | bool false => ['f', 'a', 'l', 's', 'e']
  | number value => value.render
  | string value => renderString value
  | array [] => ['[', ']']
  | array (item :: items) => '[' :: render item ++ renderItems items
  | object .nil => ['\x7b', '\x7d']
  | object (.cons key _ value rest) =>
    '\x7b' :: renderString key ++ ':' :: render value ++ renderMembers rest
termination_by structural value => value

/-- The items behind the first one, and the bracket that closes the list. -/
def renderItems : List Json → List Char
  | [] => [']']
  | item :: items => ',' :: render item ++ renderItems items
termination_by structural items => items

/-- The members behind the first one, and the brace that closes the object. -/
def renderMembers {low : Option String} : Entries Json low → List Char
  | .nil => ['\x7d']
  | .cons key _ value rest =>
    ',' :: renderString key ++ ':' :: render value ++ renderMembers rest
termination_by structural members => members

end

/-- The text of a truth value. -/
def truthText (value : Bool) : String := if value then "true" else "false"

/-- The compact text of a value. -/
def text (value : Json) : String := String.ofList value.render

end DocView.Json
