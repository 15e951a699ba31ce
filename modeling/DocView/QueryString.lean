import DocView.Scan
import DocView.Text.Percent

/-!
The parameters of a scan as a query string. Names and values are percent coded, so no value can add,
split or end a parameter.
-/

namespace DocView

/-- The parts between the occurrences of a separator; there is one more part than occurrences. -/
def pieces (separator : Char) : List Char → List (List Char)
  | [] => [[]]
  | char :: rest =>
    if char = separator then [] :: pieces separator rest
    else
      -- The character belongs to the piece that the rest begins with.
      match pieces separator rest with
      | [] => [[char]]
      | piece :: others => (char :: piece) :: others

/-- The text of a key as a list. -/
def keyText (components : List Json) : String := (Json.array components).text

namespace Scan

/-- The parameters of a scan in their fixed order; what is not asked for is left out. -/
def parameters (scan : Scan) : List (String × String) :=
  [("reduce", Json.truthText scan.reduce), ("include_docs", Json.truthText scan.includeDocs)]
    ++ (scan.limit.map fun limit => ("limit", toString limit.toNat)).toList
    ++ (scan.key.map fun key => ("key", keyText key)).toList
    ++ (scan.startKey.map fun key => ("startkey", keyText key)).toList
    ++ (scan.endKey.map fun key => ("endkey", keyText key)).toList
    ++ [("descending", Json.truthText scan.descending)]

end Scan

namespace QueryString

/-- A parameter in its coded form. -/
def renderParameter (parameter : String × String) : String :=
  s!"{parameter.1}={Percent.encode parameter.2}"

/-- The query string of parameters. -/
def render (parameters : List (String × String)) : String :=
  "&".intercalate (parameters.map renderParameter)

/-- Reads one parameter; without an equals sign the value is empty. -/
def parseParameter (pair : List Char) : Except Utf8.Error (String × String) := do
  let name ← Percent.decodeChars (pair.takeWhile (· != '='))
  let value ← Percent.decodeChars ((pair.dropWhile (· != '=')).drop 1)
  return (String.ofList name, String.ofList value)

/-- The characters of a query string without the question mark that may open it. -/
def body (query : String) : List Char :=
  match query.toList with
  | '?' :: rest => rest
  | chars => chars

/-- Reads the parameters of a query string in their order. -/
def parse (query : String) : Except Utf8.Error (List (String × String)) :=
  match body query with
  | [] => .ok []
  | chars => (pieces '&' chars).mapM parseParameter

end QueryString

/-- The query string of a scan. -/
def Scan.queryString (scan : Scan) : String := QueryString.render scan.parameters

end DocView
