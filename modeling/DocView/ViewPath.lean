import DocView.QueryString

/-! Where a view is asked: below the document that holds it, under its coded name. -/

namespace DocView

/-- A text without the occurrences of a character at its end. -/
def dropTrailing (char : Char) (text : String) : String :=
  String.ofList (text.toList.reverse.dropWhile (· == char)).reverse

/-- What stands between the document and the name of a view. -/
def viewMarker : String := "/_view/"

/-- The path of a view: its document without trailing slashes, the marker and the coded name. -/
def viewPath (container name : String) : String :=
  dropTrailing '/' container ++ viewMarker ++ Percent.encode name

/-- The address of a scan of a view. -/
def viewUrl (container name : String) (scan : Scan) : String :=
  viewPath container name ++ "?" ++ scan.queryString

/-- The characters before and behind the last occurrence of a marker. -/
def splitLastMarker? (marker : List Char) : List Char → Option (List Char × List Char)
  | [] => none
  | char :: rest =>
    -- A later occurrence wins over one here.
    match splitLastMarker? marker rest with
    | some (before, behind) => some (char :: before, behind)
    | none =>
      if marker.isPrefixOf (char :: rest) then some ([], (char :: rest).drop marker.length)
      else none

/-- The document and the name that a path addresses; a name that is badly coded stands for itself. -/
def splitViewPath? (path : String) : Option (String × String) :=
  match splitLastMarker? viewMarker.toList path.toList with
  | none => none
  | some (container, coded) =>
    let name := match Percent.decodeChars coded with
      | .ok name => name
      | .error _ => coded
    some (String.ofList container, String.ofList name)

end DocView
