/-!
The name of a view, derived from what it indexes. The separator is escaped inside each part, so
the parts can be told from the name.
-/

namespace DocView

/-- A character inside a part of a name. -/
def escapeNameChar (char : Char) : List Char :=
  -- The escape sign is escaped too, so an escape cannot be mistaken for the text of a part.
  if char = '%' then ['%', '2', '5']
  else if char = '-' then ['%', '2', 'D']
  else [char]

/-- A part of a name, without the separator. -/
def escapeNamePart (part : String) : String :=
  String.ofList (part.toList.flatMap escapeNameChar)

/-- The name of the view of a document type and the fields of its key. -/
def viewName (documentType : String) (fields : List String) : String :=
  "-".intercalate ("QC" :: (documentType :: fields).map escapeNamePart)

end DocView
