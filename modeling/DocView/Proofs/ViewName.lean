import DocView.Proofs.QueryString
import DocView.ViewName

/-!
The name of a view tells what the view indexes. The parts of a name are read back from it, so no two
types and lists of fields share a name.
-/

namespace DocView

/-- The characters of a part of a name, without the escapes. -/
def unescapeName : List Char → List Char
  | '%' :: '2' :: '5' :: rest => '%' :: unescapeName rest
  | '%' :: '2' :: 'D' :: rest => '-' :: unescapeName rest
  | char :: rest => char :: unescapeName rest
  | [] => []

/-- A character other than the escape sign stands for itself. -/
theorem unescapeName_cons {char : Char} (plain : char ≠ '%') (rest : List Char) :
    unescapeName (char :: rest) = char :: unescapeName rest := by
  -- The character is no sign, so it begins no escape.
  rw [unescapeName]
  -- Both escapes begin with the sign.
  · intro others same
    exact absurd same plain
  · intro others same
    exact absurd same plain

/-- The characters of a part are read back from their escaped form. -/
theorem unescapeName_flatMap (chars : List Char) :
    unescapeName (chars.flatMap escapeNameChar) = chars := by
  -- By induction on the characters, each of which is read back from its escape.
  induction chars with
  | nil => rfl
  | cons char rest ih =>
    -- Only the escape sign and the separator have an escape.
    by_cases sign : char = '%'
    · subst sign
      simp [escapeNameChar, unescapeName, ih]
    · by_cases separator : char = '-'
      · subst separator
        simp [escapeNameChar, unescapeName, ih]
      · have plain : escapeNameChar char = [char] := by simp [escapeNameChar, sign, separator]
        rw [List.flatMap_cons, plain, List.singleton_append, unescapeName_cons sign, ih]

/-- An escaped part holds no separator. -/
theorem not_mem_escapeNamePart (part : String) : '-' ∉ (escapeNamePart part).toList := by
  -- Each character of the part comes from the escape of one character.
  intro member
  rw [escapeNamePart, String.toList_ofList] at member
  obtain ⟨char, _, inside⟩ := List.mem_flatMap.1 member
  -- A separator is written by its escape, and nothing else is written with one.
  by_cases sign : char = '%'
  · simp [escapeNameChar, sign] at inside
  · by_cases separator : char = '-'
    · simp [escapeNameChar, separator] at inside
    · simp [escapeNameChar, sign, separator, Ne.symm separator] at inside

/-- The parts of a name, each without its escapes. -/
def nameParts (name : String) : List String :=
  (pieces '-' name.toList).map fun part => String.ofList (unescapeName part)

/-- The parts of a name are the mark of all names, the type and the fields in their order. -/
theorem nameParts_viewName (documentType : String) (fields : List String) :
    nameParts (viewName documentType fields) = "QC" :: documentType :: fields := by
  -- The name is cut at its separators, for no part holds one.
  have free : ∀ part ∈ "QC" :: (documentType :: fields).map escapeNamePart,
      '-' ∉ part.toList := by
    intro part member
    rcases List.mem_cons.1 member with mark | escaped
    · subst mark
      decide
    · obtain ⟨whole, _, same⟩ := List.mem_map.1 escaped
      rw [← same]
      exact not_mem_escapeNamePart whole
  have cut : pieces '-' (viewName documentType fields).toList =
      ("QC" :: (documentType :: fields).map escapeNamePart).map String.toList :=
    pieces_intercalate rfl (List.cons_ne_nil _ _) free
  -- Each of them is read back, the mark included.
  have part_read : ∀ part : String,
      String.ofList (unescapeName (escapeNamePart part).toList) = part := by
    intro part
    rw [escapeNamePart, String.toList_ofList, unescapeName_flatMap, String.ofList_toList]
  have mark_read : String.ofList (unescapeName "QC".toList) = "QC" := by decide
  rw [nameParts, cut]
  simp only [List.map_cons, List.map_map, Function.comp_def, mark_read, part_read, List.map_id']

/-- Two views have the same name exactly if they are of the same type and of the same fields. -/
theorem viewName_eq_iff (documentType otherType : String) (fields others : List String) :
    viewName documentType fields = viewName otherType others ↔
      documentType = otherType ∧ fields = others := by
  -- A name can be taken apart again.
  constructor
  · intro same
    -- Equal names have equal parts.
    have parts := congrArg nameParts same
    rw [nameParts_viewName, nameParts_viewName] at parts
    obtain ⟨_, rest⟩ := List.cons.inj parts
    exact List.cons.inj rest
  · rintro ⟨rfl, rfl⟩
    rfl

end DocView
