import DocView.Proofs.Text.Percent
import DocView.QueryString

/-! The parameters of a query string are read back, whatever their values hold. -/

namespace DocView

/-- A text without the separator is one piece. -/
theorem pieces_of_not_mem {separator : Char} {chars : List Char} (free : separator ∉ chars) :
    pieces separator chars = [chars] := by
  -- No character begins a new piece.
  induction chars with
  | nil => rfl
  | cons char rest ih =>
    have differs := List.ne_of_not_mem_cons free
    rw [pieces, if_neg (Ne.symm differs), ih (List.not_mem_of_not_mem_cons free)]

/-- The part before the first separator is the first piece. -/
theorem pieces_append {separator : Char} {chars : List Char} (free : separator ∉ chars)
    (rest : List Char) :
    pieces separator (chars ++ separator :: rest) = chars :: pieces separator rest := by
  -- No character before the separator begins a new piece.
  induction chars with
  | nil => rw [List.nil_append, pieces, if_pos rfl]
  | cons char others ih =>
    have differs := List.ne_of_not_mem_cons free
    rw [List.cons_append, pieces, if_neg (Ne.symm differs), ih (List.not_mem_of_not_mem_cons free)]

/-- The pieces of a joined text are its parts, if none of them holds the separator. -/
theorem pieces_intercalate {separator : Char} {joint : String} (single : joint.toList = [separator])
    {parts : List String} (some : parts ≠ []) (free : ∀ part ∈ parts, separator ∉ part.toList) :
    pieces separator (joint.intercalate parts).toList = parts.map String.toList := by
  -- The separators that were put between the parts are the only ones.
  induction parts with
  | nil => exact absurd rfl some
  | cons part others ih =>
    have first := free part List.mem_cons_self
    cases others with
    | nil =>
      rw [String.intercalate_singleton, pieces_of_not_mem first]
      rfl
    | cons next others =>
      have later := ih (List.cons_ne_nil _ _) fun part member =>
        free part (List.mem_cons_of_mem _ member)
      have whole : (joint.intercalate (part :: next :: others)).toList =
          part.toList ++ separator :: (joint.intercalate (next :: others)).toList := by
        rw [String.intercalate_cons_cons]
        simp [single]
      rw [whole, pieces_append first, later]
      rfl

namespace QueryString

/-- Whether the name of a parameter stands for itself in a query string. -/
def IsPlain (name : String) : Prop := Percent.encodeChars name.toList = name.toList

/-- A parameter in its coded form, as characters. -/
def coded (parameter : String × String) : List Char :=
  parameter.1.toList ++ '=' :: Percent.encodeChars parameter.2.toList

/-- The coded form of a parameter consists of its name, an equals sign and its coded value. -/
theorem toList_renderParameter (parameter : String × String) :
    (renderParameter parameter).toList = coded parameter := by
  simp [renderParameter, coded, Percent.encode, toString]

section Coded

variable {parameter : String × String} (plain : IsPlain parameter.1)

include plain

/-- A plain name does not hold what may not stand in a coded text. -/
theorem not_mem_name {separator : Char} (outside : Percent.isCoded separator = false) :
    separator ∉ parameter.1.toList := by
  rw [← plain]
  exact Percent.not_mem_encodeChars outside

/-- The coded form of a parameter holds no separator of parameters. -/
theorem not_mem_coded : '&' ∉ coded parameter := by
  -- Neither the name nor the equals sign nor the coded value holds one.
  intro member
  rcases List.mem_append.1 member with name | behind
  · exact not_mem_name plain (by decide) name
  · rcases List.mem_cons.1 behind with same | value
    · exact absurd same (by decide)
    · exact Percent.not_mem_encodeChars (by decide) value

/-- A parameter is read back from its coded form. -/
theorem parseParameter_coded : parseParameter (coded parameter) = .ok parameter := by
  -- The name is written as it is, and has no equals sign that the parser could stop at.
  have free : ∀ char ∈ parameter.1.toList, (char != '=') = true := by
    intro char member
    refine bne_iff_ne.2 fun same => ?_
    rw [same] at member
    exact not_mem_name plain (by decide) member
  -- The first equals sign is the one behind the name.
  have name : (coded parameter).takeWhile (· != '=') = parameter.1.toList := by
    rw [coded, List.takeWhile_append_of_pos free]
    simp
  have value : ((coded parameter).dropWhile (· != '=')).drop 1 =
      Percent.encodeChars parameter.2.toList := by
    rw [coded, List.dropWhile_append_of_pos free]
    simp
  have name_read : Percent.decodeChars parameter.1.toList = .ok parameter.1.toList := by
    have read := Percent.decodeChars_encodeChars parameter.1.toList
    rwa [plain] at read
  rw [parseParameter, name, value, name_read, Percent.decodeChars_encodeChars]
  simp [bind, Except.bind, pure, Except.pure]

end Coded

/-- The pieces of a query string are the coded forms of its parameters. -/
theorem pieces_render {parameters : List (String × String)} (some : parameters ≠ [])
    (plain : ∀ parameter ∈ parameters, IsPlain parameter.1) :
    pieces '&' (render parameters).toList = parameters.map coded := by
  -- No parameter has a separator inside, so the text is cut where it was joined.
  have free : ∀ part ∈ parameters.map renderParameter, '&' ∉ part.toList := by
    intro part member
    obtain ⟨parameter, included, same⟩ := List.mem_map.1 member
    rw [← same, toList_renderParameter]
    exact not_mem_coded (plain parameter included)
  have cut : pieces '&' (render parameters).toList =
      (parameters.map renderParameter).map String.toList :=
    pieces_intercalate rfl (fun empty => some (List.map_eq_nil_iff.1 empty)) free
  rw [cut, List.map_map]
  exact List.map_congr_left fun parameter _ => toList_renderParameter parameter

/-- A query string begins with no question mark, and is not empty. -/
theorem body_render {parameters : List (String × String)} (some : parameters ≠ [])
    (plain : ∀ parameter ∈ parameters, IsPlain parameter.1) :
    body (render parameters) = (render parameters).toList ∧ (render parameters).toList ≠ [] := by
  -- A text is left alone unless it begins with a question mark, so its first character decides.
  cases parameters with
  | nil => exact absurd rfl some
  | cons parameter others =>
    obtain ⟨behind, whole⟩ : ∃ behind,
        (render (parameter :: others)).toList = coded parameter ++ behind := by
      cases others with
      | nil => exact ⟨[], by simp [render, toList_renderParameter]⟩
      | cons next others =>
        refine ⟨'&' :: (render (next :: others)).toList, ?_⟩
        rw [render, List.map_cons, List.map_cons, String.intercalate_cons_cons]
        simp [toList_renderParameter, render]
    have outside : Percent.isCoded '?' = false := by decide
    have name := not_mem_name (plain parameter List.mem_cons_self) outside
    rw [body, whole]
    -- The first character is one of the name, or the equals sign behind an empty name.
    cases front : parameter.1.toList with
    | nil => simp [coded, front]
    | cons char chars =>
      have differs : char ≠ '?' := by
        rintro rfl
        rw [front] at name
        exact name List.mem_cons_self
      refine ⟨?_, by simp [coded, front]⟩
      rw [coded, front, List.cons_append, List.cons_append]
      split
      · exact absurd (List.cons.inj ‹_›).1 differs
      · rfl

/-- The parameters of a query string are read back, if their names are plain. -/
theorem parse_render {parameters : List (String × String)} (some : parameters ≠ [])
    (plain : ∀ parameter ∈ parameters, IsPlain parameter.1) :
    parse (render parameters) = .ok parameters := by
  -- Each piece is read back, and the pieces are the parameters.
  obtain ⟨same, filled⟩ := body_render some plain
  have read : (parameters.map coded).mapM parseParameter = .ok parameters := by
    clear some same filled
    induction parameters with
    | nil => rfl
    | cons parameter others ih =>
      have first := parseParameter_coded (plain parameter List.mem_cons_self)
      have later := ih fun parameter member => plain parameter (List.mem_cons_of_mem _ member)
      rw [List.map_cons, List.mapM_cons, first, later]
      rfl
  rw [parse, same]
  split
  · exact absurd ‹_› filled
  · rw [pieces_render some plain, read]

/-- A question mark in front of a query string that begins with none is not read. -/
theorem parse_marked {query : String} (unmarked : body query = query.toList) :
    parse ("?" ++ query) = parse query := by
  have marked : body ("?" ++ query) = query.toList := by simp [body]
  rw [parse, parse, marked, unmarked]

/-- The values that parameters give to a name, in their order. -/
def valuesOf (name : String) (parameters : List (String × String)) : List String :=
  (parameters.filter fun parameter => parameter.1 = name).map Prod.snd

section ValuesOf

variable {name : String}

/-- The values of a name among parameters that stand one behind the other. -/
theorem valuesOf_append (first second : List (String × String)) :
    valuesOf name (first ++ second) = valuesOf name first ++ valuesOf name second := by
  rw [valuesOf, List.filter_append, List.map_append]
  rfl

/-- One parameter gives its value to its own name only. -/
theorem valuesOf_singleton (other value : String) :
    valuesOf name [(other, value)] = if other = name then [value] else [] := by
  by_cases same : other = name <;> simp [valuesOf, same]

/-- A parameter that is left out where nothing is asked for gives a value where something is. -/
theorem valuesOf_optional {α : Type} (other : String) (text : α → String) (asked : Option α) :
    valuesOf name (asked.map fun value => (other, text value)).toList =
      if other = name then (asked.map text).toList else [] := by
  cases asked with
  | none => simp [valuesOf]
  | some value => exact valuesOf_singleton other (text value)

end ValuesOf

end QueryString

namespace Scan

/-- The names of the parameters of a scan are plain. -/
theorem isPlain_of_mem_parameters (scan : Scan) :
    ∀ parameter ∈ scan.parameters, QueryString.IsPlain parameter.1 := by
  -- The seven names are looked at.
  have each : ∀ name ∈ ["reduce", "include_docs", "limit", "key", "startkey", "endkey",
      "descending"], QueryString.IsPlain name := by
    unfold QueryString.IsPlain
    decide
  intro parameter member
  refine each parameter.1 ?_
  simp only [parameters, List.mem_append, List.mem_cons, List.not_mem_nil, or_false,
    Option.mem_toList, Option.map_eq_some_iff] at member
  rcases member with
    (((((rfl | rfl) | ⟨_, _, rfl⟩) | ⟨_, _, rfl⟩) | ⟨_, _, rfl⟩) | ⟨_, _, rfl⟩) | rfl <;>
    simp

/--
The parameters of a scan are read back from its query string, with or without a question mark.

They come in their order, each with its name and with the exact text of its value. So no component
of a key adds, removes, splits or alters a parameter, whatever characters it holds.
-/
theorem parse_queryString (scan : Scan) :
    QueryString.parse scan.queryString = .ok scan.parameters ∧
      QueryString.parse ("?" ++ scan.queryString) = .ok scan.parameters := by
  -- Every scan has the two fixed parameters, so the text is never empty.
  have some : scan.parameters ≠ [] := by simp [parameters]
  have plain := scan.isPlain_of_mem_parameters
  have read := QueryString.parse_render some plain
  refine ⟨read, ?_⟩
  -- The name of the first parameter keeps the text from beginning with a question mark.
  obtain ⟨unmarked, _⟩ := QueryString.body_render some plain
  rw [queryString, QueryString.parse_marked unmarked, read]

/-- Each part of a scan that selects rows is the value of one parameter, and of none if it is absent. -/
theorem valuesOf_parameters (scan : Scan) :
    QueryString.valuesOf "key" scan.parameters = (scan.key.map keyText).toList ∧
      QueryString.valuesOf "startkey" scan.parameters = (scan.startKey.map keyText).toList ∧
      QueryString.valuesOf "endkey" scan.parameters = (scan.endKey.map keyText).toList ∧
      QueryString.valuesOf "limit" scan.parameters =
        (scan.limit.map fun limit => toString limit.toNat).toList ∧
      QueryString.valuesOf "descending" scan.parameters = [Json.truthText scan.descending] := by
  -- Only the parameter of the same name gives a value.
  have opening (name : String) (differs : "reduce" ≠ name ∧ "include_docs" ≠ name) :
      QueryString.valuesOf name [("reduce", Json.truthText scan.reduce),
        ("include_docs", Json.truthText scan.includeDocs)] = [] := by
    simp [QueryString.valuesOf, differs]
  simp only [parameters, QueryString.valuesOf_append, QueryString.valuesOf_optional,
    QueryString.valuesOf_singleton]
  refine ⟨?_, ?_, ?_, ?_, ?_⟩ <;> rw [opening _ (by decide)] <;> simp

/-- The query string of a scan is not empty. -/
theorem queryString_ne_empty (scan : Scan) : scan.queryString ≠ "" := by
  -- The text has a first character, namely that of its first parameter.
  intro empty
  have some : scan.parameters ≠ [] := by simp [parameters]
  obtain ⟨_, filled⟩ := QueryString.body_render some scan.isPlain_of_mem_parameters
  apply filled
  show scan.queryString.toList = []
  rw [empty]
  rfl

end Scan

end DocView
