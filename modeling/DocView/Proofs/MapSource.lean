import DocView.Proofs.Json.RoundTrip
import DocView.Proofs.ViewDefinition

/-!
The source of a view, cut at its string literals. Whatever the type and the fields are called, each
of them is one literal, and what stands around the literals depends only on how many fields there are
and on whether the rows bring their documents. So a source tells the shape it was made for.
-/

namespace DocView

/-- A source, cut at the string literals in it. -/
structure SourceParts where
  /-- The code before the first literal. -/
  head : List Char := []
  /-- What each literal has between its quotes, and the code behind it. -/
  tail : List (List Char × List Char) := []

namespace SourceParts

/-- The literals, with their quotes. -/
def literals (parts : SourceParts) : List String :=
  parts.tail.map fun part => String.ofList ('"' :: part.1 ++ ['"'])

/-- The code before, between and behind the literals. -/
def code (parts : SourceParts) : List String :=
  (parts.head :: parts.tail.map Prod.snd).map String.ofList

end SourceParts

mutual

/-- Cuts a source outside of any literal; a quote opens one. -/
def cutCode : List Char → Option SourceParts
  | [] => some {}
  | '"' :: rest => (cutLiteral rest).map fun (literal, parts) =>
    ⟨[], (literal, parts.head) :: parts.tail⟩
  | char :: rest => (cutCode rest).map fun parts => { parts with head := char :: parts.head }
termination_by structural source => source

/-- Cuts a source inside a literal; the next quote without a backslash before it ends the literal. -/
def cutLiteral : List Char → Option (List Char × SourceParts)
  -- A literal without an end is none.
  | [] => none
  | '"' :: rest => (cutCode rest).map fun parts => ([], parts)
  | '\\' :: char :: rest => (cutLiteral rest).map fun (literal, parts) =>
    ('\\' :: char :: literal, parts)
  | char :: rest => (cutLiteral rest).map fun (literal, parts) => (char :: literal, parts)
termination_by structural source => source

end

/-- Cuts a source at its literals, from left to right. -/
def cutSource (source : String) : Option SourceParts := cutCode source.toList

section Cutting

/-- Code without a quote stands before whatever follows. -/
theorem cutCode_append {code : List Char} (free : '"' ∉ code) (rest : List Char) :
    cutCode (code ++ rest) =
      (cutCode rest).map fun parts => { parts with head := code ++ parts.head } := by
  -- Character by character the code is put before the piece that the rest begins with.
  induction code with
  | nil => simp
  | cons char code ih =>
    have plain : char ≠ '"' := Ne.symm (List.ne_of_not_mem_cons free)
    rw [List.cons_append, cutCode, ih (List.not_mem_of_not_mem_cons free), Option.map_map]
    · rfl
    · exact plain

/-- A character that needs no escape is cut off as it is. -/
theorem cutLiteral_cons {char : Char} (noQuote : char ≠ '"') (noBackslash : char ≠ '\\')
    (rest : List Char) :
    cutLiteral (char :: rest) =
      (cutLiteral rest).map fun (literal, parts) => (char :: literal, parts) := by
  -- The equation of the last case asks that neither of the cases before it applies.
  rw [cutLiteral]
  · exact noQuote
  · intro _ _ same
    exact absurd same noBackslash

/-- The digits of escapes are neither quotes nor backslashes nor control characters. -/
theorem hexDigit_plain {value : Nat} (small : value < 16) :
    Json.hexDigit value ≠ '"' ∧ Json.hexDigit value ≠ '\\' ∧ 32 ≤ (Json.hexDigit value).toNat := by
  have each : ∀ value < 16, Json.hexDigit value ≠ '"' ∧ Json.hexDigit value ≠ '\\' ∧
      32 ≤ (Json.hexDigit value).toNat := by
    decide
  exact each value small

/-- A character inside a quotation has a short escape or a long one, or it needs none. -/
theorem escapeChar_cases (char : Char) :
    (∃ letter, 32 ≤ letter.toNat ∧ Json.escapeChar char = ['\\', letter]) ∨
    (∃ upper < 16, ∃ lower < 16, Json.escapeChar char =
      ['\\', 'u', '0', '0', Json.hexDigit upper, Json.hexDigit lower]) ∨
    (char ≠ '"' ∧ char ≠ '\\' ∧ 32 ≤ char.toNat ∧ Json.escapeChar char = [char]) := by
  -- The cases are those of the definition, in its order.
  generalize written : Json.escapeChar char = chars
  unfold Json.escapeChar at written
  -- Seven characters have short escapes.
  split at written
  · exact .inl ⟨'"', by decide, written.symm⟩
  split at written
  · exact .inl ⟨'\\', by decide, written.symm⟩
  split at written
  · exact .inl ⟨'b', by decide, written.symm⟩
  split at written
  · exact .inl ⟨'t', by decide, written.symm⟩
  split at written
  · exact .inl ⟨'n', by decide, written.symm⟩
  split at written
  · exact .inl ⟨'f', by decide, written.symm⟩
  split at written
  · exact .inl ⟨'r', by decide, written.symm⟩
  split at written
  · rename_i small
    exact .inr (.inl ⟨_, by omega, _, by omega, written.symm⟩)
  · rename_i quote backslash _ _ _ _ _ large
    exact .inr (.inr ⟨quote, backslash, Nat.le_of_not_lt large, written.symm⟩)

/-- No character inside a quotation is a control character. -/
theorem le_toNat_of_mem_escapeChar {char inside : Char} (member : inside ∈ Json.escapeChar char) :
    32 ≤ inside.toNat := by
  -- An escape is written with a backslash, letters and digits, and all else stands for itself.
  have fixed : 32 ≤ '\\'.toNat ∧ 32 ≤ 'u'.toNat ∧ 32 ≤ '0'.toNat := by decide
  rcases escapeChar_cases char with ⟨letter, plain, same⟩ | ⟨upper, high, lower, low, same⟩ |
    ⟨_, _, plain, same⟩ <;>
    simp only [same, List.mem_cons, List.not_mem_nil, or_false] at member
  · rcases member with rfl | rfl
    · exact fixed.1
    · exact plain
  · rcases member with rfl | rfl | rfl | rfl | rfl | rfl
    · exact fixed.1
    · exact fixed.2.1
    · exact fixed.2.2
    · exact fixed.2.2
    · exact (hexDigit_plain high).2.2
    · exact (hexDigit_plain low).2.2
  · rw [member]
    exact plain

/-- A character inside a quotation stays inside the literal, whatever follows. -/
theorem cutLiteral_escapeChar (char : Char) (rest : List Char) :
    cutLiteral (Json.escapeChar char ++ rest) =
      (cutLiteral rest).map fun (literal, parts) => (Json.escapeChar char ++ literal, parts) := by
  -- The scanner passes over a backslash with what follows it, and stops at a bare quote only.
  rcases escapeChar_cases char with ⟨letter, _, same⟩ | ⟨upper, high, lower, low, same⟩ |
    ⟨noQuote, noBackslash, _, same⟩ <;> rw [same]
  · -- A quote or a backslash of the text comes behind a backslash of its own.
    rfl
  · -- Behind the letter of a long escape stand digits only.
    obtain ⟨upperQuote, upperBackslash, _⟩ := hexDigit_plain high
    obtain ⟨lowerQuote, lowerBackslash, _⟩ := hexDigit_plain low
    simp only [List.cons_append, List.nil_append]
    rw [cutLiteral, cutLiteral_cons (by decide) (by decide), cutLiteral_cons (by decide) (by decide),
      cutLiteral_cons upperQuote upperBackslash, cutLiteral_cons lowerQuote lowerBackslash]
    simp only [Option.map_map]
    rfl
  · -- Any other character stands for itself.
    exact cutLiteral_cons noQuote noBackslash rest

/-- The characters of a quotation are one literal, up to the quote that ends it. -/
theorem cutLiteral_flatMap (chars rest : List Char) :
    cutLiteral (chars.flatMap Json.escapeChar ++ '"' :: rest) =
      (cutCode rest).map fun parts => (chars.flatMap Json.escapeChar, parts) := by
  -- Each character leaves the reader inside the literal, and the quote behind the last one ends it.
  induction chars with
  | nil => rfl
  | cons char chars ih =>
    rw [List.flatMap_cons, List.append_assoc, cutLiteral_escapeChar, ih, Option.map_map]
    rfl

end Cutting

/-- A source is cut into pieces of code and the quotations of texts between them. -/
def Cuts (source : String) (code texts : List String) : Prop :=
  ∃ parts, cutSource source = some parts ∧ parts.code = code ∧
    parts.literals = texts.map literal

section Cuts

variable {code source : String} {codes texts : List String}

/-- Code without a quote is one piece. -/
theorem cuts_code (free : '"' ∉ code.toList) : Cuts code [code] [] := by
  have whole := cutCode_append free []
  rw [List.append_nil] at whole
  refine ⟨⟨code.toList, []⟩, ?_, ?_, rfl⟩
  · simp [cutSource, whole, cutCode]
  · simp [SourceParts.code]

/-- Code without a quote and a quotation are one piece and one literal more. -/
theorem Cuts.literal (cuts : Cuts source codes texts) (free : '"' ∉ code.toList) (text : String) :
    Cuts (code ++ literal text ++ source) (code :: codes) (text :: texts) := by
  -- The code is passed over, the quotation is cut off, and the rest is cut as it was.
  obtain ⟨parts, cut, rfl, literals⟩ := cuts
  have quoted : (DocView.literal text).toList =
      '"' :: text.toList.flatMap Json.escapeChar ++ ['"'] := by
    rw [DocView.literal, Json.text, Json.render, String.toList_ofList, Json.renderString]
  refine ⟨⟨code.toList, (text.toList.flatMap Json.escapeChar, parts.head) :: parts.tail⟩,
    ?_, ?_, ?_⟩
  · have inside := cutLiteral_flatMap text.toList source.toList
    rw [show cutCode source.toList = some parts from cut] at inside
    rw [cutSource, String.toList_append, String.toList_append, List.append_assoc,
      cutCode_append free, quoted]
    simp [cutCode, inside]
  · simp [SourceParts.code]
  · rw [List.map_cons, ← literals, ← String.ofList_toList (s := DocView.literal text), quoted]
    rfl

end Cuts

/-- The code around the names of so many fields, between the code before the key and behind it. -/
def keyCode (closing : String) : String → Nat → List String
  | opening, 0 => [opening ++ closing]
  | opening, 1 => [opening ++ "doc[", "] === undefined ? null : doc[", "]" ++ closing]
  | opening, count + 2 =>
    (opening ++ "doc[") :: "] === undefined ? null : doc[" :: keyCode closing "], " (count + 1)

/-- The code behind a key. -/
def closingCode (includeDocs : Bool) : String :=
  "], " ++ (if includeDocs then "doc" else "1") ++ ");\n  \x7d\n\x7d"

/-- The code around the literals of a source with so many fields. -/
def sourceCode (count : Nat) (includeDocs : Bool) : List String :=
  ["function (doc) \x7b\n  if (doc.type === ", " || (typeof doc._id === ", " && doc._id.indexOf("]
    ++ keyCode (closingCode includeDocs) ") === 0)) \x7b\n    emit([" count

/-- The texts that the literals of a source stand for. -/
def ViewShape.sourceTexts (shape : ViewShape) : List String :=
  [shape.documentType, "string", shape.documentType ++ "/"]
    ++ shape.fields.flatMap fun field => [field, field]

/-- The source of a key is cut into the names of its fields, each of them twice. -/
theorem cuts_key (fields : List String) {opening closing : String}
    (openingFree : '"' ∉ opening.toList) (closingFree : '"' ∉ closing.toList) :
    Cuts (opening ++ ", ".intercalate (fields.map ViewShape.componentSource) ++ closing)
      (keyCode closing opening fields.length) (fields.flatMap fun field => [field, field]) := by
  -- The code before a component is that before the key, or the end of the component before it.
  induction fields generalizing opening with
  | nil =>
    have free : '"' ∉ (opening ++ closing).toList := by simp [openingFree, closingFree]
    have joined : opening ++ ", ".intercalate ([].map ViewShape.componentSource) ++ closing =
        opening ++ closing := by
      simp
    rw [joined]
    exact cuts_code free
  | cons field fields ih =>
    have before : '"' ∉ (opening ++ "doc[").toList := by simp [openingFree]
    have between : '"' ∉ "] === undefined ? null : doc[".toList := by decide
    cases fields with
    | nil =>
      have behind : '"' ∉ ("]" ++ closing).toList := by simp [closingFree]
      have cuts := ((cuts_code behind).literal between field).literal before field
      have joined : opening ++ ", ".intercalate ([field].map ViewShape.componentSource) ++ closing =
          opening ++ "doc[" ++ literal field ++
            ("] === undefined ? null : doc[" ++ literal field ++ ("]" ++ closing)) := by
        rw [← String.toList_inj]
        simp [ViewShape.componentSource, toString]
      rw [joined]
      exact cuts
    | cons next fields =>
      -- What comes before the next component is the end of this one.
      have comma : '"' ∉ "], ".toList := by decide
      have cuts := ((ih comma).literal between field).literal before field
      have joined : opening ++
          ", ".intercalate ((field :: next :: fields).map ViewShape.componentSource) ++ closing =
          opening ++ "doc[" ++ literal field ++
            ("] === undefined ? null : doc[" ++ literal field ++
              ("], " ++ ", ".intercalate ((next :: fields).map ViewShape.componentSource) ++
                closing)) := by
        rw [← String.toList_inj, List.map_cons, List.map_cons, String.intercalate_cons_cons]
        simp [ViewShape.componentSource, toString]
      rw [joined]
      exact cuts

/-- The source of a view, from its first literal on and with the key between two pieces of code. -/
theorem mapSource_eq (shape : ViewShape) :
    shape.mapSource =
      "function (doc) \x7b\n  if (doc.type === " ++ literal shape.documentType ++
        (" || (typeof doc._id === " ++ literal "string" ++
          (" && doc._id.indexOf(" ++ literal (shape.documentType ++ "/") ++
            (") === 0)) \x7b\n    emit([" ++
              ", ".intercalate (shape.fields.map ViewShape.componentSource) ++
                closingCode shape.includeDocs))) := by
  -- The pieces of code are those of the definition, put together anew.
  have first : "function (doc) \x7b\n  if (doc.type === " =
      "function (doc) \x7b\n" ++ "  if (doc.type === " := rfl
  have second : " || (typeof doc._id === " = " || " ++ "(typeof doc._id === " := rfl
  have third : "(typeof doc._id === \"string\" && doc._id.indexOf(" =
      "(typeof doc._id === " ++ (literal "string" ++ " && doc._id.indexOf(") := rfl
  have fourth : ") === 0)) \x7b\n    emit([" = ") === 0)) \x7b\n" ++ "    emit([" := rfl
  have last : ");\n  \x7d\n\x7d" = ");\n" ++ "  \x7d\n\x7d" := rfl
  delta ViewShape.mapSource
  simp only [toString, closingCode, first, second, third, fourth, last, String.append_assoc]

/-- The source of a view is cut into its type, the names of its fields and code that tells neither. -/
theorem cuts_mapSource (shape : ViewShape) :
    Cuts shape.mapSource (sourceCode shape.fields.length shape.includeDocs) shape.sourceTexts := by
  -- The source is cut from its end, one literal with the code in front of it at a time.
  have closingFree : '"' ∉ (closingCode shape.includeDocs).toList := by
    cases shape.includeDocs <;> decide
  have openingFree : '"' ∉ ") === 0)) \x7b\n    emit([".toList := by decide
  have key := cuts_key shape.fields openingFree closingFree
  rw [mapSource_eq]
  -- Before the key stand three literals more, with a piece of code in front of each.
  exact ((key.literal (by decide) _).literal (by decide) _).literal (by decide) _

section Literal

/-- A literal is read as the text that it quotes. -/
theorem parse_literal (text : String) : Json.parse (literal text) = .ok (.string text) := by
  -- A text nests no level at all.
  have shallow : (Json.string text).depth ≤ Json.depthLimit := by
    rw [Json.depth]
    exact Nat.zero_le _
  exact Json.parse_text shallow

/-- Different texts have different literals. -/
theorem literal_inj {text other : String} : literal text = literal other ↔ text = other := by
  constructor
  · -- A literal is read as one text only.
    intro same
    have read := parse_literal text
    rw [same, parse_literal other] at read
    cases read
    rfl
  · rintro rfl
    rfl

/-- No control character stands in a literal. -/
theorem le_toNat_of_mem_literal {text : String} {char : Char} (member : char ∈ (literal text).toList) :
    32 ≤ char.toNat := by
  -- A literal is its quotes and the escapes of its characters, and no escape has a control
  -- character.
  rw [literal, Json.text, Json.render, String.toList_ofList, Json.renderString] at member
  -- Around the characters of the text there are only the two quotes.
  have quote : 32 ≤ '"'.toNat := by decide
  simp only [List.cons_append, List.mem_cons, List.mem_append, List.not_mem_nil, or_false] at member
  rcases member with rfl | inside | rfl
  · exact quote
  · obtain ⟨_, _, escaped⟩ := List.mem_flatMap.1 inside
    exact le_toNat_of_mem_escapeChar escaped
  · exact quote

end Literal

/-- A source is cut in one way. -/
theorem Cuts.unique {source : String} {codes others texts otherTexts : List String}
    (cuts : Cuts source codes texts) (again : Cuts source others otherTexts) :
    codes = others ∧ texts = otherTexts := by
  -- Cutting is a function, and a literal tells the text that it quotes.
  obtain ⟨parts, cut, rfl, literals⟩ := cuts
  obtain ⟨_, same, rfl, otherLiterals⟩ := again
  obtain rfl := Option.some.inj (cut.symm.trans same)
  exact ⟨rfl, (List.map_inj_right fun _ _ => literal_inj.1).1 (literals.symm.trans otherLiterals)⟩

/-- Lists of which each element is written twice are the same if their elements are. -/
theorem flatMap_twice_inj {α : Type} {left right : List α}
    (same : left.flatMap (fun item => [item, item]) = right.flatMap fun item => [item, item]) :
    left = right := by
  -- The first two of each list are its first element, and the others are those of the tails.
  induction left generalizing right with
  | nil =>
    cases right with
    | nil => rfl
    | cons item right => cases same
  | cons item left ih =>
    cases right with
    | nil => cases same
    | cons other right =>
      simp only [List.flatMap_cons, List.cons_append, List.nil_append, List.cons.injEq] at same
      rw [same.1, ih same.2.2]

/-- A source tells the shape it was made for. -/
theorem mapSource_inj {shape other : ViewShape} :
    shape.mapSource = other.mapSource ↔ shape = other := by
  -- Cutting a source gives its literals back, so equal sources have equal literals and equal code.
  constructor
  · intro same
    -- The literals tell the type and the fields.
    have cuts := cuts_mapSource shape
    rw [same] at cuts
    obtain ⟨_, texts⟩ := cuts.unique (cuts_mapSource other)
    obtain ⟨documentType, fields, includeDocs⟩ := shape
    obtain ⟨otherType, otherFields, others⟩ := other
    simp only [ViewShape.sourceTexts, List.cons_append, List.nil_append, List.cons.injEq] at texts
    obtain ⟨rfl, _, _, twice⟩ := texts
    obtain rfl := flatMap_twice_inj twice
    -- What is left to differ is the code behind the key, which tells whether documents are brought.
    rw [mapSource_eq, mapSource_eq] at same
    simp only [String.append_right_inj] at same
    cases includeDocs <;> cases others
    · rfl
    · exact absurd same (by decide)
    · exact absurd same (by decide)
    · rfl
  · rintro rfl
    rfl

/-- A definition is found exactly in an entry that was put in for its shape. -/
theorem hasDefinition_of_view?_eq {document written : DesignDocument} {name : String}
    {shape other : ViewShape}
    (entry : document.view? name = (written.setView (.ofShape name shape)).view? name) :
    document.hasDefinition (.ofShape name other) = true ↔ other = shape := by
  -- Only the entry under the name is looked at, and there it is as if it had just been put in.
  have found : document.hasDefinition (.ofShape name other) =
      (written.setView (.ofShape name shape)).hasDefinition (.ofShape name other) := by
    rw [DesignDocument.hasDefinition, DesignDocument.hasDefinition]
    exact congrArg (fun entry => decide (entry = _)) entry
  have named : (ViewDefinition.ofShape name shape).name = (ViewDefinition.ofShape name other).name :=
    rfl
  rw [found, written.hasDefinition_setView named]
  constructor
  · intro same
    exact mapSource_inj.1 (congrArg ViewDefinition.mapSource same.symm)
  · rintro rfl
    rfl

/--
A source is cut into the names it was made of, and tells its shape.

Its literals are read as the type, as the type of an id, as the type with a slash and as each field
twice. No control character stands in them, and what stands around them depends on the number of
fields and on the documents alone. So two shapes never share a source, and the definition that a
shape needs is found only where it was put in for the same shape.
-/
theorem mapSource_identifies (shape : ViewShape) :
    (∃ parts, cutSource shape.mapSource = some parts ∧
      parts.literals.map Json.parse =
        shape.sourceTexts.map (fun text => .ok (.string text)) ∧
      (∀ literal ∈ parts.literals, ∀ char ∈ literal.toList, 32 ≤ char.toNat) ∧
      parts.code = sourceCode shape.fields.length shape.includeDocs) ∧
    (∀ other : ViewShape, other.mapSource = shape.mapSource ↔ other = shape) ∧
    ∀ (document written : DesignDocument) (name : String) (other : ViewShape),
      document.view? name = (written.setView (.ofShape name shape)).view? name →
        (document.hasDefinition (.ofShape name other) = true ↔ other = shape) := by
  -- All three parts come down to how the source is cut, which is known for every shape.
  obtain ⟨parts, cut, code, literals⟩ := cuts_mapSource shape
  refine ⟨⟨parts, cut, ?_, ?_, code⟩, fun other => mapSource_inj, ?_⟩
  · -- Each literal is read as the text that it quotes.
    rw [literals, List.map_map]
    refine List.map_congr_left fun text _ => ?_
    rw [Function.comp_apply, parse_literal]
  · -- Only quotations are among the literals, and they escape all control characters.
    rw [literals]
    intro literal member char inside
    obtain ⟨text, _, rfl⟩ := List.mem_map.1 member
    exact le_toNat_of_mem_literal inside
  · intro document written name other entry
    exact hasDefinition_of_view?_eq entry

end DocView
