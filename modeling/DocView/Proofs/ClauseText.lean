import DocView.Clause.Reading

/-!
The texts that clauses are read from. A condition is a field, a space and an operator without spaces,
and an order is a field behind at most one sign. A text of one line is read by this grammar, or
rejected for what it lacks; a text of several lines is rejected whatever stands on them.
-/

namespace DocView

/-- A text is cut at its last space into a field and an operator. -/
structure CutAtLastSpace (text field operator : String) : Prop where
  /-- The space stands between the two. -/
  joined : text = field ++ " " ++ operator
  /-- No space stands behind it. -/
  last : ' ' ∉ operator.toList

/-- What an operator asks of a field. -/
inductive Compares (field : String) (value : Json) : String → Clause → Prop where
  /-- Two signs ask for equality. -/
  | equal : Compares field value "==" (.equality field value)
  /-- One sign asks for it as well. -/
  | same : Compares field value "=" (.equality field value)
  /-- The value is the least one. -/
  | least : Compares field value ">=" (.range field .lower value)
  /-- The value is the greatest one. -/
  | greatest : Compares field value "<=" (.range field .upper value)

/-- What asks for something is not empty. -/
theorem Compares.given {field operator : String} {value : Json} {clause : Clause}
    (compares : Compares field value operator clause) : operator ≠ "" := by
  cases compares <;> decide

/-- Why a text is no condition. -/
inductive ConditionFault (text : String) : Rejection → Prop where
  /-- There is no space at all. -/
  | unsplit (spaceless : ' ' ∉ text.toList) : ConditionFault text (.malformed text .unsplit)
  /-- Nothing stands before the last space. -/
  | missingField {operator : String} (cut : CutAtLastSpace text "" operator) :
    ConditionFault text (.malformed text .missingField)
  /-- Nothing stands behind the last space. -/
  | missingOperator {field : String} (cut : CutAtLastSpace text field "") (named : field ≠ "") :
    ConditionFault text (.malformed text .missingOperator)
  /-- What stands behind it is no operator. -/
  | unknown {field operator : String} (cut : CutAtLastSpace text field operator)
    (named : field ≠ "") (given : operator ≠ "") (strange : operator ∉ ["==", "=", ">=", "<="]) :
    ConditionFault text (.unknownOperator operator)

/-- What the text of an order asks for. -/
inductive Instructs : String → Clause → Prop where
  /-- A minus sign stands for descending order. -/
  | descending {field : String} (named : field ≠ "") :
    Instructs ("-" ++ field) (.order field .descending)
  /-- A plus sign stands for ascending order. -/
  | ascending {field : String} (named : field ≠ "") :
    Instructs ("+" ++ field) (.order field .ascending)
  /-- Without a sign the order is ascending too. -/
  | unsigned {field : String} (named : field ≠ "") (noMinus : field.toList.head? ≠ some '-')
    (noPlus : field.toList.head? ≠ some '+') : Instructs field (.order field .ascending)

section SplitLast

variable {separator : Char} {chars : List Char}

/-- There is no last occurrence exactly if there is no occurrence. -/
theorem splitLast?_eq_none_iff : splitLast? separator chars = none ↔ separator ∉ chars := by
  -- The search comes back with nothing only from the end of a list that holds no separator.
  induction chars with
  | nil => simp [splitLast?]
  | cons char rest ih =>
    -- An occurrence is the first character, or it lies in the rest.
    rw [splitLast?]
    cases later : splitLast? separator rest with
    | none =>
      have absent := ih.1 later
      by_cases here : char = separator
      · simp [here]
      · simp [here, absent, Ne.symm here]
    | some parts =>
      have present : separator ∈ rest := by
        refine Classical.byContradiction fun absent => ?_
        rw [ih.2 absent] at later
        cases later
      simp [present]

/-- A list is split at an occurrence behind which there is no other one. -/
theorem splitLast?_append (before : List Char) {behind : List Char} (last : separator ∉ behind) :
    splitLast? separator (before ++ separator :: behind) = some (before, behind) := by
  -- Behind the occurrence nothing is found, and every character before it is put in front.
  induction before with
  | nil => rw [List.nil_append, splitLast?, splitLast?_eq_none_iff.2 last, if_pos rfl]
  | cons char before ih => rw [List.cons_append, splitLast?, ih]

/-- The two parts are what stands before and behind the last occurrence. -/
theorem splitLast?_eq_some_iff {before behind : List Char} :
    splitLast? separator chars = some (before, behind) ↔
      chars = before ++ separator :: behind ∧ separator ∉ behind := by
  constructor
  · -- The split is followed down the list, up to the occurrence.
    intro split
    induction chars generalizing before with
    | nil => cases split
    | cons char rest ih =>
      rw [splitLast?] at split
      cases later : splitLast? separator rest with
      | none =>
        rw [later] at split
        dsimp only at split
        split at split
        · rename_i here
          cases split
          exact ⟨by rw [here, List.nil_append], splitLast?_eq_none_iff.1 later⟩
        · cases split
      | some parts =>
        rw [later] at split
        cases split
        obtain ⟨joined, last⟩ := ih later
        exact ⟨by rw [joined, List.cons_append], last⟩
  · rintro ⟨rfl, last⟩
    exact splitLast?_append before last

end SplitLast

section Cut

variable {text field operator : String}

/-- A text that is cut at its last space is split there. -/
theorem CutAtLastSpace.splitLast? (cut : CutAtLastSpace text field operator) :
    splitLast? ' ' text.toList = some (field.toList, operator.toList) := by
  have joined : text.toList = field.toList ++ ' ' :: operator.toList := by simp [cut.joined]
  exact splitLast?_eq_some_iff.2 ⟨joined, cut.last⟩

/-- A text is cut in one way only. -/
theorem CutAtLastSpace.unique {other otherOperator : String}
    (cut : CutAtLastSpace text field operator) (again : CutAtLastSpace text other otherOperator) :
    field = other ∧ operator = otherOperator := by
  -- Both ways are the one that the split finds.
  have same := Option.some.inj (cut.splitLast?.symm.trans again.splitLast?)
  exact ⟨String.toList_inj.1 (congrArg Prod.fst same), String.toList_inj.1 (congrArg Prod.snd same)⟩

/-- A text that holds a space is cut at the last one. -/
theorem exists_cutAtLastSpace (spaced : ' ' ∈ text.toList) :
    ∃ field operator, CutAtLastSpace text field operator := by
  -- The search for the last space finds one, and gives the parts around it.
  cases split : splitLast? ' ' text.toList with
  | none => exact absurd spaced (splitLast?_eq_none_iff.1 split)
  | some parts =>
    obtain ⟨joined, last⟩ := splitLast?_eq_some_iff.1 split
    refine ⟨String.ofList parts.1, String.ofList parts.2, ?_, by rwa [String.toList_ofList]⟩
    -- As characters, the two parts and the space between them are the text.
    rw [← String.toList_inj]
    simp [joined]

/-- A text that is cut at its last space holds that space. -/
theorem CutAtLastSpace.mem (cut : CutAtLastSpace text field operator) : ' ' ∈ text.toList := by
  simp [cut.joined]

end Cut

namespace Clause

section Operator

variable {field operator : String} {value : Json}

/-- An operator is taken exactly for what it asks. -/
theorem ofOperator?_eq_ok_iff {clause : Clause} :
    ofOperator? field operator value = .ok clause ↔ Compares field value operator clause := by
  constructor
  · -- Each of the four operators that are taken has its own case, and any other is refused.
    intro taken
    unfold ofOperator? at taken
    split at taken <;> cases taken <;> constructor
  · intro compares
    cases compares <;> rfl

/-- An operator is unknown exactly if it is none of the four. -/
theorem ofOperator?_eq_error_iff {rejection : Rejection} :
    ofOperator? field operator value = .error rejection ↔
      operator ∉ ["==", "=", ">=", "<="] ∧ rejection = .unknownOperator operator := by
  -- Of the five ways to read an operator, the last one is for all other texts.
  unfold ofOperator?
  split
  case h_5 =>
    -- None of the four texts matched before.
    simp_all [eq_comm]
  all_goals simp

end Operator

variable {text : String}

/-- A text of several lines is neither a condition nor an order. -/
theorem of_newline (broken : '\n' ∈ text.toList) (value : Json) :
    ofCondition? text value = .error (.malformed text .unsplit) ∧
      ofInstruction? text = .error (.malformed text .unreadableOrder) := by
  rw [ofCondition?, ofInstruction?]
  exact ⟨if_pos broken, if_pos broken⟩

section Condition

variable (oneLine : '\n' ∉ text.toList) (value : Json)

include oneLine

/-- A text without a space is no condition. -/
theorem ofCondition?_of_spaceless (spaceless : ' ' ∉ text.toList) :
    ofCondition? text value = .error (.malformed text .unsplit) := by
  simp only [ofCondition?, if_neg oneLine, splitLast?_eq_none_iff.2 spaceless]

/-- A text that is cut at its last space is read by its two parts. -/
theorem ofCondition?_of_cut {field operator : String} (cut : CutAtLastSpace text field operator) :
    ofCondition? text value =
      if field = "" then .error (.malformed text .missingField)
      else if operator = "" then .error (.malformed text .missingOperator)
      else ofOperator? field operator value := by
  simp only [ofCondition?, if_neg oneLine, cut.splitLast?, String.toList_eq_nil_iff,
    String.ofList_toList]

/-- A condition is read exactly as the clause that its two parts ask for. -/
theorem ofCondition?_eq_ok_iff {clause : Clause} :
    ofCondition? text value = .ok clause ↔
      ∃ field operator, CutAtLastSpace text field operator ∧ field ≠ "" ∧
        Compares field value operator clause := by
  by_cases spaced : ' ' ∈ text.toList
  · -- The parts of the last space are the only ones, so the text is read by them.
    obtain ⟨field, operator, cut⟩ := exists_cutAtLastSpace spaced
    rw [ofCondition?_of_cut oneLine value cut]
    constructor
    · intro read
      split at read
      · cases read
      · rename_i named
        split at read
        · cases read
        · exact ⟨field, operator, cut, named, ofOperator?_eq_ok_iff.1 read⟩
    · -- Conversely the field and the operator are those two parts.
      rintro ⟨_, _, again, named, compares⟩
      obtain ⟨rfl, rfl⟩ := cut.unique again
      rw [if_neg named, if_neg compares.given]
      exact ofOperator?_eq_ok_iff.2 compares
  · -- Without a space nothing is read, and there is no cut to read it by.
    rw [ofCondition?_of_spaceless oneLine value spaced]
    exact ⟨nofun, fun ⟨_, _, cut, _⟩ => absurd cut.mem spaced⟩

/-- A condition is rejected exactly for the fault that its text has. -/
theorem ofCondition?_eq_error_iff {rejection : Rejection} :
    ofCondition? text value = .error rejection ↔ ConditionFault text rejection := by
  -- With a space the parts around the last one are at fault, and without one there are no parts.
  by_cases spaced : ' ' ∈ text.toList
  · obtain ⟨field, operator, cut⟩ := exists_cutAtLastSpace spaced
    rw [ofCondition?_of_cut oneLine value cut]
    constructor
    · -- The parts are looked at one after the other.
      intro rejected
      split at rejected
      · rename_i unnamed
        cases rejected
        exact .missingField (unnamed ▸ cut)
      · rename_i named
        split at rejected
        · rename_i absent
          cases rejected
          exact .missingOperator (absent ▸ cut) named
        · rename_i given
          obtain ⟨strange, rfl⟩ := ofOperator?_eq_error_iff.1 rejected
          exact .unknown cut named given strange
    · -- Conversely each fault is one of the only two parts.
      intro fault
      cases fault with
      | unsplit spaceless => exact absurd spaced spaceless
      | missingField again =>
        obtain ⟨rfl, rfl⟩ := cut.unique again
        rw [if_pos rfl]
      | missingOperator again named =>
        obtain ⟨rfl, rfl⟩ := cut.unique again
        rw [if_neg named, if_pos rfl]
      | unknown again named given strange =>
        obtain ⟨rfl, rfl⟩ := cut.unique again
        rw [if_neg named, if_neg given]
        exact ofOperator?_eq_error_iff.2 ⟨strange, rfl⟩
  · rw [ofCondition?_of_spaceless oneLine value spaced]
    constructor
    · intro rejected
      cases rejected
      exact .unsplit spaced
    · -- Every other fault lies beside a space.
      intro fault
      cases fault with
      | unsplit spaceless => rfl
      | missingField cut => exact absurd cut.mem spaced
      | missingOperator cut named => exact absurd cut.mem spaced
      | unknown cut named given strange => exact absurd cut.mem spaced

end Condition

section Sign

/-- A minus sign asks for descending order of what stands behind it. -/
theorem splitSign_minus (field : String) :
    splitSign ("-" ++ field).toList = (.descending, field.toList) := by
  simp [splitSign]

/-- A plus sign asks for ascending order of what stands behind it. -/
theorem splitSign_plus (field : String) :
    splitSign ("+" ++ field).toList = (.ascending, field.toList) := by
  simp [splitSign]

/-- A text that begins with neither sign is the field itself. -/
theorem splitSign_unsigned (noMinus : text.toList.head? ≠ some '-')
    (noPlus : text.toList.head? ≠ some '+') :
    splitSign text.toList = (.ascending, text.toList) := by
  -- The two cases of a sign are excluded, and the third one takes the text as it is.
  unfold splitSign
  split
  · rename_i same
    rw [same] at noMinus
    exact absurd rfl noMinus
  · rename_i same
    rw [same] at noPlus
    exact absurd rfl noPlus
  · rfl

/-- A text begins with one of the signs, or with neither. -/
theorem sign_cases (text : String) :
    (∃ field, text = "-" ++ field) ∨ (∃ field, text = "+" ++ field) ∨
      (text.toList.head? ≠ some '-' ∧ text.toList.head? ≠ some '+') := by
  -- A first character that is a sign has a field behind it.
  have behind : ∀ sign : Char, text.toList.head? = some sign →
      ∃ field, text = String.singleton sign ++ field := by
    intro sign first
    obtain ⟨rest, same⟩ := List.head?_eq_some_iff.1 first
    refine ⟨String.ofList rest, ?_⟩
    rw [← String.toList_inj]
    simp [same]
  by_cases minus : text.toList.head? = some '-'
  · exact .inl (behind '-' minus)
  · by_cases plus : text.toList.head? = some '+'
    · exact .inr (.inl (behind '+' plus))
    · exact .inr (.inr ⟨minus, plus⟩)

/-- A sign with something behind it is more than a sign. -/
theorem sign_append_mem_iff {sign field : String} (signs : sign = "-" ∨ sign = "+") :
    sign ++ field ∈ ["", "-", "+"] ↔ field = "" := by
  constructor
  · -- None of the three texts is longer than the sign.
    intro member
    have short : ∀ text ∈ ["", "-", "+"], text.length ≤ 1 := by decide
    have whole := short _ member
    have one : sign.length = 1 := by rcases signs with rfl | rfl <;> rfl
    rw [String.length_append, one] at whole
    exact String.length_eq_zero_iff.1 (by omega)
  · rintro rfl
    rcases signs with rfl | rfl <;> decide

end Sign

section Instruction

variable (oneLine : '\n' ∉ text.toList)

include oneLine

section SplitSign

variable {direction : Direction} {field : String}
  (signed : splitSign text.toList = (direction, field.toList))

include signed

/-- An order is read by its sign and the field behind it. -/
theorem ofInstruction?_of_splitSign :
    ofInstruction? text =
      if field = "" then .error (.malformed text .missingOrderField)
      else .ok (.order field direction) := by
  simp only [ofInstruction?, if_neg oneLine, signed, String.toList_eq_nil_iff, String.ofList_toList]

/-- An order with a field behind its sign is read. -/
theorem ofInstruction?_of_named (named : field ≠ "") :
    ofInstruction? text = .ok (.order field direction) := by
  rw [ofInstruction?_of_splitSign oneLine signed, if_neg named]

/-- An order that is read has a field behind its sign. -/
theorem of_ofInstruction? {clause : Clause} (read : ofInstruction? text = .ok clause) :
    field ≠ "" ∧ clause = .order field direction := by
  -- Of the two outcomes only the one with a field is an order.
  rw [ofInstruction?_of_splitSign oneLine signed] at read
  split at read
  · cases read
  · rename_i named
    cases read
    exact ⟨named, rfl⟩

/-- An order is rejected exactly if it has no field behind its sign. -/
theorem ofInstruction?_eq_error_iff_of_splitSign {rejection : Rejection} :
    ofInstruction? text = .error rejection ↔
      field = "" ∧ rejection = .malformed text .missingOrderField := by
  rw [ofInstruction?_of_splitSign oneLine signed]
  by_cases unnamed : field = ""
  · simp [unnamed, eq_comm]
  · simp [unnamed]

end SplitSign

/-- An order is read exactly as its text instructs. -/
theorem ofInstruction?_eq_ok_iff {clause : Clause} :
    ofInstruction? text = .ok clause ↔ Instructs text clause := by
  constructor
  · -- Each of the three ways to begin has a kind of order of its own.
    intro read
    rcases sign_cases text with ⟨field, rfl⟩ | ⟨field, rfl⟩ | ⟨noMinus, noPlus⟩
    · obtain ⟨named, rfl⟩ := of_ofInstruction? oneLine (splitSign_minus field) read
      exact .descending named
    · obtain ⟨named, rfl⟩ := of_ofInstruction? oneLine (splitSign_plus field) read
      exact .ascending named
    · obtain ⟨named, rfl⟩ := of_ofInstruction? oneLine (splitSign_unsigned noMinus noPlus) read
      exact .unsigned named noMinus noPlus
  · -- What a text instructs tells how it begins.
    intro instructs
    cases instructs with
    | descending named => exact ofInstruction?_of_named oneLine (splitSign_minus _) named
    | ascending named => exact ofInstruction?_of_named oneLine (splitSign_plus _) named
    | unsigned named noMinus noPlus =>
      exact ofInstruction?_of_named oneLine (splitSign_unsigned noMinus noPlus) named

/-- An order is rejected exactly if it is a sign alone, or nothing. -/
theorem ofInstruction?_eq_error_iff {rejection : Rejection} :
    ofInstruction? text = .error rejection ↔
      text ∈ ["", "-", "+"] ∧ rejection = .malformed text .missingOrderField := by
  -- In each of the three ways to begin, the field is missing from just one of these texts.
  rcases sign_cases text with ⟨field, rfl⟩ | ⟨field, rfl⟩ | ⟨noMinus, noPlus⟩
  · rw [ofInstruction?_eq_error_iff_of_splitSign oneLine (splitSign_minus field),
      sign_append_mem_iff (.inl rfl)]
  · rw [ofInstruction?_eq_error_iff_of_splitSign oneLine (splitSign_plus field),
      sign_append_mem_iff (.inr rfl)]
  · rw [ofInstruction?_eq_error_iff_of_splitSign oneLine (splitSign_unsigned noMinus noPlus)]
    have minus : text ≠ "-" := by
      rintro rfl
      exact noMinus rfl
    have plus : text ≠ "+" := by
      rintro rfl
      exact noPlus rfl
    simp [minus, plus]

end Instruction

end Clause

/-- A text is read by the grammar of clauses, as a condition, as an order and as a field of either. -/
structure ReadByGrammar (text : String) (value : Json) : Prop where
  /-- A condition is a field and an operator, cut at the last space, and asks what these ask. -/
  condition : ∀ clause, Clause.ofCondition? text value = .ok clause ↔
    ∃ field operator, CutAtLastSpace text field operator ∧ field ≠ "" ∧
      Compares field value operator clause
  /-- It is malformed exactly without a space, without a field or without an operator. -/
  malformed : (∃ fault, Clause.ofCondition? text value = .error (.malformed text fault)) ↔
    ' ' ∉ text.toList ∨
      ∃ field operator, CutAtLastSpace text field operator ∧ (field = "" ∨ operator = "")
  /-- With both, it is rejected exactly for an operator that is none of the four. -/
  unknown : ∀ operator, Clause.ofCondition? text value = .error (.unknownOperator operator) ↔
    ∃ field, CutAtLastSpace text field operator ∧ field ≠ "" ∧ operator ≠ "" ∧
      operator ∉ ["==", "=", ">=", "<="]
  /-- It is rejected for nothing else. -/
  rejected : ∀ rejection, Clause.ofCondition? text value = .error rejection ↔
    ConditionFault text rejection
  /-- An order is a field behind at most one sign. -/
  order : ∀ clause, Clause.ofInstruction? text = .ok clause ↔ Instructs text clause
  /-- It is malformed exactly without a field, and is rejected for nothing else. -/
  orderRejected : ∀ rejection, Clause.ofInstruction? text = .error rejection ↔
    text ∈ ["", "-", "+"] ∧ rejection = .malformed text .missingOrderField
  /-- As a field before an operator, a text that is not empty is read back as it is. -/
  compared : text ≠ "" → ∀ operator clause, Compares text value operator clause →
    Clause.ofCondition? (text ++ " " ++ operator) value = .ok clause ∧ clause.field = text
  /-- As a field behind a minus sign it is read back as well. -/
  descending : text ≠ "" → Clause.ofInstruction? ("-" ++ text) = .ok (.order text .descending)
  /-- As a field behind a plus sign it is read back too. -/
  ascending : text ≠ "" → Clause.ofInstruction? ("+" ++ text) = .ok (.order text .ascending)

/-- The four operators hold no space and no line break. -/
theorem Compares.isPlain {field operator : String} {value : Json} {clause : Clause}
    (compares : Compares field value operator clause) :
    ' ' ∉ operator.toList ∧ '\n' ∉ operator.toList := by
  cases compares <;> decide

/-- Texts of one line are read by the grammar of clauses. -/
theorem readByGrammar {text : String} (oneLine : '\n' ∉ text.toList) (value : Json) :
    ReadByGrammar text value where
  condition _ := Clause.ofCondition?_eq_ok_iff oneLine value
  malformed := by
    -- Of the four faults, the first three are those of a malformed text.
    simp only [Clause.ofCondition?_eq_error_iff oneLine value]
    constructor
    · rintro ⟨_, fault⟩
      cases fault with
      | unsplit spaceless => exact .inl spaceless
      | missingField cut => exact .inr ⟨"", _, cut, .inl rfl⟩
      | missingOperator cut named => exact .inr ⟨_, "", cut, .inr rfl⟩
    · rintro (spaceless | ⟨field, operator, cut, lacking⟩)
      · exact ⟨_, .unsplit spaceless⟩
      · by_cases named : field = ""
        · exact ⟨_, .missingField (named ▸ cut)⟩
        · exact ⟨_, .missingOperator (lacking.resolve_left named ▸ cut) named⟩
  unknown operator := by
    -- The fourth fault is the only one that names an operator.
    rw [Clause.ofCondition?_eq_error_iff oneLine value]
    constructor
    · rintro ⟨⟩
      exact ⟨_, ‹_›, ‹_›, ‹_›, ‹_›⟩
    · rintro ⟨field, cut, named, given, strange⟩
      exact .unknown cut named given strange
  rejected _ := Clause.ofCondition?_eq_error_iff oneLine value
  order _ := Clause.ofInstruction?_eq_ok_iff oneLine
  orderRejected _ := Clause.ofInstruction?_eq_error_iff oneLine
  compared named operator clause compares := by
    -- The space that is put before the operator is the last one.
    obtain ⟨spaceless, unbroken⟩ := compares.isPlain
    have whole : '\n' ∉ (text ++ " " ++ operator).toList := by simp [oneLine, unbroken]
    refine ⟨(Clause.ofCondition?_eq_ok_iff whole value).2
      ⟨text, operator, ⟨rfl, spaceless⟩, named, compares⟩, ?_⟩
    cases compares <;> rfl
  descending named :=
    (Clause.ofInstruction?_eq_ok_iff (by simp [oneLine])).2 (.descending named)
  ascending named :=
    (Clause.ofInstruction?_eq_ok_iff (by simp [oneLine])).2 (.ascending named)

/-- A field with signs and several spaces is read up to the last of them. -/
theorem readByGrammar_spaced :
    Clause.ofCondition? "- first  name + >=" .null = .ok (.range "- first  name +" .lower .null) := by
  have cut : CutAtLastSpace "- first  name + >=" "- first  name +" ">=" := ⟨rfl, by decide⟩
  exact ((readByGrammar (by decide) .null).condition _).2 ⟨_, _, cut, by decide, .least⟩

/--
A field of two lines is not read back.

As a condition and as an order it follows the grammar, but the line break is not let through.
-/
theorem field_of_lines_rejected :
    CutAtLastSpace "a\nb ==" "a\nb" "==" ∧
      Compares "a\nb" (.ofCount 1) "==" (.equality "a\nb" (.ofCount 1)) ∧
      Clause.ofCondition? "a\nb ==" (.ofCount 1) = .error (.malformed "a\nb ==" .unsplit) ∧
      Instructs "-a\nb" (.order "a\nb" .descending) ∧
      Clause.ofInstruction? "-a\nb" = .error (.malformed "-a\nb" .unreadableOrder) := by
  -- The cut and the operator are as the grammar has them, and only the line break is in the way.
  have broken : '\n' ∈ "a\nb ==".toList ∧ '\n' ∈ "-a\nb".toList := by decide
  have instructs : Instructs ("-" ++ "a\nb") (.order "a\nb" .descending) := .descending (by decide)
  exact ⟨⟨rfl, by decide⟩, .equal, (Clause.of_newline broken.1 _).1, instructs,
    (Clause.of_newline broken.2 .null).2⟩

end DocView
