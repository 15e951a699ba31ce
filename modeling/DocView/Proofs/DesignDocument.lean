import DocView.DesignDocument
import DocView.Proofs.Json.Decode

/-!
A design document that is read, given a view and written back differs from the object it was read
from in that view alone.
-/

namespace DocView

section Members

variable {members : Table Json} {name : String}

/-- A text is read exactly where a text or nothing stands. -/
theorem decode?_text_iff {value : Option String} :
    members.decode? name .text = .ok value ↔ members.get? name = value.map .string := by
  rw [decode?_eq_given, Decoder.exact_text.given_iff]

/-- A map is read exactly where an object or nothing stands. -/
theorem decode?_table_iff {value : Option (Table Json)} :
    members.decode? name .table = .ok value ↔ members.get? name = value.map .object := by
  rw [decode?_eq_given, Decoder.exact_table.given_iff]

/-- A text that may be absent is read exactly where a text, a null or nothing stands. -/
theorem decode?_optional_text_iff {value : Option (Option String)} :
    members.decode? name (Decoder.optional .text) = .ok value ↔
      members.get? name = value.map fun text => (text.map .string).getD .null := by
  rw [decode?_eq_given, (Decoder.exact_text.optional Json.string_ne_null).given_iff]

end Members

namespace DesignDocument

/-- How a design document and the members it is read from hang together. -/
structure ReadFrom (members : Table Json) (document : DesignDocument) : Prop where
  /-- The id is there. -/
  id : members.get? "_id" = some (.string document.id)
  /-- The revision is a text, or there is none. -/
  rev : ∃ rev : Option (Option String),
    members.get? "_rev" = rev.map (fun text => (text.map .string).getD .null) ∧
      document.rev = rev.join
  /-- The entries of the views are an object, or there are none. -/
  views : ∃ views : Option (Table Json),
    members.get? "views" = views.map .object ∧ document.views = views.getD ∅
  /-- All else is kept. -/
  extra : document.extra = ((members.erase "_id").erase "_rev").erase "views"

/-- Reading gives a design document exactly where the members that are managed are well-typed. -/
theorem ofJson?_object_iff {members : Table Json} {document : DesignDocument} :
    ofJson? (.object members) = .ok document ↔ ReadFrom members document := by
  -- Every step of the reading comes down to what stands under one of the managed names.
  simp only [ofJson?, bind_eq_ok_iff, decode?_text_iff, decode?_optional_text_iff,
    decode?_table_iff, required_eq_ok_iff, pure, Except.pure, Except.ok.injEq]
  constructor
  · -- Each member that was read tells what stands under its name.
    rintro ⟨_, id, rev, revRead, views, viewsRead, id', rfl, rfl⟩
    exact ⟨id, ⟨rev, revRead, rfl⟩, ⟨views, viewsRead, rfl⟩, rfl⟩
  · -- Conversely what stands under the names determines every field.
    rintro ⟨id, ⟨rev, revRead, sameRev⟩, ⟨views, viewsRead, sameViews⟩, extra⟩
    exact ⟨some document.id, id, rev, revRead, views, viewsRead, document.id, rfl,
      by rw [← sameRev, ← sameViews, ← extra]⟩

/-- The members of an object without a revision that is null. -/
def withoutNullRev (members : Table Json) : Table Json :=
  if members.get? "_rev" = some .null then members.erase "_rev" else members

/-- Only a null under the revision's name is left out. -/
theorem get?_withoutNullRev (members : Table Json) (key : String) :
    (withoutNullRev members).get? key =
      if key = "_rev" ∧ members.get? "_rev" = some .null then none else members.get? key := by
  -- The cases are whether there is a null to take out.
  unfold withoutNullRev
  split
  · rename_i absent
    rw [Entries.get?_erase]
    by_cases same : key = "_rev" <;> simp [same, absent, eq_comm]
  · rename_i present
    simp [present]

/-- What a document that was read carries along beside the members that are managed. -/
theorem get?_extra {members : Table Json} {document : DesignDocument}
    (read : ReadFrom members document) (key : String) :
    document.extra.get? key =
      if key = "_id" ∨ key = "_rev" ∨ key = "views" then none else members.get? key := by
  -- The managed names are taken out one after the other.
  rw [read.extra]
  simp only [Entries.get?_erase]
  by_cases id : key = "_id"
  · simp [id]
  · by_cases rev : key = "_rev"
    · simp [rev]
    · by_cases views : key = "views" <;> simp [id, rev, views, eq_comm]

/-- A document is written as an object of the managed members, and of the others beside them. -/
theorem toJson_eq_object (document : DesignDocument) :
    ∃ members, document.toJson = .object members ∧ ∀ key, members.get? key =
      if key = "views" then some (.object document.views)
      else if key = "_rev" then (document.rev.map .string).or (document.extra.get? "_rev")
      else if key = "_id" then some (.string document.id)
      else document.extra.get? key := by
  -- The members are inserted one after another, and a later one stands in front of an earlier one.
  unfold toJson
  cases given : document.rev with
  | none =>
    refine ⟨_, rfl, fun key => ?_⟩
    simp only [Entries.get?_insert, eq_comm (b := key)]
    by_cases views : key = "views"
    · rw [if_pos views, if_pos views]
    · rw [if_neg views, if_neg views]
      by_cases rev : key = "_rev"
      · simp [rev]
      · rw [if_neg rev]
  | some rev =>
    refine ⟨_, rfl, fun key => ?_⟩
    simp only [Entries.get?_insert, eq_comm (b := key)]
    -- The revision is put in last, and its name is none of the others.
    by_cases latest : key = "_rev"
    · simp [latest]
    · rw [if_neg latest, if_neg latest]

/-- A document that is read and written back has the views that it was given, and all else as read. -/
theorem toJson_of_readFrom {members : Table Json} {document : DesignDocument}
    (read : ReadFrom members document) (views : Table Json) :
    toJson { document with views } =
      .object ((withoutNullRev members).insert "views" (.object views)) := by
  obtain ⟨written, same, found⟩ := toJson_eq_object { document with views }
  rw [same]
  -- Both objects are compared name by name.
  refine congrArg Json.object (Entries.ext_get? fun key => ?_)
  rw [found key, Entries.get?_insert, get?_withoutNullRev, get?_extra read, get?_extra read]
  by_cases isViews : key = "views"
  · rw [if_pos isViews, if_pos isViews.symm]
  rw [if_neg isViews, if_neg (Ne.symm isViews)]
  by_cases isRev : key = "_rev"
  · -- A null is left out, and a text or nothing stays as it stands.
    obtain ⟨rev, carried, joined⟩ := read.rev
    rw [if_pos isRev, isRev, carried, joined]
    rcases rev with _ | _ | text <;> simp
  have kept : ¬(key = "_rev" ∧ members.get? "_rev" = some .null) := fun both => isRev both.1
  rw [if_neg isRev, if_neg kept]
  by_cases isId : key = "_id"
  · rw [if_pos isId, isId, read.id]
  · rw [if_neg isId, if_neg (by simp [isId, isRev, isViews])]

/-- Whether members are those of a design document: what is managed is of its kind or absent. -/
structure WellFormed (members : Table Json) : Prop where
  /-- The id is a text, and it is there. -/
  id : ∃ id, members.get? "_id" = some (.string id)
  /-- The revision is a text, or null stands in for it, or it is absent. -/
  rev : members.get? "_rev" = none ∨ members.get? "_rev" = some .null ∨
    ∃ rev, members.get? "_rev" = some (.string rev)
  /-- The views are an object, or they are absent. -/
  views : members.get? "views" = none ∨ ∃ views, members.get? "views" = some (.object views)

/-- Members are read exactly if they are those of a design document. -/
theorem exists_readFrom_iff {members : Table Json} :
    (∃ document, ReadFrom members document) ↔ WellFormed members := by
  -- A field for each managed name is all that reading needs, and the form of the members gives it.
  constructor
  · rintro ⟨document, id, ⟨rev, revRead, _⟩, ⟨views, viewsRead, _⟩, _⟩
    refine ⟨⟨document.id, id⟩, ?_, ?_⟩
    · rcases rev with _ | _ | text
      · exact .inl revRead
      · exact .inr (.inl revRead)
      · exact .inr (.inr ⟨text, revRead⟩)
    · cases views with
      | none => exact .inl viewsRead
      | some views => exact .inr ⟨views, viewsRead⟩
  · -- What stands under the managed names makes up the document.
    rintro ⟨⟨id, idRead⟩, revRead, viewsRead⟩
    obtain ⟨rev, revRead⟩ : ∃ rev : Option (Option String),
        members.get? "_rev" = rev.map fun text => (text.map .string).getD .null := by
      rcases revRead with absent | null | ⟨text, given⟩
      · exact ⟨none, absent⟩
      · exact ⟨some none, null⟩
      · exact ⟨some (some text), given⟩
    obtain ⟨views, viewsRead⟩ : ∃ views : Option (Table Json),
        members.get? "views" = views.map .object := by
      rcases viewsRead with absent | ⟨views, given⟩
      · exact ⟨none, absent⟩
      · exact ⟨some views, given⟩
    exact ⟨⟨id, rev.join, views.getD ∅, _⟩, idRead, ⟨rev, revRead, rfl⟩, ⟨views, viewsRead, rfl⟩, rfl⟩

/-- A design document is read from an object. -/
theorem of_ofJson? {value : Json} {document : DesignDocument} (read : ofJson? value = .ok document) :
    ∃ members, value = .object members ∧ ReadFrom members document := by
  cases value with
  | object members => exact ⟨members, rfl, ofJson?_object_iff.1 read⟩
  | null | bool _ | number _ | string _ | array _ => cases read

/-- The entries of the views among members; without views there are none. -/
def viewEntries (members : Table Json) : Table Json :=
  ((members.get? "views").map Json.members).getD ∅

/-- A document that was read has the entries of the views it was read from. -/
theorem ReadFrom.views_eq {members : Table Json} {document : DesignDocument}
    (read : ReadFrom members document) : document.views = viewEntries members := by
  obtain ⟨views, held, same⟩ := read.views
  rw [same, viewEntries, held]
  cases views <;> rfl

/-- How members change when a definition is put in. -/
structure PutsIn (definition : ViewDefinition) (members written : Table Json) : Prop where
  /-- The views have the definition under its name, and under every other name what they had. -/
  views : ∃ views, written.get? "views" = some (.object views) ∧ ∀ name, views.get? name =
    if name = definition.name then some definition.toJson else (viewEntries members).get? name
  /-- The revision stays, but a null is dropped. -/
  rev : written.get? "_rev" =
    if members.get? "_rev" = some .null then none else members.get? "_rev"
  /-- Every other member stays. -/
  others : ∀ key, key ≠ "views" → key ≠ "_rev" → written.get? key = members.get? key

/-- Putting a definition in leaves no choice. -/
theorem PutsIn.unique {definition : ViewDefinition} {members written other : Table Json}
    (first : PutsIn definition members written) (second : PutsIn definition members other) :
    other = written := by
  -- The three conditions leave no member of the written document open.
  obtain ⟨views, held, entries⟩ := first.views
  obtain ⟨views', held', entries'⟩ := second.views
  -- Maps with the same entries are the same, first the views and then all members.
  have same : views' = views := Entries.ext_get? fun name => by rw [entries name, entries' name]
  refine Entries.ext_get? fun key => ?_
  by_cases isViews : key = "views"
  · rw [isViews, held, held', same]
  by_cases isRev : key = "_rev"
  · rw [isRev, first.rev, second.rev]
  · rw [first.others key isViews isRev, second.others key isViews isRev]

/-- A document that was read is written with the definition put into what it was read from. -/
theorem ReadFrom.putsIn {members : Table Json} {document : DesignDocument}
    (read : ReadFrom members document) (definition : ViewDefinition) :
    ∃ written, (document.setView definition).toJson = .object written ∧
      PutsIn definition members written := by
  -- The document is written back with its new views, so two insertions tell all of its members.
  refine ⟨_, toJson_of_readFrom read _, ?_, ?_, ?_⟩
  · refine ⟨_, by rw [Entries.get?_insert, if_pos rfl], fun name => ?_⟩
    rw [Entries.get?_insert, read.views_eq]
    simp only [eq_comm]
  · rw [Entries.get?_insert, get?_withoutNullRev]
    simp
  · intro key notViews notRev
    rw [Entries.get?_insert, if_neg (Ne.symm notViews), get?_withoutNullRev]
    simp [notRev]

/-- A document that is not stored yet is written with its id and the definition alone. -/
theorem toJson_setView_fresh (id : String) (definition : ViewDefinition) :
    ((fresh id).setView definition).toJson =
      .ofMembers [("_id", .string id),
        ("views", .ofMembers [(definition.name, definition.toJson)])] := by
  simp only [setView, fresh, toJson, Json.ofMembers, Table.ofList, List.foldl_cons, List.foldl_nil]

end DesignDocument

/-- Whether a value is a design document. -/
def Json.IsDesignDocument (value : Json) : Prop :=
  ∃ members, value = .object members ∧ DesignDocument.WellFormed members

end DocView
