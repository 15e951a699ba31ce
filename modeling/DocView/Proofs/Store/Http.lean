import DocView.Proofs.QueryString
import DocView.Proofs.ViewPath
import DocView.Store.Http

/-!
Where a store is asked over HTTP.

A document is asked for under its coded id, so no two documents share an address. The path of a view
takes the id as it stands, so a view is asked for inside its document exactly if nothing in the id
needs a code.
-/

namespace DocView

/-- A proper id is the marker of design documents and a name behind it. -/
theorem eq_append_of_checkDesignDocument {id : String} (checked : checkDesignDocument id = .ok ()) :
    id.toList = designMarker.toList ++ id.toList.drop designMarker.toList.length := by
  -- The check looks for the marker at the front.
  simp only [checkDesignDocument] at checked
  split at checked
  · rename_i proper
    -- That the name is not empty is checked as well, and not needed here.
    rw [Bool.and_eq_true] at proper
    have front := List.isPrefixOf_iff_prefix.1 proper.1
    exact (List.prefix_iff_eq_append.1 front).symm
  · cases checked

namespace HttpStore

variable {id : String}

/-- The id of a design document stands for itself exactly if every character of its name does. -/
theorem codedId_eq_self_iff (checked : checkDesignDocument id = .ok ()) :
    codedId id = id ↔
      ∀ char ∈ id.toList.drop designMarker.toList.length,
        Percent.isUnreserved char.toNat = true := by
  -- Only what stands behind the marker is encoded.
  have whole := eq_append_of_checkDesignDocument checked
  have marked : designMarker.toList.isPrefixOf id.toList = true :=
    List.isPrefixOf_iff_prefix.2 ⟨_, whole.symm⟩
  -- The marker is left as it is on both sides, so the names are compared.
  rw [← Percent.encodeChars_eq_self_iff, ← String.toList_inj, codedId]
  simp only [marked, if_true, String.toList_append, Percent.encode, String.toList_ofList]
  constructor
  · intro same
    exact List.append_cancel_left (same.trans whole)
  · intro same
    rw [same, ← whole]

/-- A view is asked for under the id of its document as it stands. -/
theorem viewUrl_viewPath (store : HttpStore) (ends : id.toList.getLast? ≠ some '/')
    (name : String) (scan : Scan) :
    store.viewUrl (viewPath id name) scan.queryString =
      store.databaseUrl ++ "/" ++ id ++
        (viewMarker ++ Percent.encode name ++ "?" ++ scan.queryString) := by
  -- There is a query string, so a question mark stands in front of it.
  rw [viewUrl, if_neg scan.queryString_ne_empty, viewPath, dropTrailing_eq_self ends]
  simp only [String.append_assoc]

/-- The address of a view continues that of its document exactly if coding keeps the id. -/
theorem viewUrl_eq_documentUrl_append_iff (store : HttpStore)
    (ends : id.toList.getLast? ≠ some '/') (name : String) (scan : Scan) :
    store.viewUrl (viewPath id name) scan.queryString =
        store.documentUrl id ++ (viewMarker ++ Percent.encode name ++ "?" ++ scan.queryString) ↔
      codedId id = id := by
  -- Both addresses begin with the database and end alike, so what stands between is compared.
  rw [store.viewUrl_viewPath ends, documentUrl, String.append_left_inj, String.append_right_inj]
  exact eq_comm

/--
A view is asked for inside the document that is read and written exactly if nothing in the id needs
a code.

Each address is that of the document followed by the marker of views, the coded name, a question
mark and the query string, for every name and every scan. One character of the id's own name that
does not stand for itself parts the two, and then no name and no scan brings them together.
-/
theorem view_inside_document_iff (store : HttpStore) (checked : checkDesignDocument id = .ok ())
    (ends : id.toList.getLast? ≠ some '/') (name : String) (scan : Scan) (body : Json) :
    (∀ call, call = .getDocument id ∨ call = .putDocument id body →
        (store.request (.queryView (viewPath id name) scan.queryString)).url =
          (store.request call).url ++
            (viewMarker ++ Percent.encode name ++ "?" ++ scan.queryString)) ↔
      ∀ char ∈ id.toList.drop designMarker.toList.length,
        Percent.isUnreserved char.toNat = true := by
  -- The url of the view has the id as it is, and that of the document has it encoded.
  rw [← codedId_eq_self_iff checked, ← store.viewUrl_eq_documentUrl_append_iff ends name scan]
  -- A document is written at the address at which it is read.
  constructor
  · intro inside
    exact inside (.getDocument id) (.inl rfl)
  · intro inside call asks
    rcases asks with rfl | rfl
    · exact inside
    · exact inside

/-- An id is coded behind the marker of design documents, or it is coded whole and holds no slash. -/
theorem codedId_cases (id : String) :
    (∃ name, id = designMarker ++ name ∧ codedId id = designMarker ++ Percent.encode name) ∨
      (codedId id = Percent.encode id ∧ '/' ∉ (codedId id).toList) := by
  -- The cases are those of the definition: the marker stands at the front, or it does not.
  by_cases marked : designMarker.toList.isPrefixOf id.toList = true
  · refine .inl ⟨String.ofList (id.toList.drop designMarker.toList.length), ?_, ?_⟩
    · rw [← String.toList_inj, String.toList_append, String.toList_ofList]
      exact (List.prefix_iff_eq_append.1 (List.isPrefixOf_iff_prefix.1 marked)).symm
    · simp only [codedId, marked, if_true]
  · have whole : codedId id = Percent.encode id := by
      simp only [codedId, if_neg marked]
    refine .inr ⟨whole, ?_⟩
    rw [whole, Percent.encode, String.toList_ofList]
    exact Percent.not_mem_encodeChars (by decide)

/-- The coded id of a design document holds the slash of the marker. -/
theorem slash_mem_marked (name : String) : '/' ∈ (designMarker ++ name).toList := by
  rw [String.toList_append]
  exact List.mem_append_left _ (by decide)

/-- Different ids have different coded forms. -/
theorem codedId_inj {first second : String} : codedId first = codedId second ↔ first = second := by
  refine ⟨fun same => ?_, congrArg codedId⟩
  -- The slash of the marker tells the ids of design documents from all others.
  rcases codedId_cases first with ⟨name, rfl, coded⟩ | ⟨coded, plain⟩ <;>
    rcases codedId_cases second with ⟨other, rfl, coded'⟩ | ⟨coded', plain'⟩
  · rw [coded, coded', String.append_right_inj, Percent.encode_inj] at same
    rw [same]
  · rw [← same, coded] at plain'
    exact absurd (slash_mem_marked _) plain'
  · rw [same, coded'] at plain
    exact absurd (slash_mem_marked _) plain
  · rwa [coded, coded', Percent.encode_inj] at same

/--
No two documents share an address, whatever their ids are and however the store is reached.

An id is read off its address: the address of the database is the same for all, and behind it stands
the coded id, with a slash in it exactly for a design document.
-/
theorem documentUrl_injective (store : HttpStore) : Function.Injective store.documentUrl := by
  intro first second same
  rwa [documentUrl, documentUrl, String.append_right_inj, codedId_inj] at same

/-- The store of a database of pages. -/
def pages : HttpStore := ⟨{ baseUrl := "http://127.0.0.1:5984/", database := "pages" }⟩

/-- The scan of the first page. -/
def firstPage : Scan := { key := some [.ofCount 1] }

/-- A name of letters, digits and marks leaves the view inside, whatever the view is called. -/
theorem view_inside_document_plain :
    checkDesignDocument "_design/v1.0_a~b-c" = .ok () ∧
    "_design/v1.0_a~b-c".toList.getLast? ≠ some '/' ∧
    ∀ call, call = .getDocument "_design/v1.0_a~b-c" ∨
        call = .putDocument "_design/v1.0_a~b-c" (.object ∅) →
      (pages.request (.queryView (viewPath "_design/v1.0_a~b-c" "QC-Page-a/b?")
          firstPage.queryString)).url =
        (pages.request call).url ++
          (viewMarker ++ Percent.encode "QC-Page-a/b?" ++ "?" ++ firstPage.queryString) := by
  -- None of the characters behind the marker needs to be encoded.
  have checked : checkDesignDocument "_design/v1.0_a~b-c" = .ok () := by decide
  have ends : "_design/v1.0_a~b-c".toList.getLast? ≠ some '/' := by decide
  have plain : ("_design/v1.0_a~b-c".toList.drop designMarker.toList.length).all
      (fun char => Percent.isUnreserved char.toNat) = true := by decide
  exact ⟨checked, ends, (pages.view_inside_document_iff checked ends "QC-Page-a/b?" firstPage
    (.object ∅)).2 (List.all_eq_true.1 plain)⟩

/-- A question mark in the id ends the path in front of the view, and not that of the document. -/
theorem view_outside_document :
    checkDesignDocument "_design/a?b" = .ok () ∧
    "_design/a?b".toList.getLast? ≠ some '/' ∧
    (pages.request (.queryView (viewPath "_design/a?b" "QC-Page-a") firstPage.queryString)).url =
      "http://127.0.0.1:5984/pages/_design/a?b/_view/QC-Page-a?" ++ firstPage.queryString ∧
    (pages.request (.getDocument "_design/a?b")).url =
      "http://127.0.0.1:5984/pages/_design/a%3Fb" ∧
    (pages.request (.queryView (viewPath "_design/a?b" "QC-Page-a") firstPage.queryString)).url ≠
      (pages.request (.getDocument "_design/a?b")).url ++
        (viewMarker ++ Percent.encode "QC-Page-a" ++ "?" ++ firstPage.queryString) := by
  decide +kernel

end HttpStore

end DocView
