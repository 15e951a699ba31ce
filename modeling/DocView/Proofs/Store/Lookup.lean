import DocView.Proofs.Store.Views

/-!
How a store finds the view that a path was made for. The path is cut where it was joined, whatever
the document and the view are called, so no other view is reached by it.
-/

namespace DocView

/-- Whether the path of a view in a container leads a store to that view, and to no other one. -/
structure LeadsToView (container name : String) : Prop where
  /-- The document is the container without the slashes at its end. -/
  trimmed : (∃ count, container =
      dropTrailing '/' container ++ String.ofList (List.replicate count '/')) ∧
    (dropTrailing '/' container).toList.getLast? ≠ some '/'
  /-- The last marker of the path stands between the document and the coded name. -/
  cut : CutAtLastMarker viewMarker (viewPath container name) (dropTrailing '/' container)
    (Percent.encode name)
  /-- The coded name stands for the name. -/
  decoded : Percent.decode (Percent.encode name) = .ok name
  /-- So a store reads the document and the name off the path. -/
  split : splitViewPath? (viewPath container name) = some (dropTrailing '/' container, name)
  /-- No other name has the path, and no container but those that differ in slashes at the end. -/
  unique : ∀ other otherName, viewPath container name = viewPath other otherName ↔
    dropTrailing '/' container = dropTrailing '/' other ∧ name = otherName
  /-- Containers that end in no slash have a path of their own for each name. -/
  injective : ∀ other otherName, container.toList.getLast? ≠ some '/' →
    other.toList.getLast? ≠ some '/' →
      (viewPath container name = viewPath other otherName ↔ container = other ∧ name = otherName)
  /-- If the document has the view, a query is answered with the rows of that view. -/
  present : ∀ (store : MemoryStore) (query : String),
    store.viewExists (dropTrailing '/' container) name = true →
      (store.answer (.queryView (viewPath container name) query)).1 =
        .ok (MemoryStore.answerRows ((store.rows.get? name).getD []) query)
  /-- If it lacks the view, a query is told so, whatever other views there are. -/
  missing : ∀ (store : MemoryStore) (query : String),
    store.viewExists (dropTrailing '/' container) name = false →
      Materializer.TellsMissing (store.answer (.queryView (viewPath container name) query)).1

/--
Every path leads to the view that it was made for.

The name may hold the marker, slashes or codes of its own: once it is coded it holds no slash, so the
last marker of the path is the one that was put in. The container may hold the marker as well, and
no end of it makes a marker begin later.
-/
theorem viewPath_leadsToView (container name : String) : LeadsToView container name where
  trimmed := ⟨exists_dropTrailing_append '/' container, getLast?_dropTrailing '/' container⟩
  cut := cutAtLastMarker_viewPath container name
  decoded := Percent.decode_encode name
  split := splitViewPath?_viewPath container name
  unique _ _ := viewPath_eq_iff
  injective other otherName ends otherEnds := by
    rw [viewPath_eq_iff, dropTrailing_eq_self ends, dropTrailing_eq_self otherEnds]
  present store query held := by
    have addressed := splitViewPath?_viewPath container name
    exact congrArg Except.ok (MemoryStore.viewReply_of_present addressed held query)
  missing store query lacks := by
    have addressed := splitViewPath?_viewPath container name
    exact MemoryStore.tellsMissing_of_not_viewExists addressed lacks

/-- A store whose document ends in half a marker, and whose view is called by a marker and a code. -/
def nestedStore : MemoryStore where
  documents := Table.ofList [("a/_view", .ofMembers [
    ("views", .ofMembers [("b/_view/%41é", .null)])])]
  rows := Table.ofList [("b/_view/%41é", [.ofCount 1]), ("b/_view/Aé", [.ofCount 2])]

/-- Such a view is found, and one whose name is what the code stands for is not. -/
theorem viewPath_leadsToView_nested :
    viewPath "a/_view//" "b/_view/%41é" = "a/_view/_view/b%2F_view%2F%2541%C3%A9" ∧
    CutAtLastMarker "/_view/" "a/_view/_view/b%2F_view%2F%2541%C3%A9" "a/_view"
      "b%2F_view%2F%2541%C3%A9" ∧
    (nestedStore.answer (.queryView (viewPath "a/_view//" "b/_view/%41é") "")).1 =
      .ok (MemoryStore.answerRows [.ofCount 1] "") ∧
    Materializer.TellsMissing
      (nestedStore.answer (.queryView (viewPath "a/_view" "b/_view/Aé") "")).1 := by
  -- The container has the marker inside and slashes behind, and the name is full of both.
  have path : viewPath "a/_view//" "b/_view/%41é" = "a/_view/_view/b%2F_view%2F%2541%C3%A9" := by
    decide +kernel
  have document : dropTrailing '/' "a/_view//" = "a/_view" := by decide +kernel
  have coded : Percent.encode "b/_view/%41é" = "b%2F_view%2F%2541%C3%A9" := by decide +kernel
  have cut := (viewPath_leadsToView "a/_view//" "b/_view/%41é").cut
  rw [path, document, coded] at cut
  refine ⟨path, cut, ?_, ?_⟩
  · exact (viewPath_leadsToView "a/_view//" "b/_view/%41é").present nestedStore ""
      (by rw [document]; decide +kernel)
  · exact (viewPath_leadsToView "a/_view" "b/_view/Aé").missing nestedStore "" (by decide +kernel)

end DocView
