import DocView.Proofs.Store.Operation

/-! The writers that wait for a document. Each write of it lets the first of them go before. -/

namespace DocView.MemoryStore

/-- What the writers that wait for a document do to it, in their order. -/
def waitingFor (id : String) (writers : List (String × Edit)) : List Edit :=
  (writers.filter (·.1 = id)).map Prod.snd

/-- What is done to a document before its next writes, one edit before each. -/
def editsFor (store : MemoryStore) (id : String) : List Edit := waitingFor id store.writers

section Taken

variable {id : String} {writers others : List (String × Edit)} {edit : Edit}

/-- Nobody is taken off a queue in which nobody waits for the document. -/
theorem waitingFor_of_none (nobody : takeWriter? id writers = none) :
    waitingFor id writers = [] := by
  -- By induction on the queue: none of its writers is one of this document.
  induction writers with
  | nil => rfl
  | cons writer rest ih =>
    by_cases first : writer.1 = id
    · simp [takeWriter?, first] at nobody
    · -- A writer of another document is passed over.
      have later : takeWriter? id rest = none := by
        simpa [takeWriter?, first] using nobody
      simpa [waitingFor, first] using ih later

/-- The writer that is taken off a queue is the first that waits for the document. -/
theorem waitingFor_of_some (taken : takeWriter? id writers = some (edit, others)) :
    waitingFor id writers = edit :: waitingFor id others := by
  -- By induction on the queue, up to the first writer of this document.
  induction writers generalizing others with
  | nil => cases taken
  | cons writer rest ih =>
    by_cases first : writer.1 = id
    · simp only [takeWriter?, first, if_true, Option.some.injEq, Prod.mk.injEq] at taken
      obtain ⟨rfl, rfl⟩ := taken
      simp [waitingFor, first]
    · -- A writer of another document stays in the queue.
      simp only [takeWriter?, first, if_false, Option.map_eq_some_iff] at taken
      obtain ⟨⟨edit', rest'⟩, later, same⟩ := taken
      obtain ⟨rfl, rfl⟩ := Prod.mk.inj same
      simpa [waitingFor, first] using ih later

end Taken

variable {store : MemoryStore} {id : String}

/-- Nobody is about to make something of a document exactly if nobody waits for it. -/
theorem writerDocument?_eq_none_iff : store.writerDocument? id = none ↔ store.editsFor id = [] := by
  -- A writer is taken from the queue exactly if one waits there.
  rw [writerDocument?, Option.map_eq_none_iff]
  constructor
  · exact waitingFor_of_none
  · intro nobody
    cases taken : takeWriter? id store.writers with
    | none => rfl
    | some writer =>
      have waits := waitingFor_of_some taken
      rw [← editsFor, nobody] at waits
      cases waits

/-- Where nobody waits, nothing comes before a write. -/
theorem runWriter_of_nil (nobody : store.editsFor id = []) : store.runWriter id = store :=
  runWriter_of_none (writerDocument?_eq_none_iff.2 nobody)

/-- The first writer that waits for a document stores what it makes of it; the others wait on. -/
theorem runWriter_of_cons {edit : Edit} {later : List Edit}
    (waits : store.editsFor id = edit :: later) :
    ∃ others, waitingFor id others = later ∧
      store.runWriter id = ({ store with writers := others }.write id
        (edit ((store.document? id).getD (.object ∅)))).2 := by
  -- Somebody waits, so a writer is taken, and its edit is the first of those that wait.
  cases taken : takeWriter? id store.writers with
  | none =>
    rw [editsFor, waitingFor_of_none taken] at waits
    cases waits
  | some writer =>
    obtain ⟨first, others⟩ := writer
    rw [editsFor, waitingFor_of_some taken] at waits
    obtain ⟨rfl, rfl⟩ := List.cons.inj waits
    refine ⟨others, rfl, ?_⟩
    simp only [runWriter, taken]
    rfl

end DocView.MemoryStore
