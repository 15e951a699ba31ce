import DocView.Proofs.Store.Waiting
import Mathlib.Data.List.Nodup

/-!
The versions of the documents of a store, one for each write, in the order of the writes. The last
version of a document is the one that is stored, and no two versions share a revision, so a write
that names a revision replaces the version that was written under it.
-/

namespace DocView.MemoryStore

/-- One write of a document. -/
structure Version where
  /-- The id under which the document is stored. -/
  id : String
  /-- The revision that the write gives. -/
  rev : String
  /-- What is stored. -/
  document : Json

/-- The version that a write of a document makes. -/
def version (store : MemoryStore) (id : String) (document : Json) : Version :=
  ⟨id, store.nextRev id, stamp id (store.nextRev id) document⟩

/-- The version that the writer makes that waits for a document, if one does. -/
def waitingVersion (store : MemoryStore) (id : String) : List Version :=
  (store.writerDocument? id).toList.map (store.version id)

/-- The versions that an operation makes, in their order. -/
def made (store : MemoryStore) : Operation → List Version
  | .call (.putDocument id body) =>
    -- The writer that waits comes first, and its write counts whether the other is refused or not.
    store.waitingVersion id ++
      if (store.put id body).1.status = 201 then [(store.runWriter id).version id body] else []
  | .call (.queryView ..) => []
  | .call (.getDocument _) => []
  | .insert id document => [store.version id document]
  | .seed .. => []
  | .force _ => []
  | .inject .. => []

/-- The versions that operations make from a store on, one after the other. -/
def versionsFrom : MemoryStore → List Operation → List Version
  | _, [] => []
  | store, operation :: later =>
    store.made operation ++ versionsFrom (store.operate operation) later

/-- The versions that a history makes of documents, where nothing was stored before. -/
def versions (history : List Operation) : List Version := versionsFrom {} history

/-- The last version of a document. -/
def latest? (log : List Version) (id : String) : Option Version :=
  (log.filter (·.id = id)).getLast?

/-- One more version is the last one of its document, and changes no other document's. -/
theorem latest?_append (log : List Version) (version : Version) (id : String) :
    latest? (log ++ [version]) id = if version.id = id then some version else latest? log id := by
  by_cases same : version.id = id <;> simp [latest?, same]

/-- The revision that the last version of a document carries, which only objects do. -/
def latestRev? (log : List Version) (id : String) : Option String :=
  (latest? log id).bind fun version => (version.document.get? "_rev").bind Json.asString?

/-- How a version continues those before it. -/
structure Continues (earlier : List Version) (version : Version) : Prop where
  /-- The revision follows that of the last version of the document, under a number of its own. -/
  rev : version.rev = revisionAfter (latestRev? earlier version.id) (earlier.length + 1)
  /-- An object carries its id and its revision. -/
  stamped : ∀ members, version.document = .object members →
    members.get? "_id" = some (.string version.id) ∧
      members.get? "_rev" = some (.string version.rev)

/-- Whether versions account for all that a store holds. -/
structure Accounts (log : List Version) (store : MemoryStore) : Prop where
  /-- As many revisions were given as there are versions. -/
  revisions : store.revisions = log.length
  /-- The last version of a document is what is stored. -/
  stored : ∀ id, store.document? id = (latest? log id).map Version.document
  /-- Each version continues those before it. -/
  continues : ∀ earlier version later, log = earlier ++ version :: later →
    Continues earlier version

/-- A version among others and one more is the last of them, or is among the others. -/
theorem split_of_append {log earlier later : List Version} {last version : Version}
    (split : log ++ [last] = earlier ++ version :: later) :
    (log = earlier ∧ last = version) ∨ ∃ rest, log = earlier ++ version :: rest := by
  rcases List.eq_nil_or_concat later with rfl | ⟨rest, final, rfl⟩
  · obtain ⟨same, ends⟩ := List.append_inj' split rfl
    exact .inl ⟨same, (List.cons.inj ends).1⟩
  · rw [List.concat_eq_append, ← List.cons_append, ← List.append_assoc] at split
    exact .inr ⟨rest, (List.append_inj' split rfl).1⟩

section Step

variable {log : List Version} {store later : MemoryStore}

/-- The latest revision in a store is that of the last version. -/
theorem Accounts.currentRev (accounts : Accounts log store) (id : String) :
    store.currentRev id = latestRev? log id := by
  have stored := accounts.stored id
  rw [document?] at stored
  rw [MemoryStore.currentRev, latestRev?, stored, Option.bind_map]
  rfl

/-- Where nothing is stored, the versions stay the same. -/
theorem Accounts.of_documents (accounts : Accounts log store)
    (documents : later.documents = store.documents)
    (revisions : later.revisions = store.revisions) : Accounts log later := by
  refine ⟨revisions.trans accounts.revisions, fun id => ?_, accounts.continues⟩
  rw [document?, documents]
  exact accounts.stored id

/-- A write makes one more version. -/
theorem Accounts.write (accounts : Accounts log store) (id : String) (document : Json) :
    Accounts (log ++ [store.version id document]) (store.write id document).2 := by
  -- The version goes to the end of the log, so every older one is where it was.
  refine ⟨?_, fun wanted => ?_, fun earlier version later split => ?_⟩
  · rw [write_revisions, accounts.revisions, List.length_append, List.length_singleton]
  · rw [document?_write, latest?_append]
    split
    · rename_i same
      simp [version, same]
    · rename_i differ
      simpa [version, differ] using accounts.stored wanted
  · -- Either the version is the one that is made now, or it was there before.
    rcases split_of_append split with ⟨rfl, rfl⟩ | ⟨rest, before⟩
    · refine ⟨?_, fun members same => ?_⟩
      · rw [← accounts.revisions]
        change store.nextRev id = revisionAfter (latestRev? log id) (store.revisions + 1)
        rw [← accounts.currentRev]
        rfl
      · -- Only an object becomes an object by being stored.
        cases document with
        | object sent =>
          have own := get?_stamp_id id (store.nextRev id) sent
          have rev := get?_stamp_rev id (store.nextRev id) sent
          have stored : stamp id (store.nextRev id) (.object sent) = .object members := same
          rw [stored] at own rev
          exact ⟨own, rev⟩
        | null | bool _ | number _ | string _ | array _ => cases same
    · exact accounts.continues earlier version rest before

/-- The writer that waits makes a version, if one waits. -/
theorem Accounts.runWriter (accounts : Accounts log store) (id : String) :
    Accounts (log ++ store.waitingVersion id) (store.runWriter id) := by
  -- Without a writer the store stays as it is, and otherwise it writes what the writer makes.
  unfold waitingVersion
  cases waits : store.writerDocument? id with
  | none =>
    rw [runWriter_of_none waits]
    simpa using accounts
  | some document =>
    -- Taking the writer off the queue stores nothing, so its version is the same before and after.
    obtain ⟨others, after⟩ := runWriter_of_some waits
    have taken : Accounts log { store with writers := others } := accounts.of_documents rfl rfl
    rw [after]
    exact taken.write id document

/-- A write makes a version if it goes through, behind that of the writer that waits. -/
theorem Accounts.put (accounts : Accounts log store) (id : String) (body : Json) :
    Accounts (log ++ store.made (.call (.putDocument id body))) (store.put id body).2 := by
  -- The writer that waits has its version first, and the call has one if it is accepted.
  have behind := accounts.runWriter id
  have result := put_result store id body
  simp only [made]
  generalize store.put id body = after at result
  rw [← List.append_assoc]
  cases result with
  | refused status stale fewer =>
    rw [if_neg (by simp [status]), List.append_nil]
    exact behind.of_documents rfl rfl
  | accepted status calm latest =>
    rw [if_pos status]
    exact behind.write id body

/-- Every operation makes the versions that it is said to make. -/
theorem Accounts.operate (accounts : Accounts log store) (operation : Operation) :
    Accounts (log ++ store.made operation) (store.operate operation) := by
  -- What stores no document adds nothing to the log.
  cases operation with
  | call call =>
    cases call with
    | putDocument id body => exact (accounts.put id body).of_documents rfl rfl
    | queryView path query | getDocument id =>
      rw [made, List.append_nil]
      exact accounts.of_documents rfl rfl
  | insert id document => exact accounts.write id document
  | seed view rows | force count | inject id edit =>
    rw [made, List.append_nil]
    exact accounts.of_documents rfl rfl

/-- The versions that operations make account for the store that they leave. -/
theorem Accounts.foldl (accounts : Accounts log store) (history : List Operation) :
    Accounts (log ++ versionsFrom store history) (history.foldl MemoryStore.operate store) := by
  -- The induction is on the operations, each of which adds its versions behind the ones before.
  induction history generalizing log store with
  | nil =>
    rw [versionsFrom, List.append_nil]
    exact accounts
  | cons operation later ih =>
    rw [versionsFrom, ← List.append_assoc]
    exact ih (accounts.operate operation)

/-- The versions of a history account for the store that it leaves. -/
theorem accounts_ofHistory (history : List Operation) :
    Accounts (versions history) (ofHistory history) := by
  -- At first there is no version, and nothing is stored.
  have none : Accounts [] {} := by
    refine ⟨rfl, fun id => rfl, fun earlier version later split => ?_⟩
    simp at split
  exact none.foldl history

end Step

section Log

variable {log : List Version} {store : MemoryStore}

/-- Each version carries its place among all of them. -/
theorem Accounts.revisionNumber (accounts : Accounts log store) {position : Nat} {version : Version}
    (here : log[position]? = some version) : revisionNumber version.rev = position + 1 := by
  obtain ⟨within, same⟩ := List.getElem?_eq_some_iff.1 here
  have split : log = log.take position ++ version :: log.drop (position + 1) := by
    rw [← same, List.getElem_cons_drop, List.take_append_drop]
  have continues := accounts.continues _ _ _ split
  rw [continues.rev, revisionNumber_revisionAfter, List.length_take_of_le (Nat.le_of_lt within)]

/-- No two versions share a revision. -/
theorem Accounts.nodup (accounts : Accounts log store) : (log.map Version.rev).Nodup := by
  -- Versions that share a revision share the place that it tells.
  refine List.nodup_iff_getElem?_ne_getElem?.2 fun first second before within same => ?_
  rw [List.length_map] at within
  have here := List.getElem?_eq_getElem (Nat.lt_trans before within)
  have there := List.getElem?_eq_getElem within
  simp only [List.getElem?_map, here, there, Option.map_some, Option.some.injEq] at same
  have places := accounts.revisionNumber here
  rw [same, accounts.revisionNumber there] at places
  omega

/-- The generation of a revision is read back, if it fits 64 bits. -/
theorem generation_revisionAfter {previous : Option String} {number : Nat}
    (fits : (previous.map generation).getD 0 + 1 < 2 ^ 64) :
    generation (revisionAfter previous number) = (previous.map generation).getD 0 + 1 := by
  -- The digits of the generation are all that stands before the separator.
  have separated : '-' ∈ (revisionAfter previous number).toList := by simp [revisionAfter]
  have front : (revisionAfter previous number).toList.takeWhile (· != '-') =
      Nat.toDigits 10 ((previous.map generation).getD 0 + 1) := by
    rw [revisionAfter, String.toList_ofList,
      List.takeWhile_append_of_pos bne_separator_of_mem_toDigits]
    simp
  rw [generation, if_pos separated, front, numeral?_toDigits fits, Option.map_some,
    Option.getD_some, UInt64.toNat_ofNat_of_lt' fits]

/-- The last version of a document is one of its versions. -/
theorem mem_of_latest? {id : String} {last : Version} (latest : latest? log id = some last) :
    last ∈ log ∧ last.id = id := by
  have member := List.mem_of_getLast? latest
  simpa using member

/-- A last version that is an object carries its revision. -/
theorem Accounts.latestRev?_of_object (accounts : Accounts log store) {earlier later : List Version}
    (split : log = earlier ++ later) {id : String} {last : Version}
    (latest : latest? earlier id = some last) (object : last.document.IsObject) :
    latestRev? earlier id = some last.rev := by
  -- The log says how an object was stamped, whichever version of it is the last.
  obtain ⟨members, same⟩ := object
  -- The version stands somewhere among the earlier ones, where it was stamped.
  obtain ⟨before, behind, place⟩ := List.append_of_mem (mem_of_latest? latest).1
  have whole : log = before ++ last :: (behind ++ later) := by
    rw [split, place, List.append_assoc, List.cons_append]
  have carried := ((accounts.continues _ _ _ whole).stamped members same).2
  simp [latestRev?, latest, same, Json.get?, carried, Json.asString?]

/-- Where the last version of a document is no object, no revision is carried. -/
theorem latestRev?_of_not_object {id : String}
    (nothing : ∀ last, latest? log id = some last → ¬last.document.IsObject) :
    latestRev? log id = none := by
  -- Only an object has members, and the revision is one of them.
  cases latest : latest? log id with
  | none => simp [latestRev?, latest]
  | some last =>
    have other := nothing last latest
    cases same : last.document with
    | object members => exact absurd ⟨members, same⟩ other
    | null | bool _ | number _ | string _ | array _ => simp [latestRev?, latest, same, Json.get?]

/-- A revision that is carried is that of the last version, which is an object. -/
theorem Accounts.of_latestRev? (accounts : Accounts log store) {earlier later : List Version}
    (split : log = earlier ++ later) {id rev : String}
    (carried : latestRev? earlier id = some rev) :
    ∃ last, latest? earlier id = some last ∧ last.rev = rev ∧ last.document.IsObject := by
  -- Anything but an object would have no revision, so the last version is an object.
  by_cases object : ∃ last, latest? earlier id = some last ∧ last.document.IsObject
  · obtain ⟨last, latest, object⟩ := object
    have own := accounts.latestRev?_of_object split latest object
    rw [carried] at own
    exact ⟨last, latest, (Option.some.inj own).symm, object⟩
  · have none := latestRev?_of_not_object fun last latest is => object ⟨last, latest, is⟩
    rw [carried] at none
    cases none

/-- A generation is one more than that of the object that is replaced, and bounded by the writes. -/
theorem Accounts.generation_eq (accounts : Accounts log store) (few : log.length < 2 ^ 64)
    {earlier later : List Version} {version : Version} (split : log = earlier ++ version :: later) :
    generation version.rev = ((latestRev? earlier version.id).map generation).getD 0 + 1 ∧
      generation version.rev ≤ earlier.length + 1 := by
  -- The bound is shown by induction on the versions before, one of which may be replaced.
  induction bound : earlier.length using Nat.strongRecOn generalizing earlier later version with
  | ind count ih =>
    have replaced : ((latestRev? earlier version.id).map generation).getD 0 ≤ earlier.length := by
      cases carried : latestRev? earlier version.id with
      | none => exact Nat.zero_le _
      | some rev =>
        obtain ⟨last, latest, rfl, _⟩ := accounts.of_latestRev? split carried
        obtain ⟨before, behind, place⟩ := List.append_of_mem (mem_of_latest? latest).1
        have whole : log = before ++ last :: (behind ++ version :: later) := by
          rw [split, place, List.append_assoc, List.cons_append]
        have shorter : before.length + 1 ≤ earlier.length := by
          rw [place, List.length_append, List.length_cons]
          omega
        have bounded := (ih before.length (by omega) whole rfl).2
        rw [Option.map_some, Option.getD_some]
        omega
    have within : earlier.length < log.length := by
      rw [split, List.length_append, List.length_cons]
      omega
    have own : generation version.rev =
        ((latestRev? earlier version.id).map generation).getD 0 + 1 := by
      rw [(accounts.continues _ _ _ split).rev]
      exact generation_revisionAfter (by omega)
    exact ⟨own, by omega⟩

/-- A revision belongs to one version. -/
theorem Accounts.eq_of_rev (accounts : Accounts log store) {first second : Version}
    (here : first ∈ log) (there : second ∈ log) (same : first.rev = second.rev) :
    first = second :=
  List.inj_on_of_nodup_map accounts.nodup here there same

end Log

section History

variable {before later history : List Operation}

/-- The store behind some operations and then others is the one that the others leave. -/
theorem ofHistory_append (before later : List Operation) :
    ofHistory (before ++ later) = later.foldl operate (ofHistory before) :=
  List.foldl_append

/-- The versions of operations one after the other stand one behind the other. -/
theorem versionsFrom_append (before later : List Operation) (store : MemoryStore) :
    versionsFrom store (before ++ later) =
      versionsFrom store before ++ versionsFrom (before.foldl operate store) later := by
  induction before generalizing store with
  | nil => rfl
  | cons operation others ih =>
    rw [List.cons_append, versionsFrom, ih, versionsFrom, List.append_assoc, List.foldl_cons]

/-- The versions of a history begin with those of the operations that it begins with. -/
theorem versions_append (before later : List Operation) :
    versions (before ++ later) = versions before ++ versionsFrom (ofHistory before) later :=
  versionsFrom_append before later {}

/-- The versions behind one more operation are those before it and its own. -/
theorem versions_operation (before : List Operation) (operation : Operation) :
    versions (before ++ [operation]) = versions before ++ (ofHistory before).made operation := by
  rw [versions_append, versionsFrom, versionsFrom, List.append_nil]

/-- A write that goes through replaces the version of the revision that it names. -/
theorem exists_replaced_of_put {id rev : String} {body : Json} (sent : sentRev body = some rev)
    (accepted : ((ofHistory before).put id body).1.status = 201) :
    ∃ earlier replaced, versions (before ++ [.call (.putDocument id body)]) =
        earlier ++ [((ofHistory before).runWriter id).version id body] ∧
      latest? earlier id = some replaced ∧ replaced.rev = rev ∧
      ((ofHistory before).runWriter id).document? id = some replaced.document := by
  -- What the write meets is what the writer that waited has left, if there was one.
  have behind := (accounts_ofHistory before).runWriter id
  have result := put_result (ofHistory before) id body
  have versions := versions_operation before (.call (.putDocument id body))
  rw [made, if_pos accepted, ← List.append_assoc] at versions
  generalize (ofHistory before).put id body = after at result accepted
  cases result with
  | refused status stale fewer =>
    rw [status] at accepted
    cases accepted
  | accepted status calm latest =>
    have carried := sent.symm.trans (latest.trans (behind.currentRev id))
    obtain ⟨replaced, last, own, _⟩ :=
      behind.of_latestRev? (List.append_nil _).symm carried.symm
    refine ⟨_, replaced, versions, last, own, ?_⟩
    rw [behind.stored, last, Option.map_some]

/-- A write that is refused changes no document if nobody waits for the one that is written. -/
theorem documents_put_of_refused {store : MemoryStore} {id : String} {body : Json}
    (refused : (store.put id body).1.status = 409) (nobody : store.editsFor id = []) :
    (store.put id body).2.documents = store.documents := by
  -- No writer runs, and a refused call only uses up a forced conflict.
  have result := put_result store id body
  rw [runWriter_of_nil nobody] at result
  generalize store.put id body = after at result refused
  cases result with
  | refused status stale fewer => rfl
  | accepted status calm latest =>
    rw [status] at refused
    cases refused

/-- What the revisions of all versions that a history makes tell. -/
structure Traceable (history : List Operation) : Prop where
  /-- The store counts every version. -/
  counted : (ofHistory history).revisions = (versions history).length
  /-- No revision is given twice, to whichever documents. -/
  distinct : ((versions history).map Version.rev).Nodup
  /-- What is stored under an id is its last version. -/
  stored : ∀ id, (ofHistory history).document? id =
    (latest? (versions history) id).map Version.document
  /-- A stored object carries its id and its latest revision, whatever its writer sent. -/
  stamped : ∀ id last members, latest? (versions history) id = some last →
    last.document = .object members →
      members.get? "_id" = some (.string id) ∧ members.get? "_rev" = some (.string last.rev)
  /-- A generation is one more than that of the object that is replaced, or else one. -/
  generations : ∀ earlier version later, versions history = earlier ++ version :: later →
    (∀ replaced, latest? earlier version.id = some replaced → replaced.document.IsObject →
      generation version.rev = generation replaced.rev + 1) ∧
    ((∀ replaced, latest? earlier version.id = some replaced → ¬replaced.document.IsObject) →
      generation version.rev = 1) ∧
    generation version.rev ≤ earlier.length + 1
  /-- A write that names a revision replaces the version of that revision, if it goes through. -/
  accepted : ∀ before id body later rev, history = before ++ .call (.putDocument id body) :: later →
    sentRev body = some rev →
    ((ofHistory before).reply (.putDocument id body)).1.status = 201 →
    ∃ earlier sent replaced,
      versions (before ++ [.call (.putDocument id body)]) = earlier ++ [sent] ∧
      sent.id = id ∧ latest? earlier id = some replaced ∧ replaced.rev = rev ∧
      ((ofHistory before).runWriter id).document? id = some replaced.document ∧
      ∀ version ∈ versions history, version.rev = rev → version = replaced
  /-- A write that is refused changes no document, unless somebody waits for the one it is of. -/
  refused : ∀ before id body later, history = before ++ .call (.putDocument id body) :: later →
    ((ofHistory before).reply (.putDocument id body)).1.status = 409 →
    (ofHistory before).editsFor id = [] →
    (ofHistory (before ++ [.call (.putDocument id body)])).documents = (ofHistory before).documents

/--
Whatever is done to a store, each of its revisions stands for one version of one document.

Other writers may replace documents wholesale, forge revisions and store what is no object; the
revision that a write names still tells which version it replaces. Fewer versions than there are
numbers of 64 bits are made, so no generation is too long to be read back.
-/
theorem traceable_of_few (history : List Operation) (few : (versions history).length < 2 ^ 64) :
    Traceable history := by
  -- The log accounts for the store after every history, and so few versions overflow no generation.
  have accounts := accounts_ofHistory history
  refine ⟨accounts.revisions, accounts.nodup, accounts.stored, ?_, ?_, ?_, ?_⟩
  · -- The last version is stamped where it was made, which is somewhere in the history.
    intro id last members latest same
    obtain ⟨member, rfl⟩ := mem_of_latest? latest
    obtain ⟨earlier, later, split⟩ := List.append_of_mem member
    exact (accounts.continues _ _ _ split).stamped members same
  · -- Only an object that is replaced carries a revision to go on from.
    intro earlier version later split
    obtain ⟨own, bounded⟩ := accounts.generation_eq few split
    refine ⟨fun replaced latest object => ?_, fun nothing => ?_, bounded⟩
    · rw [own, accounts.latestRev?_of_object split latest object]
      rfl
    · rw [own, latestRev?_of_not_object nothing]
      rfl
  · -- The version that is replaced is among those of the whole history, which share no revision.
    intro before id body later rev split sent accepted
    obtain ⟨earlier, replaced, versions, latest, own, found⟩ := exists_replaced_of_put sent accepted
    refine ⟨earlier, _, replaced, versions, rfl, latest, own, found, fun version member same => ?_⟩
    have within : replaced ∈ MemoryStore.versions history := by
      have whole : history = (before ++ [.call (.putDocument id body)]) ++ later := by
        rw [split, List.append_assoc, List.singleton_append]
      rw [whole, versions_append, versions]
      simp [(mem_of_latest? latest).1]
    exact accounts.eq_of_rev member within (same.trans own.symm)
  · -- The trace of the call changes no document.
    intro before id body later split refused nobody
    rw [ofHistory_append]
    exact documents_put_of_refused refused nobody

/-- A document is overruled by a value that is no object, and then written anew and once more. -/
def overruled : List Operation := [
  .insert "page" (.ofMembers [("_id", .string "user"), ("_rev", .string "9-f")]),
  .inject "page" (.replace .null),
  .call (.putDocument "page" (.ofMembers [("_rev", .string "1-00000000000000000000000000000001")])),
  .insert "page" (.object ∅),
  .call (.putDocument "page" (.ofMembers [("_rev", .string "1-00000000000000000000000000000003")]))]

/-- Generations start again behind a value that is no object, and the revisions still differ. -/
theorem traceable_overruled :
    (versions overruled).map Version.rev = ["1-00000000000000000000000000000001",
      "2-00000000000000000000000000000002", "1-00000000000000000000000000000003",
      "2-00000000000000000000000000000004"] ∧
    (versions overruled).length < 2 ^ 64 ∧ Traceable overruled := by
  -- The revisions are computed, and they tell how many versions there are.
  have revs : (versions overruled).map Version.rev = ["1-00000000000000000000000000000001",
      "2-00000000000000000000000000000002", "1-00000000000000000000000000000003",
      "2-00000000000000000000000000000004"] := by
    decide +kernel
  have few : (versions overruled).length < 2 ^ 64 := by
    rw [← List.length_map Version.rev, revs]
    decide
  exact ⟨revs, few, traceable_of_few overruled few⟩

end History

end DocView.MemoryStore
