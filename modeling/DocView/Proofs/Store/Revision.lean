import DocView.Store.Memory

/-! Every write of a store held in memory gives a revision that was never given before. -/

namespace DocView

namespace MemoryStore

/-- The number that hexadecimal digits write out. -/
def tokenValue (digits : List Char) : Nat :=
  digits.foldl (fun value digit => 16 * value + (Percent.hexValue? digit).getD 0) 0

/-- The number that a revision carries behind its separator. -/
def revisionNumber (rev : String) : Nat :=
  tokenValue ((rev.toList.dropWhile (· != '-')).drop 1)

/-- One more digit on the right multiplies the digits before it by sixteen. -/
theorem tokenValue_append (digits : List Char) (digit : Char) :
    tokenValue (digits ++ [digit]) = 16 * tokenValue digits + (Percent.hexValue? digit).getD 0 := by
  simp [tokenValue]

/-- Each of the sixteen digits has its own value. -/
theorem hexValue?_digitChar {value : Nat} (small : value < 16) :
    Percent.hexValue? (Nat.digitChar value) = some value := by
  -- The sixteen digits are checked one by one.
  have each : ∀ digit : Fin 16, Percent.hexValue? (Nat.digitChar digit) = some digit.val := by
    decide
  exact each ⟨value, small⟩

/-- Reading the hexadecimal digits of a number gives that number back. -/
theorem tokenValue_toDigits (number : Nat) : tokenValue (Nat.toDigits 16 number) = number := by
  -- The last digit is the remainder by sixteen, and the others are the digits of the quotient.
  induction number using Nat.strongRecOn with
  | ind number ih =>
    rw [Nat.toDigits_eq_if (by decide)]
    split
    · rename_i small
      simp [tokenValue, hexValue?_digitChar small]
    · rw [tokenValue_append, ih (number / 16) (by omega),
        hexValue?_digitChar (Nat.mod_lt number (by decide)), Option.getD_some]
      omega

/-- Zeros on the left change no number. -/
theorem tokenValue_zeros (count : Nat) (digits : List Char) :
    tokenValue (List.replicate count '0' ++ digits) = tokenValue digits := by
  -- By induction on the zeros, each of which leaves the value as it is.
  have zero : (Percent.hexValue? '0').getD 0 = 0 := by decide
  induction count with
  | zero => rfl
  | succ count ih =>
    rw [List.replicate_succ, List.cons_append, ← ih]
    simp [tokenValue, zero]

/-- Reading the digits of a number in a revision gives that number back. -/
theorem tokenValue_token (number : Nat) : tokenValue (token number) = number := by
  rw [token, tokenValue_zeros, tokenValue_toDigits]

/-- Decimal digits hold no separator. -/
theorem bne_separator_of_mem_toDigits {number : Nat} :
    ∀ char ∈ Nat.toDigits 10 number, (char != '-') = true := by
  intro char member
  have digit := Nat.isDigit_of_mem_toDigits (by decide) (by decide) member
  refine bne_iff_ne.2 fun same => ?_
  rw [same] at digit
  exact absurd digit (by decide)

/-- Reading the number of a revision gives the number that it was given. -/
@[simp] theorem revisionNumber_revisionAfter (previous : Option String) (number : Nat) :
    revisionNumber (revisionAfter previous number) = number := by
  -- The first separator ends the decimal digits.
  rw [revisionNumber, revisionAfter, String.toList_ofList,
    List.dropWhile_append_of_pos bne_separator_of_mem_toDigits]
  simp [tokenValue_token]

/-- Whether a revision carries a number that a store has given. -/
def Gave (store : MemoryStore) (rev : String) : Prop :=
  ∃ previous number, number ≤ store.revisions ∧ rev = revisionAfter previous number

/-- The revision that the next write of a document gives. -/
def nextRev (store : MemoryStore) (id : String) : String :=
  revisionAfter (store.currentRev id) (store.revisions + 1)

/-- A write gives a revision that was never given before. -/
theorem not_gave_nextRev (store : MemoryStore) (id : String) : ¬store.Gave (store.nextRev id) := by
  rintro ⟨previous, number, bounded, same⟩
  -- Equal revisions carry equal numbers, and the number of the next one is still to come.
  have numbers := congrArg revisionNumber same
  simp only [nextRev, revisionNumber_revisionAfter] at numbers
  omega

/-- A write stores the document under the next revision. -/
theorem write_documents (store : MemoryStore) (id : String) (document : Json) :
    (store.write id document).2.documents =
      store.documents.insert id (stamp id (store.nextRev id) document) :=
  rfl

/-- A write gives one more revision. -/
@[simp] theorem write_revisions (store : MemoryStore) (id : String) (document : Json) :
    (store.write id document).2.revisions = store.revisions + 1 :=
  rfl

/-- A write leaves the waiting writers alone. -/
@[simp] theorem write_writers (store : MemoryStore) (id : String) (document : Json) :
    (store.write id document).2.writers = store.writers :=
  rfl

/-- A write leaves the forced conflicts alone. -/
@[simp] theorem write_forcedConflicts (store : MemoryStore) (id : String) (document : Json) :
    (store.write id document).2.forcedConflicts = store.forcedConflicts :=
  rfl

/-- A write stores its document and no other. -/
theorem document?_write (store : MemoryStore) (id : String) (document : Json) (wanted : String) :
    (store.write id document).2.document? wanted =
      if id = wanted then some (stamp id (store.nextRev id) document)
      else store.document? wanted := by
  rw [document?, write_documents, Entries.get?_insert]
  rfl

/-- A stored object carries its id. -/
theorem get?_stamp_id (id rev : String) (members : Table Json) :
    (stamp id rev (.object members)).get? "_id" = some (.string id) := by
  simp [stamp, Json.get?, Entries.get?_insert]

/-- A stored object carries its revision. -/
theorem get?_stamp_rev (id rev : String) (members : Table Json) :
    (stamp id rev (.object members)).get? "_rev" = some (.string rev) := by
  simp [stamp, Json.get?, Entries.get?_insert]

/-- A revision that was given stays given. -/
theorem Gave.mono {store later : MemoryStore} {rev : String} (gave : store.Gave rev)
    (grown : store.revisions ≤ later.revisions) : later.Gave rev := by
  obtain ⟨previous, number, bounded, same⟩ := gave
  exact ⟨previous, number, Nat.le_trans bounded grown, same⟩

/-- The revision that a write gives counts as given from then on. -/
theorem gave_nextRev (store : MemoryStore) (id : String) (document : Json) :
    (store.write id document).2.Gave (store.nextRev id) :=
  ⟨store.currentRev id, store.revisions + 1, Nat.le_refl _, rfl⟩

end MemoryStore

end DocView
