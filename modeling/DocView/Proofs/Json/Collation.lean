import DocView.Json.Collation

/-! Key order is a total preorder: it is swapped with its arguments, and it is transitive. -/

namespace DocView.Json

/-- Values of different kinds compare by kind alone. -/
theorem collate_of_rank_ne {left right : Json} (differ : left.rank ≠ right.rank) :
    left.collate right = compare left.rank right.rank := by
  cases left <;> cases right <;> first | rfl | exact absurd rfl differ

/-- A value of a lower kind comes first. -/
theorem collate_of_rank_lt {left right : Json} (below : left.rank < right.rank) :
    left.collate right = .lt := by
  rw [collate_of_rank_ne (Nat.ne_of_lt below)]
  exact Nat.compare_eq_lt.2 below

/-- A value of a higher kind comes last. -/
theorem collate_of_rank_gt {left right : Json} (above : right.rank < left.rank) :
    left.collate right = .gt := by
  rw [collate_of_rank_ne (Nat.ne_of_gt above)]
  exact Nat.compare_eq_gt.2 above

/-- A value that does not come behind another one is of no higher kind. -/
theorem rank_le_of_isLE {left right : Json} (before : (left.collate right).isLE = true) :
    left.rank ≤ right.rank := by
  refine Nat.not_lt.1 fun above => ?_
  rw [collate_of_rank_gt above] at before
  cases before

/-- Swapping the sides of an order that is given swaps its outcome. -/
theorem compare_swap {α : Type} [Ord α] [Std.OrientedOrd α] (left right : α) :
    compare right left = (compare left right).swap :=
  Std.OrientedCmp.eq_swap

/-- Swapping the sides of a lexicographic comparison swaps both of its parts. -/
theorem swap_then (first second : Ordering) :
    (first.then second).swap = first.swap.then second.swap := by
  cases first <;> rfl

/-- Values of different kinds are swapped like their kinds. -/
theorem collate_swap_of_rank_ne {left right : Json} (differ : left.rank ≠ right.rank) :
    right.collate left = (left.collate right).swap := by
  -- One of the kinds is the lower one.
  rcases Nat.lt_or_gt_of_ne differ with below | above
  · rw [collate_of_rank_lt below, collate_of_rank_gt below]
    rfl
  · rw [collate_of_rank_lt above, collate_of_rank_gt above]
    rfl

mutual

/-- Swapping the sides of a comparison swaps its outcome. -/
theorem collate_swap : (left right : Json) → right.collate left = (left.collate right).swap
  | .null, right => by
    cases right with
    | null => rfl
    | _ => exact collate_swap_of_rank_ne (by simp [rank])
  | .bool left, right => by
    cases right with
    | bool right => exact compare_swap left right
    | _ => exact collate_swap_of_rank_ne (by simp [rank])
  | .number left, right => by
    cases right with
    | number right => exact compare_swap left.ordinal right.ordinal
    | _ => exact collate_swap_of_rank_ne (by simp [rank])
  | .string left, right => by
    cases right with
    | string right => exact compare_swap left right
    | _ => exact collate_swap_of_rank_ne (by simp [rank])
  | .array left, right => by
    cases right with
    | array right => exact collateItems_swap left right
    | _ => exact collate_swap_of_rank_ne (by simp [rank])
  | .object left, right => by
    cases right with
    | object right => exact collateMembers_swap left right
    | _ => exact collate_swap_of_rank_ne (by simp [rank])
termination_by structural left => left

/-- Swapping lists swaps their comparison. -/
theorem collateItems_swap : (left right : List Json) →
    collateItems right left = (collateItems left right).swap
  | [], [] => rfl
  | [], _ :: _ => rfl
  | _ :: _, [] => rfl
  | item :: items, other :: others => by
    simp only [collateItems]
    rw [swap_then, collate_swap item other, collateItems_swap items others]
termination_by structural left => left

/-- Swapping objects swaps their comparison. -/
theorem collateMembers_swap {low lowOther : Option String} : (left : Entries Json low) →
    (right : Entries Json lowOther) →
      collateMembers right left = (collateMembers left right).swap
  | .nil, .nil => rfl
  | .nil, .cons .. => rfl
  | .cons .., .nil => rfl
  | .cons key _ value rest, .cons otherKey _ otherValue otherRest => by
    simp only [collateMembers]
    rw [swap_then, swap_then, compare_swap key otherKey, collate_swap value otherValue,
      collateMembers_swap rest otherRest]
termination_by structural left => left

end

/-- Whether three comparisons of three things agree with an order of them. -/
def Chained (first second both : Ordering) : Prop :=
  first.isLE = true → second.isLE = true →
    both.isLE = true ∧ (both = .eq → first = .eq ∧ second = .eq)

/-- Comparisons by a transitive order agree with it. -/
theorem chained_of_transCmp {α : Type} (order : α → α → Ordering) [Std.TransCmp order]
    (first second third : α) :
    Chained (order first second) (order second third) (order first third) := by
  -- A lawful order chains by its transitivity, and what is left is that no strict step is lost.
  intro before behind
  refine ⟨Std.TransCmp.isLE_trans before behind, fun same => ?_⟩
  -- If one step were strict, so would the whole be.
  cases left : order first second with
  | gt => simp [left] at before
  | lt =>
    have strict := Std.TransCmp.lt_of_lt_of_isLE left behind
    rw [same] at strict
    cases strict
  | eq =>
    refine ⟨rfl, ?_⟩
    rw [← Std.TransCmp.congr_left left]
    exact same

/-- Lexicographic comparisons agree with an order if both of their parts do. -/
theorem Chained.then {first second both later laterSecond laterBoth : Ordering}
    (heads : Chained first second both) (tails : Chained later laterSecond laterBoth) :
    Chained (first.then later) (second.then laterSecond) (both.then laterBoth) := by
  -- The tails count only where the heads are equal, and then both heads were equal.
  intro before behind
  have firstLE : first.isLE = true := by cases first <;> first | rfl | exact before
  have secondLE : second.isLE = true := by cases second <;> first | rfl | exact behind
  obtain ⟨bothLE, collapse⟩ := heads firstLE secondLE
  cases both with
  | gt => cases bothLE
  | lt => exact ⟨rfl, nofun⟩
  | eq =>
    -- With equal heads the tails decide.
    obtain ⟨rfl, rfl⟩ := collapse rfl
    exact tails before behind

/-- Values of which not all are of one kind agree with the order of the kinds. -/
theorem chained_of_rank_ne {first second third : Json}
    (differ : ¬(first.rank = second.rank ∧ second.rank = third.rank)) :
    Chained (first.collate second) (second.collate third) (first.collate third) := by
  -- Kinds only rise along the chain, and they rise somewhere.
  intro before behind
  have lower := rank_le_of_isLE before
  have upper := rank_le_of_isLE behind
  have below : first.rank < third.rank := by omega
  rw [collate_of_rank_lt below]
  exact ⟨rfl, nofun⟩

mutual

/-- Comparisons of three values agree with an order of them. -/
theorem collate_chained : (first second third : Json) →
    Chained (first.collate second) (second.collate third) (first.collate third)
  | .null, second, third => by
    cases second with
    | null =>
      cases third with
      | null => exact fun _ _ => ⟨rfl, fun _ => ⟨rfl, rfl⟩⟩
      | _ => exact chained_of_rank_ne (by simp [rank])
    | _ => exact chained_of_rank_ne (by simp [rank])
  | .bool first, second, third => by
    cases second with
    | bool second =>
      cases third with
      | bool third => exact chained_of_transCmp compare first second third
      | _ => exact chained_of_rank_ne (by simp [rank])
    | _ => exact chained_of_rank_ne (by simp [rank])
  | .number first, second, third => by
    cases second with
    | number second =>
      cases third with
      | number third =>
        exact chained_of_transCmp compare first.ordinal second.ordinal third.ordinal
      | _ => exact chained_of_rank_ne (by simp [rank])
    | _ => exact chained_of_rank_ne (by simp [rank])
  | .string first, second, third => by
    cases second with
    | string second =>
      cases third with
      | string third => exact chained_of_transCmp compare first second third
      | _ => exact chained_of_rank_ne (by simp [rank])
    | _ => exact chained_of_rank_ne (by simp [rank])
  | .array first, second, third => by
    cases second with
    | array second =>
      cases third with
      | array third => exact collateItems_chained first second third
      | _ => exact chained_of_rank_ne (by simp [rank])
    | _ => exact chained_of_rank_ne (by simp [rank])
  | .object first, second, third => by
    cases second with
    | object second =>
      cases third with
      | object third => exact collateMembers_chained first second third
      | _ => exact chained_of_rank_ne (by simp [rank])
    | _ => exact chained_of_rank_ne (by simp [rank])
termination_by structural first => first

/-- Comparisons of three lists agree with an order of them. -/
theorem collateItems_chained : (first second third : List Json) →
    Chained (collateItems first second) (collateItems second third) (collateItems first third)
  | [], second, third => by
    cases second <;> cases third <;> simp [Chained, collateItems]
  | item :: items, second, third => by
    cases second with
    | nil => simp [Chained, collateItems]
    | cons secondItem secondItems =>
      cases third with
      | nil => simp [Chained, collateItems]
      | cons thirdItem thirdItems =>
        exact (collate_chained item secondItem thirdItem).then
          (collateItems_chained items secondItems thirdItems)
termination_by structural first => first

/-- Comparisons of three objects agree with an order of them. -/
theorem collateMembers_chained {low lowSecond lowThird : Option String} :
    (first : Entries Json low) → (second : Entries Json lowSecond) →
      (third : Entries Json lowThird) →
        Chained (collateMembers first second) (collateMembers second third)
          (collateMembers first third)
  | .nil, second, third => by
    cases second <;> cases third <;> simp [Chained, collateMembers]
  | .cons key _ value rest, second, third => by
    cases second with
    | nil => simp [Chained, collateMembers]
    | cons secondKey _ secondValue secondRest =>
      cases third with
      | nil => simp [Chained, collateMembers]
      | cons thirdKey _ thirdValue thirdRest =>
        have keys := chained_of_transCmp compare key secondKey thirdKey
        exact (keys.then (collate_chained value secondValue thirdValue)).then
          (collateMembers_chained rest secondRest thirdRest)
termination_by structural first => first

end

/-- Key order is transitive, and swapped with its arguments. -/
instance : Std.TransCmp collate where
  eq_swap := collate_swap _ _
  isLE_trans before behind := (collate_chained _ _ _ before behind).1

/--
Key order is a total preorder of all values.

Every value equals itself, swapped sides swap the outcome, and one of two values may always come
first. The order is transitive, and equal values stand in the same place beside every third one.
-/
theorem collate_preorder (first second third : Json) :
    first.collate first = .eq ∧
    second.collate first = (first.collate second).swap ∧
    (first.collate second ≠ .gt ∨ second.collate first ≠ .gt) ∧
    (first.collate second ≠ .gt → second.collate third ≠ .gt → first.collate third ≠ .gt) ∧
    (first.collate second = .eq → first.collate third = second.collate third ∧
      third.collate first = third.collate second) := by
  -- The laws of the order are instances already, and the claim is put together from them.
  refine ⟨Std.ReflCmp.compare_self, collate_swap first second, ?_, ?_, ?_⟩
  · -- A value that comes last comes first on the other side.
    rw [collate_swap first second]
    cases first.collate second <;> simp
  · intro before behind
    have chained := collate_chained first second third (Ordering.isLE_iff_ne_gt.2 before)
      (Ordering.isLE_iff_ne_gt.2 behind)
    exact Ordering.isLE_iff_ne_gt.1 chained.1
  · intro same
    exact ⟨Std.TransCmp.congr_left same, Std.TransCmp.congr_right same⟩

/-- Lists that begin with as many items each are compared by these items first. -/
theorem collateItems_append {left right : List Json} (same : left.length = right.length)
    (more others : List Json) :
    collateItems (left ++ more) (right ++ others) =
      (collateItems left right).then (collateItems more others) := by
  -- The items are compared one by one, up to the first that differ.
  induction left generalizing right with
  | nil =>
    cases right with
    | nil => rfl
    | cons item right => cases same
  | cons item left ih =>
    cases right with
    | nil => cases same
    | cons other right =>
      have shorter : left.length = right.length := by simpa using same
      simp only [List.cons_append, collateItems, ih shorter]
      cases item.collate other <;> rfl

/-- Any list equals itself in key order. -/
theorem collateItems_self (items : List Json) : collateItems items items = .eq := by
  have same : (Json.array items).collate (.array items) = .eq := Std.ReflCmp.compare_self
  exact same

end DocView.Json
