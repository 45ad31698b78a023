import Mathlib.Algebra.Order.Ring.Nat
import Mathlib.Data.List.Chain
import Mathlib.Order.Bounds.Basic

/-!
# Cutting a list into groups of bounded weight

Items of given weights are packed in order into groups whose total weight is bounded. The greedy
cut starts a group only when the one begun has no room for the next item. It is the only cut of
this kind, and no cut has fewer groups: whatever groups another cut has made when the greedy one
closes a group, they end no later.
-/

namespace Hdcp.Base

variable {α : Type} (weight : α → Nat) (limit : Nat)

/-- The weight of a group. -/
def total (group : List α) : Nat := (group.map weight).sum

/-- A cut of a list into consecutive groups within the limit. -/
structure Cut (items : List α) (groups : List (List α)) : Prop where
  /-- The groups make up the list. -/
  whole : groups.flatten = items
  /-- Every group is within the limit. -/
  within : ∀ group ∈ groups, total weight group ≤ limit

/-- A cut without empty groups in which no group has room for the first item of the next. -/
structure FullCut (items : List α) (groups : List (List α)) : Prop
    extends Cut weight limit items groups where
  /-- Every group has an item. -/
  nonempty : ∀ group ∈ groups, group ≠ []
  /-- No group has room for the next item. -/
  full : groups.IsChain fun group next =>
    ∀ item ∈ next.head?, limit < total weight group + weight item

/-- The greedy cut, at the items still to pack and the group begun. -/
def greedy : List α → List α → List (List α)
  | [], group => if group = [] then [] else [group]
  | item :: items, group =>
    if total weight group + weight item > limit then group :: greedy items [item]
    else greedy items (group ++ [item])

variable {weight limit}

/-- Weights add up. -/
@[simp] theorem total_append (left right : List α) :
    total weight (left ++ right) = total weight left + total weight right := by
  simp [total]

/-- The weight of one item. -/
@[simp] theorem total_singleton (item : α) : total weight [item] = weight item := by
  simp [total]

/-- The greedy cut puts the items behind the group begun. -/
theorem greedy_flatten (items group : List α) :
    (greedy weight limit items group).flatten = group ++ items := by
  induction items generalizing group with
  | nil =>
    by_cases empty : group = []
    · simp [greedy, empty]
    · simp [greedy, empty]
  | cons item items ih =>
    by_cases crowded : total weight group + weight item > limit
    · rw [greedy, if_pos crowded, List.flatten_cons, ih]
      rfl
    · rw [greedy, if_neg crowded, ih, List.append_assoc]
      rfl

/-- With a group begun there is a first group. -/
theorem greedy_ne_nil (items : List α) {group : List α} (begun : group ≠ []) :
    greedy weight limit items group ≠ [] := by
  intro none
  have whole : (greedy weight limit items group).flatten = group ++ items := greedy_flatten _ _
  rw [none] at whole
  exact begun (List.append_eq_nil_iff.mp whole.symm).1

/-- Items for which the group begun has room join it. -/
theorem greedy_absorb (items later group : List α)
    (fits : total weight (group ++ items) ≤ limit) :
    greedy weight limit (items ++ later) group = greedy weight limit later (group ++ items) := by
  induction items generalizing group with
  | nil => simp
  | cons item items ih =>
    have joined : total weight (group ++ [item] ++ items) ≤ limit := by
      rw [List.append_assoc]
      exact fits
    have room : ¬ total weight group + weight item > limit := by
      rw [total_append, total_append, total_singleton] at joined
      omega
    rw [List.cons_append, greedy, if_neg room, ih _ joined, List.append_assoc]
    rfl

/-- A group within the limit is a full cut of itself. -/
theorem FullCut.single {group : List α} (begun : group ≠ []) (fits : total weight group ≤ limit) :
    FullCut weight limit group [group] := by
  refine ⟨⟨List.flatten_singleton, ?_⟩, ?_, List.isChain_singleton group⟩
  · intro member inside
    rw [List.mem_singleton.mp inside]
    exact fits
  · intro member inside
    rw [List.mem_singleton.mp inside]
    exact begun

/-- A group without room for the first item of a full cut may be put in front of it. -/
theorem FullCut.cons {group items : List α} {groups : List (List α)}
    (cut : FullCut weight limit items groups) (begun : group ≠ [])
    (fits : total weight group ≤ limit)
    (crowded : ∀ next ∈ groups.head?, ∀ item ∈ next.head?,
      limit < total weight group + weight item) :
    FullCut weight limit (group ++ items) (group :: groups) := by
  refine ⟨⟨?_, ?_⟩, ?_, List.isChain_cons.mpr ⟨crowded, cut.full⟩⟩
  · rw [List.flatten_cons, cut.whole]
  · intro member inside
    rcases List.mem_cons.mp inside with rfl | inside
    · exact fits
    · exact cut.within member inside
  · intro member inside
    rcases List.mem_cons.mp inside with rfl | inside
    · exact begun
    · exact cut.nonempty member inside

/-- The greedy cut is full: a group is closed only when it has no room for the next item. -/
theorem greedy_full (items group : List α) (fits : total weight group ≤ limit)
    (each : ∀ item ∈ items, weight item ≤ limit) :
    FullCut weight limit (group ++ items) (greedy weight limit items group) ∧
      ∀ first ∈ (greedy weight limit items group).head?, group <+: first := by
  induction items generalizing group with
  | nil =>
    rw [List.append_nil, greedy]
    by_cases empty : group = []
    · subst empty
      exact ⟨⟨⟨rfl, nofun⟩, nofun, List.isChain_nil⟩, nofun⟩
    · rw [if_neg empty]
      refine ⟨.single empty fits, ?_⟩
      intro first found
      cases found
      exact List.prefix_rfl
  | cons item items ih =>
    have later (other : α) (inside : other ∈ items) : weight other ≤ limit :=
      each other (List.mem_cons_of_mem _ inside)
    by_cases crowded : total weight group + weight item > limit
    · have alone : total weight [item] ≤ limit := by
        rw [total_singleton]
        exact each item List.mem_cons_self
      have begun : group ≠ [] := by
        rintro rfl
        have small := each item List.mem_cons_self
        simp only [total, List.map_nil, List.sum_nil] at crowded
        omega
      obtain ⟨cut, starts⟩ := ih [item] alone later
      rw [greedy, if_pos crowded]
      constructor
      · refine cut.cons begun fits ?_
        intro next found other front
        obtain ⟨rest, rfl⟩ := starts next found
        cases front
        exact crowded
      · intro first found
        cases found
        exact List.prefix_rfl
    · have room : total weight (group ++ [item]) ≤ limit := by
        rw [total_append, total_singleton]
        omega
      obtain ⟨cut, starts⟩ := ih (group ++ [item]) room later
      rw [List.append_assoc] at cut
      rw [greedy, if_neg crowded]
      refine ⟨cut, ?_⟩
      intro first found
      exact (List.prefix_append group [item]).trans (starts first found)

/-- The greedy cut of a list whose items are within the limit. -/
theorem greedy_fullCut (items : List α) (each : ∀ item ∈ items, weight item ≤ limit) :
    FullCut weight limit items (greedy weight limit items []) :=
  (greedy_full items [] (Nat.zero_le _) each).1

/-- A full cut is the greedy cut, which begins with its first group. -/
theorem greedy_flatten_eq (group : List α) (groups : List (List α)) (begun : group ≠ [])
    (within : ∀ member ∈ groups, total weight member ≤ limit)
    (nonempty : ∀ member ∈ groups, member ≠ [])
    (full : (group :: groups).IsChain fun group next =>
      ∀ item ∈ next.head?, limit < total weight group + weight item) :
    greedy weight limit groups.flatten group = group :: groups := by
  induction groups generalizing group with
  | nil => rw [List.flatten_nil, greedy, if_neg begun]
  | cons next groups ih =>
    obtain ⟨close, chained⟩ := List.isChain_cons.mp full
    have filled := nonempty next List.mem_cons_self
    have fits := within next List.mem_cons_self
    cases next with
    | nil => exact absurd rfl filled
    | cons item items =>
      have crowded := close (item :: items) rfl item rfl
      rw [List.flatten_cons, List.cons_append, greedy, if_pos crowded,
        greedy_absorb items _ [item] fits]
      exact congrArg (group :: ·) (ih (item :: items) filled
        (fun member inside => within member (List.mem_cons_of_mem _ inside))
        (fun member inside => nonempty member (List.mem_cons_of_mem _ inside)) chained)

/-- A full cut of a list is its greedy cut. -/
theorem FullCut.eq_greedy {items : List α} {groups : List (List α)}
    (cut : FullCut weight limit items groups) : groups = greedy weight limit items [] := by
  have whole := cut.whole
  subst whole
  cases groups with
  | nil => rfl
  | cons group groups =>
    have fits := cut.within group List.mem_cons_self
    have begun := cut.nonempty group List.mem_cons_self
    rw [List.flatten_cons, greedy_absorb group _ [] fits, List.nil_append,
      greedy_flatten_eq group groups begun
        (fun member inside => cut.within member (List.mem_cons_of_mem _ inside))
        (fun member inside => cut.nonempty member (List.mem_cons_of_mem _ inside)) cut.full]

/-- A list within the limit is cut into itself. -/
theorem FullCut.eq_of_fits {items : List α} {groups : List (List α)}
    (cut : FullCut weight limit items groups) (fits : total weight items ≤ limit) :
    groups = if items = [] then [] else [items] := by
  have one : greedy weight limit (items ++ []) [] = greedy weight limit [] items :=
    greedy_absorb items [] [] fits
  rw [List.append_nil] at one
  rw [cut.eq_greedy, one, greedy]

/-- A full cut closes a group exactly when its list is not within the limit. -/
theorem FullCut.dropLast_eq_nil_iff {items : List α} {groups : List (List α)}
    (cut : FullCut weight limit items groups) :
    groups.dropLast = [] ↔ total weight items ≤ limit := by
  constructor
  · intro none
    have whole := cut.whole
    cases groups with
    | nil =>
      rw [← whole]
      exact Nat.zero_le _
    | cons group groups =>
      cases groups with
      | nil =>
        rw [← whole, List.flatten_singleton]
        exact cut.within group List.mem_cons_self
      | cons next groups => contradiction
  · intro fits
    rw [cut.eq_of_fits fits]
    split <;> rfl

/-- No cut of a list, nor of one with more in front, has fewer groups than the greedy cut. -/
theorem greedy_length_le (items group front : List α) (groups : List (List α))
    (whole : groups.flatten = front ++ group ++ items)
    (within : ∀ member ∈ groups, total weight member ≤ limit) :
    (greedy weight limit items group).length ≤ groups.length := by
  induction items generalizing group front groups with
  | nil =>
    by_cases empty : group = []
    · simp [greedy, empty]
    · have one : greedy weight limit [] group = [group] := by rw [greedy, if_neg empty]
      rw [one, List.length_singleton]
      cases groups with
      | nil =>
        have none := (List.append_eq_nil_iff.mp whole.symm).1
        exact absurd (List.append_eq_nil_iff.mp none).2 empty
      | cons first groups =>
        rw [List.length_cons]
        omega
  | cons item items ih =>
    by_cases crowded : total weight group + weight item > limit
    · rw [greedy, if_pos crowded, List.length_cons]
      cases groups with
      | nil => simp at whole
      | cons first groups =>
        rw [List.flatten_cons, List.append_eq_append_iff] at whole
        have others (member : List α) (inside : member ∈ groups) : total weight member ≤ limit :=
          within member (List.mem_cons_of_mem _ inside)
        rw [List.length_cons]
        apply Nat.succ_le_succ
        rcases whole with ⟨between, -, behind⟩ | ⟨between, long, short⟩
        · -- the other cut's first group ends before the item
          refine ih [item] between groups ?_ others
          rw [behind, List.append_assoc]
          rfl
        · cases between with
          | nil =>
            refine ih [item] [] groups ?_ others
            exact short.symm
          | cons head between =>
            -- it would hold the group and the item
            obtain ⟨rfl, -⟩ := List.cons.inj short
            have fits := within first List.mem_cons_self
            rw [long, total_append, total_append] at fits
            simp only [total, List.map_cons, List.sum_cons] at fits crowded
            omega
    · rw [greedy, if_neg crowded]
      refine ih (group ++ [item]) front groups ?_ within
      rw [whole]
      simp

/-- A full cut has the least number of groups of all cuts of its list. -/
theorem FullCut.isLeast {items : List α} {groups : List (List α)}
    (cut : FullCut weight limit items groups) :
    IsLeast {count | ∃ others, Cut weight limit items others ∧ others.length = count}
      groups.length := by
  refine ⟨⟨groups, cut.toCut, rfl⟩, ?_⟩
  rintro count ⟨others, other, rfl⟩
  rw [cut.eq_greedy]
  exact greedy_length_le items [] [] others other.whole other.within

end Hdcp.Base
