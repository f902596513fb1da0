import Mathlib.Order.Bounds.Defs

/-!
# Packing a list into consecutive groups

Items with weights are cut into consecutive groups, each of a weight within a limit. `pack` is the
greedy loop: an item joins the current group when the group stays within the limit with it, and
starts a new group otherwise. A packing with groups within the limit exists only when each item is,
and then the greedy one has the fewest groups (`pack_isLeast`): no other packing is ever ahead of
it, since its group was closed by an item that did not fit.
-/

namespace Js

section Packing

variable {α : Type} (weight : α → Nat) (limit : Nat)

/-- The weight of a group. -/
def groupWeight : List α → Nat
  | [] => 0
  | item :: group => weight item + groupWeight group

/-- The groups of the greedy loop, with the group it is filling. -/
def pack : List α → List α → List (List α)
  | [], current => [current]
  | item :: items, current =>
    if groupWeight weight (current ++ [item]) > limit then current :: pack items [item]
    else pack items (current ++ [item])

variable {weight limit} {items current : List α}

theorem groupWeight_append (group group' : List α) :
    groupWeight weight (group ++ group') =
      groupWeight weight group + groupWeight weight group' := by
  induction group with
  | nil => exact (Nat.zero_add _).symm
  | cons item group ih => rw [List.cons_append, groupWeight, groupWeight, ih, Nat.add_assoc]

theorem weight_le_groupWeight {item : α} {group : List α} (h : item ∈ group) :
    weight item ≤ groupWeight weight group := by
  obtain ⟨before, after, rfl⟩ := List.append_of_mem h
  rw [groupWeight_append, groupWeight]
  omega

/-- The groups are the items in order. -/
theorem pack_flatten : (pack weight limit items current).flatten = current ++ items := by
  induction items generalizing current with
  | nil => simp [pack]
  | cons item items ih =>
    rw [pack]
    split <;> simp [ih]

/-- The groups are within the limit when every item is. -/
theorem pack_within (hcurrent : groupWeight weight current ≤ limit)
    (hitems : ∀ item ∈ items, weight item ≤ limit) :
    ∀ group ∈ pack weight limit items current, groupWeight weight group ≤ limit := by
  induction items generalizing current with
  | nil => simpa [pack] using hcurrent
  | cons item items ih =>
    obtain ⟨hitem, hrest⟩ := List.forall_mem_cons.1 hitems
    rw [pack]
    split
    · have hsingle : groupWeight weight [item] ≤ limit := by simpa [groupWeight] using hitem
      exact List.forall_mem_cons.2 ⟨hcurrent, ih hsingle hrest⟩
    · rename_i hfits
      exact ih (Nat.not_lt.1 hfits) hrest

/-- No group is empty when every item is within the limit. -/
theorem pack_nonempty (hsome : current ≠ [] ∨ items ≠ [])
    (hitems : ∀ item ∈ items, weight item ≤ limit) :
    ∀ group ∈ pack weight limit items current, group ≠ [] := by
  induction items generalizing current with
  | nil => simpa [pack] using hsome
  | cons item items ih =>
    obtain ⟨hitem, hrest⟩ := List.forall_mem_cons.1 hitems
    rw [pack]
    split
    · rename_i hover
      refine List.forall_mem_cons.2 ⟨?_, ih (.inl (List.cons_ne_nil _ _)) hrest⟩
      rintro rfl
      rw [List.nil_append, groupWeight, groupWeight, Nat.add_zero] at hover
      exact absurd hitem (Nat.not_le.2 hover)
    · exact ih (.inl (by simp)) hrest

/-- The greedy packing stays ahead: a packing that has still to place what the greedy one has
placed, `before`, needs at least as many groups. -/
theorem pack_length_le (before : List α) {groups : List (List α)}
    (hsome : current ≠ [] ∨ items ≠ []) (hflatten : groups.flatten = before ++ current ++ items)
    (hwithin : ∀ group ∈ groups, groupWeight weight group ≤ limit) :
    (pack weight limit items current).length ≤ groups.length := by
  induction items generalizing current before groups with
  | nil =>
    cases groups with
    | nil =>
      have hnil := hflatten.symm
      simp only [List.flatten_nil, List.append_nil, List.append_eq_nil_iff] at hnil
      simp [hnil.2] at hsome
    | cons group groups => simp [pack]
  | cons item items ih =>
    rw [pack]
    split
    · rename_i hover
      cases groups with
      | nil => simp at hflatten
      | cons group groups =>
        obtain ⟨hgroup, hrest⟩ := List.forall_mem_cons.1 hwithin
        -- the item that did not fit is not in the first group of the other packing either
        have hfirst : ∃ left, groups.flatten = left ++ [item] ++ items := by
          rw [List.flatten_cons, List.append_eq_append_iff] at hflatten
          rcases hflatten with ⟨left, -, hleft⟩ | ⟨left, hleft, hitems⟩
          · exact ⟨left, by rw [hleft]; simp⟩
          · cases left with
            | nil => exact ⟨[], by simpa using hitems.symm⟩
            | cons item' left =>
              obtain ⟨rfl, -⟩ := List.cons.inj hitems
              rw [hleft, List.append_assoc, List.append_cons, ← List.append_assoc] at hgroup
              simp only [groupWeight_append] at hgroup hover
              omega
        obtain ⟨left, hleft⟩ := hfirst
        have hnext := ih left (.inl (List.cons_ne_nil _ _)) hleft hrest
        simpa using hnext
    · refine ih before (.inl (by simp)) ?_ hwithin
      rw [hflatten]
      simp

/-- The ways to cut the items into consecutive groups within the limit, by their number of
groups. -/
def packings (weight : α → Nat) (limit : Nat) (items : List α) : Set Nat :=
  {n | ∃ groups : List (List α), groups.flatten = items ∧
    (∀ group ∈ groups, groupWeight weight group ≤ limit) ∧ groups.length = n}

/-- **The greedy packing has the fewest groups.** -/
theorem pack_isLeast (hsome : items ≠ []) (hitems : ∀ item ∈ items, weight item ≤ limit) :
    IsLeast (packings weight limit items) (pack weight limit items []).length := by
  refine ⟨⟨_, pack_flatten, pack_within (Nat.zero_le _) hitems, rfl⟩, ?_⟩
  rintro n ⟨groups, hflatten, hwithin, rfl⟩
  exact pack_length_le [] (.inr hsome) (by simpa using hflatten) hwithin

end Packing

end Js
