import ZBot.Js.Text

/-!
# Ordered tables of patterns

A `switch (true)` whose cases test a text for a pattern is an ordered table: the first entry that
passes its test is taken. Two tests are compared, that the text begins with the pattern and that it
includes it anywhere.

* In a table in which no pattern begins a later one, the first pattern the text begins with is the
  longest one (`find_startsWith_iff`).
* Searching the whole text takes the same entry exactly when no entry ahead of it occurs in the text
  (`find_eq_find_iff`).
-/

namespace Js

section Table

variable {α : Type} {pattern : α → Text} {table : List α} {s : Text}

/-- The first match of a weaker test is the first match of a stronger one, exactly when nothing
ahead passes the weaker test alone. -/
theorem find_eq_find_iff {p q : α → Bool} (hpq : ∀ a, q a = true → p a = true) (table : List α) :
    table.find? p = table.find? q ↔ ∀ a ∈ table.takeWhile fun a => !q a, p a = false := by
  induction table with
  | nil => simp
  | cons a table ih =>
    cases hq : q a with
    | true => simp [hq, hpq a hq]
    | false =>
      cases hp : p a with
      | true =>
        have hne : table.find? q ≠ some a := fun h => by
          have := List.find?_some h
          rw [hq] at this
          cases this
        simp [hq, hp, Ne.symm hne]
      | false => simpa [hq, hp] using ih

/-- The first pattern the text begins with is the longest one. -/
theorem find_startsWith_iff (htable : table.Pairwise fun a b => ¬pattern a <+: pattern b) {a : α} :
    (table.find? fun a => startsWith s (pattern a)) = some a ↔
      a ∈ table ∧ pattern a <+: s ∧
        ∀ b ∈ table, pattern b <+: s → (pattern b).length ≤ (pattern a).length := by
  constructor
  · intro h
    obtain ⟨ha, before, after, rfl, hbefore⟩ := List.find?_eq_some_iff_append.1 h
    have hsplit := (List.pairwise_append.1 htable).2.1
    rw [startsWith_iff] at ha
    refine ⟨by simp, ha, fun b hb hbs => ?_⟩
    rcases List.mem_append.1 hb with hb | hb
    · have := hbefore b hb
      rw [startsWith_iff.2 hbs] at this
      cases this
    · rcases List.mem_cons.1 hb with rfl | hb
      · exact le_rfl
      · have hnot := (List.pairwise_cons.1 hsplit).1 b hb
        exact ((List.prefix_or_prefix_of_prefix ha hbs).resolve_left hnot).length_le
  · rintro ⟨ha, has, hlongest⟩
    obtain ⟨before, after, rfl⟩ := List.append_of_mem ha
    have hahead := (List.pairwise_append.1 htable).2.2
    refine List.find?_eq_some_iff_append.2
      ⟨startsWith_iff.2 has, before, after, rfl, fun b hb => ?_⟩
    rw [Bool.not_eq_true', ← Bool.not_eq_true, startsWith_iff]
    intro hbs
    -- a pattern ahead that is not longer would begin this one
    have hle := hlongest b (List.mem_append_left _ hb) hbs
    exact hahead b hb a List.mem_cons_self (List.prefix_of_prefix_length_le hbs has hle)

end Table

end Js
