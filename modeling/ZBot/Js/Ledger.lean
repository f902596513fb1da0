import Mathlib.Data.List.Perm.Basic

/-!
# Accounts of a run

A machine takes requests in, keeps them pending and answers them. `collect` lists what the steps of
a run give, in their order. When the books of every step balance (what was pending and what is taken
in is answered, or pending after it), so do the books of every run (`collect_balanced`): nothing is
lost, and nothing is answered twice.

`Woven` is the account of a list that others write to as well: the items are in it in their order,
each once, and everything else in it has a given property.
-/

namespace Js

variable {σ τ α β : Type}

/-- What the steps of a run give, in their order. -/
def collect (next : σ → τ → σ) (f : σ → τ → List α) : List τ → σ → List α
  | [], _ => []
  | t :: ts, s => f s t ++ collect next f ts (next s t)

/-- **The books of a run balance when the books of its steps do.** -/
theorem collect_balanced {next : σ → τ → σ} {pending : σ → List α}
    {taken answered : σ → τ → List α} {I : σ → Prop} (hI : ∀ s t, I s → I (next s t))
    (hstep : ∀ s t, I s → (pending s ++ taken s t).Perm (answered s t ++ pending (next s t)))
    (ts : List τ) {s : σ} (hs : I s) :
    (pending s ++ collect next taken ts s).Perm
      (collect next answered ts s ++ pending (ts.foldl next s)) := by
  induction ts generalizing s with
  | nil => simp [collect]
  | cons t ts ih =>
    have hhead := (hstep s t hs).append_right (collect next taken ts (next s t))
    have htail := (ih (hI s t hs)).append_left (answered s t)
    rw [List.append_assoc, List.append_assoc] at hhead
    rw [collect, collect, List.append_assoc]
    exact hhead.trans htail

/-- Taking an item out by its place. -/
theorem perm_eraseIdx (xs : List α) (i : Nat) : xs.Perm (xs[i]?.toList ++ xs.eraseIdx i) := by
  by_cases hi : i < xs.length
  · rw [List.getElem?_eq_getElem hi]
    exact (List.getElem_cons_eraseIdx_perm hi).symm
  · have hlength := Nat.not_lt.1 hi
    rw [List.getElem?_eq_none hlength, List.eraseIdx_of_length_le hlength]
    exact .refl xs

/-- Taking out the first item with a property. -/
theorem perm_eraseP (p : α → Bool) (xs : List α) :
    xs.Perm ((xs.find? p).toList ++ xs.eraseP p) := by
  induction xs with
  | nil => exact .refl []
  | cons x xs ih =>
    cases hx : p x with
    | true => simp [hx]
    | false =>
      simp only [List.find?_cons, List.eraseP_cons, hx, cond_false]
      exact (ih.cons x).trans List.perm_middle.symm

/-! ## Interleavings -/

/-- The items are in the list in their order, each once, and the others in it have the property. -/
def Woven (P : α → Prop) (items all : List α) : Prop :=
  ∃ tagged : List (α × Bool), tagged.map Prod.fst = all ∧
    (tagged.filter Prod.snd).map Prod.fst = items ∧ ∀ a, (a, false) ∈ tagged → P a

namespace Woven

variable {P Q : α → Prop} {items items' all all' : List α}

theorem self (P : α → Prop) (items : List α) : Woven P items items := by
  have hfst : (items.map (·, true)).map Prod.fst = items := by simp [Function.comp_def]
  refine ⟨items.map (·, true), hfst, ?_, by simp⟩
  rw [List.filter_eq_self.2 (by simp), hfst]

theorem others (h : ∀ a ∈ all, P a) : Woven P [] all := by
  refine ⟨all.map (·, false), by simp [Function.comp_def], ?_, by simpa using h⟩
  rw [List.filter_eq_nil_iff.2 (by simp), List.map_nil]

theorem append (h : Woven P items all) (h' : Woven P items' all') :
    Woven P (items ++ items') (all ++ all') := by
  obtain ⟨tagged, rfl, rfl, hP⟩ := h
  obtain ⟨tagged', rfl, rfl, hP'⟩ := h'
  refine ⟨tagged ++ tagged', by simp, by simp, fun a ha => ?_⟩
  rcases List.mem_append.1 ha with ha | ha
  · exact hP a ha
  · exact hP' a ha

theorem mono (hPQ : ∀ a, P a → Q a) : Woven P items all → Woven Q items all
  | ⟨tagged, hall, hitems, hP⟩ => ⟨tagged, hall, hitems, fun a ha => hPQ a (hP a ha)⟩

theorem flatMap {f g : β → List α} {bs : List β} (h : ∀ b ∈ bs, Woven P (f b) (g b)) :
    Woven P (bs.flatMap f) (bs.flatMap g) := by
  induction bs with
  | nil => exact others (by simp)
  | cons b bs ih =>
    rw [List.flatMap_cons, List.flatMap_cons]
    exact (h b List.mem_cons_self).append (ih fun b' hb' => h b' (List.mem_cons_of_mem b hb'))

end Woven

end Js
