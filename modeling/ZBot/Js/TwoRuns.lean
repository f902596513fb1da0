import ZBot.Js.Program

/-!
# Two runs

`Agree R x y` compares two programs, or one program in two states: from `R`-related states they have
the same outcome and leave `R`-related states behind. There is one rule per construct.

`unwinding` is the rule for runs. Some of the steps are an observer's own. If those keep two states
alike for the observer, and the other steps do not show, then a run looks to the observer like the
run of the observer's steps alone.
-/

namespace Js

namespace Prog

variable {σ ι α β : Type}

/-- From related states: the same outcome, and related states. -/
def Agree (R : σ → σ → Prop) (x y : Prog σ α) : Prop :=
  ∀ s t, R s t → (x s).1 = (y t).1 ∧ R (x s).2 (y t).2

namespace Agree

variable {R : σ → σ → Prop}

theorem pure (a : α) : Agree R (Pure.pure a) (Pure.pure a) := fun _ _ h => ⟨rfl, h⟩

theorem raise (e : Error) : Agree R (raise e : Prog σ α) (Prog.raise e) := fun _ _ h => ⟨rfl, h⟩

theorem lift (x : Except Error α) : Agree R (lift x) (Prog.lift x) := fun _ _ h => ⟨rfl, h⟩

theorem modify {f g : σ → σ} (h : ∀ s t, R s t → R (f s) (g t)) :
    Agree R (modify f) (Prog.modify g) := fun s t hst => ⟨rfl, h s t hst⟩

theorem bind {x y : Prog σ α} {f g : α → Prog σ β} (hx : Agree R x y)
    (hf : ∀ a, Agree R (f a) (g a)) : Agree R (x >>= f) (y >>= g) := by
  intro s t hst
  obtain ⟨hout, hst'⟩ := hx s t hst
  rcases ex : x s with ⟨e | a, s'⟩ <;> rcases ey : y t with ⟨e' | a', t'⟩ <;>
    rw [ex, ey] at hout hst' <;> cases hout
  · rw [bind_error ex, bind_error ey]
    exact ⟨rfl, hst'⟩
  · rw [bind_ok ex, bind_ok ey]
    exact hf a s' t' hst'

/-- Two reads, when what follows depends on what they return. -/
theorem read_bind {p q : σ → α} {f g : α → Prog σ β}
    (h : ∀ s t, R s t → Agree R (f (p s)) (g (q t))) : Agree R (read p >>= f) (read q >>= g) :=
  fun s t hst => h s t hst s t hst

theorem when {c : Bool} {x y : Prog σ Unit} (hx : c = true → Agree R x y) :
    Agree R (when c x) (Prog.when c y) := by
  cases c with
  | true => exact hx rfl
  | false => exact pure ()

theorem forEach {xs : List ι} {f g : ι → Prog σ Unit} (hf : ∀ i ∈ xs, Agree R (f i) (g i)) :
    Agree R (forEach xs f) (Prog.forEach xs g) := by
  induction xs with
  | nil => exact pure ()
  | cons i xs ih =>
    exact bind (hf i List.mem_cons_self) fun _ => ih fun j hj => hf j (List.mem_cons_of_mem i hj)

/-- An invariant may be used in both runs. -/
theorem and_inv {I : σ → Prop} {x : Prog σ α} (hx : Agree R x x) (hI : ∀ s, I s → I (x s).2) :
    Agree (fun s t => R s t ∧ I s ∧ I t) x x := by
  rintro s t ⟨hst, hs, ht⟩
  obtain ⟨hout, hst'⟩ := hx s t hst
  exact ⟨hout, hst', hI s hs, hI t ht⟩

end Agree

/-- A loop may pass over the items on which its body does nothing. -/
theorem forEach_filter {p : ι → Bool} {I : σ → Prop} {f : ι → Prog σ Unit}
    (hskip : ∀ i s, p i = false → I s → f i s = (.ok (), s)) (hI : ∀ i s, I s → I (f i s).2)
    (xs : List ι) {s : σ} (hs : I s) : forEach xs f s = forEach (xs.filter p) f s := by
  induction xs generalizing s with
  | nil => rfl
  | cons i xs ih =>
    cases hp : p i with
    | false =>
      rw [List.filter_cons_of_neg (by simp [hp]), forEach, bind_ok (hskip i s hp hs)]
      exact ih hs
    | true =>
      rw [List.filter_cons_of_pos hp, forEach, forEach]
      have hs' := hI i s hs
      rcases e : f i s with ⟨_ | _, s'⟩ <;> rw [e] at hs'
      · rw [bind_error e, bind_error e]
      · rw [bind_ok e, bind_ok e]
        exact ih hs'

end Prog

section Unwinding

variable {σ ι : Type} {step : ι → σ → σ} {I : σ → Prop} {A : ι → Prop} {R : σ → σ → Prop}
  {own : ι → Bool}

/-- **Unwinding.** The steps of others can be removed from a run. -/
theorem unwinding (hkeep : ∀ i s, A i → I s → I (step i s))
    (hown : ∀ i s t, A i → own i = true → I s → I t → R s t → R (step i s) (step i t))
    (hother : ∀ i s t, A i → own i = false → I s → R s t → R (step i s) t) {steps : List ι}
    (hsteps : ∀ i ∈ steps, A i) {s t : σ} (hs : I s) (ht : I t) (hst : R s t) :
    R (steps.foldl (fun s i => step i s) s) ((steps.filter own).foldl (fun s i => step i s) t) := by
  induction steps generalizing s t with
  | nil => exact hst
  | cons i steps ih =>
    have hi := hsteps i List.mem_cons_self
    have hrest := fun j hj => hsteps j (List.mem_cons_of_mem i hj)
    cases hcase : own i with
    | true =>
      rw [List.filter_cons_of_pos hcase]
      exact ih hrest (hkeep i s hi hs) (hkeep i t hi ht) (hown i s t hi hcase hs ht hst)
    | false =>
      rw [List.filter_cons_of_neg (by simp [hcase])]
      exact ih hrest (hkeep i s hi hs) ht (hother i s t hi hcase hs hst)

end Unwinding

end Js
