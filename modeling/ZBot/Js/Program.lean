import ZBot.Js.Value

/-!
# Programs with state and exceptions

A piece of JavaScript is a function of the state that returns or throws, and leaves a state behind
in both cases: what was written before the exception stays written. `Prog σ α` is that function.
Nothing here rolls a state back.

`Within R x` says that the state left behind is `R`-related to the state before, whatever the
outcome, for a preorder `R` (`Frame`). Frame conditions (`Frame.eq`) and invariants (`Frame.inv`)
are such relations, and there is one rule per construct.

`Triple P x Q E` is a Hoare triple with a postcondition for each of the two outcomes.

`zoom` runs a program on one component of a larger state.
-/

namespace Js

/-- A computation over the state `σ` that returns an `α` or throws. -/
def Prog (σ α : Type) : Type := σ → Except Error α × σ

namespace Prog

variable {σ τ ι α β : Type}

instance : Monad (Prog σ) where
  pure a s := (.ok a, s)
  bind x f s :=
    match x s with
    | (.ok a, s') => f a s'
    | (.error e, s') => (.error e, s')

@[simp] theorem pure_apply (a : α) (s : σ) : (pure a : Prog σ α) s = (.ok a, s) := rfl

theorem bind_apply (x : Prog σ α) (f : α → Prog σ β) (s : σ) :
    (x >>= f) s =
      match x s with
      | (.ok a, s') => f a s'
      | (.error e, s') => (.error e, s') := rfl

/-- The first part of a sequence returned: the second part runs in the state it left. -/
theorem bind_ok {x : Prog σ α} {f : α → Prog σ β} {s s' : σ} {a : α} (h : x s = (.ok a, s')) :
    (x >>= f) s = f a s' := by
  rw [bind_apply, h]

/-- The first part of a sequence threw: so does the sequence. -/
theorem bind_error {x : Prog σ α} {f : α → Prog σ β} {s s' : σ} {e : Error}
    (h : x s = (.error e, s')) : (x >>= f) s = (.error e, s') := by
  rw [bind_apply, h]

/-- `throw`. -/
def raise (e : Error) : Prog σ α := fun s => (.error e, s)

/-- Reading the state. -/
def read (f : σ → α) : Prog σ α := fun s => (.ok (f s), s)

/-- Writing the state. -/
def modify (f : σ → σ) : Prog σ Unit := fun s => (.ok (), f s)

/-- A pure step that may throw. -/
def lift (x : Except Error α) : Prog σ α := fun s => (x, s)

@[simp] theorem raise_apply (e : Error) (s : σ) : (raise e : Prog σ α) s = (.error e, s) := rfl

@[simp] theorem modify_apply (f : σ → σ) (s : σ) : modify f s = (.ok (), f s) := rfl

theorem lift_ok_bind {x : Except Error α} {a : α} (h : x = .ok a) (f : α → Prog σ β) :
    lift x >>= f = f a := by
  rw [h]
  rfl

theorem lift_error_bind {x : Except Error α} {e : Error} (h : x = .error e) (f : α → Prog σ β) :
    lift x >>= f = raise e := by
  rw [h]
  rfl

theorem bind_ok_iff {x : Prog σ α} {f : α → Prog σ β} {s : σ} {b : β} :
    ((x >>= f) s).1 = .ok b ↔ ∃ a, (x s).1 = .ok a ∧ (f a (x s).2).1 = .ok b := by
  rcases e : x s with ⟨e' | a, s'⟩
  · rw [bind_error e]
    constructor
    · rintro ⟨⟩
    · rintro ⟨a, ⟨⟩, -⟩
  · rw [bind_ok e]
    exact ⟨fun h => ⟨a, rfl, h⟩, fun ⟨_, ha, h⟩ => by cases ha; exact h⟩

theorem seq_ok_iff {x : Prog σ Unit} {f : Unit → Prog σ β} {s : σ} {b : β} :
    ((x >>= f) s).1 = .ok b ↔ (x s).1 = .ok () ∧ (f () (x s).2).1 = .ok b :=
  bind_ok_iff.trans ⟨fun ⟨_, h⟩ => h, fun h => ⟨(), h⟩⟩

theorem lift_bind_ok_iff {x : Except Error α} {f : α → Prog σ β} {s : σ} {b : β} :
    ((lift x >>= f) s).1 = .ok b ↔ ∃ a, x = .ok a ∧ (f a s).1 = .ok b := bind_ok_iff

theorem read_bind (g : σ → α) (f : α → Prog σ β) (s : σ) : (read g >>= f) s = f (g s) s := rfl

theorem modify_bind (g : σ → σ) (f : Unit → Prog σ β) (s : σ) :
    (modify g >>= f) s = f () (g s) := rfl

/-- `xs.forEach(f)`: the first exception ends the loop. -/
def forEach (xs : List ι) (f : ι → Prog σ Unit) : Prog σ Unit :=
  match xs with
  | [] => pure ()
  | x :: xs => do
    f x
    forEach xs f

section Loop

variable {f : ι → Prog σ Unit}

theorem forEach_singleton (i : ι) (s : σ) : forEach [i] f s = f i s := by
  rw [forEach]
  rcases e : f i s with ⟨_ | _, s'⟩
  · exact bind_error e
  · exact bind_ok e

/-- A loop goes on with the rest of its items when the first ones do not throw. -/
theorem forEach_append_ok {xs ys : List ι} {s : σ} (h : (forEach xs f s).1 = .ok ()) :
    forEach (xs ++ ys) f s = forEach ys f (forEach xs f s).2 := by
  induction xs generalizing s with
  | nil => rfl
  | cons i xs ih =>
    rw [forEach] at h ⊢
    rw [List.cons_append, forEach]
    rcases e : f i s with ⟨_ | _, s'⟩
    · rw [bind_error e] at h
      cases h
    · rw [bind_ok e] at h ⊢
      rw [bind_ok e]
      exact ih h

/-- A loop ends when one of its first items throws. -/
theorem forEach_append_error {xs ys : List ι} {s : σ} (h : (forEach xs f s).1 ≠ .ok ()) :
    forEach (xs ++ ys) f s = forEach xs f s := by
  induction xs generalizing s with
  | nil => exact absurd rfl h
  | cons i xs ih =>
    rw [forEach] at h ⊢
    rw [List.cons_append, forEach]
    rcases e : f i s with ⟨_ | _, s'⟩
    · rw [bind_error e, bind_error e]
    · rw [bind_ok e] at h ⊢
      rw [bind_ok e]
      exact ih h

/-- A loop returns when its body does for every item, and the body's part of the state is left as it
was. -/
theorem forEach_ok_iff {V : σ → α} {p : α → ι → Prop} (hkeep : ∀ i s, V (f i s).2 = V s)
    (hbody : ∀ i s, (f i s).1 = .ok () ↔ p (V s) i) (xs : List ι) (s : σ) :
    (forEach xs f s).1 = .ok () ↔ ∀ i ∈ xs, p (V s) i := by
  induction xs generalizing s with
  | nil => exact ⟨fun _ => nofun, fun _ => rfl⟩
  | cons i xs ih =>
    rw [forEach, seq_ok_iff, List.forall_mem_cons, hbody, ih, hkeep]

end Loop

/-- `if (c) { x }`. -/
def when (c : Bool) (x : Prog σ Unit) : Prog σ Unit := if c then x else pure ()

@[simp] theorem when_true (x : Prog σ Unit) : when true x = x := rfl

@[simp] theorem when_false (x : Prog σ Unit) : when false x = pure () := rfl

/-- `try { x } catch (err) { y }`, where `y` does not look at the exception. -/
def tryCatch (x y : Prog σ α) : Prog σ α := fun s =>
  match x s with
  | (.ok a, s') => (.ok a, s')
  | (.error _, s') => y s'

/-- Runs a program on a component of the state. -/
def zoom (get : σ → τ) (put : σ → τ → σ) (x : Prog τ α) : Prog σ α := fun s =>
  ((x (get s)).1, put s (x (get s)).2)

@[simp] theorem zoom_apply (get : σ → τ) (put : σ → τ → σ) (x : Prog τ α) (s : σ) :
    zoom get put x s = ((x (get s)).1, put s (x (get s)).2) := rfl

/-! ## What a program may change -/

/-- A relation between the states before and after that survives sequencing. -/
structure Frame (R : σ → σ → Prop) : Prop where
  refl : ∀ s, R s s
  trans : ∀ {s t u}, R s t → R t u → R s u

/-- A component that is left alone. -/
theorem Frame.eq (f : σ → α) : Frame fun s s' : σ => f s' = f s :=
  ⟨fun _ => rfl, fun h h' => h'.trans h⟩

/-- A property that is kept. -/
theorem Frame.inv (I : σ → Prop) : Frame fun s s' : σ => I s → I s' :=
  ⟨fun _ h => h, fun h h' hi => h' (h hi)⟩

/-- A relation that is promised, with a property kept, from states with the property. -/
theorem Frame.guard {R : σ → σ → Prop} (hR : Frame R) (I : σ → Prop) :
    Frame fun s s' => I s → I s' ∧ R s s' := by
  refine ⟨fun s hs => ⟨hs, hR.refl s⟩, fun h h' hs => ?_⟩
  obtain ⟨ht, hst⟩ := h hs
  obtain ⟨hu, htu⟩ := h' ht
  exact ⟨hu, hR.trans hst htu⟩

theorem Frame.and {R S : σ → σ → Prop} (hR : Frame R) (hS : Frame S) :
    Frame fun s s' => R s s' ∧ S s s' :=
  ⟨fun s => ⟨hR.refl s, hS.refl s⟩, fun h h' => ⟨hR.trans h.1 h'.1, hS.trans h.2 h'.2⟩⟩

/-- The state a program leaves behind, thrown or returned, is `R`-related to the one before. -/
def Within (R : σ → σ → Prop) (x : Prog σ α) : Prop := ∀ s, R s (x s).2

namespace Within

variable {R : σ → σ → Prop} (hR : Frame R)

include hR

theorem pure (a : α) : Within R (pure a : Prog σ α) := fun s => hR.refl s

theorem raise (e : Error) : Within R (raise e : Prog σ α) := fun s => hR.refl s

theorem read (f : σ → α) : Within R (read f) := fun s => hR.refl s

theorem lift (x : Except Error α) : Within R (lift x : Prog σ α) := fun s => hR.refl s

omit hR in
/-- What is read is read from some state. -/
theorem read_bind {g : σ → α} {f : α → Prog σ β} (h : ∀ s, Within R (f (g s))) :
    Within R (Prog.read g >>= f) := fun s => h s s

/-- A sequence run in a given state. -/
theorem bind_at {x : Prog σ α} {f : α → Prog σ β} {s : σ} (hx : R s (x s).2)
    (hf : ∀ a, Within R (f a)) : R s ((x >>= f) s).2 := by
  rcases e : x s with ⟨_ | a, s'⟩ <;> rw [e] at hx
  · rw [bind_error e]; exact hx
  · rw [bind_ok e]; exact hR.trans hx (hf a s')

theorem bind {x : Prog σ α} {f : α → Prog σ β} (hx : Within R x) (hf : ∀ a, Within R (f a)) :
    Within R (x >>= f) := fun s => bind_at hR (hx s) hf

theorem lift_bind {x : Except Error α} {f : α → Prog σ β} (hf : ∀ a, x = .ok a → Within R (f a)) :
    Within R (Prog.lift x >>= f) := by
  cases x with
  | error e =>
    rw [lift_error_bind rfl]
    exact Within.raise hR e
  | ok a =>
    rw [lift_ok_bind rfl]
    exact hf a rfl

theorem forEach {xs : List ι} {f : ι → Prog σ Unit} (hf : ∀ i ∈ xs, Within R (f i)) :
    Within R (forEach xs f) := by
  induction xs with
  | nil => exact Within.pure hR ()
  | cons i xs ih =>
    exact Within.bind hR (hf i List.mem_cons_self) fun _ =>
      ih fun j hj => hf j (List.mem_cons_of_mem i hj)

theorem when {c : Bool} {x : Prog σ Unit} (hx : c = true → Within R x) : Within R (when c x) := by
  unfold Prog.when
  split
  · exact hx ‹c = true›
  · exact Within.pure hR ()

omit hR

theorem modify {f : σ → σ} (h : ∀ s, R s (f s)) : Within R (modify f) := h

theorem ite {c : Prop} [Decidable c] {x y : Prog σ α} (hx : c → Within R x)
    (hy : ¬c → Within R y) : Within R (if c then x else y) := by
  split
  · exact hx ‹c›
  · exact hy ‹¬c›

theorem mono {S : σ → σ → Prop} {x : Prog σ α} (h : ∀ s s', R s s' → S s s') (hx : Within R x) :
    Within S x := fun s => h _ _ (hx s)

end Within

/-! ## Pre- and postconditions -/

/-- From a state with `P` the program returns in a state with `Q`, or throws in one with `E`. -/
def Triple (P : σ → Prop) (x : Prog σ α) (Q : α → σ → Prop) (E : σ → Prop) : Prop :=
  ∀ s, P s →
    match x s with
    | (.ok a, s') => Q a s'
    | (.error _, s') => E s'

namespace Triple

variable {P : σ → Prop} {x : Prog σ α} {Q : α → σ → Prop} {E : σ → Prop}

theorem bind {R : α → σ → Prop} {f : α → Prog σ β} {Q : β → σ → Prop} (hx : Triple P x R E)
    (hf : ∀ a, Triple (R a) (f a) Q E) : Triple P (x >>= f) Q E := by
  intro s hs
  have h := hx s hs
  rcases e : x s with ⟨_ | a, s'⟩ <;> rw [e] at h
  · rw [bind_error e]; exact h
  · rw [bind_ok e]; exact hf a s' h

theorem post {Q' : α → σ → Prop} {E' : σ → Prop} (hx : Triple P x Q E)
    (hQ : ∀ a s, Q a s → Q' a s) (hE : ∀ s, E s → E' s) : Triple P x Q' E' := by
  intro s hs
  have h := hx s hs
  rcases e : x s with ⟨_ | a, s'⟩ <;> rw [e] at h
  · exact hE s' h
  · exact hQ a s' h

theorem pre {P' : σ → Prop} (hx : Triple P x Q E) (hP : ∀ s, P' s → P s) : Triple P' x Q E :=
  fun s hs => hx s (hP s hs)

theorem pure {a : α} (h : ∀ s, P s → Q a s) : Triple P (Pure.pure a : Prog σ α) Q E := h

theorem raise {e : Error} (h : ∀ s, P s → E s) : Triple P (Prog.raise e : Prog σ α) Q E := h

theorem modify {f : σ → σ} {Q : Unit → σ → Prop} (h : ∀ s, P s → Q () (f s)) :
    Triple P (Prog.modify f) Q E := h

/-- What is read is read from a state with the precondition. -/
theorem read_bind {g : σ → α} {f : α → Prog σ β} {Q : β → σ → Prop}
    (h : ∀ s, P s → Triple P (f (g s)) Q E) : Triple P (Prog.read g >>= f) Q E :=
  fun s hs => h s hs s hs

theorem lift_bind {y : Except Error α} {f : α → Prog σ β} {Q : β → σ → Prop}
    (h : ∀ a, y = .ok a → Triple P (f a) Q E) (hE : ∀ s, P s → E s) :
    Triple P (Prog.lift y >>= f) Q E := by
  cases y with
  | error e =>
    rw [lift_error_bind rfl]
    exact raise hE
  | ok a =>
    rw [lift_ok_bind rfl]
    exact h a rfl

theorem when {c : Bool} {x : Prog σ Unit} {Q : Unit → σ → Prop}
    (hx : c = true → Triple P x Q E) (h : c = false → ∀ s, P s → Q () s) :
    Triple P (Prog.when c x) Q E := by
  cases c with
  | true => exact hx rfl
  | false => exact fun s hs => h rfl s hs

/-- A loop with an invariant. -/
theorem forEach {xs : List ι} {f : ι → Prog σ Unit}
    (hf : ∀ i ∈ xs, Triple P (f i) (fun _ => P) E) :
    Triple P (Prog.forEach xs f) (fun _ => P) E := by
  induction xs with
  | nil => exact fun s hs => hs
  | cons i xs ih =>
    exact bind (hf i List.mem_cons_self) fun _ => ih fun j hj => hf j (List.mem_cons_of_mem i hj)

/-- The state a program leaves behind, when both outcomes promise the same of it. -/
theorem snd {R : σ → Prop} (hx : Triple P x (fun _ => R) R) {s : σ} (hs : P s) : R (x s).2 := by
  have h := hx s hs
  rcases e : x s with ⟨_ | a, s'⟩ <;> rw [e] at h <;> exact h

theorem of_ok (hx : Triple P x Q E) {s : σ} (hs : P s) {a : α} (h : (x s).1 = .ok a) :
    Q a (x s).2 := by
  have hpost := hx s hs
  rcases e : x s with ⟨_ | a, s'⟩ <;> rw [e] at hpost h
  · cases h
  · cases h
    exact hpost

/-- A program that cannot throw. -/
theorem total {x : Prog σ Unit} {R : σ → Prop} (hx : Triple P x (fun _ => R) fun _ => False)
    {s : σ} (hs : P s) : (x s).1 = .ok () ∧ R (x s).2 := by
  have h := hx s hs
  rcases e : x s with ⟨_ | a, s'⟩ <;> rw [e] at h
  · exact h.elim
  · exact ⟨rfl, h⟩

theorem of_snd (h : ∀ s, P s → E (x s).2) : Triple P x (fun _ => E) E := by
  intro s hs
  have h' := h s hs
  rcases e : x s with ⟨_ | a, s'⟩ <;> rw [e] at h' <;> exact h'

theorem of_within {R : σ → σ → Prop} (hx : Within R x) (h : ∀ s s', P s → R s s' → E s') :
    Triple P x (fun _ => E) E :=
  of_snd fun s hs => h s _ hs (hx s)

/-- A frame seen from the state in which a longer program started. -/
theorem frame {R : σ → σ → Prop} (hR : Frame R) (hx : Within R x) (s₀ : σ) :
    Triple (R s₀) x (fun _ => R s₀) (R s₀) :=
  of_within hx fun _ _ hs h => hR.trans hs h

end Triple

end Prog

end Js
