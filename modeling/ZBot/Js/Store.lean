import ZBot.Js.Merge

/-!
# Objects by reference

`Value` keeps objects as values. Where it matters which object is written, the objects of interest
are kept in a `Store` and named by their address. A member of a `Record` is then a `Slot`: a value,
or a reference to an object of the store.

`clone` makes a new object and `assign` writes one. A program that assigns only to what it has
cloned leaves every object it was given as it was (`Keeps`), and a slot of a store that is kept
denotes the same value (`Slot.value_of_keeps`).
-/

namespace Js

abbrev Addr := Nat

/-- The objects that have been made. The address of an object is its position. -/
structure Store where
  objects : List (List (Text × Value))

namespace Store

def size (σ : Store) : Nat := σ.objects.length

/-- The members of an object. -/
def read (σ : Store) (a : Addr) : List (Text × Value) := σ.objects.getD a []

/-- `lodash.clone`: a new object with the members of another. Its address is the old size. -/
def clone (σ : Store) (a : Addr) : Store := ⟨σ.objects ++ [σ.read a]⟩

/-- `lodash.assign`: the members of `source` are written on an object. -/
def assign (σ : Store) (a : Addr) (source : List (Text × Value)) : Store :=
  ⟨σ.objects.set a (Value.merge (σ.read a) source)⟩

/-- Every object that was there has the members it had. -/
structure Keeps (σ σ' : Store) : Prop where
  size_le : σ.size ≤ σ'.size
  read_eq : ∀ a < σ.size, σ'.read a = σ.read a

section Operations

variable {σ σ₁ σ₂ : Store} {a : Addr} {source : List (Text × Value)}

theorem Keeps.refl (σ : Store) : Keeps σ σ := ⟨le_rfl, fun _ _ => rfl⟩

theorem Keeps.trans (h₁ : Keeps σ σ₁) (h₂ : Keeps σ₁ σ₂) : Keeps σ σ₂ where
  size_le := h₁.size_le.trans h₂.size_le
  read_eq a ha := by rw [h₂.read_eq a (ha.trans_le h₁.size_le), h₁.read_eq a ha]

theorem size_clone (σ : Store) (a : Addr) : (σ.clone a).size = σ.size + 1 := by
  simp [clone, size]

theorem size_assign (σ : Store) (a : Addr) (source : List (Text × Value)) :
    (σ.assign a source).size = σ.size := by
  simp [assign, size]

theorem read_clone_new (σ : Store) (a : Addr) : (σ.clone a).read σ.size = σ.read a := by
  simp [read, clone, size]

theorem clone_keeps (σ : Store) (a : Addr) : Keeps σ (σ.clone a) where
  size_le := by rw [size_clone]; omega
  read_eq b hb := by
    have hget : (σ.objects ++ [σ.read a])[b]? = σ.objects[b]? := List.getElem?_append_left hb
    rw [read, read, clone, List.getD_eq_getElem?_getD, List.getD_eq_getElem?_getD, hget]

theorem read_assign_self (ha : a < σ.size) :
    (σ.assign a source).read a = Value.merge (σ.read a) source := by
  have hget : (σ.objects.set a (Value.merge (σ.read a) source))[a]? =
      some (Value.merge (σ.read a) source) := List.getElem?_set_self ha
  rw [read, assign, List.getD_eq_getElem?_getD, hget, Option.getD_some]

/-- Writing an object that was not there keeps the others. -/
theorem Keeps.assign (h : Keeps σ σ₁) (ha : σ.size ≤ a) (source : List (Text × Value)) :
    Keeps σ (σ₁.assign a source) where
  size_le := by rw [size_assign]; exact h.size_le
  read_eq b hb := by
    have hne : a ≠ b := (hb.trans_le ha).ne'
    have hget : (σ₁.objects.set a (Value.merge (σ₁.read a) source))[b]? = σ₁.objects[b]? :=
      List.getElem?_set_ne hne
    rw [← h.read_eq b hb, read, read, Store.assign, List.getD_eq_getElem?_getD,
      List.getD_eq_getElem?_getD, hget]

end Operations

end Store

/-! ## References -/

/-- What a member holds: a value, or an object of the store. -/
inductive Slot where
  | val (v : Value)
  | ref (a : Addr)

namespace Slot

/-- The value that a slot denotes. -/
def value (σ : Store) : Slot → Value
  | val v => v
  | ref a => .obj (σ.read a)

/-- The object that is referred to has been made. -/
def Live (σ : Store) : Slot → Prop
  | val _ => True
  | ref a => a < σ.size

theorem value_of_keeps {σ σ' : Store} {s : Slot} (h : σ.Keeps σ') (hs : s.Live σ) :
    s.value σ' = s.value σ := by
  cases s with
  | val v => rfl
  | ref a => exact congrArg Value.obj (h.read_eq a hs)

theorem Live.of_keeps {σ σ' : Store} {s : Slot} (hs : s.Live σ) (h : σ.Keeps σ') : s.Live σ' := by
  cases s with
  | val v => trivial
  | ref a => exact Nat.lt_of_lt_of_le hs h.size_le

end Slot

/-- The members of an object, each with its slot. -/
abbrev Record := List (Text × Slot)

namespace Record

/-- The members with what their slots denote. -/
def fields (σ : Store) (r : Record) : List (Text × Value) := r.map fun m => (m.1, m.2.value σ)

/-- The object that a record denotes. -/
def value (σ : Store) (r : Record) : Value := .obj (r.fields σ)

/-- The slot of a member. -/
def find (r : Record) (k : Text) : Option Slot := (List.find? (·.1 == k) r).map Prod.snd

/-- The record after writing a member. -/
def put (r : Record) (k : Text) (s : Slot) : Record :=
  match r with
  | [] => [(k, s)]
  | m :: r => if m.1 == k then (k, s) :: r else m :: put r k s

/-- Every reference of the record is to an object that has been made. -/
def Live (σ : Store) (r : Record) : Prop := ∀ m ∈ r, m.2.Live σ

section Members

variable {σ σ' : Store} {r : Record} {k k' : Text} {s : Slot}

theorem lookup_fields (σ : Store) (r : Record) (k : Text) :
    Value.lookup (r.fields σ) k = (r.find k).map (Slot.value σ) := by
  induction r with
  | nil => rfl
  | cons m r ih =>
    by_cases hm : m.1 = k
    · simp [fields, Value.lookup, find, hm]
    · simpa [fields, Value.lookup, find, hm] using ih

theorem fields_put (σ : Store) (r : Record) (k : Text) (s : Slot) :
    (r.put k s).fields σ = Value.insert (r.fields σ) k (s.value σ) := by
  induction r with
  | nil => rfl
  | cons m r ih =>
    by_cases hm : m.1 = k
    · simp [fields, put, Value.insert, hm]
    · simpa [fields, put, Value.insert, hm] using ih

theorem find_put_self (r : Record) (k : Text) (s : Slot) : (r.put k s).find k = some s := by
  induction r with
  | nil => simp [put, find]
  | cons m r ih =>
    by_cases hm : m.1 = k
    · simp [put, find, hm]
    · simpa [put, find, hm] using ih

theorem fields_of_keeps (h : σ.Keeps σ') (hr : r.Live σ) : r.fields σ' = r.fields σ := by
  refine List.map_congr_left fun m hm => ?_
  rw [Slot.value_of_keeps h (hr m hm)]

/-- A record whose objects are live denotes the same value later on. -/
theorem value_of_keeps (h : σ.Keeps σ') (hr : r.Live σ) : r.value σ' = r.value σ := by
  rw [value, value, fields_of_keeps h hr]

theorem Live.of_keeps (hr : r.Live σ) (h : σ.Keeps σ') : r.Live σ' :=
  fun m hm => (hr m hm).of_keeps h

theorem Live.put (hr : r.Live σ) (hs : s.Live σ) : (r.put k s).Live σ := by
  induction r with
  | nil => simpa [Live, Record.put] using hs
  | cons m r ih =>
    obtain ⟨hm, hrest⟩ := List.forall_mem_cons.1 hr
    by_cases hk : m.1 = k
    · simp only [Live, Record.put, beq_iff_eq, hk, if_true, List.forall_mem_cons]
      exact ⟨hs, hrest⟩
    · simp only [Live, Record.put, beq_iff_eq, hk, if_false, List.forall_mem_cons]
      exact ⟨hm, ih hrest⟩

theorem Live.find (hr : r.Live σ) (h : r.find k = some s) : s.Live σ := by
  obtain ⟨m, hfind, rfl⟩ := Option.map_eq_some_iff.1 h
  exact hr m (List.mem_of_find?_eq_some hfind)

end Members

end Record

end Js
