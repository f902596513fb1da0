import ZBot.Js.Value

/-!
# Merging members

`merge fs source` is the loop of `lodash.assign`: the members of `source` are written over `fs` one
after the other. Read through `lookup_merge` it is the left-biased union of two maps, where the
members of `source` win.

No object has two members of one name, and `Proper` says so of a value and of all that hangs below
it. Writing a member keeps the names distinct (`nodup_insert`), so a merge has distinct names when
its target has them (`nodup_merge`). The names of the target come first in it, which makes merging
over the same target a second time the identity (`merge_merge`).
-/

namespace Js

namespace Value

/-- The names of a list of members. -/
def names (fs : List (Text × Value)) : List Text := fs.map Prod.fst

/-! ## One member -/

section Insert

variable {fs : List (Text × Value)} {k : Text} {v : Value}

theorem lookup_eq_none_iff : lookup fs k = none ↔ k ∉ names fs := by
  rw [lookup, Option.map_eq_none_iff, List.find?_eq_none, names, List.mem_map]
  constructor
  · rintro h ⟨f, hf, rfl⟩
    exact h f hf (beq_self_eq_true f.1)
  · intro h f hf heq
    exact h ⟨f, hf, eq_of_beq heq⟩

theorem mem_of_lookup (h : lookup fs k = some v) : (k, v) ∈ fs := by
  obtain ⟨f, hfind, rfl⟩ := Option.map_eq_some_iff.1 h
  have hk : f.1 = k := by simpa using List.find?_some hfind
  rw [← hk]
  exact List.mem_of_find?_eq_some hfind

theorem names_insert_of_mem (h : k ∈ names fs) (v : Value) : names (insert fs k v) = names fs := by
  induction fs with
  | nil => cases h
  | cons f fs ih =>
    by_cases hf : f.1 = k
    · simp [insert, names, hf]
    · have hk : k ∈ names fs := by
        have := List.mem_cons.1 h
        exact this.resolve_left (Ne.symm hf)
      have hrest := ih hk
      simpa [insert, names, hf] using hrest

theorem insert_of_not_mem (h : k ∉ names fs) (v : Value) : insert fs k v = fs ++ [(k, v)] := by
  induction fs with
  | nil => rfl
  | cons f fs ih =>
    have hf : f.1 ≠ k := fun e => h (e ▸ List.mem_cons_self)
    have hk : k ∉ names fs := fun hmem => h (List.mem_cons_of_mem _ hmem)
    simpa [insert, hf] using ih hk

/-- A member that is written stands where it stood, or at the end. -/
theorem names_prefix_insert (fs : List (Text × Value)) (k : Text) (v : Value) :
    names fs <+: names (insert fs k v) := by
  by_cases h : k ∈ names fs
  · rw [names_insert_of_mem h]
  · rw [insert_of_not_mem h, names, names, List.map_append]
    exact List.prefix_append _ _

theorem nodup_insert (h : (names fs).Nodup) (k : Text) (v : Value) :
    (names (insert fs k v)).Nodup := by
  by_cases hk : k ∈ names fs
  · rwa [names_insert_of_mem hk]
  · rw [insert_of_not_mem hk, names, List.map_append]
    refine List.nodup_append.2 ⟨h, by simp, ?_⟩
    intro a ha b hb
    obtain rfl : b = k := by simpa using hb
    exact fun e => hk (e ▸ ha)

/-- Writing what is there changes nothing. -/
theorem insert_of_lookup (h : lookup fs k = some v) : insert fs k v = fs := by
  induction fs with
  | nil => cases h
  | cons f fs ih =>
    by_cases hf : f.1 = k
    · have hv : f.2 = v := by simpa [lookup, hf] using h
      simp [insert, ← hf, ← hv]
    · have hrest : lookup fs k = some v := by simpa [lookup, hf] using h
      simp [insert, hf, ih hrest]

theorem set_of_lookup {v x : Value} (h : lookup v.fields k = some x) : v.set k x = .ok v := by
  cases v with
  | arr xs fs => exact congrArg (fun fs => Except.ok (arr xs fs)) (insert_of_lookup h)
  | obj fs => exact congrArg (fun fs => Except.ok (obj fs)) (insert_of_lookup h)
  | _ => cases h

end Insert

/-! ## All members -/

section Merge

variable {fs source : List (Text × Value)}

/-- The members of `source` written over `fs`. -/
def merge (fs source : List (Text × Value)) : List (Text × Value) :=
  source.foldl (fun fs e => insert fs e.1 e.2) fs

theorem assign_obj (fs : List (Text × Value)) (source : Value) :
    (obj fs).assign source = obj (merge fs source.entries) := rfl

theorem merge_cons (fs : List (Text × Value)) (e : Text × Value) (source : List (Text × Value)) :
    merge fs (e :: source) = merge (insert fs e.1 e.2) source := rfl

theorem nodup_merge (h : (names fs).Nodup) (source : List (Text × Value)) :
    (names (merge fs source)).Nodup := by
  induction source generalizing fs with
  | nil => exact h
  | cons e source ih => exact ih (nodup_insert h e.1 e.2)

theorem names_prefix_merge (fs source : List (Text × Value)) :
    names fs <+: names (merge fs source) := by
  induction source generalizing fs with
  | nil => exact List.prefix_rfl
  | cons e source ih => exact (names_prefix_insert fs e.1 e.2).trans (ih _)

/-- **The union.** A member of the merge is the one of `source`, and the one of `fs` when `source`
has none. -/
theorem lookup_merge (h : (names source).Nodup) (fs : List (Text × Value)) (k : Text) :
    lookup (merge fs source) k = (lookup source k).or (lookup fs k) := by
  induction source generalizing fs with
  | nil => rfl
  | cons e source ih =>
    obtain ⟨hnew, hrest⟩ := List.nodup_cons.1 h
    rw [merge_cons, ih hrest]
    by_cases hk : e.1 = k
    · subst hk
      have hnone : lookup source e.1 = none := lookup_eq_none_iff.2 hnew
      rw [hnone, lookup_insert_self]
      simp [lookup]
    · rw [lookup_insert_of_ne fs e.2 (Ne.symm hk)]
      simp [lookup, hk]

/-- A member that `source` does not have stays in front. -/
theorem merge_cons_of_not_mem {f : Text × Value} (h : f.1 ∉ names source)
    (fs : List (Text × Value)) : merge (f :: fs) source = f :: merge fs source := by
  induction source generalizing fs with
  | nil => rfl
  | cons e source ih =>
    have hne : f.1 ≠ e.1 := fun he => h (he ▸ List.mem_cons_self)
    have hrest : f.1 ∉ names source := fun hmem => h (List.mem_cons_of_mem _ hmem)
    have hinsert : insert (f :: fs) e.1 e.2 = f :: insert fs e.1 e.2 := by simp [insert, hne]
    rw [merge_cons, merge_cons, hinsert]
    exact ih hrest _

/-- Members whose names go on where those of `fs` end replace `fs`. -/
theorem merge_extension {r : List (Text × Value)} (hnames : names fs <+: names r)
    (hnodup : (names r).Nodup) : merge fs r = r := by
  induction r generalizing fs with
  | nil =>
    have hnil : names fs = [] := List.prefix_nil.1 hnames
    exact List.map_eq_nil_iff.1 hnil
  | cons e r ih =>
    obtain ⟨hnew, hrest⟩ := List.nodup_cons.1 hnodup
    -- the first member of `r` takes the place of the first one of `fs`, if there is one
    obtain ⟨fs', hinsert, hfs'⟩ : ∃ fs', insert fs e.1 e.2 = e :: fs' ∧ names fs' <+: names r := by
      cases fs with
      | nil => exact ⟨[], rfl, List.nil_prefix⟩
      | cons f fs =>
        obtain ⟨hf, hfs⟩ := List.cons_prefix_cons.1 hnames
        exact ⟨fs, by simp [insert, hf], hfs⟩
    rw [merge_cons, hinsert, merge_cons_of_not_mem hnew, ih hfs' hrest]

/-- Merging what was merged over the same members changes nothing. -/
theorem merge_merge (h : (names fs).Nodup) (source : List (Text × Value)) :
    merge fs (merge fs source) = merge fs source :=
  merge_extension (names_prefix_merge fs source) (nodup_merge h source)

end Merge

/-! ## Indices -/

section Indices

theorem toNat_of_isDigit {c : Char} (h : c.isDigit = true) : 48 ≤ c.toNat ∧ c.toNat ≤ 57 := by
  simp only [Char.isDigit, Bool.and_eq_true, decide_eq_true_eq, ge_iff_le,
    UInt32.le_iff_toNat_le] at h
  exact h

theorem indexText_eq (n : Nat) :
    indexText n = (Nat.toDigits 10 n).map fun c => c.toNat.toUInt16 := by
  rw [indexText, lit, Nat.toString_eq_ofList_toDigits, String.toList_ofList]

theorem toNat_digit {n : Nat} {d : Char} (h : d ∈ Nat.toDigits 10 n) :
    48 ≤ d.toNat ∧ d.toNat ≤ 57 ∧ d.toNat.toUInt16.toNat = d.toNat := by
  obtain ⟨hlow, hhigh⟩ := toNat_of_isDigit (Nat.isDigit_of_mem_toDigits (by decide) (by decide) h)
  exact ⟨hlow, hhigh, Nat.mod_eq_of_lt (by omega)⟩

/-- An index is written in digits. -/
theorem indexText_digits (n : Nat) : ∀ c ∈ indexText n, 48 ≤ c ∧ c ≤ 57 := by
  intro c hc
  rw [indexText_eq] at hc
  obtain ⟨d, hd, rfl⟩ := List.mem_map.1 hc
  obtain ⟨hlow, hhigh, hunit⟩ := toNat_digit hd
  rw [UInt16.le_iff_toNat_le, UInt16.le_iff_toNat_le, hunit]
  exact ⟨hlow, hhigh⟩

theorem indexText_injective : Function.Injective indexText := by
  -- the characters can be read back from the code units
  have hread : ∀ n, (indexText n).map (fun c => Char.ofNat c.toNat) = Nat.toDigits 10 n := by
    intro n
    rw [indexText_eq, List.map_map]
    conv_rhs => rw [← List.map_id (Nat.toDigits 10 n)]
    refine List.map_congr_left fun d hd => ?_
    rw [Function.comp_apply, (toNat_digit hd).2.2, Char.ofNat_toNat, id]
  intro m n h
  have hdigits : Nat.toDigits 10 m = Nat.toDigits 10 n := by rw [← hread, ← hread, h]
  have hnumber := congrArg (Nat.ofDigitChars 10 · 0) hdigits
  simpa only [Nat.ofDigitChars_ten_toDigits] using hnumber

end Indices

/-! ## Proper values -/

section Proper

/-- No object in the value has two members of one name. -/
inductive Proper : Value → Prop
  | str (s : Text) : Proper (str s)
  | members {v : Value} (distinct : (names v.entries).Nodup)
      (below : ∀ e ∈ v.entries, Proper e.2) : Proper v

theorem Proper.distinct {v : Value} (h : Proper v) : (names v.entries).Nodup := by
  cases h with
  | members distinct below => exact distinct
  | str s =>
    rw [names, entries, List.Nodup, List.pairwise_map, List.pairwise_iff_getElem]
    intro i j hi hj hij heq
    rw [List.getElem_mapIdx, List.getElem_mapIdx] at heq
    exact absurd (indexText_injective heq) (Nat.ne_of_lt hij)

theorem fields_subset_entries (v : Value) : v.fields ⊆ v.entries := by
  cases v with
  | arr xs fs => exact List.subset_append_right _ fs
  | obj fs => exact List.Subset.refl fs
  | _ => exact List.nil_subset _

/-- A member of a proper value is proper. -/
theorem Proper.member {v x : Value} {k : Text} (h : Proper v) (hx : lookup v.fields k = some x) :
    Proper x := by
  have hmem := mem_of_lookup hx
  cases h with
  | str s => cases hmem
  | members distinct below => exact below (k, x) (fields_subset_entries v hmem)

theorem Proper.item {v x : Value} (h : Proper v) (hx : x ∈ v.itemsD) : Proper x := by
  cases h with
  | str s => cases hx
  | members distinct below =>
    cases v with
    | arr xs fs =>
      obtain ⟨i, hi, rfl⟩ := List.mem_iff_getElem.1 hx
      refine below (indexText i, xs[i]) (List.mem_append_left _ ?_)
      exact List.mem_mapIdx.2 ⟨i, hi, rfl⟩
    | _ => cases hx

end Proper

end Value

end Js
