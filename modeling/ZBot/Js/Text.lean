import Mathlib.Data.List.Infix
import Mathlib.Data.List.TakeWhile

/-!
# JavaScript strings

A JavaScript string is the sequence of its UTF-16 code units, lone surrogates included, and every
operation of the language on it counts in code units. `Text` is that sequence. The operations below
are the members of `String.prototype` a program calls (`includes`, `startsWith`, `replace` with a
string pattern, `split`, `trim`), as functions on the sequence.

`replaceFirst` is read through `replaceFirst_spec`: the pattern is cut out at one occurrence, and
the text before and after it stays as it was.
-/

namespace Js

/-- A JavaScript string: its UTF-16 code units. -/
abbrev Text := List UInt16

/-- The code units of an ASCII literal. -/
def lit (s : String) : Text := s.toList.map fun c => c.toNat.toUInt16

def space : UInt16 := 32
def newline : UInt16 := 10
def carriageReturn : UInt16 := 13

/-! ## Searching -/

/-- `s.startsWith(p)`. -/
def startsWith (s p : Text) : Bool := p.isPrefixOf s

/-- `s.includes(p)`. -/
def includes : Text → Text → Bool
  | [], p => p.isEmpty
  | c :: s, p => p.isPrefixOf (c :: s) || includes s p

theorem startsWith_iff {s p : Text} : startsWith s p = true ↔ p <+: s := by
  simp [startsWith]

theorem includes_iff {s p : Text} : includes s p = true ↔ p <:+: s := by
  induction s with
  | nil => simp [includes]
  | cons c s ih =>
    rw [includes, Bool.or_eq_true, ih, List.infix_cons_iff, List.isPrefixOf_iff_prefix]

/-- What holds of a text's part holds of the text: a longer pattern includes its own parts. -/
theorem includes_of_isInfix {s p q : Text} (h : includes s p = true) (hq : q <:+: p) :
    includes s q = true :=
  includes_iff.2 (hq.trans (includes_iff.1 h))

/-! ## Replacing -/

/-- `s.replace(p, r)` with a string pattern: the first occurrence only. The replacement is read as
it stands, so `r` must not hold one of the `$` forms of the language. -/
def replaceFirst : Text → Text → Text → Text
  | [], p, r => if p.isEmpty then r else []
  | c :: s, p, r =>
    if p.isPrefixOf (c :: s) then r ++ (c :: s).drop p.length else c :: replaceFirst s p r

/-- A pattern that the text begins with is cut out there. -/
theorem replaceFirst_append (p t r : Text) : replaceFirst (p ++ t) p r = r ++ t := by
  cases h : p ++ t with
  | nil =>
    obtain ⟨rfl, rfl⟩ := List.append_eq_nil_iff.1 h
    simp [replaceFirst]
  | cons c s =>
    have hp : p.isPrefixOf (c :: s) = true := by
      rw [List.isPrefixOf_iff_prefix, ← h]
      exact List.prefix_append p t
    rw [replaceFirst, if_pos hp, ← h, List.drop_left]

/-- A text that includes the pattern splits around the occurrence that is replaced, and no
occurrence starts before it. -/
theorem replaceFirst_spec {s p : Text} (r : Text) (h : p <:+: s) :
    ∃ pre post, s = pre ++ (p ++ post) ∧ replaceFirst s p r = pre ++ (r ++ post) ∧
      ∀ a b, s = a ++ (p ++ b) → pre.length ≤ a.length := by
  induction s with
  | nil =>
    obtain rfl := List.eq_nil_of_infix_nil h
    exact ⟨[], [], rfl, by simp [replaceFirst], fun _ _ _ => Nat.zero_le _⟩
  | cons c s ih =>
    by_cases hp : p <+: c :: s
    · obtain ⟨t, ht⟩ := hp
      refine ⟨[], t, ht.symm, ?_, fun _ _ _ => Nat.zero_le _⟩
      rw [← ht]
      exact replaceFirst_append p t r
    · have hs : p <:+: s := (List.infix_cons_iff.1 h).resolve_left hp
      obtain ⟨pre, post, he, hr, hmin⟩ := ih hs
      refine ⟨c :: pre, post, by rw [he, List.cons_append], ?_, ?_⟩
      · have hp' : p.isPrefixOf (c :: s) = false := by
          rw [← Bool.not_eq_true, List.isPrefixOf_iff_prefix]
          exact hp
        rw [replaceFirst, hp', if_neg Bool.false_ne_true, hr, List.cons_append]
      · intro a b hab
        cases a with
        | nil => exact absurd ⟨b, hab.symm⟩ hp
        | cons x a =>
          rw [List.cons_append, List.cons.injEq] at hab
          have := hmin a b hab.2
          simpa using this

/-! ## Splitting -/

/-- `s.split(c)` with a separator of one code unit. -/
def splitOn (c : UInt16) : Text → List Text
  | [] => [[]]
  | x :: s =>
    if x = c then [] :: splitOn c s
    else
      match splitOn c s with
      | [] => [[x]]
      | line :: rest => (x :: line) :: rest

/-- `s.split(/\r?\n/)`. -/
def splitLines : Text → List Text
  | [] => [[]]
  | 10 :: s => [] :: splitLines s
  | 13 :: 10 :: s => [] :: splitLines s
  | x :: s =>
    match splitLines s with
    | [] => [[x]]
    | line :: rest => (x :: line) :: rest

/-- There is one line more than there are line breaks. -/
theorem splitLines_length (s : Text) : (splitLines s).length = s.count newline + 1 := by
  fun_induction splitLines s with
  | case1 => rfl
  | case2 s ih => simp [ih, newline]
  | case3 s ih => simp [ih, newline]
  | case4 x s _ _ hnil ih =>
    rw [hnil] at ih
    cases ih
  | case5 x s hx _ line rest hsplit ih =>
    have hne : x ≠ newline := hx
    rw [hsplit] at ih
    simpa [List.count_cons_of_ne hne] using ih

theorem splitLines_ne_nil (s : Text) : splitLines s ≠ [] := by
  intro h
  have hlength := splitLines_length s
  rw [h] at hlength
  cases hlength

theorem splitLines_single_iff {s : Text} : (splitLines s).length = 1 ↔ newline ∉ s := by
  rw [splitLines_length, Nat.add_eq_right, List.count_eq_zero]

/-- The code units that `trim` removes: white space and line terminators. -/
def isWhite (c : UInt16) : Bool :=
  c = 32 || (9 ≤ c && c ≤ 13) || c = 160 || c = 0x1680 || (0x2000 ≤ c && c ≤ 0x200a) ||
    c = 0x2028 || c = 0x2029 || c = 0x202f || c = 0x205f || c = 0x3000 || c = 0xfeff

/-- `s.trim()`. -/
def trim (s : Text) : Text := ((s.dropWhile isWhite).reverse.dropWhile isWhite).reverse

/-- The first word of a text: its first non-empty piece between spaces. -/
def firstWord (s : Text) : Text := (s.dropWhile (· == space)).takeWhile (· != space)

/-- Only a text whose first code unit after leading spaces is `c` has a first word starting
with `c`. -/
theorem head_firstWord {s : Text} {c : UInt16} :
    (firstWord s).head? = some c ↔ (s.dropWhile (· == space)).head? = some c := by
  unfold firstWord
  cases h : s.dropWhile (· == space) with
  | nil => simp
  | cons x t =>
    have hx : x ≠ space := by
      have hne : s.dropWhile (· == space) ≠ [] := by rw [h]; exact List.cons_ne_nil x t
      have hhead := List.head_dropWhile_not (· == space) hne
      simpa [h] using hhead
    simp [hx]

/-- A word without spaces that ends the text or is followed by a space is the first word. -/
theorem firstWord_append {w u : Text} (hw : w ≠ []) (hs : space ∉ w)
    (hu : ∀ c ∈ u.head?, c = space) : firstWord (w ++ u) = w := by
  have hd : (w ++ u).dropWhile (· == space) = w ++ u := by
    cases w with
    | nil => exact absurd rfl hw
    | cons x w =>
      have hx : x ≠ space := fun e => hs (e ▸ List.mem_cons_self)
      simp [hx]
  have hall : ∀ x ∈ w, (x != space) = true := by
    intro x hx
    have : x ≠ space := fun e => hs (e ▸ hx)
    simpa using this
  have hstop : u.takeWhile (· != space) = [] := by
    cases u with
    | nil => rfl
    | cons c u => simp [hu c rfl]
  rw [firstWord, hd, List.takeWhile_append_of_pos hall, hstop, List.append_nil]

theorem firstWord_self {w : Text} (hw : w ≠ []) (hs : space ∉ w) : firstWord w = w := by
  have h := firstWord_append (u := []) hw hs (by simp)
  rwa [List.append_nil] at h

/-- The first word of a text that begins with a word and a space. -/
theorem firstWord_of_prefix {w v : Text} (hw : w ≠ []) (hs : space ∉ w) (h : w ++ [space] <+: v)
    (t : Text) : firstWord (v ++ t) = w := by
  obtain ⟨u, rfl⟩ := h
  have he : w ++ [space] ++ u ++ t = w ++ (space :: (u ++ t)) := by simp
  rw [he]
  exact firstWord_append hw hs (by simp)

end Js
