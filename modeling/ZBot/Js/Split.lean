import ZBot.Js.Text

/-!
# The pieces of a text

How the operations that cut or search a text compose along a concatenation.

* `splitOn` at a separator between two texts gives the pieces of both (`splitOn_append`), and
  `words`, the pieces that are not empty, do not depend on how many spaces stand between them.
* `splitLines` cuts off a line at its line break, of either form (`splitLines_append`). The lines
  are found in the text one after the other (`inOrder_splitLines`).
* A pattern occurs in two texts around a code unit it does not hold where it occurs in one of them
  (`occurrences_append`).
-/

namespace Js

/-! ## Pieces between separators -/

section Pieces

variable {c : UInt16} {s t : Text}

theorem splitOn_cons_self (c : UInt16) (s : Text) : splitOn c (c :: s) = [] :: splitOn c s := by
  simp [splitOn]

theorem splitOn_of_not_mem (h : c ∉ s) : splitOn c s = [s] := by
  induction s with
  | nil => rfl
  | cons x s ih =>
    obtain ⟨hx, hs⟩ := List.ne_and_not_mem_of_not_mem_cons h
    simp [splitOn, Ne.symm hx, ih hs]

theorem splitOn_ne_nil (c : UInt16) (s : Text) : splitOn c s ≠ [] := by
  cases s with
  | nil => exact List.cons_ne_nil _ _
  | cons x s =>
    rw [splitOn]
    split
    · exact List.cons_ne_nil _ _
    · split <;> exact List.cons_ne_nil _ _

/-- There is one piece more than there are separators. -/
theorem splitOn_length (c : UInt16) (s : Text) : (splitOn c s).length = s.count c + 1 := by
  induction s with
  | nil => rfl
  | cons x s ih =>
    rw [splitOn]
    by_cases hx : x = c
    · rw [if_pos hx, hx, List.length_cons, List.count_cons_self, ih]
    · rw [if_neg hx, List.count_cons_of_ne hx]
      cases hs : splitOn c s with
      | nil => exact absurd hs (splitOn_ne_nil c s)
      | cons piece rest =>
        rw [hs] at ih
        exact ih

/-- The text is cut at a separator between its parts. -/
theorem splitOn_append (c : UInt16) (s t : Text) :
    splitOn c (s ++ c :: t) = splitOn c s ++ splitOn c t := by
  induction s with
  | nil => exact splitOn_cons_self c t
  | cons x s ih =>
    rw [List.cons_append, splitOn, splitOn, ih]
    by_cases hx : x = c
    · rw [if_pos hx, if_pos hx, List.cons_append]
    · rw [if_neg hx, if_neg hx]
      cases hs : splitOn c s with
      | nil => exact absurd hs (splitOn_ne_nil c s)
      | cons piece rest => rfl

/-- Pieces without the separator are found again between the separators. -/
theorem splitOn_intercalate {cells : List Text} (hne : cells ≠ []) (h : ∀ cell ∈ cells, c ∉ cell) :
    splitOn c ([c].intercalate cells) = cells := by
  induction cells with
  | nil => exact absurd rfl hne
  | cons cell rest ih =>
    obtain ⟨hcell, hrest⟩ := List.forall_mem_cons.1 h
    cases rest with
    | nil => rw [List.intercalate_singleton, splitOn_of_not_mem hcell]
    | cons cell' rest =>
      rw [List.intercalate_cons_cons, List.append_assoc, List.singleton_append, splitOn_append,
        splitOn_of_not_mem hcell, ih (List.cons_ne_nil _ _) hrest]
      rfl

theorem count_intercalate {cells : List Text} (hne : cells ≠ []) :
    ([c].intercalate cells).count c + 1 = cells.length + cells.flatten.count c := by
  induction cells with
  | nil => exact absurd rfl hne
  | cons cell rest ih =>
    cases rest with
    | nil => simp [Nat.add_comm]
    | cons cell' rest =>
      have hrest := ih (List.cons_ne_nil _ _)
      rw [List.intercalate_cons_cons, List.count_append, List.count_append, List.flatten_cons,
        List.count_append, List.length_cons]
      simp only [List.count_singleton_self]
      omega

/-- There are as many pieces as before when none of them has the separator, and only then. -/
theorem length_splitOn_intercalate_iff {cells : List Text} (hne : cells ≠ []) :
    (splitOn c ([c].intercalate cells)).length = cells.length ↔ ∀ cell ∈ cells, c ∉ cell := by
  refine ⟨fun h => ?_, fun h => by rw [splitOn_intercalate hne h]⟩
  rw [splitOn_length, count_intercalate hne] at h
  have hcount : cells.flatten.count c = 0 := by omega
  intro cell hcell hc
  exact List.count_eq_zero.1 hcount (List.mem_flatten.2 ⟨cell, hcell, hc⟩)

theorem mem_of_mem_splitOn {piece : Text} {x : UInt16} (h : piece ∈ splitOn c s) (hx : x ∈ piece) :
    x ∈ s := by
  induction s generalizing piece with
  | nil =>
    rw [List.mem_singleton.1 h] at hx
    exact absurd hx List.not_mem_nil
  | cons y s ih =>
    rw [splitOn] at h
    split at h
    · rcases List.mem_cons.1 h with rfl | h
      · exact absurd hx List.not_mem_nil
      · exact List.mem_cons_of_mem y (ih h hx)
    · cases hs : splitOn c s with
      | nil => exact absurd hs (splitOn_ne_nil c s)
      | cons first rest =>
        rw [hs] at h ih
        rcases List.mem_cons.1 h with rfl | h
        · rcases List.mem_cons.1 hx with rfl | hx
          · exact List.mem_cons_self
          · exact List.mem_cons_of_mem y (ih List.mem_cons_self hx)
        · exact List.mem_cons_of_mem y (ih (List.mem_cons_of_mem first h) hx)

/-- The pieces of a text between spaces that are not empty. -/
def words (s : Text) : List Text := (splitOn space s).filter fun piece => !piece.isEmpty

theorem words_append (s t : Text) : words (s ++ space :: t) = words s ++ words t := by
  rw [words, splitOn_append, List.filter_append]
  rfl

theorem words_word (hne : s ≠ []) (hs : space ∉ s) : words s = [s] := by
  cases s with
  | nil => exact absurd rfl hne
  | cons x s => rw [words, splitOn_of_not_mem hs]; rfl

/-- Spaces in front of a text are not seen. -/
theorem words_spaces (n : Nat) (t : Text) : words (List.replicate n space ++ t) = words t := by
  induction n with
  | zero => rfl
  | succ n ih =>
    rw [List.replicate_succ, List.cons_append]
    have hcons := words_append [] (List.replicate n space ++ t)
    rw [List.nil_append] at hcons
    rw [hcons, ih]
    rfl

/-- A word is cut off, with the spaces after it. -/
theorem words_cons (hne : s ≠ []) (hs : space ∉ s) (n : Nat) (t : Text) :
    words (s ++ (List.replicate (n + 1) space ++ t)) = s :: words t := by
  rw [List.replicate_succ, List.cons_append, words_append, words_word hne hs, words_spaces]
  rfl

end Pieces

/-! ## Lines -/

section Lines

/-- A line break. -/
inductive Break where
  | lf
  | crlf
  deriving DecidableEq, Repr

def Break.text : Break → Text
  | .lf => [newline]
  | .crlf => [carriageReturn, newline]

/-- No code unit of the text is part of a line break. -/
def Unbroken (s : Text) : Prop := newline ∉ s ∧ carriageReturn ∉ s

theorem unbroken_append {s t : Text} : Unbroken (s ++ t) ↔ Unbroken s ∧ Unbroken t := by
  simp only [Unbroken, List.mem_append, not_or]
  exact and_and_and_comm

theorem unbroken_cons {x : UInt16} {s : Text} :
    Unbroken (x :: s) ↔ (x ≠ newline ∧ x ≠ carriageReturn) ∧ Unbroken s := by
  simp only [Unbroken, List.mem_cons, not_or, ne_comm (a := x)]
  exact and_and_and_comm

theorem unbroken_spaces (n : Nat) : Unbroken (List.replicate n space) := by
  constructor <;> intro h <;> exact absurd (List.eq_of_mem_replicate h) (by decide +kernel)

theorem splitLines_cons {x : UInt16} (hx : x ≠ newline) (hx' : x ≠ carriageReturn) {s line : Text}
    {rest : List Text} (h : splitLines s = line :: rest) :
    splitLines (x :: s) = (x :: line) :: rest := by
  rw [splitLines.eq_def]
  split
  · rename_i heq
    cases heq
  · rename_i heq
    cases heq
    exact absurd rfl hx
  · rename_i heq
    cases heq
    exact absurd rfl hx'
  · rename_i heq
    cases heq
    rw [h]

theorem splitLines_unbroken {s : Text} (h : Unbroken s) : splitLines s = [s] := by
  induction s with
  | nil => rfl
  | cons x s ih =>
    obtain ⟨hn, hn'⟩ := List.ne_and_not_mem_of_not_mem_cons h.1
    obtain ⟨hr, hr'⟩ := List.ne_and_not_mem_of_not_mem_cons h.2
    exact splitLines_cons (Ne.symm hn) (Ne.symm hr) (ih ⟨hn', hr'⟩)

/-- A line is cut off at its line break. -/
theorem splitLines_append {line : Text} (h : Unbroken line) (b : Break) (s : Text) :
    splitLines (line ++ (b.text ++ s)) = line :: splitLines s := by
  induction line with
  | nil => cases b <;> rfl
  | cons x line ih =>
    obtain ⟨hn, hn'⟩ := List.ne_and_not_mem_of_not_mem_cons h.1
    obtain ⟨hr, hr'⟩ := List.ne_and_not_mem_of_not_mem_cons h.2
    exact splitLines_cons (Ne.symm hn) (Ne.symm hr) (ih ⟨hn', hr'⟩)

/-- Lines with their line breaks, and a last one without. -/
def rendered (lines : List (Text × Break)) (last : Text) : Text :=
  lines.flatMap (fun l => l.1 ++ l.2.text) ++ last

/-- The lines of a text are read back, whichever line breaks it has. -/
theorem splitLines_rendered {lines : List (Text × Break)} {last : Text}
    (h : ∀ l ∈ lines, Unbroken l.1) (hlast : Unbroken last) :
    splitLines (rendered lines last) = lines.map Prod.fst ++ [last] := by
  induction lines with
  | nil => exact splitLines_unbroken hlast
  | cons l lines ih =>
    obtain ⟨hl, hlines⟩ := List.forall_mem_cons.1 h
    rw [rendered, List.flatMap_cons, List.append_assoc, List.append_assoc,
      splitLines_append hl, ← rendered, ih hlines, List.map_cons, List.cons_append]

/-- The texts are found in the text one after the other. -/
def InOrder : List Text → Text → Prop
  | [], _ => True
  | line :: lines, s => ∃ before after, s = before ++ (line ++ after) ∧ InOrder lines after

theorem InOrder.append_left {lines : List Text} {s : Text} (h : InOrder lines s) (t : Text) :
    InOrder lines (t ++ s) := by
  cases lines with
  | nil => trivial
  | cons line lines =>
    obtain ⟨before, after, rfl, hafter⟩ := h
    exact ⟨t ++ before, after, by simp, hafter⟩

/-- The first text begins the text, and the others follow. -/
def Leads : List Text → Text → Prop
  | [], _ => True
  | line :: lines, s => ∃ after, s = line ++ after ∧ InOrder lines after

theorem Leads.inOrder {lines : List Text} {s : Text} (h : Leads lines s) : InOrder lines s := by
  cases lines with
  | nil => trivial
  | cons line lines =>
    obtain ⟨after, rfl, hafter⟩ := h
    exact ⟨[], after, rfl, hafter⟩

theorem leads_splitLines (s : Text) : Leads (splitLines s) s := by
  fun_induction splitLines s with
  | case1 => exact ⟨[], rfl, trivial⟩
  | case2 s ih => exact ⟨newline :: s, rfl, ih.inOrder.append_left [newline]⟩
  | case3 s ih =>
    exact ⟨carriageReturn :: newline :: s, rfl, ih.inOrder.append_left [carriageReturn, newline]⟩
  | case4 x s _ _ hnil ih => exact absurd hnil (splitLines_ne_nil s)
  | case5 x s _ _ line rest hsplit ih =>
    -- the code unit joins the first line, which still begins the text
    rw [hsplit] at ih
    obtain ⟨after, rfl, hafter⟩ := ih
    exact ⟨after, rfl, hafter⟩

theorem inOrder_splitLines (s : Text) : InOrder (splitLines s) s := (leads_splitLines s).inOrder

end Lines

/-! ## Occurrences -/

section Occurrences

variable {w : Text} {q : UInt16}

/-- The positions at which a pattern occurs. -/
def occurrences (w : Text) : Text → List Nat
  | [] => if w.isEmpty then [0] else []
  | c :: s => (if w.isPrefixOf (c :: s) then [0] else []) ++ (occurrences w s).map (· + 1)

theorem occurrences_eq_nil_iff {s : Text} : occurrences w s = [] ↔ includes s w = false := by
  induction s with
  | nil => cases w <;> simp [occurrences, includes]
  | cons c s ih =>
    rw [occurrences, includes, List.append_eq_nil_iff, List.map_eq_nil_iff, ih,
      Bool.or_eq_false_iff]
    cases w.isPrefixOf (c :: s) <;> simp

theorem isPrefixOf_append_cons (hq : q ∉ w) (s t : Text) :
    w.isPrefixOf (s ++ q :: t) = w.isPrefixOf s := by
  induction w generalizing s with
  | nil => cases s <;> rfl
  | cons x w ih =>
    obtain ⟨hx, hw⟩ := List.ne_and_not_mem_of_not_mem_cons hq
    cases s with
    | nil =>
      have hne : (x == q) = false := beq_eq_false_iff_ne.2 (Ne.symm hx)
      simp [List.isPrefixOf, hne]
    | cons y s => simp [List.isPrefixOf, ih hw]

/-- A pattern does not reach over a code unit that it does not hold. -/
theorem occurrences_append (hw : w ≠ []) (hq : q ∉ w) (s t : Text) :
    occurrences w (s ++ q :: t) =
      occurrences w s ++ (occurrences w t).map (· + (s.length + 1)) := by
  induction s with
  | nil =>
    have hnone : w.isPrefixOf (q :: t) = false := by
      rw [← List.nil_append (q :: t), isPrefixOf_append_cons hq]
      cases w with
      | nil => exact absurd rfl hw
      | cons x w => rfl
    cases w with
    | nil => exact absurd rfl hw
    | cons x w => simp [occurrences, hnone]
  | cons c s ih =>
    rw [List.cons_append, occurrences, occurrences, ← List.cons_append,
      isPrefixOf_append_cons hq, ih, List.map_append, List.map_map, List.append_assoc]
    rfl

end Occurrences

end Js
