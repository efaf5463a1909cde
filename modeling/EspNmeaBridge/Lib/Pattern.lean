/-
# The first occurrence of a pattern

Text that arrives piece by piece is searched again and again for one pattern. As long as
the first occurrence has not arrived in full, nothing is found; from then on it is found
where the whole text has it, whatever follows.
-/

import Mathlib

namespace Pattern

variable {α : Type*} [DecidableEq α]

/-- Where the pattern starts first. -/
def find (pattern : List α) : List α → Option ℕ
  | [] => if pattern = [] then some 0 else none
  | a :: text =>
    if pattern <+: a :: text then some 0 else (find pattern text).map (· + 1)

/-- What stands before the first occurrence, and what stands behind it. -/
def cut (pattern text : List α) : Option (List α × List α) :=
  (find pattern text).map fun i => (text.take i, text.drop (i + pattern.length))

variable {pattern text full before behind : List α} {i : ℕ}

theorem find_eq_none : find pattern text = none ↔ ¬ pattern <:+: text := by
  induction text with
  | nil => simp [find]
  | cons a text ih =>
    rw [find, List.infix_cons_iff]
    split_ifs with starts
    · simp [starts]
    · simp [starts, ih]

theorem prefix_drop_of_find (found : find pattern text = some i) :
    pattern <+: text.drop i ∧ i ≤ text.length := by
  induction text generalizing i with
  | nil =>
    rw [find] at found
    split_ifs at found with empty
    obtain rfl := Option.some.inj found
    simp [empty]
  | cons a text ih =>
    rw [find] at found
    split_ifs at found with starts
    · obtain rfl := Option.some.inj found
      exact ⟨starts, Nat.zero_le _⟩
    · obtain ⟨j, later, rfl⟩ := Option.map_eq_some_iff.mp found
      obtain ⟨occurs, inside⟩ := ih later
      exact ⟨occurs, Nat.succ_le_succ inside⟩

/-- The occurrence lies inside the text. -/
theorem find_add_length_le (found : find pattern text = some i) :
    i + pattern.length ≤ text.length := by
  obtain ⟨occurs, inside⟩ := prefix_drop_of_find found
  have fits := occurs.length_le
  rw [List.length_drop] at fits
  omega

/-- What follows does not move the first occurrence. -/
theorem find_append (found : find pattern text = some i) (rest : List α) :
    find pattern (text ++ rest) = some i := by
  induction text generalizing i with
  | nil =>
    rw [find] at found
    split_ifs at found with empty
    obtain rfl := Option.some.inj found
    cases rest <;> simp [find, empty]
  | cons a text ih =>
    -- Behind `find_add_length_le`, an occurrence further left would lie inside the text.
    have fits := find_add_length_le found
    rw [find] at found
    rw [List.cons_append, find]
    split_ifs at found with starts
    · have here : pattern <+: a :: (text ++ rest) :=
        starts.trans (List.prefix_append (a :: text) rest)
      rw [if_pos here]
      exact found
    · obtain ⟨j, later, rfl⟩ := Option.map_eq_some_iff.mp found
      have notHere : ¬ pattern <+: a :: (text ++ rest) := by
        intro here
        apply starts
        apply List.prefix_of_prefix_length_le here (List.prefix_append (a :: text) rest)
        omega
      rw [if_neg notHere, ih later, Option.map_some]

/-- In the beginning of a text the pattern is found once it has arrived. -/
theorem find_of_prefix (front : text <+: full) (found : find pattern full = some i) :
    find pattern text = if i + pattern.length ≤ text.length then some i else none := by
  obtain ⟨rest, rfl⟩ := front
  cases searched : find pattern text with
  | some j =>
    obtain rfl : j = i := Option.some.inj ((find_append searched rest).symm.trans found)
    rw [if_pos (find_add_length_le searched)]
  | none =>
    rw [if_neg]
    intro arrived
    apply find_eq_none.mp searched
    -- The occurrence in the whole text ends inside this part of it.
    have occurs := (prefix_drop_of_find found).1
    rw [List.drop_append_of_le_length (by omega)] at occurs
    have here : pattern <+: text.drop i := by
      apply List.prefix_of_prefix_length_le occurs (List.prefix_append _ rest)
      rw [List.length_drop]
      omega
    exact here.isInfix.trans (List.drop_suffix i text).isInfix

/-- A pattern at the end of a text, and nowhere before it. -/
theorem find_of_suffix (ends : pattern <:+ text) (first : ¬ pattern <:+: text.dropLast) :
    find pattern text = some (text.length - pattern.length) := by
  cases searched : find pattern text with
  | none => exact absurd ends.isInfix (find_eq_none.mp searched)
  | some i =>
    have fits := find_add_length_le searched
    have last : ¬ i + pattern.length < text.length := by
      intro earlier
      apply first
      have here : pattern <+: text.dropLast.drop i := by
        rw [List.dropLast_eq_take, List.drop_take, List.prefix_take_iff]
        exact ⟨(prefix_drop_of_find searched).1, by omega⟩
      exact here.isInfix.trans (List.drop_suffix i _).isInfix
    rw [Option.some.injEq]
    omega

theorem cut_eq_some (found : cut pattern text = some (before, behind)) :
    text = before ++ pattern ++ behind := by
  obtain ⟨i, here, same⟩ := Option.map_eq_some_iff.mp found
  obtain ⟨rfl, rfl⟩ := Prod.mk.inj same
  obtain ⟨rest, occurs⟩ := (prefix_drop_of_find here).1
  have behind : text.drop (i + pattern.length) = rest := by
    rw [← List.drop_drop, ← occurs, List.drop_left]
  rw [behind, List.append_assoc, occurs, List.take_append_drop]

/-- Before the first occurrence there is none. -/
theorem not_infix_of_cut (nonempty : pattern ≠ [])
    (found : cut pattern text = some (before, behind)) : ¬ pattern <:+: before := by
  obtain ⟨i, here, same⟩ := Option.map_eq_some_iff.mp found
  obtain ⟨rfl, rfl⟩ := Prod.mk.inj same
  have positive : 0 < pattern.length := List.length_pos_iff.mpr nonempty
  have short : (text.take i).length ≤ i := List.length_take_le _ _
  rw [← find_eq_none, find_of_prefix (List.take_prefix i text) here, if_neg (by omega)]

/-- A text is cut where the pattern ends its first part. -/
theorem cut_append (ends : find pattern (before ++ pattern) = some before.length)
    (behind : List α) : cut pattern (before ++ pattern ++ behind) = some (before, behind) := by
  rw [cut, find_append ends, Option.map_some, List.append_assoc, List.take_left,
    ← List.drop_drop, List.drop_left, List.drop_left]

/-- Every text consists of pieces that the pattern ends, and does not occur in. -/
theorem exists_pieces (nonempty : pattern ≠ []) (text : List α) :
    ∃ piece pieces, text ++ pattern = (piece :: pieces).flatMap (· ++ pattern) ∧
      ∀ p ∈ piece :: pieces, ¬ pattern <:+: p := by
  induction length : text.length using Nat.strong_induction_on generalizing text with
  | h n ih =>
    cases found : cut pattern text with
    | none =>
      refine ⟨text, [], by simp, ?_⟩
      rw [List.forall_mem_singleton]
      exact find_eq_none.mp (Option.map_eq_none_iff.mp found)
    | some parts =>
      obtain ⟨before, behind⟩ := parts
      have whole := cut_eq_some found
      have positive : 0 < pattern.length := List.length_pos_iff.mpr nonempty
      have shorter : behind.length < n := by
        rw [← length, whole, List.length_append, List.length_append]
        omega
      obtain ⟨piece, pieces, rest, free⟩ := ih behind.length shorter behind rfl
      refine ⟨before, piece :: pieces, ?_, ?_⟩
      · rw [List.flatMap_cons, ← rest, whole]
        simp only [List.append_assoc]
      · exact List.forall_mem_cons.mpr ⟨not_infix_of_cut nonempty found, free⟩

section OneCharacter

variable {a : α}

theorem cut_singleton_eq_some :
    cut [a] text = some (before, behind) ↔ text = before ++ a :: behind ∧ a ∉ before := by
  constructor
  · intro found
    refine ⟨by simpa using cut_eq_some found, ?_⟩
    rw [← List.singleton_infix_iff]
    exact not_infix_of_cut (List.cons_ne_nil a []) found
  · rintro ⟨rfl, absent⟩
    have ends : find [a] (before ++ [a]) = some before.length := by
      have last := find_of_suffix (List.suffix_append before [a]) (by
        rwa [List.dropLast_concat, List.singleton_infix_iff])
      rwa [List.length_append, Nat.add_sub_cancel] at last
    simpa using cut_append ends behind

end OneCharacter

end Pattern
