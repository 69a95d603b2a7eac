import Mathlib.Order.Nat

/-!
# Texts put together from parts

Splitting a text at a separator undoes joining: parts that do not hold the separator are found again, and other
parts are not (`splitOn_intercalate_iff`). Joining adds the separators between the parts, and nothing else.
-/

namespace ZoneServer.Text

variable {separator : Char}

theorem splitOn_cons_of_ne {c : Char} {text part : List Char} {parts : List (List Char)}
    (hc : c ≠ separator) (h : text.splitOn separator = part :: parts) :
    (c :: text).splitOn separator = (c :: part) :: parts := by
  rw [List.splitOn_cons_eq_if_modifyHead, if_neg (by simpa using hc), h, List.modifyHead_cons]

theorem splitOn_cons_self (separator : Char) (text : List Char) :
    (separator :: text).splitOn separator = [] :: text.splitOn separator := by
  rw [List.splitOn_cons_eq_if_modifyHead, if_pos (beq_self_eq_true separator)]

/-- No part holds the separator. -/
theorem not_mem_of_mem_splitOn {text part : List Char} (h : part ∈ text.splitOn separator) :
    separator ∉ part := by
  induction text generalizing part with
  | nil =>
    rw [List.splitOn_nil, List.mem_singleton] at h
    rw [h]
    exact List.not_mem_nil
  | cons c text ih =>
    by_cases hc : c = separator
    · rw [hc, splitOn_cons_self] at h
      rcases List.mem_cons.1 h with rfl | hrest
      · exact List.not_mem_nil
      · exact ih hrest
    · obtain ⟨first, parts, hparts⟩ := List.exists_cons_of_ne_nil (List.splitOn_ne_nil separator text)
      rw [splitOn_cons_of_ne hc hparts] at h
      rw [hparts] at ih
      rcases List.mem_cons.1 h with rfl | hrest
      · exact List.not_mem_cons_of_ne_of_not_mem (Ne.symm hc) (ih List.mem_cons_self)
      · exact ih (List.mem_cons_of_mem _ hrest)

/-- After a separator at the end comes an empty part. -/
theorem splitOn_concat_separator (separator : Char) (text : List Char) :
    (text ++ [separator]).splitOn separator = text.splitOn separator ++ [[]] := by
  rw [List.splitOn_append_cons_self, List.splitOn_nil]

/-- Splitting finds the parts that were joined just if none of them has the separator. -/
theorem splitOn_intercalate_iff {parts : List (List Char)} (hne : parts ≠ []) :
    (List.intercalate [separator] parts).splitOn separator = parts ↔ ∀ part ∈ parts, separator ∉ part := by
  constructor
  · intro h part hmem
    rw [← h] at hmem
    exact not_mem_of_mem_splitOn hmem
  · intro h
    exact List.splitOn_intercalate separator h hne

/-- Joining adds no character but the separator. -/
theorem count_intercalate_of_ne {c : Char} (h : c ≠ separator) (parts : List (List Char)) :
    (List.intercalate [separator] parts).count c = parts.flatten.count c := by
  have hone : [separator].count c = 0 := List.count_eq_zero.2 (by simpa using h)
  induction parts with
  | nil => rfl
  | cons part parts ih =>
    cases parts with
    | nil => rw [List.intercalate_singleton, List.flatten_singleton]
    | cons next parts =>
      have hflatten : (part :: next :: parts).flatten = part ++ (next :: parts).flatten := List.flatten_cons
      rw [List.intercalate_cons_cons, List.count_append, List.count_append, ih, hone, hflatten,
        List.count_append, Nat.add_zero]

/-- Between any two parts there is a separator, besides those that are in the parts. -/
theorem count_intercalate_self (separator : Char) (part : List Char) (parts : List (List Char)) :
    (List.intercalate [separator] (part :: parts)).count separator =
      parts.length + (part :: parts).flatten.count separator := by
  induction parts generalizing part with
  | nil => rw [List.intercalate_singleton, List.flatten_singleton, List.length_nil, Nat.zero_add]
  | cons next parts ih =>
    have hflatten : (part :: next :: parts).flatten = part ++ (next :: parts).flatten := List.flatten_cons
    rw [List.intercalate_cons_cons, List.count_append, List.count_append, ih next,
      List.count_singleton_self, hflatten, List.count_append, List.length_cons]
    omega

/-- Parts with a separator after each of them are joined with an empty part after them. -/
theorem flatMap_concat_separator (separator : Char) (parts : List (List Char)) :
    parts.flatMap (· ++ [separator]) = List.intercalate [separator] (parts ++ [[]]) := by
  induction parts with
  | nil => rfl
  | cons part parts ih =>
    have hne : parts ++ [[]] ≠ [] := List.append_ne_nil_of_right_ne_nil _ (List.cons_ne_nil _ _)
    rw [List.flatMap_cons, ih, List.cons_append, List.intercalate_cons_of_ne_nil hne]

end ZoneServer.Text
