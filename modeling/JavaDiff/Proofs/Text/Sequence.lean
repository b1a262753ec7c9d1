/-!
# Sequences

The elements of a list between two offsets: cut at a third offset, next to others, or starting with
one that is known.  Of two members of a list with an order one is in front of the other.
-/

namespace JavaDiff

variable {α : Type} {list : List α} {value : α} {start middle stop : Nat}

theorem drop_eq_cons (hvalue : list[start]? = some value) :
    list.drop start = value :: list.drop (start + 1) := by
  obtain ⟨hlength, rfl⟩ := List.getElem?_eq_some_iff.mp hvalue
  exact List.drop_eq_getElem_cons hlength

theorem extract_append_append (front piece back : List α) :
    (front ++ piece ++ back).extract front.length (front.length + piece.length) = piece := by
  rw [List.extract_eq_take_drop, List.append_assoc, List.drop_left, Nat.add_sub_cancel_left,
    List.take_left]

theorem extract_append_of_le {front : List α} (hstop : stop ≤ front.length) (back : List α)
    (start : Nat) : (front ++ back).extract start stop = front.extract start stop := by
  rw [List.extract_eq_take_drop, List.extract_eq_take_drop, ← List.drop_take, ← List.drop_take,
    List.take_append_of_le_length hstop]

theorem extract_append_extract (hstart : start ≤ middle) (hstop : middle ≤ stop) :
    list.extract start middle ++ list.extract middle stop = list.extract start stop := by
  rw [List.extract_eq_take_drop, List.extract_eq_take_drop, List.extract_eq_take_drop,
    show stop - start = middle - start + (stop - middle) by omega, List.take_add, List.drop_drop,
    Nat.add_sub_cancel' hstart]

theorem extract_eq_cons (hvalue : list[start]? = some value) (hstop : start < stop) :
    list.extract start stop = value :: list.extract (start + 1) stop := by
  rw [List.extract_eq_take_drop, List.extract_eq_take_drop, drop_eq_cons hvalue,
    show stop - start = stop - (start + 1) + 1 by omega, List.take_succ_cons]

theorem extract_eq_nil (list : List α) (start : Nat) : list.extract start start = [] := by
  rw [List.extract_eq_take_drop, Nat.sub_self, List.take_zero]

theorem take_extract {length : Nat} (hstop : start + length ≤ stop) :
    (list.extract start stop).take length = list.extract start (start + length) := by
  rw [List.extract_eq_take_drop, List.extract_eq_take_drop, List.take_take,
    Nat.add_sub_cancel_left, Nat.min_eq_left (by omega)]

theorem extract_isPrefix_drop (list : List α) (start stop : Nat) :
    list.extract start stop <+: list.drop start := by
  rw [List.extract_eq_take_drop]
  exact List.take_prefix ..

theorem extract_isPrefix_extract (list : List α) (hle : middle ≤ stop) :
    list.extract start middle <+: list.extract start stop := by
  rw [List.extract_eq_take_drop, List.extract_eq_take_drop]
  exact List.take_prefix_take_left (Nat.sub_le_sub_right hle start)

theorem getElem?_of_extract {index : Nat}
    (hvalue : (list.extract start stop)[index]? = some value) :
    start + index < stop ∧ list[start + index]? = some value := by
  rw [List.extract_eq_take_drop, List.getElem?_take] at hvalue
  split at hvalue
  · rw [List.getElem?_drop] at hvalue
    exact ⟨by omega, hvalue⟩
  · contradiction

theorem mem_extract {offset : Nat} (hvalue : list[offset]? = some value) (hstart : start ≤ offset)
    (hstop : offset < stop) : value ∈ list.extract start stop := by
  rw [List.extract_eq_take_drop]
  refine List.mem_of_getElem? (i := offset - start) ?_
  rw [List.getElem?_take_of_lt (by omega), List.getElem?_drop, Nat.add_sub_cancel' hstart, hvalue]

theorem eq_or_lt_of_pairwise {relation : α → α → Prop}
    (hpairwise : list.Pairwise relation) {first second : α} (hfirst : first ∈ list)
    (hsecond : second ∈ list) : first = second ∨ relation first second ∨ relation second first := by
  induction hpairwise with
  | nil => simp at hfirst
  | @cons value list hrelation _ ih =>
    cases hfirst with
    | head =>
      cases hsecond with
      | head => exact Or.inl rfl
      | tail _ hsecond => exact Or.inr (Or.inl (hrelation _ hsecond))
    | tail _ hfirst =>
      cases hsecond with
      | head => exact Or.inr (Or.inr (hrelation _ hfirst))
      | tail _ hsecond => exact ih hfirst hsecond

end JavaDiff
