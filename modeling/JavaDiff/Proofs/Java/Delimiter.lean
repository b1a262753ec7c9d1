import JavaDiff.Java.Delimiter
import JavaDiff.Proofs.Text.Sequence

/-!
# Where searches end

A search answers with an offset at or behind its start, and the byte there is what it looked for.
An answer in the front part of some bytes does not depend on the bytes behind that part.
-/

namespace JavaDiff

namespace Java

variable {opener closer : UInt8} {front back bytes : List UInt8} {start offset close : Nat}

theorem nextOffset_eq_some {property : UInt8 → Bool}
    (hnext : nextOffset property bytes start = some offset) :
    start ≤ offset ∧ ∃ byte, bytes[offset]? = some byte ∧ property byte = true := by
  obtain ⟨distance, hfind, rfl⟩ := Option.map_eq_some_iff.mp hnext
  obtain ⟨hlength, hproperty, -⟩ := List.findIdx?_eq_some_iff_getElem.mp hfind
  rw [List.getElem_drop] at hproperty
  rw [List.length_drop] at hlength
  exact ⟨Nat.le_add_right .., _, List.getElem?_eq_getElem (by omega), hproperty⟩

theorem eq_false_of_nextOffset {property : UInt8 → Bool}
    (hnext : nextOffset property bytes start = some offset) {between : Nat} {byte : UInt8}
    (hstart : start ≤ between) (hbetween : between < offset) (hbyte : bytes[between]? = some byte) :
    property byte = false := by
  obtain ⟨distance, hfind, rfl⟩ := Option.map_eq_some_iff.mp hnext
  obtain ⟨hlength, -, hbefore⟩ := List.findIdx?_eq_some_iff_getElem.mp hfind
  obtain ⟨skipped, rfl⟩ := Nat.exists_eq_add_of_le hstart
  obtain ⟨hinside, rfl⟩ := List.getElem?_eq_some_iff.mp hbyte
  have hfalse := hbefore skipped (by omega)
  rw [List.getElem_drop] at hfalse
  exact Bool.eq_false_iff.mpr hfalse

/-- A byte ends the block, or the search goes on behind it.  Neither depends on the bytes behind or
on where the byte lies. -/
theorem closingFrom_cons (opener closer : UInt8) (depth : Nat) (byte : UInt8) :
    (byte = closer ∧ depth = 0 ∧ ∀ offset rest,
      closingFrom opener closer depth offset (byte :: rest) = some offset) ∨
    ∃ next, (opener ≠ closer →
        next + [byte].count closer = depth + [byte].count opener) ∧
      ∀ offset rest, closingFrom opener closer depth offset (byte :: rest) =
        closingFrom opener closer next (offset + 1) rest := by
  by_cases hopener : byte = opener
  · refine Or.inr ⟨depth + 1, fun hne => ?_, fun offset rest => if_pos hopener⟩
    rw [hopener, List.count_singleton_self, List.count_cons_of_ne hne, List.count_nil]
  by_cases hcloser : byte = closer
  · cases depth with
    | zero =>
      exact Or.inl ⟨hcloser, rfl, fun offset rest => (if_neg hopener).trans (if_pos hcloser)⟩
    | succ depth =>
      refine Or.inr ⟨depth, fun _ => ?_, fun offset rest => (if_neg hopener).trans (if_pos hcloser)⟩
      rw [List.count_cons_of_ne hopener, hcloser, List.count_singleton_self, List.count_nil]
  · refine Or.inr ⟨depth, fun _ => ?_, fun offset rest => (if_neg hopener).trans (if_neg hcloser)⟩
    rw [List.count_cons_of_ne hopener, List.count_cons_of_ne hcloser, List.count_nil,
      List.count_nil]

theorem closingFrom_eq_some {depth : Nat}
    (hclose : closingFrom opener closer depth offset bytes = some close) :
    offset ≤ close ∧ bytes[close - offset]? = some closer := by
  induction bytes generalizing depth offset with
  | nil => simp [closingFrom] at hclose
  | cons byte rest ih =>
    rcases closingFrom_cons opener closer depth byte with ⟨hcloser, -, hend⟩ | ⟨next, -, hnext⟩
    · obtain rfl : offset = close := Option.some.inj ((hend offset rest).symm.trans hclose)
      rw [Nat.sub_self, List.getElem?_cons_zero, hcloser]
      exact ⟨Nat.le_refl _, rfl⟩
    · obtain ⟨hle, hcloser⟩ := ih ((hnext offset rest).symm.trans hclose)
      have hindex : close - offset = close - (offset + 1) + 1 := by omega
      exact ⟨by omega, by rw [hindex, List.getElem?_cons_succ, hcloser]⟩

theorem closingDelimiter_of_opener (hopener : bytes[start]? = some opener) :
    closingDelimiter opener closer bytes start =
      closingFrom opener closer 0 (start + 1) (bytes.drop (start + 1)) := by
  rw [closingDelimiter, drop_eq_cons hopener]
  exact if_pos rfl

theorem closingDelimiter_of_not_opener (hopener : bytes[start]? ≠ some opener) :
    closingDelimiter opener closer bytes start = none := by
  unfold closingDelimiter
  split
  · rfl
  · rename_i byte rest hdrop
    refine if_neg fun hbyte => hopener ?_
    rw [← hbyte, ← Nat.add_zero start, ← List.getElem?_drop, hdrop, List.getElem?_cons_zero]

/-- A block starts with its opener and ends at a closer behind it. -/
theorem closingDelimiter_eq_some
    (hclose : closingDelimiter opener closer bytes start = some close) :
    start < close ∧ bytes[start]? = some opener ∧ bytes[close]? = some closer := by
  by_cases hopener : bytes[start]? = some opener
  · rw [closingDelimiter_of_opener hopener] at hclose
    obtain ⟨hle, hcloser⟩ := closingFrom_eq_some hclose
    rw [List.getElem?_drop, Nat.add_sub_cancel' hle] at hcloser
    exact ⟨hle, hopener, hcloser⟩
  · rw [closingDelimiter_of_not_opener hopener] at hclose
    cases hclose

theorem nextOffset_append {property : UInt8 → Bool} (hoffset : offset < front.length) :
    nextOffset property (front ++ back) start = some offset ↔
      nextOffset property front start = some offset := by
  by_cases hstart : start ≤ front.length
  · rw [nextOffset, nextOffset, List.drop_append_of_le_length hstart, List.findIdx?_append]
    cases hfront : (front.drop start).findIdx? property with
    | some distance => rfl
    | none =>
      have hlength : (front.drop start).length = front.length - start := List.length_drop
      simp only [Option.none_or, Option.map_map, Option.map_none, reduceCtorEq, iff_false,
        Option.map_eq_some_iff, Function.comp_apply, not_exists, not_and]
      omega
  · have hbehind (bytes : List UInt8) : nextOffset property bytes start ≠ some offset := by
      intro hnext
      have hle := (nextOffset_eq_some hnext).1
      omega
    exact iff_of_false (hbehind _) (hbehind _)

theorem closingFrom_append {depth : Nat} (hclose : close < offset + front.length) :
    closingFrom opener closer depth offset (front ++ back) = some close ↔
      closingFrom opener closer depth offset front = some close := by
  induction front generalizing depth offset with
  | nil =>
    refine iff_of_false (fun hback => ?_) (by simp [closingFrom])
    have hle := (closingFrom_eq_some hback).1
    rw [List.length_nil] at hclose
    omega
  | cons byte front ih =>
    rw [List.length_cons] at hclose
    rw [List.cons_append]
    rcases closingFrom_cons opener closer depth byte with ⟨-, -, hend⟩ | ⟨next, -, hnext⟩
    · rw [hend, hend]
    · rw [hnext, hnext]
      exact ih (by omega)

theorem closingDelimiter_append (hclose : close < front.length) :
    closingDelimiter opener closer (front ++ back) start = some close ↔
      closingDelimiter opener closer front start = some close := by
  by_cases hstart : start < front.length
  · have hfront : (front ++ back)[start]? = front[start]? := List.getElem?_append_left hstart
    by_cases hopener : front[start]? = some opener
    · rw [closingDelimiter_of_opener hopener, closingDelimiter_of_opener (hfront.trans hopener),
        List.drop_append_of_le_length hstart]
      exact closingFrom_append (by rw [List.length_drop]; omega)
    · rw [closingDelimiter_of_not_opener hopener,
        closingDelimiter_of_not_opener (hfront ▸ hopener)]
  · have hbehind (bytes : List UInt8) :
        closingDelimiter opener closer bytes start ≠ some close := fun hblock => by
      have hlt := (closingDelimiter_eq_some hblock).1
      omega
    exact iff_of_false (hbehind _) (hbehind _)

end Java

end JavaDiff
