import JavaDiff.Proofs.Java.Delimiter
import JavaDiff.Proofs.Text.Sequence

/-!
# Balance

The search for the end of a block counts, but where it ends can be said without a counter: at the
first position at which the block holds as many closers as openers.  In front of that position the
openers outnumber the closers.  So a counter that starts at zero in front of the block never has to
fall below zero, and of two blocks one ends before the other starts or lies inside it.
-/

namespace JavaDiff

namespace Java

open Ascii

/-- Whether bytes hold as many openers as closers. -/
def IsBalanced (opener closer : UInt8) (bytes : List UInt8) : Prop :=
  bytes.count opener = bytes.count closer

/-- Whether `close` is where the block that opens at `start` balances for the first time. -/
structure IsBlock (opener closer : UInt8) (bytes : List UInt8) (start close : Nat) : Prop where
  opener_at : bytes[start]? = some opener
  opener_ne_closer : opener ≠ closer
  start_lt_close : start < close
  close_lt_length : close < bytes.length
  isBalanced : IsBalanced opener closer (bytes.extract start (close + 1))
  not_isBalanced : ∀ between, start < between → between < close →
    ¬ IsBalanced opener closer (bytes.extract start (between + 1))

/-- The search with one counter for the whole block: every opener raises it, the first one included,
and every closer lowers it.  There is no outcome when a counter of zero would have to be lowered. -/
def countedFrom? (opener closer : UInt8) (depth offset : Nat) : List UInt8 → Option (Option Nat)
  | [] => some none
  | byte :: rest =>
    if byte = opener then countedFrom? opener closer (depth + 1) (offset + 1) rest
    else if byte = closer then
      if depth = 0 then none
      else if depth - 1 = 0 then some (some offset)
      else countedFrom? opener closer (depth - 1) (offset + 1) rest
    else countedFrom? opener closer depth (offset + 1) rest

/-- The outcome of that search for the closer of the opener at offset `start`. -/
def countedDelimiter? (opener closer : UInt8) (bytes : List UInt8) (start : Nat) :
    Option (Option Nat) :=
  if bytes[start]? = some opener then countedFrom? opener closer 0 start (bytes.drop start)
  else some none

variable {opener closer : UInt8} {bytes : List UInt8} {start close : Nat}

/-- Behind the first opener the counter is one more than the number of inner blocks that are open,
and so it is never zero when it has to be lowered. -/
theorem countedFrom?_succ (depth offset : Nat) :
    countedFrom? opener closer (depth + 1) offset bytes =
      some (closingFrom opener closer depth offset bytes) := by
  induction bytes generalizing depth offset with
  | nil => rfl
  | cons byte rest ih =>
    unfold countedFrom? closingFrom
    split
    · exact ih ..
    · split
      · cases depth with
        | zero => rfl
        | succ depth => exact ih depth (offset + 1)
      · exact ih ..

/-- The search with one counter always has an outcome, and it is the same. -/
theorem countedDelimiter?_eq (opener closer : UInt8) (bytes : List UInt8) (start : Nat) :
    countedDelimiter? opener closer bytes start =
      some (closingDelimiter opener closer bytes start) := by
  unfold countedDelimiter?
  split
  · rename_i hopener
    rw [closingDelimiter_of_opener hopener, drop_eq_cons hopener, countedFrom?, if_pos rfl,
      countedFrom?_succ]
  · rename_i hopener
    rw [closingDelimiter_of_not_opener hopener]

/-- Whether the closers among some bytes outnumber the openers by `surplus`. -/
def Outnumbers (opener closer : UInt8) (surplus : Nat) (bytes : List UInt8) : Prop :=
  bytes.count closer = bytes.count opener + surplus

theorem outnumbers_cons {byte : UInt8} {surplus behind : Nat}
    (hbehind : behind + [byte].count closer = surplus + [byte].count opener) :
    Outnumbers opener closer surplus (byte :: bytes) ↔ Outnumbers opener closer behind bytes := by
  rw [Outnumbers, Outnumbers, ← List.singleton_append, List.count_append, List.count_append]
  omega

theorem outnumbers_opener (hne : opener ≠ closer) (surplus : Nat) :
    Outnumbers opener closer surplus (opener :: bytes) ↔
      Outnumbers opener closer (surplus + 1) bytes := by
  apply outnumbers_cons
  rw [List.count_singleton_self, List.count_cons_of_ne hne, List.count_nil]

theorem outnumbers_closer (hne : opener ≠ closer) : Outnumbers opener closer 1 [closer] := by
  rw [Outnumbers, List.count_singleton_self, List.count_cons_of_ne hne.symm, List.count_nil]

theorem not_outnumbers_succ_nil (surplus : Nat) : ¬ Outnumbers opener closer (surplus + 1) [] := by
  simp [Outnumbers]

theorem closingFrom_self (depth offset : Nat) :
    closingFrom opener opener depth offset bytes = none := by
  induction bytes generalizing depth offset with
  | nil => rfl
  | cons byte rest ih =>
    by_cases hopener : byte = opener <;> simp [closingFrom, hopener, ih]

/-- Inside a block and `depth` further ones, the search ends where the closers outnumber the openers
by as many for the first time. -/
theorem closingFrom_eq_some_iff (hne : opener ≠ closer) {depth offset length : Nat} :
    closingFrom opener closer depth offset bytes = some (offset + length) ↔
      length < bytes.length ∧ Outnumbers opener closer (depth + 1) (bytes.take (length + 1)) ∧
      ∀ shorter < length, ¬ Outnumbers opener closer (depth + 1) (bytes.take (shorter + 1)) := by
  induction bytes generalizing depth offset length with
  | nil => simp [closingFrom]
  | cons byte rest ih =>
    rcases closingFrom_cons opener closer depth byte with ⟨rfl, rfl, hend⟩ | ⟨next, hcount, hnext⟩
    · have hcloser := outnumbers_closer hne
      cases length with
      | zero => simp [hend, hcloser]
      | succ length =>
        rw [Nat.forall_lt_succ_left']
        simp [hend, hcloser]
    · have hdepth := hcount hne
      have hbytes (bytes : List UInt8) : Outnumbers opener closer (depth + 1) (byte :: bytes) ↔
          Outnumbers opener closer (next + 1) bytes := outnumbers_cons (by omega)
      have hnil : ¬ Outnumbers opener closer (next + 1) [] := not_outnumbers_succ_nil next
      have hbehind : closingFrom opener closer next (offset + 1) rest ≠ some offset := fun hclose =>
        Nat.not_succ_le_self offset (closingFrom_eq_some hclose).1
      cases length with
      | zero => simp [hnext, hbytes, hbehind, hnil]
      | succ length =>
        rw [hnext, show offset + (length + 1) = offset + 1 + length by omega, ih,
          Nat.forall_lt_succ_left']
        simp [hbytes, hnil]

/-- A block is balanced where the closers behind its opener outnumber the openers by one. -/
theorem isBalanced_extract_iff (hne : opener ≠ closer) (hopener : bytes[start]? = some opener)
    (length : Nat) : IsBalanced opener closer (bytes.extract start (start + 1 + length + 1)) ↔
      Outnumbers opener closer 1 ((bytes.drop (start + 1)).take (length + 1)) := by
  rw [← outnumbers_opener hne, extract_eq_cons hopener (by omega), List.extract_eq_take_drop,
    show start + 1 + length + 1 - (start + 1) = length + 1 by omega]
  exact eq_comm

/-- A block ends where it balances for the first time. -/
theorem closingDelimiter_eq_some_iff :
    closingDelimiter opener closer bytes start = some close ↔
      IsBlock opener closer bytes start close := by
  by_cases hopener : bytes[start]? = some opener
  case neg =>
    rw [closingDelimiter_of_not_opener hopener]
    exact iff_of_false (nomatch ·) fun hblock => hopener hblock.opener_at
  rw [closingDelimiter_of_opener hopener]
  by_cases hne : opener = closer
  · subst hne
    rw [closingFrom_self]
    exact iff_of_false (nomatch ·) fun hblock => hblock.opener_ne_closer rfl
  by_cases hlt : start < close
  case neg =>
    refine iff_of_false (fun hclose => hlt ?_) fun hblock => hlt hblock.start_lt_close
    exact (closingFrom_eq_some hclose).1
  obtain ⟨length, rfl⟩ := Nat.exists_eq_add_of_le hlt
  rw [closingFrom_eq_some_iff hne, List.length_drop, ← isBalanced_extract_iff hne hopener]
  simp only [← isBalanced_extract_iff hne hopener]
  constructor
  · rintro ⟨hlength, hbalanced, hunbalanced⟩
    refine ⟨hopener, hne, hlt, by omega, hbalanced, fun between hstart hbetween => ?_⟩
    obtain ⟨shorter, rfl⟩ := Nat.exists_eq_add_of_le hstart
    exact hunbalanced shorter (by omega)
  · rintro ⟨-, -, -, hlength, hbalanced, hunbalanced⟩
    exact ⟨by omega, hbalanced, fun shorter hshorter =>
      hunbalanced (start + 1 + shorter) (by omega) (by omega)⟩

namespace IsBlock

theorem count_closer_lt (hblock : IsBlock opener closer bytes start close) (between : Nat)
    (hstart : start ≤ between) (hclose : between < close) :
    (bytes.extract start (between + 1)).count closer <
      (bytes.extract start (between + 1)).count opener := by
  obtain ⟨length, rfl⟩ := Nat.exists_eq_add_of_le hstart
  induction length with
  | zero =>
    rw [Nat.add_zero, extract_eq_cons hblock.opener_at (Nat.lt_succ_self start), extract_eq_nil,
      List.count_cons_of_ne hblock.opener_ne_closer, List.count_cons_self, List.count_nil]
    exact Nat.lt_succ_self 0
  | succ length ih =>
    have hbefore := ih (Nat.le_add_right start length) (by omega)
    have hunbalanced := hblock.not_isBalanced (start + (length + 1)) (by omega) hclose
    have hstep : bytes.extract start (start + length + 1) ++
        bytes.extract (start + length + 1) (start + (length + 1) + 1) =
          bytes.extract start (start + (length + 1) + 1) :=
      extract_append_extract (by omega) (by omega)
    have hone : (bytes.extract (start + length + 1) (start + (length + 1) + 1)).count closer ≤ 1 :=
      Nat.le_trans List.count_le_length (by simp [List.extract_eq_take_drop]; omega)
    -- One more byte raises neither count by more than one, and the two do not become equal.
    rw [IsBalanced, ← hstep, List.count_append, List.count_append] at hunbalanced
    rw [← hstep, List.count_append, List.count_append]
    omega

/-- A block that starts inside another one ends inside it. -/
theorem lt_or_lt {first second firstClose secondClose : Nat}
    (hfirst : IsBlock opener closer bytes first firstClose)
    (hsecond : IsBlock opener closer bytes second secondClose) (hlt : first < second) :
    firstClose < second ∨ secondClose < firstClose := by
  rcases Nat.lt_or_ge firstClose second with hbefore | hinside
  · exact Or.inl hbefore
  right
  have hfront := hfirst.count_closer_lt (second - 1) (by omega) (by omega)
  have hwhole := hfirst.isBalanced
  rw [Nat.sub_add_cancel (by omega)] at hfront
  rw [IsBalanced, ← extract_append_extract (Nat.le_of_lt hlt) (by omega), List.count_append,
    List.count_append] at hwhole
  -- From the second opener to the end of the first block the closers outnumber the openers.
  rcases Nat.lt_trichotomy secondClose firstClose with hless | rfl | hless
  · exact hless
  · have hback := hsecond.isBalanced
    rw [IsBalanced] at hback
    omega
  · have hback := hsecond.count_closer_lt firstClose hinside hless
    omega

end IsBlock

/-- The search finds the end of a block exactly where the block balances for the first time.  With
one counter that must not fall below zero it has the same outcome.  Of two blocks the first ends
before the second starts, or the second ends inside the first. -/
theorem closingDelimiter_balances (opener closer : UInt8) (bytes : List UInt8) :
    (∀ start close, closingDelimiter opener closer bytes start = some close ↔
      IsBlock opener closer bytes start close) ∧
    (∀ start, countedDelimiter? opener closer bytes start =
      some (closingDelimiter opener closer bytes start)) ∧
    ∀ first second firstClose secondClose, first < second →
      closingDelimiter opener closer bytes first = some firstClose →
      closingDelimiter opener closer bytes second = some secondClose →
      firstClose < second ∨ secondClose < firstClose := by
  refine ⟨fun start close => closingDelimiter_eq_some_iff, countedDelimiter?_eq opener closer bytes,
    fun first second firstClose secondClose hlt hfirst hsecond => ?_⟩
  exact (closingDelimiter_eq_some_iff.mp hfirst).lt_or_lt
    (closingDelimiter_eq_some_iff.mp hsecond) hlt

theorem closingDelimiter_balances_inner_block :
    let bytes := [openBrace, openBrace, closeBrace, space, closeBrace, openBrace, closeBrace]
    closingBrace bytes 0 = some 4 ∧ closingBrace bytes 1 = some 2 ∧
      IsBlock openBrace closeBrace bytes 0 4 ∧
      countedDelimiter? openBrace closeBrace bytes 0 = some (some 4) ∧ (4 < 1 ∨ 2 < 4) := by
  intro bytes
  have hfirst : closingBrace bytes 0 = some 4 := by decide
  have hsecond : closingBrace bytes 1 = some 2 := by decide
  obtain ⟨hblock, hcounted, hcross⟩ := closingDelimiter_balances openBrace closeBrace bytes
  exact ⟨hfirst, hsecond, (hblock 0 4).mp hfirst, (hcounted 0).trans (congrArg some hfirst),
    hcross 0 1 4 2 (by decide) hfirst hsecond⟩

end Java

end JavaDiff
