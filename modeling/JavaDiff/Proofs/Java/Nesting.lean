import JavaDiff.Proofs.Java.Delimiter

/-!
# Nesting

The brackets that are open in a text form a stack: an opener puts its closer on top, and a closer
has to be the one on top.  A search that counts the brackets of one pair knows nothing of the other
pair.  In a text that nests both it ends nevertheless where the stack is what it was in front of the
block.
-/

namespace JavaDiff

namespace Java

open Ascii

/-- The closer of an opening bracket. -/
def closerOf? (byte : UInt8) : Option UInt8 :=
  if byte = openParen then some closeParen
  else if byte = openBrace then some closeBrace
  else none

/-- Whether a byte is a closing bracket. -/
def isCloser (byte : UInt8) : Bool := byte == closeParen || byte == closeBrace

/-- The closers that are pending after one more byte, innermost first.  A closer other than the
innermost one breaks the nesting. -/
def pendingStep? (pending : List UInt8) (byte : UInt8) : Option (List UInt8) :=
  match closerOf? byte with
  | some closer => some (closer :: pending)
  | none =>
    if isCloser byte then
      if pending.head? = some byte then some pending.tail else none
    else some pending

/-- The closers that are pending behind a text, innermost first. -/
def pending? (pending bytes : List UInt8) : Option (List UInt8) :=
  bytes.foldlM pendingStep? pending

/-- Whether a text nests its parentheses and braces and closes them all. -/
def IsWellNested (bytes : List UInt8) : Prop := pending? [] bytes = some []

instance (bytes : List UInt8) : Decidable (IsWellNested bytes) :=
  inferInstanceAs (Decidable (pending? [] bytes = some []))

/-- Whether no brace is pending behind a text. -/
def ClosesBraces (pending bytes : List UInt8) : Prop :=
  ∃ later, pending? pending bytes = some later ∧ closeBrace ∉ later

section Steps

variable {pending later : List UInt8} {byte opener other closer : UInt8}

theorem isCloser_of_closerOf? (hpair : closerOf? opener = some closer) :
    isCloser closer = true := by
  grind [closerOf?, isCloser]

theorem closerOf?_eq_none_of_isCloser (hcloser : isCloser closer = true) :
    closerOf? closer = none := by
  grind [closerOf?, isCloser]

theorem closerOf?_injective (hpair : closerOf? opener = some closer)
    (hother : closerOf? other = some closer) : other = opener := by
  grind [closerOf?]

theorem not_bracket_of_property {property : UInt8 → Bool}
    (hproperty : [openParen, closeParen, openBrace, closeBrace].any property = false)
    (hbyte : property byte = true) : closerOf? byte = none ∧ isCloser byte = false := by
  have hne : ∀ bracket ∈ [openParen, closeParen, openBrace, closeBrace], byte ≠ bracket := by
    rintro bracket hmem rfl
    exact List.any_eq_false.mp hproperty byte hmem hbyte
  simp only [List.forall_mem_cons] at hne
  obtain ⟨hopenParen, hcloseParen, hopenBrace, hcloseBrace, -⟩ := hne
  simp [closerOf?, isCloser, hopenParen, hcloseParen, hopenBrace, hcloseBrace]

/-- A byte opens a bracket, closes the innermost one, or is no bracket. -/
theorem pendingStep?_eq_some (hstep : pendingStep? pending byte = some later) :
    (∃ closer, closerOf? byte = some closer ∧ later = closer :: pending) ∨
      (isCloser byte = true ∧ pending = byte :: later) ∨
      (closerOf? byte = none ∧ isCloser byte = false ∧ later = pending) := by
  unfold pendingStep? at hstep
  split at hstep
  · rename_i closer hopener
    exact Or.inl ⟨closer, hopener, (Option.some.inj hstep).symm⟩
  · rename_i hopener
    split at hstep
    · rename_i hcloser
      split at hstep
      · rename_i hhead
        obtain ⟨tail, rfl⟩ := List.head?_eq_some_iff.mp hhead
        obtain rfl := Option.some.inj hstep
        exact Or.inr (Or.inl ⟨hcloser, rfl⟩)
      · contradiction
    · rename_i hcloser
      exact Or.inr (Or.inr
        ⟨hopener, Bool.eq_false_iff.mpr hcloser, (Option.some.inj hstep).symm⟩)

theorem count_closeBrace_of_pendingStep? (hstep : pendingStep? pending byte = some later) :
    later.count closeBrace =
      if byte = openBrace then pending.count closeBrace + 1
      else if byte = closeBrace then pending.count closeBrace - 1
      else pending.count closeBrace := by
  rcases pendingStep?_eq_some hstep with ⟨closer, hopener, rfl⟩ | ⟨hcloser, rfl⟩ |
    ⟨hopener, hcloser, rfl⟩
  · grind [closerOf?]
  · grind [isCloser]
  · grind [closerOf?, isCloser]

theorem length_of_pendingStep? (hstep : pendingStep? pending byte = some later) :
    later.length =
      if byte = openBrace ∨ byte = openParen then pending.length + 1
      else if byte = closeBrace ∨ byte = closeParen then pending.length - 1
      else pending.length := by
  rcases pendingStep?_eq_some hstep with ⟨closer, hopener, rfl⟩ | ⟨hcloser, rfl⟩ |
    ⟨hopener, hcloser, rfl⟩
  · grind [closerOf?]
  · grind [isCloser]
  · grind [closerOf?, isCloser]

end Steps

section Texts

variable {pending later bytes front back : List UInt8} {byte : UInt8}

theorem pending?_cons (pending : List UInt8) (byte : UInt8) (bytes : List UInt8) :
    pending? pending (byte :: bytes) = (pendingStep? pending byte).bind (pending? · bytes) := rfl

theorem pending?_append (pending front back : List UInt8) :
    pending? pending (front ++ back) = (pending? pending front).bind (pending? · back) :=
  List.foldlM_append ..

theorem exists_of_pending?_cons (hpending : pending? pending (byte :: bytes) = some later) :
    ∃ next, pendingStep? pending byte = some next ∧ pending? next bytes = some later :=
  Option.bind_eq_some_iff.mp hpending

theorem exists_of_pending?_append (hpending : pending? pending (front ++ back) = some later) :
    ∃ next, pending? pending front = some next ∧ pending? next back = some later := by
  rw [pending?_append] at hpending
  exact Option.bind_eq_some_iff.mp hpending

theorem exists_pending?_take (hpending : pending? pending bytes = some later) (length : Nat) :
    ∃ next, pending? pending (bytes.take length) = some next ∧
      pending? next (bytes.drop length) = some later := by
  rw [← List.take_append_drop length bytes] at hpending
  exact exists_of_pending?_append hpending

theorem pending?_take_add (first second : Nat) (pending bytes : List UInt8) :
    pending? pending (bytes.take (first + second)) =
      (pending? pending (bytes.take first)).bind (pending? · ((bytes.drop first).take second)) := by
  rw [List.take_add, pending?_append]

theorem closesBraces_cons {next : List UInt8} (hstep : pendingStep? pending byte = some next) :
    ClosesBraces pending (byte :: bytes) ↔ ClosesBraces next bytes := by
  rw [ClosesBraces, pending?_cons, hstep, Option.bind_some]
  rfl

theorem pending?_eq_of_forall (pending : List UInt8)
    (hbytes : ∀ byte ∈ bytes, closerOf? byte = none ∧ isCloser byte = false) :
    pending? pending bytes = some pending := by
  induction bytes with
  | nil => rfl
  | cons byte bytes ih =>
    obtain ⟨⟨hopener, hcloser⟩, hrest⟩ := List.forall_mem_cons.mp hbytes
    have hstep : pendingStep? pending byte = some pending := by
      simp [pendingStep?, hopener, hcloser]
    rw [pending?_cons, hstep, Option.bind_some, ih hrest]

theorem count_closeBrace_eq_of_forall (hpending : pending? pending bytes = some later)
    (hbytes : ∀ byte ∈ bytes, byte ≠ openBrace ∧ byte ≠ closeBrace) :
    later.count closeBrace = pending.count closeBrace := by
  induction bytes generalizing pending with
  | nil => rw [Option.some.inj hpending]
  | cons byte bytes ih =>
    obtain ⟨next, hstep, hrest⟩ := exists_of_pending?_cons hpending
    obtain ⟨⟨hopen, hclose⟩, hbytes⟩ := List.forall_mem_cons.mp hbytes
    rw [ih hrest hbytes, count_closeBrace_of_pendingStep? hstep, if_neg hopen, if_neg hclose]

end Texts

section Blocks

variable {opener closer : UInt8} {lower later bytes : List UInt8} {offset close : Nat}

/-- One byte of a block.  Either it ends the block and leaves the closers from in front of it, or
the search goes on at a depth that counts its own closer among those above. -/
theorem closingFrom_step {byte : UInt8} {upper : List UInt8}
    (hpair : closerOf? opener = some closer)
    (hclose : closingFrom opener closer (upper.count closer) offset (byte :: bytes) = some close)
    (hstep : pendingStep? (upper ++ closer :: lower) byte = some later) :
    (later = lower ∧ close = offset) ∨
      ∃ above, later = above ++ closer :: lower ∧
        closingFrom opener closer (above.count closer) (offset + 1) bytes = some close := by
  have hnone := closerOf?_eq_none_of_isCloser (isCloser_of_closerOf? hpair)
  unfold closingFrom at hclose
  rcases pendingStep?_eq_some hstep with ⟨other, hother, rfl⟩ | ⟨hcloser, hpending⟩ |
    ⟨hnot, hcloser, rfl⟩
  · -- An opener of the other pair puts a closer on top that is not counted.
    refine Or.inr ⟨other :: upper, rfl, ?_⟩
    by_cases hopener : byte = opener
    · obtain rfl : closer = other := Option.some.inj (by rw [← hpair, ← hother, hopener])
      rwa [if_pos hopener, ← List.count_cons_self] at hclose
    · have hbyte : byte ≠ closer := by
        rintro rfl
        rw [hnone] at hother
        contradiction
      have hne : other ≠ closer := by
        rintro rfl
        exact hopener (closerOf?_injective hpair hother)
      rwa [if_neg hopener, if_neg hbyte, ← List.count_cons_of_ne hne] at hclose
  · have hopener : byte ≠ opener := by
      rintro rfl
      rw [closerOf?_eq_none_of_isCloser hcloser] at hpair
      contradiction
    rw [if_neg hopener] at hclose
    cases upper with
    | nil =>
      obtain ⟨rfl, rfl⟩ := List.cons.inj hpending
      rw [if_pos rfl] at hclose
      exact Or.inl ⟨rfl, (Option.some.inj hclose).symm⟩
    | cons top upper =>
      obtain ⟨rfl, rfl⟩ := List.cons.inj hpending
      refine Or.inr ⟨upper, rfl, ?_⟩
      by_cases htop : top = closer
      · rwa [if_pos htop, htop, List.count_cons_self] at hclose
      · rwa [if_neg htop, List.count_cons_of_ne htop] at hclose
  · refine Or.inr ⟨upper, rfl, ?_⟩
    have hopener : byte ≠ opener := by
      rintro rfl
      rw [hpair] at hnot
      contradiction
    have hbyte : byte ≠ closer := by
      rintro rfl
      rw [isCloser_of_closerOf? hpair] at hcloser
      contradiction
    rwa [if_neg hopener, if_neg hbyte] at hclose

/-- Inside a block the closer of the block stays pending. -/
theorem exists_above_of_closingFrom (upper : List UInt8) (hpair : closerOf? opener = some closer)
    (hclose : closingFrom opener closer (upper.count closer) offset bytes = some close)
    {length : Nat} (hlength : offset + length ≤ close)
    (hpending : pending? (upper ++ closer :: lower) (bytes.take length) = some later) :
    ∃ above, later = above ++ closer :: lower := by
  induction bytes generalizing upper offset length with
  | nil => simp [closingFrom] at hclose
  | cons byte bytes ih =>
    cases length with
    | zero => exact ⟨upper, (Option.some.inj hpending).symm⟩
    | succ length =>
      obtain ⟨next, hstep, hrest⟩ := exists_of_pending?_cons hpending
      rcases closingFrom_step hpair hclose hstep with ⟨-, rfl⟩ | ⟨above, rfl, hclose⟩
      · omega
      · exact ih above hclose (by omega) hrest

/-- Behind a block the closers are pending that were so in front of it. -/
theorem eq_of_closingFrom (upper : List UInt8) (hpair : closerOf? opener = some closer)
    (hclose : closingFrom opener closer (upper.count closer) offset bytes = some close)
    (hpending :
      pending? (upper ++ closer :: lower) (bytes.take (close + 1 - offset)) = some later) :
    later = lower := by
  induction bytes generalizing upper offset with
  | nil => simp [closingFrom] at hclose
  | cons byte bytes ih =>
    have hle := (closingFrom_eq_some hclose).1
    rw [show close + 1 - offset = close - offset + 1 by omega, List.take_succ_cons] at hpending
    obtain ⟨next, hstep, hrest⟩ := exists_of_pending?_cons hpending
    rcases closingFrom_step hpair hclose hstep with ⟨rfl, rfl⟩ | ⟨above, rfl, hlater⟩
    · rw [Nat.sub_self, List.take_zero] at hrest
      exact (Option.some.inj hrest).symm
    · have hbehind := (closingFrom_eq_some hlater).1
      refine ih above hlater ?_
      rwa [show close + 1 - (offset + 1) = close - offset by omega]

end Blocks

end Java

end JavaDiff
