import JavaDiff.Java.Mask
import JavaDiff.Outline.Skeleton
import JavaDiff.Proofs.Java.Balance
import JavaDiff.Proofs.Java.Declaration

/-!
# Types inside one another

Each declaration is found on its own, and still the bodies of two declarations never overlap in
part: they are blocks of the same bytes.  The way from a keyword to the brace that opens a body
holds no brace, so the same goes for whole declarations.  Records are an exception, because the
component list between their name and their body may hold anything.
-/

namespace JavaDiff

namespace Span

/-- Whether one span ends before the other starts. -/
def IsApart (left right : Span) : Prop := left.stop ≤ right.start ∨ right.stop ≤ left.start

/-- Whether a span reaches over another one. -/
structure Contains (outer inner : Span) : Prop where
  start_le : outer.start ≤ inner.start
  stop_le : inner.stop ≤ outer.stop

/-- Whether a span reaches over another one on both sides. -/
structure Encloses (outer inner : Span) : Prop where
  start_lt : outer.start < inner.start
  stop_lt : inner.stop < outer.stop

theorem IsApart.symm {left right : Span} (hapart : left.IsApart right) : right.IsApart left :=
  Or.symm hapart

end Span

namespace Java

open Ascii

/-- The span of a body that ends at `close`, with its braces. -/
def Declaration.bodySpan (declaration : Declaration) (close : Nat) : Span :=
  ⟨declaration.opening, close + 1⟩

/-- The span of a declaration whose body ends at `close`, from its keyword on. -/
def Declaration.wholeSpan (declaration : Declaration) (close : Nat) : Span :=
  ⟨declaration.head.start, close + 1⟩

variable {masked : List Char}

/-- Whether a character stands in no keyword, blanks or name. -/
structure IsOutsideHeads (character : Char) : Prop where
  notMem_keyword : ∀ kind ∈ TypeKind.all, character ∉ kind.keyword.toList
  isBlank_eq : Blank.isBlank character = false
  continuesName_eq : continuesName character = false

theorem IsOutsideHeads.notMem_text {head : HeadText} {right : List Char} {character : Char}
    (houtside : IsOutsideHeads character) (hhead : head.IsHead right) : character ∉ head.text := by
  obtain ⟨first, others, hparts, hfirst, hothers⟩ := hhead.exists_name_eq
  rw [HeadText.text, hparts, List.mem_append, List.mem_append, List.mem_cons]
  rintro ((hmem | hmem) | rfl | hmem)
  · exact houtside.notMem_keyword _ (by cases head.kind <;> decide) hmem
  · have hblank := hhead.isBlank_of_mem character hmem
    exact Bool.false_ne_true (houtside.isBlank_eq.symm.trans hblank)
  · have hname := houtside.continuesName_eq
    rw [continuesName, hfirst] at hname
    cases hname
  · exact Bool.false_ne_true (houtside.continuesName_eq.symm.trans (hothers character hmem))

theorem exists_isOutsideHeads_of_endsHead {byte : UInt8} (hbyte : endsHead byte = true) :
    ∃ character, String.utf8EncodeChar character = [byte] ∧ byte < 128 ∧
      IsOutsideHeads character := by
  have hmem : byte = openBrace ∨ byte = semicolon ∨ byte = closeBrace ∨ byte = openParen := by
    simpa [endsHead, or_assoc] using hbyte
  rcases hmem with rfl | rfl | rfl | rfl
  · exact ⟨'{', rfl, by decide, by decide, by decide +kernel, by decide +kernel⟩
  · exact ⟨';', rfl, by decide, by decide, by decide +kernel, by decide +kernel⟩
  · exact ⟨'}', rfl, by decide, by decide, by decide +kernel, by decide +kernel⟩
  · exact ⟨'(', rfl, by decide, by decide, by decide +kernel, by decide +kernel⟩

theorem endsHead_eq_false_of_mem_heads {head : Head} (hhead : head ∈ heads masked) {offset : Nat}
    {byte : UInt8} (hstart : head.start ≤ offset) (hstop : offset < head.stop)
    (hbyte : (Utf8.encode masked)[offset]? = some byte) : endsHead byte = false := by
  obtain ⟨left, right, headText, rfl, hparts, -, hplace⟩ := exists_isHead_of_mem_headsFrom hhead
  simp only [hplace, Nat.zero_add] at hstart hstop
  have hinside : (Utf8.encode headText.text)[offset - Utf8.size left]? = some byte := by
    rw [Utf8.encode_append, Utf8.encode_append, List.append_assoc,
      List.getElem?_append_right (by rw [Utf8.length_encode]; exact hstart),
      List.getElem?_append_left (by rw [Utf8.length_encode, Utf8.length_encode]; omega),
      Utf8.length_encode] at hbyte
    exact hbyte
  refine Bool.eq_false_iff.mpr fun hends => ?_
  obtain ⟨character, hencode, hascii, houtside⟩ := exists_isOutsideHeads_of_endsHead hends
  obtain ⟨front, back, htext, -⟩ := Utf8.exists_append_of_ascii hinside hascii hencode
  refine houtside.notMem_text hparts ?_
  rw [htext]
  exact List.mem_append_right front List.mem_cons_self

/-- Unless a record is declared, the body opens with the first byte behind the head that ends it. -/
theorem Head.opening?_eq_headEnd? {head : Head} {bytes : List UInt8} {opening : Nat}
    (hkind : head.kind ≠ .recordType) (hopening : head.opening? bytes = some opening) :
    headEnd? openBrace bytes head.stop = some opening := by
  unfold opening? at hopening
  split at hopening
  · cases hopening
  · split at hopening
    · rename_i hrecord
      exact absurd hrecord hkind
    · exact hopening

section Declarations

variable {declaration first second : Declaration} {close firstClose secondClose : Nat}

/-- Unless a record is declared, no byte that would end a head stands between the keyword and the
body. -/
theorem endsHead_eq_false_of_lt_opening (hmem : declaration ∈ declarations masked)
    (hkind : declaration.head.kind ≠ .recordType) {offset : Nat} {byte : UInt8}
    (hstart : declaration.head.start ≤ offset) (hopening : offset < declaration.opening)
    (hbyte : (Utf8.encode masked)[offset]? = some byte) : endsHead byte = false := by
  obtain ⟨hhead, hsome, -⟩ := mem_declarations.mp hmem
  rcases Nat.lt_or_ge offset declaration.head.stop with hinside | hbehind
  · exact endsHead_eq_false_of_mem_heads hhead hstart hinside hbyte
  · obtain ⟨hnext, -⟩ := headEnd?_eq_some_iff.mp (Head.opening?_eq_headEnd? hkind hsome)
    exact eq_false_of_nextOffset hnext hbehind hopening hbyte

theorem pairwise_stop_declarations (masked : List Char) :
    (declarations masked).Pairwise fun earlier later => earlier.head.stop ≤ later.head.start := by
  rw [declarations, List.pairwise_filterMap]
  apply (pairwise_headsFrom 0 none 0 masked).imp
  intro earlier later hle first hfirst second hsecond
  obtain ⟨-, -, rfl⟩ := Option.map_eq_some_iff.mp hfirst
  obtain ⟨-, -, rfl⟩ := Option.map_eq_some_iff.mp hsecond
  exact hle

theorem isBlock_of_mem_declarations (hmem : declaration ∈ declarations masked)
    (hclose : declaration.closing? = some close) :
    IsBlock openBrace closeBrace (Utf8.encode masked) declaration.opening close :=
  closingDelimiter_eq_some_iff.mp ((mem_declarations.mp hmem).2.2.trans hclose)

theorem bodySpan_cases (hfirst : first ∈ declarations masked)
    (hsecond : second ∈ declarations masked) (hfirstClose : first.closing? = some firstClose)
    (hsecondClose : second.closing? = some secondClose) :
    first.bodySpan firstClose = second.bodySpan secondClose ∨
      (first.bodySpan firstClose).IsApart (second.bodySpan secondClose) ∨
      (first.bodySpan firstClose).Encloses (second.bodySpan secondClose) ∨
      (second.bodySpan secondClose).Encloses (first.bodySpan firstClose) := by
  have hfirstBlock := isBlock_of_mem_declarations hfirst hfirstClose
  have hsecondBlock := isBlock_of_mem_declarations hsecond hsecondClose
  rcases Nat.lt_trichotomy first.opening second.opening with hlt | hequal | hgt
  · rcases hfirstBlock.lt_or_lt hsecondBlock hlt with hbefore | hinside
    · exact Or.inr (Or.inl (Or.inl hbefore))
    · exact Or.inr (Or.inr (Or.inl ⟨hlt, Nat.succ_lt_succ hinside⟩))
  · have hclose : firstClose = secondClose := by
      rw [hequal] at hfirstBlock
      exact Option.some.inj ((closingDelimiter_eq_some_iff.mpr hfirstBlock).symm.trans
        (closingDelimiter_eq_some_iff.mpr hsecondBlock))
    rw [Declaration.bodySpan, Declaration.bodySpan, hequal, hclose]
    exact Or.inl rfl
  · rcases hsecondBlock.lt_or_lt hfirstBlock hgt with hbefore | hinside
    · exact Or.inr (Or.inl (Or.inr hbefore))
    · exact Or.inr (Or.inr (Or.inr ⟨hgt, Nat.succ_lt_succ hinside⟩))

/-- Of two declarations that are no records the later one stands inside the body of the earlier one
or behind it, or the two share a body. -/
theorem wholeSpan_cases (hfirst : first ∈ declarations masked)
    (hsecond : second ∈ declarations masked) (hfirstClose : first.closing? = some firstClose)
    (hsecondClose : second.closing? = some secondClose)
    (hfirstKind : first.head.kind ≠ .recordType) (hsecondKind : second.head.kind ≠ .recordType)
    (hheads : first.head.stop ≤ second.head.start) :
    (first.wholeSpan firstClose).IsApart (second.wholeSpan secondClose) ∨
      (first.wholeSpan firstClose).Contains (second.wholeSpan secondClose) := by
  have hcomplete := isComplete_of_mem_declarations hfirst hfirstClose
  have hlater := isComplete_of_mem_declarations hsecond hsecondClose
  have hstart := start_lt_stop_of_mem_heads (mem_declarations.mp hfirst).1
  have hkeyword := hlater.keyword_le_opening
  -- The first brace behind the earlier keyword opens the earlier body.
  have hopening : first.opening ≤ second.opening := by
    refine Nat.not_lt.mp fun hlt => ?_
    have hnot := endsHead_eq_false_of_lt_opening hfirst hfirstKind (by omega) hlt
      hlater.openBrace_at
    cases hnot
  have hcontains (hle : secondClose ≤ firstClose) :
      (first.wholeSpan firstClose).Contains (second.wholeSpan secondClose) :=
    ⟨by simp only [Declaration.wholeSpan]; omega, Nat.succ_le_succ hle⟩
  rcases bodySpan_cases hfirst hsecond hfirstClose hsecondClose with hequal | (hbefore | hbehind) |
    hencloses | hencloses
  · exact Or.inr (hcontains (Nat.le_of_eq (Nat.succ.inj (Span.mk.inj hequal).2).symm))
  · -- No brace stands between the later keyword and the later body, so the keyword is behind.
    refine Or.inl (Or.inl (Nat.not_lt.mp fun hlt => ?_))
    have hnot := endsHead_eq_false_of_lt_opening hsecond hsecondKind (Nat.le_of_lt_succ hlt)
      hbefore hcomplete.closeBrace_at
    cases hnot
  · have hclose := hlater.opening_lt_close
    simp only [Declaration.bodySpan] at hbehind
    omega
  · exact Or.inr (hcontains (Nat.le_of_lt (Nat.lt_of_succ_lt_succ hencloses.stop_lt)))
  · exact absurd hencloses.start_lt (Nat.not_lt.mpr hopening)

/-- The bodies of two declarations of a text are the same, apart, or one inside the other.  Unless
one of them is a record, the declarations from their keywords on are apart or one inside the
other. -/
theorem nested_or_apart_of_mem_declarations (hfirst : first ∈ declarations masked)
    (hsecond : second ∈ declarations masked) (hfirstClose : first.closing? = some firstClose)
    (hsecondClose : second.closing? = some secondClose) :
    (first.bodySpan firstClose = second.bodySpan secondClose ∨
      (first.bodySpan firstClose).IsApart (second.bodySpan secondClose) ∨
      (first.bodySpan firstClose).Encloses (second.bodySpan secondClose) ∨
      (second.bodySpan secondClose).Encloses (first.bodySpan firstClose)) ∧
    (first.head.kind ≠ .recordType → second.head.kind ≠ .recordType →
      (first.wholeSpan firstClose).IsApart (second.wholeSpan secondClose) ∨
      (first.wholeSpan firstClose).Contains (second.wholeSpan secondClose) ∨
      (second.wholeSpan secondClose).Contains (first.wholeSpan firstClose)) := by
  refine ⟨bodySpan_cases hfirst hsecond hfirstClose hsecondClose, fun hfirstKind hsecondKind => ?_⟩
  rcases eq_or_lt_of_pairwise (pairwise_stop_declarations masked) hfirst hsecond with rfl | hheads |
    hheads
  · obtain rfl := Option.some.inj (hfirstClose.symm.trans hsecondClose)
    exact Or.inr (Or.inl ⟨Nat.le_refl _, Nat.le_refl _⟩)
  · exact (wholeSpan_cases hfirst hsecond hfirstClose hsecondClose hfirstKind hsecondKind
      hheads).imp_right Or.inl
  · exact (wholeSpan_cases hsecond hfirst hsecondClose hfirstClose hsecondKind hfirstKind
      hheads).imp Span.IsApart.symm Or.inr

end Declarations

/-- Two keywords share a body. -/
theorem nested_or_apart_shared_body :
    let masked := (mask "class A enum B \x7b class C \x7b \x7d \x7d").toList
    let first : Declaration := ⟨⟨.classType, "A", 0, 7⟩, 15, some 29⟩
    let second : Declaration := ⟨⟨.enumType, "B", 8, 14⟩, 15, some 29⟩
    (first ∈ declarations masked ∧ second ∈ declarations masked) ∧
      (first.bodySpan 29 = second.bodySpan 29 ∨ (first.bodySpan 29).IsApart (second.bodySpan 29) ∨
        (first.bodySpan 29).Encloses (second.bodySpan 29) ∨
        (second.bodySpan 29).Encloses (first.bodySpan 29)) ∧
      ((first.wholeSpan 29).IsApart (second.wholeSpan 29) ∨
        (first.wholeSpan 29).Contains (second.wholeSpan 29) ∨
        (second.wholeSpan 29).Contains (first.wholeSpan 29)) := by
  intro masked first second
  have hfirst : first ∈ declarations masked := by decide +kernel
  have hsecond : second ∈ declarations masked := by decide +kernel
  obtain ⟨hbodies, hwhole⟩ := nested_or_apart_of_mem_declarations hfirst hsecond rfl rfl
  exact ⟨⟨hfirst, hsecond⟩, hbodies, hwhole (by decide) (by decide)⟩

/-- The component list of a record may hold the start of a class that ends behind the record. -/
example : declarations "record R(class A \x7b) \x7b \x7d \x7d".toList =
    [⟨⟨.recordType, "R", 0, 8⟩, 20, some 22⟩, ⟨⟨.classType, "A", 9, 16⟩, 17, some 24⟩] := by
  decide +kernel

end Java

end JavaDiff
