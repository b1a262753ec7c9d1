import JavaDiff.Outline.Skeleton
import JavaDiff.Proofs.NameMap
import JavaDiff.Proofs.Text.Boundary
import Mathlib.Data.List.Basic

/-!
# What a skeleton leaves out

When the methods of a type stand in its text at their offsets and no two of them overlap, the
skeleton is what the text leaves when each of them is taken out at its offset.  Conversely the
skeleton and the methods at their offsets make up the text, so they determine it.
-/

namespace JavaDiff

/-- A part of a text with its offset. -/
structure Piece where
  /-- The offset of the first byte. -/
  start : Nat
  /-- The characters of the part. -/
  text : List Char
deriving DecidableEq

namespace Piece

/-- The offset after the last byte. -/
def stop (piece : Piece) : Nat := piece.start + Utf8.size piece.text

/-- The offsets of a piece. -/
def span (piece : Piece) : Span := ⟨piece.start, piece.stop⟩

end Piece

/-- Whether a text that starts at `offset` leaves `kept` when the pieces, in the order in which they
stand there, are taken out at their offsets. -/
def Leaves (offset : Nat) : List Piece → List Char → List Char → Prop
  | [], text, kept => text = kept
  | piece :: pieces, text, kept => ∃ front back rest, text = front ++ piece.text ++ back ∧
      kept = front ++ rest ∧ piece.start = offset + Utf8.size front ∧
      Leaves piece.stop pieces back rest

namespace Leaves

/-- The pieces at their offsets and what is left without them determine a text. -/
theorem text_eq {offset : Nat} {pieces : List Piece} {text other kept : List Char}
    (htext : Leaves offset pieces text kept) (hother : Leaves offset pieces other kept) :
    text = other := by
  induction pieces generalizing offset text other kept with
  | nil => exact htext.trans hother.symm
  | cons piece pieces ih =>
    obtain ⟨front, back, rest, rfl, rfl, hstart, hback⟩ := htext
    obtain ⟨first, second, third, rfl, hkept, hfirst, hsecond⟩ := hother
    -- Both fronts start the kept text, and the offset of the piece says that they are as long.
    have hsize : Utf8.size front = Utf8.size first := by omega
    obtain ⟨middle, hmiddle, hrest⟩ :=
      Utf8.exists_append_of_size_le hkept (Nat.le_of_eq hsize)
    have hnil : middle = [] := by
      apply Utf8.eq_nil_of_size_eq_zero
      rw [hmiddle, Utf8.size_append] at hsize
      omega
    subst hnil
    rw [List.append_nil] at hmiddle
    rw [List.nil_append] at hrest
    subst hmiddle hrest
    rw [ih hback hsecond]

theorem perm {offset : Nat} {pieces : List Piece} {text kept : List Char}
    (hleaves : Leaves offset pieces text kept) : text.Perm (kept ++ pieces.flatMap Piece.text) := by
  induction pieces generalizing offset text kept with
  | nil =>
    obtain rfl : text = kept := hleaves
    simp
  | cons piece pieces ih =>
    obtain ⟨front, back, rest, rfl, rfl, -, hback⟩ := hleaves
    have hback : (front ++ (piece.text ++ back)).Perm
        (front ++ (piece.text ++ (rest ++ pieces.flatMap Piece.text))) :=
      ((ih hback).append_left piece.text).append_left front
    have hswap : (front ++ (piece.text ++ (rest ++ pieces.flatMap Piece.text))).Perm
        (front ++ (rest ++ (piece.text ++ pieces.flatMap Piece.text))) :=
      (List.perm_append_comm_assoc ..).append_left front
    simpa only [List.append_assoc, List.flatMap_cons] using hback.trans hswap

/-- Removing the spans of the pieces leaves what is left without the pieces. -/
theorem removeSpans?_eq {pieces : List Piece} {text kept : List Char} (before : List Char)
    (hleaves : Leaves (Utf8.size before) pieces text kept) :
    DeclaredType.removeSpans? (before ++ text) (Utf8.size before) (pieces.map Piece.span) =
      some kept := by
  induction pieces generalizing before text kept with
  | nil =>
    obtain rfl : text = kept := hleaves
    exact Utf8.cut?_eq_some_iff.mpr ⟨before, [], by simp, rfl, by simp⟩
  | cons piece pieces ih =>
    obtain ⟨front, back, rest, rfl, rfl, hstart, hback⟩ := hleaves
    have hstop : piece.stop = Utf8.size (before ++ front ++ piece.text) := by
      rw [Piece.stop, hstart, Utf8.size_append, Utf8.size_append]
    have hfront : Utf8.cut? (before ++ (front ++ piece.text ++ back)) (Utf8.size before)
        (Utf8.size before + Utf8.size front) = some front :=
      Utf8.cut?_eq_some_iff.mpr ⟨before, piece.text ++ back, by simp, rfl, rfl⟩
    rw [hstop] at hback
    have hlater := ih _ hback
    rw [← hstop] at hlater
    have hskip : ¬ Utf8.size before + Utf8.size front < Utf8.size before := by omega
    have hspan : piece.span = ⟨Utf8.size before + Utf8.size front, piece.stop⟩ := by
      rw [Piece.span, hstart]
    rw [List.map_cons, hspan, DeclaredType.removeSpans?, if_neg hskip, hfront]
    simp only [List.append_assoc] at hlater ⊢
    simp [hlater]

/-- Pieces that stand in a text, each behind the one before, can be taken out of it. -/
theorem exists_of_pairwise {offset : Nat} {pieces : List Piece} {text : List Char}
    (hplaced : ∀ piece ∈ pieces, ∃ left right,
      text = left ++ piece.text ++ right ∧ piece.start = offset + Utf8.size left)
    (hordered : pieces.Pairwise fun earlier later => earlier.stop ≤ later.start) :
    ∃ kept, Leaves offset pieces text kept := by
  induction pieces generalizing offset text with
  | nil => exact ⟨text, rfl⟩
  | cons piece pieces ih =>
    obtain ⟨hbehind, hordered⟩ := List.pairwise_cons.mp hordered
    obtain ⟨front, back, rfl, hstart⟩ := hplaced piece List.mem_cons_self
    have hback : ∀ later ∈ pieces, ∃ left right,
        back = left ++ later.text ++ right ∧ later.start = piece.stop + Utf8.size left := by
      intro later hlater
      obtain ⟨left, right, htext, hlaterStart⟩ := hplaced later (List.mem_cons_of_mem _ hlater)
      have hle := hbehind later hlater
      rw [Piece.stop] at hle
      rw [List.append_assoc left] at htext
      obtain ⟨middle, rfl, hrest⟩ := Utf8.exists_append_of_size_le htext
        (by rw [Utf8.size_append]; omega)
      refine ⟨middle, right, by rw [hrest, List.append_assoc], ?_⟩
      rw [Piece.stop, hlaterStart, hstart, Utf8.size_append, Utf8.size_append]
      omega
    obtain ⟨rest, hrest⟩ := ih hback hordered
    exact ⟨front ++ rest, front, back, rest, rfl, rfl, hstart, hrest⟩

end Leaves

theorem Span.before_iff {left right : Span} :
    left.before right = true ↔
      left.start < right.start ∨ left.start = right.start ∧ left.stop ≤ right.stop := by
  simp [before]

theorem Span.before_trans {first second third : Span} (hfirst : first.before second = true)
    (hsecond : second.before third = true) : first.before third = true := by
  rw [before_iff] at hfirst hsecond ⊢
  omega

theorem Span.before_total (first second : Span) :
    (first.before second || second.before first) = true := by
  rw [Bool.or_eq_true, before_iff, before_iff]
  omega

theorem Span.any_wrapsInto_eq_false {spans : List Span} {size : Nat}
    (hspans : ∀ span ∈ spans, span.stop ≤ size ∨ span.stop < offsetCount) :
    spans.any (·.wrapsInto size) = false := by
  rw [List.any_eq_false]
  intro span hspan
  have hstop := hspans span hspan
  simp only [wrapsInto, Bool.and_eq_true, decide_eq_true_eq]
  omega

namespace DeclaredType

/-- A skeleton is what the text leaves without the spans that end in it, unless the end of a span
wraps around. -/
theorem skeleton_eq {type : DeclaredType} (hspans : ∀ span ∈ type.methodSpans,
      span.stop ≤ Utf8.size type.text.toList ∨ span.stop < Span.offsetCount) :
    type.skeleton =
      match removeSpans? type.text.toList 0
        ((type.methodSpans.filter (·.stop ≤ Utf8.size type.text.toList)).mergeSort
          Span.before) with
      | some kept => .ok (String.ofList kept)
      | none => .error .splitCharacter := by
  rw [skeleton]
  simp only [Span.any_wrapsInto_eq_false hspans]
  rfl

/-- A method of a type with its offset in the type. -/
def piece (type : DeclaredType) (method : Method) : Piece :=
  ⟨method.startByte - type.startByte, method.text.toList⟩

/-- The methods of a type in the order of their spans. -/
def pieces (type : DeclaredType) : List Piece :=
  (type.methods.values.map type.piece).mergeSort fun first second =>
    first.span.before second.span

theorem pieces_perm (type : DeclaredType) :
    type.pieces.Perm (type.methods.values.map type.piece) :=
  List.mergeSort_perm ..

/-- The pieces of a type have the characters of its methods. -/
theorem flatMap_pieces_perm (type : DeclaredType) :
    (type.pieces.flatMap Piece.text).Perm
      (type.methods.values.flatMap fun method => method.text.toList) := by
  refine (type.pieces_perm.flatMap_right Piece.text).trans ?_
  rw [List.flatMap_map]
  exact List.Perm.refl _

/-- Whether the methods of a type stand in its text at their offsets, none of them empty and no two
of them overlapping. -/
structure HoldsMethods (type : DeclaredType) : Prop where
  exists_append : ∀ name method, type.methods.get? name = some method → ∃ left right,
    type.text.toList = left ++ method.text.toList ++ right ∧
      method.startByte = type.startByte + Utf8.size left
  size_pos : ∀ name method, type.methods.get? name = some method →
    0 < Utf8.size method.text.toList
  disjoint : ∀ name other method second, name ≠ other →
    type.methods.get? name = some method → type.methods.get? other = some second →
    method.startByte + Utf8.size method.text.toList ≤ second.startByte ∨
      second.startByte + Utf8.size second.text.toList ≤ method.startByte

namespace HoldsMethods

variable {type : DeclaredType}

theorem exists_append_of_mem_values (hholds : type.HoldsMethods) {method : Method}
    (hmethod : method ∈ type.methods.values) : ∃ left right,
      type.text.toList = left ++ method.text.toList ++ right ∧
        method.startByte = type.startByte + Utf8.size left := by
  obtain ⟨⟨name, _⟩, hentry, rfl⟩ := List.mem_map.mp hmethod
  exact hholds.exists_append name _ (NameMap.get?_eq_some_iff.mpr hentry)

theorem exists_of_mem_pieces (hholds : type.HoldsMethods) {piece : Piece}
    (hpiece : piece ∈ type.pieces) : ∃ left right,
      type.text.toList = left ++ piece.text ++ right ∧ piece.start = 0 + Utf8.size left := by
  rw [pieces, List.mem_mergeSort] at hpiece
  obtain ⟨method, hmethod, rfl⟩ := List.mem_map.mp hpiece
  obtain ⟨left, right, htext, hstart⟩ := hholds.exists_append_of_mem_values hmethod
  refine ⟨left, right, htext, ?_⟩
  simp only [DeclaredType.piece] at hstart ⊢
  omega

theorem pairwise_pieces (hholds : type.HoldsMethods) :
    type.pieces.Pairwise fun earlier later => earlier.stop ≤ later.start := by
  have hsorted : type.pieces.Pairwise fun earlier later =>
      earlier.span.before later.span = true := by
    apply List.pairwise_mergeSort
    · exact fun _ _ _ => Span.before_trans
    · exact fun first second => Span.before_total first.span second.span
  have hdisjoint : type.pieces.Pairwise fun first second =>
      0 < Utf8.size second.text ∧ 0 < Utf8.size first.text ∧
        (first.stop ≤ second.start ∨ second.stop ≤ first.start) := by
    refine (List.mergeSort_perm _ _).symm.pairwise ?_ fun ⟨hsecond, hfirst, hor⟩ =>
      ⟨hfirst, hsecond, hor.symm⟩
    rw [List.pairwise_map, NameMap.values, List.pairwise_map]
    apply (List.pairwise_map.mp type.methods.ascending).imp_of_mem
    intro first second hfirst hsecond hless
    rw [← Prod.eta first, ← NameMap.get?_eq_some_iff] at hfirst
    rw [← Prod.eta second, ← NameMap.get?_eq_some_iff] at hsecond
    have hdifferent : first.1 ≠ second.1 := fun hequal =>
      String.lt_irrefl _ (hequal ▸ hless)
    obtain ⟨left, -, -, hleft⟩ := hholds.exists_append _ _ hfirst
    obtain ⟨right, -, -, hright⟩ := hholds.exists_append _ _ hsecond
    have hapart := hholds.disjoint _ _ _ _ hdifferent hfirst hsecond
    refine ⟨hholds.size_pos _ _ hsecond, hholds.size_pos _ _ hfirst, ?_⟩
    simp only [Piece.stop, DeclaredType.piece]
    omega
  refine hsorted.imp₂ ?_ hdisjoint
  intro earlier later hbefore ⟨hlater, hearlier, hapart⟩
  simp only [Span.before_iff, Piece.span, Piece.stop] at hbefore hapart ⊢
  omega

theorem methodSpans_eq (hholds : type.HoldsMethods) :
    type.methodSpans = (type.methods.values.map type.piece).map Piece.span := by
  rw [methodSpans, List.map_map, ← List.filterMap_eq_map]
  apply List.filterMap_congr
  intro method hmethod
  obtain ⟨left, right, -, hstart⟩ := hholds.exists_append_of_mem_values hmethod
  exact if_pos (by omega)

theorem stop_le_size (hholds : type.HoldsMethods) {span : Span}
    (hspan : span ∈ type.methodSpans) : span.stop ≤ Utf8.size type.text.toList := by
  rw [hholds.methodSpans_eq] at hspan
  obtain ⟨piece, hpiece, rfl⟩ := List.mem_map.mp hspan
  obtain ⟨left, right, htext, hstart⟩ :=
    hholds.exists_of_mem_pieces (List.mem_mergeSort.mpr hpiece)
  simp only [htext, Utf8.size_append, Piece.span, Piece.stop]
  omega

theorem filter_methodSpans_eq (hholds : type.HoldsMethods) :
    type.methodSpans.filter (·.stop ≤ Utf8.size type.text.toList) = type.methodSpans := by
  rw [List.filter_eq_self]
  exact fun span hspan => decide_eq_true (hholds.stop_le_size hspan)

/-- The skeleton is what the text leaves without the methods. -/
theorem exists_skeleton (hholds : type.HoldsMethods) : ∃ kept,
    type.skeleton = .ok kept ∧ Leaves 0 type.pieces type.text.toList kept.toList := by
  obtain ⟨kept, hkept⟩ :=
    Leaves.exists_of_pairwise (fun _ => hholds.exists_of_mem_pieces) hholds.pairwise_pieces
  refine ⟨String.ofList kept, ?_, by simpa using hkept⟩
  have hremove := Leaves.removeSpans?_eq [] hkept
  rw [pieces, List.map_mergeSort (s := Span.before) (fun _ _ _ _ => rfl),
    ← hholds.methodSpans_eq, List.nil_append, Utf8.size_nil] at hremove
  rw [skeleton_eq fun span hspan => Or.inl (hholds.stop_le_size hspan),
    hholds.filter_methodSpans_eq, hremove]

end HoldsMethods

end DeclaredType

end JavaDiff
