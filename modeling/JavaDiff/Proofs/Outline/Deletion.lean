import JavaDiff.Proofs.Outline.Skeleton

/-!
# Which spans a skeleton leaves out

The methods of a type may stand anywhere, so their spans may overlap, leave the text or cut a
character.  Of the spans inside the text the skeleton takes out those that no earlier one reaches
into.  They do not overlap, and each span that stays starts inside one of them.  What is left are
the bytes outside the removed spans.  There is no skeleton exactly when one of these cuts a
character.
-/

namespace JavaDiff

namespace Utf8

/-- Whether an offset lies inside a character of a text, after its first byte. -/
def InsideCharacter (text : List Char) (offset : Nat) : Prop :=
  ∃ left character right, text = left ++ character :: right ∧ size left < offset ∧
    offset < size left + character.utf8Size

theorem insideCharacter_cons {character : Char} {text : List Char} {offset : Nat}
    (hinside : InsideCharacter text offset) :
    InsideCharacter (character :: text) (character.utf8Size + offset) := by
  obtain ⟨left, inner, right, rfl, hstart, hstop⟩ := hinside
  exact ⟨character :: left, inner, right, rfl, by rw [size_cons]; omega, by rw [size_cons]; omega⟩

theorem isBoundary_cons {character : Char} {text : List Char} {offset : Nat}
    (hboundary : IsBoundary text offset) :
    IsBoundary (character :: text) (character.utf8Size + offset) := by
  obtain ⟨left, right, rfl, rfl⟩ := hboundary
  exact ⟨character :: left, right, rfl, size_cons ..⟩

theorem IsBoundary.not_insideCharacter {text : List Char} {offset : Nat}
    (hboundary : IsBoundary text offset) : ¬ InsideCharacter text offset := by
  rintro ⟨front, character, back, htext, hstart, hstop⟩
  obtain ⟨left, right, rfl, rfl⟩ := hboundary
  obtain ⟨middle, rfl, hmiddle⟩ := exists_append_of_size_le htext.symm (Nat.le_of_lt hstart)
  cases middle with
  | nil => simp at hstart
  | cons first middle =>
    obtain ⟨rfl, -⟩ := List.cons.inj hmiddle
    rw [size_append, size_cons] at hstop
    omega

theorem not_isBoundary_iff {text : List Char} {offset : Nat} (hoffset : offset ≤ size text) :
    ¬ IsBoundary text offset ↔ InsideCharacter text offset := by
  refine ⟨fun hinside => ?_, fun hinside hboundary => hboundary.not_insideCharacter hinside⟩
  induction text generalizing offset with
  | nil =>
    obtain rfl : offset = 0 := Nat.le_zero.mp hoffset
    exact absurd (isBoundary_zero []) hinside
  | cons character text ih =>
    rcases Nat.lt_or_ge offset character.utf8Size with hfirst | hlater
    · have hpositive : 0 < offset := by
        rcases Nat.eq_zero_or_pos offset with rfl | hpositive
        · exact absurd (isBoundary_zero _) hinside
        · exact hpositive
      exact ⟨[], character, text, rfl, hpositive, by simpa using hfirst⟩
    · obtain ⟨rest, rfl⟩ := Nat.exists_eq_add_of_le hlater
      rw [size_cons] at hoffset
      exact insideCharacter_cons
        (ih (by omega) fun hboundary => hinside (isBoundary_cons hboundary))

end Utf8

namespace Span

/-- Whether an offset lies in a span. -/
def covers (span : Span) (offset : Nat) : Bool := span.start ≤ offset && offset < span.stop

theorem covers_iff {span : Span} {offset : Nat} :
    span.covers offset = true ↔ span.start ≤ offset ∧ offset < span.stop := by
  simp [covers]

end Span

/-- The bytes that lie in none of some spans, the first byte being at `offset`. -/
def bytesOutside (spans : List Span) (offset : Nat) (bytes : List UInt8) : List UInt8 :=
  ((bytes.zipIdx offset).filter fun entry => !spans.any (·.covers entry.2)).map Prod.fst

theorem bytesOutside_append (spans : List Span) (offset : Nat) (front back : List UInt8) :
    bytesOutside spans offset (front ++ back) =
      bytesOutside spans offset front ++ bytesOutside spans (offset + front.length) back := by
  simp [bytesOutside, List.zipIdx_append]

section Bytes

variable {spans : List Span} {offset : Nat} {bytes : List UInt8}

theorem bytesOutside_eq_self
    (hspans : ∀ span ∈ spans, span.stop ≤ offset ∨ offset + bytes.length ≤ span.start) :
    bytesOutside spans offset bytes = bytes := by
  rw [bytesOutside, List.filter_eq_self.mpr, List.zipIdx_map_fst]
  rintro ⟨byte, place⟩ hentry
  have hle := List.le_snd_of_mem_zipIdx hentry
  have hlt := List.snd_lt_add_of_mem_zipIdx hentry
  rw [Bool.not_eq_true', List.any_eq_false]
  intro span hspan
  have houtside := hspans span hspan
  rw [Span.covers_iff]
  simp only at hle hlt ⊢
  omega

theorem bytesOutside_eq_nil {span : Span} (hspan : span ∈ spans) (hstart : span.start ≤ offset)
    (hstop : offset + bytes.length ≤ span.stop) : bytesOutside spans offset bytes = [] := by
  rw [bytesOutside, List.filter_eq_nil_iff.mpr, List.map_nil]
  rintro ⟨byte, place⟩ hentry
  have hle := List.le_snd_of_mem_zipIdx hentry
  have hlt := List.snd_lt_add_of_mem_zipIdx hentry
  simp only at hle hlt
  rw [Bool.not_eq_true', Bool.not_eq_false, List.any_eq_true]
  exact ⟨span, hspan, Span.covers_iff.mpr ⟨by omega, by omega⟩⟩

theorem bytesOutside_cons_of_stop_le {span : Span} (hstop : span.stop ≤ offset) :
    bytesOutside (span :: spans) offset bytes = bytesOutside spans offset bytes := by
  rw [bytesOutside, bytesOutside]
  congr 1
  apply List.filter_congr
  rintro ⟨byte, place⟩ hentry
  have hle := List.le_snd_of_mem_zipIdx hentry
  have hcovers : span.covers place = false := by
    rw [← Bool.not_eq_true, Span.covers_iff]
    simp only at hle
    omega
  rw [List.any_cons, hcovers, Bool.false_or]

end Bytes

namespace Leaves

variable {offset : Nat} {pieces : List Piece} {text kept : List Char}

theorem offset_le_start (hleaves : Leaves offset pieces text kept) :
    ∀ piece ∈ pieces, offset ≤ piece.start := by
  induction pieces generalizing offset text kept with
  | nil => simp
  | cons piece pieces ih =>
    obtain ⟨front, back, rest, -, -, hstart, hback⟩ := hleaves
    intro later hlater
    rcases List.mem_cons.mp hlater with rfl | hlater
    · omega
    · have hle := ih hback later hlater
      rw [Piece.stop] at hle
      omega

/-- What is left without some pieces are the bytes outside their spans. -/
theorem encode_eq (hleaves : Leaves offset pieces text kept) :
    Utf8.encode kept = bytesOutside (pieces.map Piece.span) offset (Utf8.encode text) := by
  induction pieces generalizing offset text kept with
  | nil =>
    obtain rfl : text = kept := hleaves
    exact (bytesOutside_eq_self (by simp)).symm
  | cons piece pieces ih =>
    obtain ⟨front, back, rest, rfl, rfl, hstart, hback⟩ := hleaves
    have hlater := hback.offset_le_start
    have hspans : ∀ span ∈ (piece :: pieces).map Piece.span, piece.start ≤ span.start := by
      intro span hspan
      obtain ⟨other, hother, rfl⟩ := List.mem_map.mp hspan
      rcases List.mem_cons.mp hother with rfl | hother
      · exact Nat.le_refl _
      · have hle := hlater other hother
        rw [Piece.stop] at hle
        exact Nat.le_trans (Nat.le_add_right ..) hle
    have hfront : bytesOutside ((piece :: pieces).map Piece.span) offset (Utf8.encode front) =
        Utf8.encode front := by
      apply bytesOutside_eq_self
      intro span hspan
      have hle := hspans span hspan
      rw [Utf8.length_encode]
      omega
    have hpiece : bytesOutside ((piece :: pieces).map Piece.span) piece.start
        (Utf8.encode piece.text) = [] := by
      apply bytesOutside_eq_nil (List.mem_map_of_mem List.mem_cons_self)
      · exact Nat.le_refl _
      · rw [Utf8.length_encode]
        exact Nat.le_refl _
    have hrest : bytesOutside ((piece :: pieces).map Piece.span) piece.stop (Utf8.encode back) =
        Utf8.encode rest := by
      have hstop : piece.span.stop ≤ piece.stop := Nat.le_refl _
      rw [List.map_cons, bytesOutside_cons_of_stop_le hstop, ih hback]
    rw [Utf8.encode_append, Utf8.encode_append, Utf8.encode_append, bytesOutside_append,
      bytesOutside_append, List.length_append, Utf8.length_encode, Utf8.length_encode,
      ← Nat.add_assoc, ← hstart, hfront, hpiece, ← Piece.stop, hrest, List.append_nil]

end Leaves

/-- The spans that are removed from a text behind `cursor`, of some in ascending order. -/
def removedSpans (cursor : Nat) : List Span → List Span
  | [] => []
  | span :: rest =>
    if span.start < cursor then removedSpans cursor rest else span :: removedSpans span.stop rest

/-- The spans that stay in a text behind `cursor`, of some in ascending order. -/
def passedSpans (cursor : Nat) : List Span → List Span
  | [] => []
  | span :: rest =>
    if span.start < cursor then span :: passedSpans cursor rest else passedSpans span.stop rest

theorem perm_removedSpans_append_passedSpans (cursor : Nat) (spans : List Span) :
    spans.Perm (removedSpans cursor spans ++ passedSpans cursor spans) := by
  induction spans generalizing cursor with
  | nil => exact .nil
  | cons span rest ih =>
    rw [removedSpans, passedSpans]
    split
    · exact ((ih cursor).cons span).trans List.perm_middle.symm
    · exact (ih span.stop).cons span

theorem mem_of_mem_removedSpans {cursor : Nat} {spans : List Span} {span : Span}
    (hspan : span ∈ removedSpans cursor spans) : span ∈ spans :=
  (perm_removedSpans_append_passedSpans cursor spans).mem_iff.mpr (List.mem_append_left _ hspan)

theorem pairwise_removedSpans {spans : List Span} (cursor : Nat)
    (hspans : ∀ span ∈ spans, span.start ≤ span.stop) :
    (∀ span ∈ removedSpans cursor spans, cursor ≤ span.start) ∧
      (removedSpans cursor spans).Pairwise fun earlier later => earlier.stop ≤ later.start := by
  induction spans generalizing cursor with
  | nil => simp [removedSpans]
  | cons span rest ih =>
    obtain ⟨hspan, hrest⟩ := List.forall_mem_cons.mp hspans
    rw [removedSpans]
    split
    · exact ih cursor hrest
    · rename_i hcursor
      obtain ⟨hbehind, hpairwise⟩ := ih span.stop hrest
      refine ⟨fun other hother => ?_, List.pairwise_cons.mpr ⟨hbehind, hpairwise⟩⟩
      rcases List.mem_cons.mp hother with rfl | hother
      · exact Nat.not_lt.mp hcursor
      · have hle := hbehind other hother
        omega

/-- A span that stays starts in front of the cursor or inside a removed span that is not behind
it. -/
theorem exists_removed_of_mem_passedSpans {spans : List Span} {cursor : Nat}
    (hspans : spans.Pairwise fun earlier later => earlier.before later = true) {span : Span}
    (hspan : span ∈ passedSpans cursor spans) :
    span.start < cursor ∨ ∃ removed ∈ removedSpans cursor spans,
      removed.before span = true ∧ span.start < removed.stop := by
  induction spans generalizing cursor with
  | nil => cases hspan
  | cons first rest ih =>
    obtain ⟨hfirst, hrest⟩ := List.pairwise_cons.mp hspans
    rw [passedSpans] at hspan
    rw [removedSpans]
    split
    · rename_i hcursor
      rw [if_pos hcursor] at hspan
      rcases List.mem_cons.mp hspan with rfl | hspan
      · exact Or.inl hcursor
      · exact ih hrest hspan
    · rename_i hcursor
      rw [if_neg hcursor] at hspan
      right
      rcases ih hrest hspan with hinside | ⟨removed, hremoved, hbefore⟩
      · have hmem : span ∈ rest :=
          (perm_removedSpans_append_passedSpans first.stop rest).mem_iff.mpr
            (List.mem_append_right _ hspan)
        exact ⟨first, List.mem_cons_self, hfirst span hmem, hinside⟩
      · exact ⟨removed, List.mem_cons_of_mem first hremoved, hbefore⟩

namespace DeclaredType

theorem removeSpans?_removedSpans (text : List Char) (cursor : Nat) (spans : List Span) :
    removeSpans? text cursor (removedSpans cursor spans) = removeSpans? text cursor spans := by
  induction spans generalizing cursor with
  | nil => rfl
  | cons span rest ih =>
    rw [removedSpans, removeSpans?]
    split
    · exact ih cursor
    · rename_i hcursor
      rw [removeSpans?, if_neg hcursor, ih]

/-- The spans that are removed lie between boundaries. -/
theorem isBoundary_of_removeSpans? {text kept : List Char} {cursor : Nat} {spans : List Span}
    (hkept : removeSpans? text cursor spans = some kept) :
    Utf8.IsBoundary text cursor ∧ ∀ span ∈ removedSpans cursor spans,
      Utf8.IsBoundary text span.start ∧ Utf8.IsBoundary text span.stop := by
  have hcut {start stop : Nat} {piece : List Char}
      (hpiece : Utf8.cut? text start stop = some piece) :
      Utf8.IsBoundary text start ∧ Utf8.IsBoundary text stop := by
    obtain ⟨before, after, rfl, hbefore, hstop⟩ := Utf8.cut?_eq_some_iff.mp hpiece
    exact ⟨⟨before, piece ++ after, List.append_assoc .., hbefore⟩, before ++ piece, after, rfl,
      by rw [Utf8.size_append, hbefore, hstop]⟩
  induction spans generalizing cursor kept with
  | nil => exact ⟨(hcut hkept).1, by simp [removedSpans]⟩
  | cons span rest ih =>
    rw [removeSpans?] at hkept
    rw [removedSpans]
    split
    · rename_i hcursor
      rw [if_pos hcursor] at hkept
      exact ih hkept
    · rename_i hcursor
      rw [if_neg hcursor] at hkept
      simp only [Option.bind_eq_bind, Option.bind_eq_some_iff] at hkept
      obtain ⟨front, hfront, back, hback, -⟩ := hkept
      obtain ⟨hstop, hrest⟩ := ih hback
      obtain ⟨hboundary, hstart⟩ := hcut hfront
      exact ⟨hboundary, List.forall_mem_cons.mpr ⟨⟨hstart, hstop⟩, hrest⟩⟩

/-- The part of a text at a span. -/
def pieceAt (text : List Char) (span : Span) : Piece :=
  ⟨span.start, (Utf8.cut? text span.start span.stop).getD []⟩

theorem pieceAt_spec {text : List Char} {span : Span} (hle : span.start ≤ span.stop)
    (hstart : Utf8.IsBoundary text span.start) (hstop : Utf8.IsBoundary text span.stop) :
    (pieceAt text span).span = span ∧ ∃ left right,
      text = left ++ (pieceAt text span).text ++ right ∧ span.start = 0 + Utf8.size left := by
  obtain ⟨piece, hpiece⟩ := Utf8.exists_cut?_eq_some hstart hstop hle
  obtain ⟨left, right, htext, hleft, hsize⟩ := Utf8.cut?_eq_some_iff.mp hpiece
  have hpieceAt : pieceAt text span = ⟨span.start, piece⟩ := by
    rw [pieceAt, hpiece, Option.getD_some]
  rw [hpieceAt]
  refine ⟨?_, left, right, htext, by omega⟩
  rw [Piece.span, Piece.stop, hsize]

/-- Spans between boundaries that do not overlap can be removed. -/
theorem exists_removeSpans? {text : List Char} {spans : List Span}
    (hspans : ∀ span ∈ spans, span.start ≤ span.stop ∧ Utf8.IsBoundary text span.start ∧
      Utf8.IsBoundary text span.stop)
    (hordered : spans.Pairwise fun earlier later => earlier.stop ≤ later.start) :
    ∃ kept, removeSpans? text 0 spans = some kept ∧
      Utf8.encode kept = bytesOutside spans 0 (Utf8.encode text) := by
  have hspan : (spans.map (pieceAt text)).map Piece.span = spans := by
    rw [List.map_map, List.map_congr_left, List.map_id]
    intro span hmem
    obtain ⟨hle, hstart, hstop⟩ := hspans span hmem
    exact (pieceAt_spec hle hstart hstop).1
  obtain ⟨kept, hkept⟩ : ∃ kept, Leaves 0 (spans.map (pieceAt text)) text kept := by
    apply Leaves.exists_of_pairwise
    · intro piece hpiece
      obtain ⟨span, hmem, rfl⟩ := List.mem_map.mp hpiece
      obtain ⟨hle, hstart, hstop⟩ := hspans span hmem
      exact (pieceAt_spec hle hstart hstop).2
    · have hpairwise := hordered
      rw [← hspan, List.pairwise_map] at hpairwise
      exact hpairwise
  have hremove := Leaves.removeSpans?_eq [] hkept
  rw [List.nil_append, Utf8.size_nil, hspan] at hremove
  exact ⟨kept, hremove, by rw [hkept.encode_eq, hspan]⟩

section Sorted

variable {text kept : List Char} {spans : List Span}

/-- Spans in a text can be removed unless an end of a removed one lies inside a character. -/
theorem removeSpans?_eq_none_iff
    (hspans : ∀ span ∈ spans, span.start ≤ span.stop ∧ span.stop ≤ Utf8.size text) :
    removeSpans? text 0 spans = none ↔ ∃ span ∈ removedSpans 0 spans,
      Utf8.InsideCharacter text span.start ∨ Utf8.InsideCharacter text span.stop := by
  rw [Option.eq_none_iff_forall_ne_some]
  constructor
  · intro hnone
    by_contra hends
    push Not at hends
    have hremoved : ∀ span ∈ removedSpans 0 spans, span.start ≤ span.stop ∧
        Utf8.IsBoundary text span.start ∧ Utf8.IsBoundary text span.stop := by
      intro span hspan
      obtain ⟨hle, hsize⟩ := hspans span (mem_of_mem_removedSpans hspan)
      obtain ⟨hstart, hstop⟩ := hends span hspan
      rw [← Utf8.not_isBoundary_iff (Nat.le_trans hle hsize), not_not] at hstart
      rw [← Utf8.not_isBoundary_iff hsize, not_not] at hstop
      exact ⟨hle, hstart, hstop⟩
    obtain ⟨-, hapart⟩ := pairwise_removedSpans 0 fun span hspan => (hspans span hspan).1
    obtain ⟨kept, hkept, -⟩ := exists_removeSpans? hremoved hapart
    rw [removeSpans?_removedSpans] at hkept
    exact hnone kept hkept
  · rintro ⟨span, hspan, hinside⟩ kept hkept
    obtain ⟨hstart, hstop⟩ := (isBoundary_of_removeSpans? hkept).2 span hspan
    exact hinside.elim hstart.not_insideCharacter hstop.not_insideCharacter

/-- What is left are the bytes outside the removed spans. -/
theorem encode_of_removeSpans? (hspans : ∀ span ∈ spans, span.start ≤ span.stop)
    (hkept : removeSpans? text 0 spans = some kept) :
    Utf8.encode kept = bytesOutside (removedSpans 0 spans) 0 (Utf8.encode text) := by
  obtain ⟨-, hboundary⟩ := isBoundary_of_removeSpans? hkept
  obtain ⟨-, hapart⟩ := pairwise_removedSpans 0 hspans
  have hremoved : ∀ span ∈ removedSpans 0 spans, span.start ≤ span.stop ∧
      Utf8.IsBoundary text span.start ∧ Utf8.IsBoundary text span.stop :=
    fun span hspan => ⟨hspans span (mem_of_mem_removedSpans hspan), hboundary span hspan⟩
  obtain ⟨rest, hrest, hencode⟩ := exists_removeSpans? hremoved hapart
  rw [removeSpans?_removedSpans, hkept] at hrest
  rw [Option.some.inj hrest, hencode]

end Sorted

end DeclaredType

namespace Span

theorem pairwise_mergeSort_before (spans : List Span) :
    (spans.mergeSort before).Pairwise fun earlier later => earlier.before later = true := by
  apply List.pairwise_mergeSort
  · exact fun _ _ _ => before_trans
  · exact before_total

theorem mergeSort_before_eq {spans others : List Span} (hperm : spans.Perm others) :
    spans.mergeSort before = others.mergeSort before := by
  have hsorted : (spans.mergeSort before).Perm (others.mergeSort before) :=
    (List.mergeSort_perm ..).trans (hperm.trans (List.mergeSort_perm ..).symm)
  apply hsorted.eq_of_pairwise _ (pairwise_mergeSort_before _) (pairwise_mergeSort_before _)
  rintro ⟨start, stop⟩ ⟨otherStart, otherStop⟩ - - hbefore hbehind
  simp only [before_iff] at hbefore hbehind
  rw [mk.injEq]
  omega

end Span

namespace DeclaredType

variable {type : DeclaredType}

theorem start_le_stop_of_mem_methodSpans {span : Span} (hspan : span ∈ type.methodSpans) :
    span.start ≤ span.stop := by
  obtain ⟨method, -, hmethod⟩ := List.mem_filterMap.mp hspan
  split at hmethod
  · obtain rfl := Option.some.inj hmethod
    exact Nat.le_add_right ..
  · cases hmethod

/-- A skeleton depends on the text and the spans of the methods, not on the order of these. -/
theorem skeleton_eq_of_perm {other : DeclaredType} (htext : other.text = type.text)
    (hperm : other.methodSpans.Perm type.methodSpans) : other.skeleton = type.skeleton := by
  have hany : other.methodSpans.any (·.wrapsInto (Utf8.size type.text.toList)) =
      type.methodSpans.any (·.wrapsInto (Utf8.size type.text.toList)) := by
    rw [Bool.eq_iff_iff, List.any_eq_true, List.any_eq_true]
    simp only [hperm.mem_iff]
  have hsorted := Span.mergeSort_before_eq
    (hperm.filter (fun span => span.stop ≤ Utf8.size type.text.toList))
  rw [skeleton, skeleton, htext]
  simp only [hany, hsorted]

theorem methodSpans_perm {other : DeclaredType} (hstart : other.startByte = type.startByte)
    (hmethods : (other.methods.values.map fun method => (method.startByte, method.text)).Perm
      (type.methods.values.map fun method => (method.startByte, method.text))) :
    other.methodSpans.Perm type.methodSpans := by
  have hspans (declared : DeclaredType) (hdeclared : declared.startByte = type.startByte) :
      declared.methodSpans =
        (declared.methods.values.map fun method => (method.startByte, method.text)).filterMap
          fun place => if type.startByte ≤ place.1 then
            some ⟨place.1 - type.startByte,
              place.1 - type.startByte + Utf8.size place.2.toList⟩ else none := by
    rw [List.filterMap_map, methodSpans, hdeclared]
    rfl
  rw [hspans other hstart, hspans type rfl]
  exact hmethods.filterMap _

/-- What the skeleton of a type does with the spans of its methods that end in its text: those that
are removed do not overlap, each of the others starts inside a removed one that does not start
behind it, and the skeleton consists of the bytes outside the removed spans.  There is none exactly
when an end of a removed span lies inside a character. -/
structure RemovesSpans (type : DeclaredType) (removed passed : List Span) : Prop where
  perm : (type.methodSpans.filter (·.stop ≤ Utf8.size type.text.toList)).Perm (removed ++ passed)
  apart : removed.Pairwise fun earlier later => earlier.stop ≤ later.start
  exists_of_mem_passed : ∀ span ∈ passed, ∃ other ∈ removed,
    other.start ≤ span.start ∧ span.start < other.stop
  encode_eq : ∀ kept, type.skeleton = .ok kept →
    Utf8.encode kept.toList = bytesOutside removed 0 (Utf8.encode type.text.toList)
  error_iff : (∃ error, type.skeleton = .error error) ↔ ∃ span ∈ removed,
    Utf8.InsideCharacter type.text.toList span.start ∨
      Utf8.InsideCharacter type.text.toList span.stop

theorem exists_removesSpans
    (hoffsets : ∀ span ∈ type.methodSpans, span.stop < Span.offsetCount) :
    ∃ removed passed, type.RemovesSpans removed passed := by
  have hskeleton := skeleton_eq fun span hspan => Or.inr (hoffsets span hspan)
  have hsorted := Span.pairwise_mergeSort_before
    (type.methodSpans.filter (·.stop ≤ Utf8.size type.text.toList))
  have hperm := List.mergeSort_perm
    (type.methodSpans.filter (·.stop ≤ Utf8.size type.text.toList)) Span.before
  generalize (type.methodSpans.filter _).mergeSort Span.before = spans at hsorted hperm hskeleton
  have hspans : ∀ span ∈ spans,
      span.start ≤ span.stop ∧ span.stop ≤ Utf8.size type.text.toList := by
    intro span hspan
    obtain ⟨hmethod, hinside⟩ := List.mem_filter.mp (hperm.mem_iff.mp hspan)
    exact ⟨start_le_stop_of_mem_methodSpans hmethod, of_decide_eq_true hinside⟩
  have hlengths : ∀ span ∈ spans, span.start ≤ span.stop := fun span hspan => (hspans span hspan).1
  refine ⟨removedSpans 0 spans, passedSpans 0 spans, ?_⟩
  constructor
  case perm => exact hperm.symm.trans (perm_removedSpans_append_passedSpans 0 spans)
  case apart => exact (pairwise_removedSpans 0 hlengths).2
  case exists_of_mem_passed =>
    intro span hspan
    rcases exists_removed_of_mem_passedSpans hsorted hspan with
      hnegative | ⟨other, hother, hbefore, hinside⟩
    · exact absurd hnegative (Nat.not_lt_zero _)
    · rw [Span.before_iff] at hbefore
      exact ⟨other, hother, by omega, hinside⟩
  case encode_eq =>
    intro kept hkept
    rw [hskeleton] at hkept
    split at hkept
    · rename_i rest hrest
      obtain rfl := Except.ok.inj hkept
      rw [String.toList_ofList]
      exact encode_of_removeSpans? hlengths hrest
    · cases hkept
  case error_iff =>
    rw [← removeSpans?_eq_none_iff hspans, hskeleton]
    cases removeSpans? type.text.toList 0 spans <;> simp

/-- Whatever the places of its methods, a type leaves out spans that do not overlap and that none of
the others could join, and it does so under whatever names the methods stand. -/
theorem exists_removesSpans_and_skeleton_eq
    (hoffsets : ∀ span ∈ type.methodSpans, span.stop < Span.offsetCount) :
    (∃ removed passed, type.RemovesSpans removed passed) ∧
      ∀ other : DeclaredType, other.text = type.text → other.startByte = type.startByte →
        (other.methods.values.map fun method => (method.startByte, method.text)).Perm
          (type.methods.values.map fun method => (method.startByte, method.text)) →
        other.skeleton = type.skeleton :=
  ⟨exists_removesSpans hoffsets, fun _ htext hstart hmethods =>
    skeleton_eq_of_perm htext (methodSpans_perm hstart hmethods)⟩

/-- A type whose methods start in front of it, overlap, are empty, cut a character or end behind its
text. -/
def scatteredType (names : List String) : DeclaredType where
  name := "A"
  filename := "A.java"
  kind := .classType
  text := "ab\u20ac(x)y"
  startLine := 1
  endLine := 1
  startByte := 100
  methods := .ofList (names.zip [
    ⟨"m", "A", "b\u20ac(x", 1, 1, 101⟩, ⟨"m", "A", "xy", 1, 1, 103⟩, ⟨"m", "A", ")", 1, 1, 107⟩,
    ⟨"m", "A", "", 1, 1, 107⟩, ⟨"m", "A", "y\u20ac", 1, 1, 108⟩, ⟨"m", "A", "ab", 1, 1, 99⟩])

theorem exists_removesSpans_scatteredType :
    (∀ span ∈ (scatteredType ["a", "b", "c", "d", "e", "f"]).methodSpans,
      span.stop < Span.offsetCount) ∧
    (∃ removed passed,
      (scatteredType ["a", "b", "c", "d", "e", "f"]).RemovesSpans removed passed) ∧
    (scatteredType ["f", "c", "e", "b", "a", "d"]).skeleton =
      (scatteredType ["a", "b", "c", "d", "e", "f"]).skeleton := by
  have hoffsets : ∀ span ∈ (scatteredType ["a", "b", "c", "d", "e", "f"]).methodSpans,
      span.stop < Span.offsetCount := by
    decide +kernel
  obtain ⟨hremoves, hnames⟩ := exists_removesSpans_and_skeleton_eq hoffsets
  exact ⟨hoffsets, hremoves, hnames _ rfl rfl (by decide +kernel)⟩

end DeclaredType

end JavaDiff
