import JavaDiff.Java.Declaration
import JavaDiff.Proofs.Java.Delimiter
import JavaDiff.Proofs.Java.Head

/-!
# The body of a declaration

The body of a declaration opens behind its head with a brace and ends with a brace behind that.
Which brace opens it depends only on the bytes up to the brace.
-/

namespace JavaDiff

namespace Java

open Ascii

variable {front back bytes : List UInt8} {start offset opening : Nat}

theorem headEnd?_eq_some_iff {expected : UInt8} :
    headEnd? expected bytes start = some offset ↔
      nextOffset endsHead bytes start = some offset ∧ bytes[offset]? = some expected := by
  rw [headEnd?, Option.bind_eq_bind, Option.bind_eq_some_iff]
  constructor
  · rintro ⟨found, hfound, hexpected⟩
    split at hexpected
    · rename_i hbyte
      obtain rfl := Option.some.inj hexpected
      exact ⟨hfound, hbyte⟩
    · simp at hexpected
  · rintro ⟨hfound, hbyte⟩
    exact ⟨offset, hfound, if_pos hbyte⟩

theorem headEnd?_eq_some {expected : UInt8} (hend : headEnd? expected bytes start = some offset) :
    start ≤ offset ∧ bytes[offset]? = some expected := by
  obtain ⟨hnext, hbyte⟩ := headEnd?_eq_some_iff.mp hend
  exact ⟨(nextOffset_eq_some hnext).1, hbyte⟩

theorem headEnd?_append {expected : UInt8} (hoffset : offset < front.length) :
    headEnd? expected (front ++ back) start = some offset ↔
      headEnd? expected front start = some offset := by
  rw [headEnd?_eq_some_iff, headEnd?_eq_some_iff, nextOffset_append hoffset,
    List.getElem?_append_left hoffset]

theorem recordOpening?_eq_some_iff :
    recordOpening? bytes start = some opening ↔
      (∃ follower, (bytes.drop start).find? (!isBlank ·) = some follower ∧
        (follower = openParen ∨ follower = openAngle)) ∧
      ∃ list listEnd, headEnd? openParen bytes start = some list ∧
        closingParen bytes list = some listEnd ∧
        headEnd? openBrace bytes (listEnd + 1) = some opening := by
  rw [recordOpening?, Option.bind_eq_bind, Option.bind_eq_some_iff]
  constructor
  · rintro ⟨follower, hfind, hopening⟩
    split at hopening
    · rename_i hfollower
      simp only [Option.bind_eq_bind, Option.bind_eq_some_iff] at hopening
      obtain ⟨list, hlist, listEnd, hlistEnd, hopening⟩ := hopening
      exact ⟨⟨follower, hfind, hfollower⟩, list, listEnd, hlist, hlistEnd, hopening⟩
    · simp at hopening
  · rintro ⟨⟨follower, hfind, hfollower⟩, list, listEnd, hlist, hlistEnd, hopening⟩
    refine ⟨follower, hfind, ?_⟩
    simp only [if_pos hfollower, Option.bind_eq_bind, hlist, hlistEnd, hopening, Option.bind_some]

theorem recordOpening?_eq_some (hopening : recordOpening? bytes start = some opening) :
    start ≤ opening ∧ bytes[opening]? = some openBrace := by
  obtain ⟨-, list, listEnd, hlist, hlistEnd, hbrace⟩ := recordOpening?_eq_some_iff.mp hopening
  have hstart := (headEnd?_eq_some hlist).1
  have hblock := (closingDelimiter_eq_some hlistEnd).1
  have hbehind := headEnd?_eq_some hbrace
  exact ⟨by omega, hbehind.2⟩

theorem find?_append_of_brace (hopening : front[opening]? = some openBrace)
    (hstart : start ≤ opening) :
    ((front ++ back).drop start).find? (!isBlank ·) = (front.drop start).find? (!isBlank ·) := by
  obtain ⟨hlength, hbrace⟩ := List.getElem?_eq_some_iff.mp hopening
  have hmem : openBrace ∈ front.drop start := by
    rw [← hbrace]
    exact List.mem_drop_iff_getElem.mpr ⟨opening - start, by omega, by congr 1; omega⟩
  rw [List.drop_append_of_le_length (by omega), List.find?_append]
  cases hfront : (front.drop start).find? (!isBlank ·) with
  | some follower => rfl
  | none => exact absurd (List.find?_eq_none.mp hfront openBrace hmem) (by decide)

theorem recordOpening?_append (hopening : opening < front.length) :
    recordOpening? (front ++ back) start = some opening ↔
      recordOpening? front start = some opening := by
  have hfollower (hsome : recordOpening? front start = some opening ∨
      recordOpening? (front ++ back) start = some opening) :
      ((front ++ back).drop start).find? (!isBlank ·) = (front.drop start).find? (!isBlank ·) := by
    rcases hsome with hsome | hsome
    · exact find?_append_of_brace (recordOpening?_eq_some hsome).2 (recordOpening?_eq_some hsome).1
    · obtain ⟨hstart, hbrace⟩ := recordOpening?_eq_some hsome
      rw [List.getElem?_append_left hopening] at hbrace
      exact find?_append_of_brace hbrace hstart
  -- Each offset that leads to the opening brace lies in front of it.
  have hlist (bytes : List UInt8) (list listEnd : Nat)
      (hlistEnd : closingParen bytes list = some listEnd)
      (hbrace : headEnd? openBrace bytes (listEnd + 1) = some opening) :
      list < front.length ∧ listEnd < front.length := by
    have hblock := (closingDelimiter_eq_some hlistEnd).1
    have hbehind := (headEnd?_eq_some hbrace).1
    omega
  constructor
  · intro hsome
    obtain ⟨hfirst, list, listEnd, hopen, hlistEnd, hbrace⟩ := recordOpening?_eq_some_iff.mp hsome
    obtain ⟨hlistFront, hlistEndFront⟩ := hlist _ list listEnd hlistEnd hbrace
    rw [hfollower (Or.inr hsome)] at hfirst
    exact recordOpening?_eq_some_iff.mpr ⟨hfirst, list, listEnd,
      (headEnd?_append hlistFront).mp hopen,
      (closingDelimiter_append hlistEndFront).mp hlistEnd, (headEnd?_append hopening).mp hbrace⟩
  · intro hsome
    obtain ⟨hfirst, list, listEnd, hopen, hlistEnd, hbrace⟩ := recordOpening?_eq_some_iff.mp hsome
    obtain ⟨hlistFront, hlistEndFront⟩ := hlist _ list listEnd hlistEnd hbrace
    rw [← hfollower (Or.inl hsome)] at hfirst
    exact recordOpening?_eq_some_iff.mpr ⟨hfirst, list, listEnd,
      (headEnd?_append hlistFront).mpr hopen,
      (closingDelimiter_append hlistEndFront).mpr hlistEnd, (headEnd?_append hopening).mpr hbrace⟩

namespace Head

theorem opening?_eq_some {head : Head} (hopening : head.opening? bytes = some opening) :
    head.stop ≤ opening ∧ bytes[opening]? = some openBrace := by
  unfold opening? at hopening
  split at hopening
  · simp at hopening
  · split at hopening
    · exact recordOpening?_eq_some hopening
    · exact headEnd?_eq_some hopening

theorem isQualified_append {head : Head} (hstart : head.start ≤ front.length) :
    head.isQualified (front ++ back) = head.isQualified front := by
  rw [isQualified, isQualified, List.take_append_of_le_length hstart]

/-- The brace that opens a body does not depend on the bytes behind it. -/
theorem opening?_append {head : Head} (hhead : head.start ≤ head.stop)
    (hopening : opening < front.length) :
    head.opening? (front ++ back) = some opening ↔ head.opening? front = some opening := by
  by_cases hstop : head.stop ≤ opening
  · unfold opening?
    rw [isQualified_append (by omega)]
    split
    · rfl
    · split
      · exact recordOpening?_append hopening
      · exact headEnd?_append hopening
  · exact iff_of_false (fun hsome => hstop (opening?_eq_some hsome).1)
      (fun hsome => hstop (opening?_eq_some hsome).1)

end Head

/-- The places of a complete declaration in masked bytes: the keyword stands at the start of the
head, and behind it the body lies between two braces. -/
structure IsComplete (bytes : List UInt8) (head : Head) (opening close : Nat) : Prop where
  keyword_isPrefix : Utf8.encode head.kind.keyword.toList <+: bytes.drop head.start
  keyword_le_opening : head.start + Utf8.size head.kind.keyword.toList ≤ opening
  openBrace_at : bytes[opening]? = some openBrace
  opening_lt_close : opening < close
  closeBrace_at : bytes[close]? = some closeBrace

theorem mem_declarations {masked : List Char} {declaration : Declaration} :
    declaration ∈ declarations masked ↔
      declaration.head ∈ heads masked ∧
        declaration.head.opening? (Utf8.encode masked) = some declaration.opening ∧
        closingBrace (Utf8.encode masked) declaration.opening = declaration.closing? := by
  obtain ⟨head, opening, closing?⟩ := declaration
  simp only [declarations, List.mem_filterMap, Option.map_eq_some_iff, Declaration.mk.injEq]
  constructor
  · rintro ⟨head, hhead, opening, hopening, rfl, rfl, rfl⟩
    exact ⟨hhead, hopening, rfl⟩
  · rintro ⟨hhead, hopening, hclosing⟩
    exact ⟨head, hhead, opening, hopening, rfl, rfl, hclosing⟩

theorem start_lt_stop_of_mem_heads {masked : List Char} {head : Head}
    (hhead : head ∈ heads masked) : head.start < head.stop := by
  obtain ⟨left, right, headText, -, hname, rfl⟩ := exists_of_mem_heads hhead
  have hpositive : 0 < Utf8.size headText.text := by
    cases htext : headText.text with
    | nil => exact absurd htext (HeadText.text_ne_nil hname)
    | cons first rest =>
      have hwidth := first.utf8Size_pos
      rw [Utf8.size_cons]
      omega
  exact Nat.lt_add_of_pos_right hpositive

theorem pairwise_start_heads (masked : List Char) :
    (heads masked).Pairwise fun earlier later => earlier.start < later.start :=
  (pairwise_headsFrom 0 none 0 masked).imp_of_mem fun hearlier _ hle =>
    Nat.lt_of_lt_of_le (start_lt_stop_of_mem_heads hearlier) hle

theorem isComplete_of_mem_declarations {masked : List Char} {declaration : Declaration}
    {close : Nat} (hdeclaration : declaration ∈ declarations masked)
    (hclose : declaration.closing? = some close) :
    IsComplete (Utf8.encode masked) declaration.head declaration.opening close := by
  obtain ⟨hhead, hopening, hclosing⟩ := mem_declarations.mp hdeclaration
  obtain ⟨hlt, hbrace, hend⟩ := closingDelimiter_eq_some (hclosing.trans hclose)
  have hstop := (Head.opening?_eq_some hopening).1
  obtain ⟨left, right, headText, rfl, -, hplace⟩ := exists_of_mem_heads hhead
  have hsize : Utf8.size headText.text = Utf8.size headText.kind.keyword.toList +
      (Utf8.size headText.blanks + Utf8.size headText.name) := by
    rw [HeadText.text, Utf8.size_append, Utf8.size_append, Nat.add_assoc]
  refine ⟨?_, ?_, hbrace, hlt, hend⟩
  · rw [hplace, List.append_assoc, Utf8.encode_append, ← Utf8.length_encode left, List.drop_left,
      HeadText.text, List.append_assoc, List.append_assoc, Utf8.encode_append]
    exact List.prefix_append ..
  · simp only [hplace] at hstop ⊢
    omega

end Java

end JavaDiff
