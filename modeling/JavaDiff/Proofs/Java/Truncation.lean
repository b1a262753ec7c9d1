import JavaDiff.Proofs.Java.Place
import JavaDiff.Proofs.Text.Line

/-!
# Truncated sources

When a source is cut off behind the opening brace of a declaration, the outline of what is left
still shows the declaration: it holds a type of that name or a note that the declaration has no
closing brace, or it fails at a line.  So a type that is missing from an outline without a trace was
not there.

Masking looks two bytes ahead, so the brace has to lie in front of the last two bytes.  Everything
that leads to the declaration is then found in front of the brace, in either source.
-/

namespace JavaDiff

namespace Java

open Ascii

theorem exists_append_openBrace {masked : List Char} {offset : Nat}
    (hbrace : (Utf8.encode masked)[offset]? = some openBrace) :
    ∃ left right, masked = left ++ '{' :: right ∧ Utf8.size left = offset := by
  have hencode : String.utf8EncodeChar '{' = [openBrace] := rfl
  exact Utf8.exists_append_of_ascii hbrace (by decide) hencode

theorem mem_heads_append_openBrace {left right : List Char} {head : Head}
    (hstart : head.start < Utf8.size left) :
    head ∈ heads (left ++ '{' :: right) ↔ head ∈ heads left := by
  rw [heads, heads, headsFrom_append_openBrace 0 none right (Nat.zero_le _), List.mem_append]
  apply or_iff_left
  intro hbehind
  obtain ⟨before, after, headText, -, -, hplace⟩ := exists_of_mem_headsFrom hbehind
  simp only [hplace] at hstart
  omega

/-- Texts with the same bytes up to an opening brace are the same in front of it. -/
theorem exists_common_front {masked other : List Char} {offset count : Nat}
    (htake : (Utf8.encode masked).take count = (Utf8.encode other).take count)
    (hoffset : offset < count) (hbrace : (Utf8.encode masked)[offset]? = some openBrace) :
    ∃ left right back, masked = left ++ '{' :: right ∧ other = left ++ '{' :: back ∧
      Utf8.size left = offset := by
  have hotherBrace : (Utf8.encode other)[offset]? = some openBrace := by
    rw [← List.getElem?_take_of_lt hoffset, ← htake, List.getElem?_take_of_lt hoffset, hbrace]
  obtain ⟨left, right, rfl, hleft⟩ := exists_append_openBrace hbrace
  obtain ⟨front, back, rfl, hfront⟩ := exists_append_openBrace hotherBrace
  have hprefix := congrArg (List.take offset) htake
  rw [List.take_take, List.take_take, Nat.min_eq_left (Nat.le_of_lt hoffset), Utf8.encode_append,
    Utf8.encode_append, List.take_left' (by rw [Utf8.length_encode, hleft]),
    List.take_left' (by rw [Utf8.length_encode, hfront])] at hprefix
  obtain rfl := Utf8.encode_injective hprefix
  exact ⟨left, right, back, rfl, rfl, hleft⟩

/-- A declaration is found in every text with the same bytes up to the brace that opens its body. -/
theorem mem_declarations_of_take_eq {masked other : List Char} {declaration : Declaration}
    (hmem : declaration ∈ declarations masked) {count : Nat}
    (hopening : declaration.opening < count)
    (htake : (Utf8.encode masked).take count = (Utf8.encode other).take count) :
    ∃ closing?, ⟨declaration.head, declaration.opening, closing?⟩ ∈ declarations other := by
  obtain ⟨hhead, hsome, -⟩ := mem_declarations.mp hmem
  obtain ⟨hstop, hbrace⟩ := Head.opening?_eq_some hsome
  have hstart := start_lt_stop_of_mem_heads hhead
  obtain ⟨left, right, back, rfl, rfl, hsize⟩ := exists_common_front htake hopening hbrace
  have hbytes (rest : List Char) : Utf8.encode (left ++ '{' :: rest) =
      Utf8.encode (left ++ ['{']) ++ Utf8.encode rest := by
    rw [← Utf8.encode_append, List.append_assoc, List.singleton_append]
  have hlength : declaration.opening < (Utf8.encode (left ++ ['{'])).length := by
    have hwidth : Utf8.size ['{'] = 1 := rfl
    rw [Utf8.length_encode, Utf8.size_append]
    omega
  have hbefore : declaration.head.start < Utf8.size left := by omega
  refine ⟨closingBrace (Utf8.encode (left ++ '{' :: back)) declaration.opening,
    mem_declarations.mpr ⟨?_, ?_, rfl⟩⟩
  · rw [mem_heads_append_openBrace hbefore] at hhead ⊢
    exact hhead
  · rw [hbytes, Head.opening?_append (Nat.le_of_lt hstart) hlength] at hsome ⊢
    exact hsome

/-- Masked source up to two bytes before a cut does not depend on what follows. -/
theorem take_encode_mask_append (front back : String) :
    (Utf8.encode (mask (front ++ back)).toList).take (Utf8.size front.toList - 2) =
      (Utf8.encode (mask front).toList).take (Utf8.size front.toList - 2) := by
  rw [encode_mask, encode_mask, String.toList_append, Utf8.encode_append, ← Utf8.length_encode]
  exact Scan.take_mask_append ..

/-- An outline with a type or an issue is kept, or its error names a line. -/
theorem finished_of_mem {result : Outline} {name : String} {issue : Issue}
    (hmem : name ∈ result.types.names ∨ issue ∈ result.issues) :
    finished result = .ok result ∨
      ∃ line detail, finished result = .error (.inSource (some line) detail) := by
  rw [finished]
  split
  · rename_i hempty
    right
    have hentries : result.types.entries = [] := by
      simpa [Outline.isEmpty, NameMap.size] using hempty
    rcases hmem with hname | hissue
    · rw [NameMap.names, hentries] at hname
      exact absurd hname List.not_mem_nil
    · cases hissues : result.issues with
      | nil =>
        rw [hissues] at hissue
        exact absurd hissue List.not_mem_nil
      | cons first others => exact ⟨first.line, _, rfl⟩
  · exact Or.inl rfl

theorem mem_foldl_addType_of_mem_declarations {masked source : List Char}
    (hcovers : Covers masked source) {types : List DeclaredType}
    (htypes : AreTypes masked source types) {declaration : Declaration}
    (hmem : declaration ∈ declarations masked) (lines : LineIndex) :
    declaration.head.name ∈
        (types.foldl addType (unclosedOutline lines (declarations masked))).types.names ∨
      unclosedIssue lines declaration.head ∈
        (types.foldl addType (unclosedOutline lines (declarations masked))).issues := by
  cases hclose : declaration.closing? with
  | some close =>
    exact Or.inl (mem_names_foldl_addType.mpr (Or.inr (htypes.exists_type hcovers hmem hclose)))
  | none =>
    have hissue : unclosedIssue lines declaration.head ∈
        (unclosedOutline lines (declarations masked)).issues :=
      mem_issues_unclosedOutline.mpr ⟨declaration, hmem, hclose, rfl⟩
    exact Or.inr ((issues_isPrefix_foldl_addType types _).mem hissue)

/-- A declaration whose body opens in front of a cut, more than two bytes away from it, is not lost
without a trace. -/
theorem outline_front_keeps_declaration {front back : String} {declaration : Declaration}
    (hmem : declaration ∈ declarations (mask (front ++ back)).toList)
    (hopening : declaration.opening + 2 < Utf8.size front.toList) :
    (∃ line detail, outline front = .error (.inSource (some line) detail)) ∨
    ∃ result, outline front = .ok result ∧
      ((∃ type, result.types.get? declaration.head.name = some type) ∨
        ∃ line, CountsTo line
            (((Utf8.encode (front ++ back).toList).take declaration.head.start).count newline + 1) ∧
          ⟨line, s!"{declaration.head.kind.keyword} '{declaration.head.name}' has no closing brace"⟩ ∈
            result.issues) := by
  have hcovers := covers_mask front
  have hcount : declaration.opening < Utf8.size front.toList - 2 := by omega
  obtain ⟨closing?, hfront⟩ :=
    mem_declarations_of_take_eq hmem hcount (take_encode_mask_append front back)
  obtain ⟨hhead, hsome, -⟩ := mem_declarations.mp hfront
  obtain ⟨hstop, hbrace⟩ := Head.opening?_eq_some hsome
  have hstart := start_lt_stop_of_mem_heads hhead
  -- The opening brace shows that the front is not blank.
  have hblank : front.toList.all Blank.isBlank = false := by
    obtain ⟨left, right, htext, -⟩ :=
      exists_append_openBrace (hcovers.masks.getElem?_eq_some hbrace (by decide))
    rw [htext, List.all_append, List.all_cons, isBlank_openBrace, Bool.false_and, Bool.and_false]
  have hline : CountsTo ((linesOf front.toList).lineOf declaration.head.start)
      (((Utf8.encode (front ++ back).toList).take declaration.head.start).count newline + 1) := by
    rw [String.toList_append, Utf8.encode_append,
      List.take_append_of_le_length (by rw [Utf8.length_encode]; simp only at hstop hstart; omega)]
    exact LineIndex.countsTo_lineOf_ofBytes ..
  obtain ⟨types, htypes⟩ := exists_areTypes hcovers
  have hkept := mem_foldl_addType_of_mem_declarations hcovers htypes hfront (linesOf front.toList)
  rw [outline_eq_finished hblank htypes]
  rcases finished_of_mem hkept with hok | herror
  · exact Or.inr ⟨_, hok, hkept.imp NameMap.mem_names_iff.mp fun hissue => ⟨_, hline, hissue⟩⟩
  · exact Or.inl herror

theorem outline_front_keeps_second_class :
    ∃ result, outline "class A {}\nclass B \x7b m()\x7b" = .ok result ∧
      ((∃ type, result.types.get? "B" = some type) ∨
        ∃ line, CountsTo line 2 ∧ ⟨line, "class 'B' has no closing brace"⟩ ∈ result.issues) := by
  have hmem : ⟨⟨.classType, "B", 11, 18⟩, 19, some 26⟩ ∈
      declarations (mask ("class A {}\nclass B \x7b m()\x7b" ++ "\x7d\x7d")).toList := by
    decide +kernel
  have hok : (outline "class A {}\nclass B \x7b m()\x7b").isOk = true := by decide +kernel
  rcases outline_front_keeps_declaration hmem (by decide) with ⟨line, detail, herror⟩ | hkept
  · rw [herror] at hok
    cases hok
  · exact hkept

end Java

end JavaDiff
