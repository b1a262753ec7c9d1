import JavaDiff.Java.Head
import JavaDiff.Proofs.Text.Boundary

/-!
# The place of a declaration head

A head stands in the text from its start to its stop.  No head reaches across an opening brace, so
the heads of a text with one are those in front of the brace and those behind it.
-/

namespace JavaDiff

namespace Java

theorem takeWhile_append_stop {α : Type} {property : α → Bool} {stop : α}
    (hstop : property stop = false) (front back : List α) :
    (front ++ stop :: back).takeWhile property = front.takeWhile property := by
  induction front with
  | nil => simp [hstop]
  | cons first front ih => simp only [List.cons_append, List.takeWhile_cons, ih]

theorem dropWhile_append_stop {α : Type} {property : α → Bool} {stop : α}
    (hstop : property stop = false) (front back : List α) :
    (front ++ stop :: back).dropWhile property = front.dropWhile property ++ stop :: back := by
  induction front with
  | nil => simp [hstop]
  | cons first front ih =>
    simp only [List.cons_append, List.dropWhile_cons, ih]
    split <;> rfl

theorem isPrefixOf_append_stop {word : List Char} {stop : Char} (hstop : stop ∉ word)
    (front back : List Char) : word.isPrefixOf (front ++ stop :: back) = word.isPrefixOf front := by
  induction word generalizing front with
  | nil => simp
  | cons first word ih =>
    rw [List.mem_cons, not_or] at hstop
    cases front with
    | nil => simp [List.isPrefixOf, Ne.symm hstop.1]
    | cons other front => simp only [List.cons_append, List.isPrefixOf, ih hstop.2]

theorem openBrace_notMem_keyword (kind : TypeKind) : '{' ∉ kind.keyword.toList := by
  cases kind <;> decide

theorem isBlank_openBrace : Blank.isBlank '{' = false := by decide +kernel

theorem startsName_openBrace : startsName '{' = false := by decide +kernel

theorem continuesName_openBrace : continuesName '{' = false := by decide +kernel

theorem keyword_isPrefix {text : List Char} {kind : TypeKind}
    (hkind : TypeKind.all.find? (·.keyword.toList.isPrefixOf text) = some kind) :
    kind.keyword.toList <+: text := by
  have hkeyword := List.find?_some hkind
  exact List.isPrefixOf_iff_prefix.mp hkeyword

namespace HeadText

theorem text_ne_nil {head : HeadText} (hname : head.name ≠ []) : head.text ≠ [] := by
  simp [text, hname]

/-- The parts of a head with the text behind it: blanks, a name, and no character that would go on
with the name. -/
structure IsHead (head : HeadText) (right : List Char) : Prop where
  blanks_ne_nil : head.blanks ≠ []
  isBlank_of_mem : ∀ character ∈ head.blanks, Blank.isBlank character = true
  exists_name_eq : ∃ first others, head.name = first :: others ∧ startsName first = true ∧
    ∀ character ∈ others, continuesName character = true
  not_continuesName : ∀ character, right.head? = some character →
    continuesName character = false

theorem IsHead.name_ne_nil {head : HeadText} {right : List Char} (hhead : head.IsHead right) :
    head.name ≠ [] := by
  obtain ⟨first, others, hname, -⟩ := hhead.exists_name_eq
  exact hname ▸ List.cons_ne_nil first others

theorem exists_isHead_of_ofStart? {text : List Char} {head : HeadText}
    (hhead : ofStart? text = some head) :
    ∃ right, text = head.text ++ right ∧ head.IsHead right := by
  unfold ofStart? at hhead
  obtain ⟨kind, hkind, hhead⟩ := Option.bind_eq_some_iff.mp hhead
  obtain ⟨afterKeyword, rfl⟩ := keyword_isPrefix hkind
  rw [List.drop_left] at hhead
  cases hrest : afterKeyword.dropWhile Blank.isBlank with
  | nil => simp [hrest] at hhead
  | cons first rest =>
    by_cases hfirst : startsName first
    · simp only [hrest, hfirst, if_true] at hhead
      split at hhead
      · simp at hhead
      · rename_i hparts
        obtain rfl := Option.some.inj hhead
        rw [not_or] at hparts
        have hsplit : afterKeyword = afterKeyword.takeWhile Blank.isBlank ++ first :: rest := by
          rw [← hrest, List.takeWhile_append_dropWhile]
        refine ⟨rest.dropWhile continuesName, ?_, hparts.1, ?_, ⟨first, _, rfl, hfirst, ?_⟩, ?_⟩
        · conv => lhs; rw [hsplit]
          simp only [HeadText.text, List.append_assoc, List.cons_append,
            List.takeWhile_append_dropWhile]
        · exact fun character hmem => List.all_eq_true.mp List.all_takeWhile character hmem
        · exact fun character hmem => List.all_eq_true.mp List.all_takeWhile character hmem
        · intro character hcharacter
          simpa [hcharacter] using List.head?_dropWhile_not continuesName rest
    · simp [hrest, hfirst] at hhead

/-- A head at the start of a text is a prefix of it, with blanks and a name. -/
theorem isPrefix_of_ofStart? {text : List Char} {head : HeadText}
    (hhead : ofStart? text = some head) :
    head.text <+: text ∧ head.blanks ≠ [] ∧ head.name ≠ [] := by
  obtain ⟨right, rfl, hparts⟩ := exists_isHead_of_ofStart? hhead
  exact ⟨List.prefix_append .., hparts.blanks_ne_nil, hparts.name_ne_nil⟩

/-- A head at the start of a text does not depend on what follows an opening brace. -/
theorem ofStart?_append_openBrace (front back : List Char) :
    ofStart? (front ++ '{' :: back) = ofStart? front := by
  have hkeywords (kind : TypeKind) :=
    isPrefixOf_append_stop (openBrace_notMem_keyword kind) front back
  unfold ofStart?
  simp only [hkeywords]
  cases hkind : TypeKind.all.find? (·.keyword.toList.isPrefixOf front) with
  | none => rfl
  | some kind =>
    obtain ⟨afterKeyword, rfl⟩ := keyword_isPrefix hkind
    simp only [Option.bind_eq_bind, Option.bind_some, List.append_assoc, List.drop_left,
      takeWhile_append_stop isBlank_openBrace, dropWhile_append_stop isBlank_openBrace]
    cases afterKeyword.dropWhile Blank.isBlank with
    | nil => simp [startsName_openBrace]
    | cons first rest => simp [takeWhile_append_stop continuesName_openBrace]

end HeadText

theorem headsFrom_zero_cons (previous : Option Char) (offset : Nat) (character : Char)
    (rest : List Char) :
    headsFrom 0 previous offset (character :: rest) =
      match if previous.any Word.isWord then none else HeadText.ofStart? (character :: rest) with
      | none => headsFrom 0 (some character) (offset + character.utf8Size) rest
      | some head =>
        ⟨head.kind, String.ofList head.name, offset, offset + Utf8.size head.text⟩ ::
          headsFrom (head.text.length - 1) (some character) (offset + character.utf8Size) rest :=
  rfl

/-- A head stands in the text at its offsets, and no word character stands in front of it. -/
theorem exists_isHead_of_mem_headsFrom {skip offset : Nat} {previous : Option Char}
    {text : List Char} {head : Head} (hhead : head ∈ headsFrom skip previous offset text) :
    ∃ left right headText, text = left ++ HeadText.text headText ++ right ∧
      HeadText.IsHead headText right ∧
      (∀ character, left.getLast?.or previous = some character → Word.isWord character = false) ∧
      head = ⟨headText.kind, String.ofList headText.name, offset + Utf8.size left,
        offset + Utf8.size left + Utf8.size headText.text⟩ := by
  induction text generalizing skip offset previous with
  | nil => simp [headsFrom] at hhead
  | cons character rest ih =>
    have hlater {skip : Nat}
        (hrest : head ∈ headsFrom skip (some character) (offset + character.utf8Size) rest) :
        ∃ left right headText, character :: rest = left ++ HeadText.text headText ++ right ∧
          HeadText.IsHead headText right ∧
          (∀ character, left.getLast?.or previous = some character →
            Word.isWord character = false) ∧
          head = ⟨headText.kind, String.ofList headText.name, offset + Utf8.size left,
            offset + Utf8.size left + Utf8.size headText.text⟩ := by
      obtain ⟨left, right, headText, hrest, hparts, hbefore, hplace⟩ := ih hrest
      refine ⟨character :: left, right, headText, by simp [hrest], hparts, ?_, ?_⟩
      · rw [List.getLast?_cons, Option.some_or, ← Option.or_some]
        exact hbefore
      · rw [hplace, Utf8.size_cons, ← Nat.add_assoc]
    cases skip with
    | succ skip => exact hlater hhead
    | zero =>
      rw [headsFrom_zero_cons] at hhead
      split at hhead
      · exact hlater hhead
      · rename_i headText hstart
        rcases List.mem_cons.mp hhead with rfl | hhead
        · split at hstart
          · simp at hstart
          · rename_i hprevious
            obtain ⟨right, hright, hparts⟩ := HeadText.exists_isHead_of_ofStart? hstart
            refine ⟨[], right, headText, hright, hparts, fun other hother => ?_, rfl⟩
            obtain rfl : previous = some other := hother
            exact eq_false_of_ne_true hprevious
        · exact hlater hhead

theorem exists_of_mem_headsFrom {skip offset : Nat} {previous : Option Char} {text : List Char}
    {head : Head} (hhead : head ∈ headsFrom skip previous offset text) :
    ∃ left right headText, text = left ++ HeadText.text headText ++ right ∧ headText.name ≠ [] ∧
      head = ⟨headText.kind, String.ofList headText.name, offset + Utf8.size left,
        offset + Utf8.size left + Utf8.size headText.text⟩ := by
  obtain ⟨left, right, headText, htext, hparts, -, hplace⟩ := exists_isHead_of_mem_headsFrom hhead
  exact ⟨left, right, headText, htext, hparts.name_ne_nil, hplace⟩

theorem exists_of_mem_heads {masked : List Char} {head : Head} (hhead : head ∈ heads masked) :
    ∃ left right headText, masked = left ++ HeadText.text headText ++ right ∧ headText.name ≠ [] ∧
      head = ⟨headText.kind, String.ofList headText.name, Utf8.size left,
        Utf8.size left + Utf8.size headText.text⟩ := by
  simpa using exists_of_mem_headsFrom hhead

/-- A head lies behind the characters that belong to an earlier one. -/
theorem size_take_le_start {skip offset : Nat} {previous : Option Char} {text : List Char}
    {head : Head} (hhead : head ∈ headsFrom skip previous offset text) :
    offset + Utf8.size (text.take skip) ≤ head.start := by
  induction text generalizing skip offset previous with
  | nil => cases hhead
  | cons character rest ih =>
    cases skip with
    | zero =>
      obtain ⟨left, right, headText, -, -, rfl⟩ := exists_of_mem_headsFrom hhead
      exact Nat.add_le_add_left (Nat.zero_le _) offset
    | succ skip =>
      rw [List.take_succ_cons, Utf8.size_cons, ← Nat.add_assoc]
      exact ih hhead

/-- Heads are listed in their order, and each ends before the next one starts. -/
theorem pairwise_headsFrom (skip : Nat) (previous : Option Char) (offset : Nat)
    (text : List Char) :
    (headsFrom skip previous offset text).Pairwise fun earlier later =>
      earlier.stop ≤ later.start := by
  induction text generalizing skip previous offset with
  | nil => exact .nil
  | cons character rest ih =>
    cases skip with
    | succ skip => exact ih ..
    | zero =>
      rw [headsFrom_zero_cons]
      split
      · exact ih ..
      · rename_i headText hstart
        refine List.pairwise_cons.mpr ⟨fun head hhead => ?_, ih ..⟩
        split at hstart
        · cases hstart
        · -- The characters that are passed over are those of the head.
          obtain ⟨htext, -, hname⟩ := HeadText.isPrefix_of_ofStart? hstart
          have hle := size_take_le_start hhead
          rw [Nat.add_assoc, ← Utf8.size_cons, ← List.take_succ_cons, Nat.sub_add_cancel
            (List.length_pos_iff.mpr (HeadText.text_ne_nil hname)),
            ← List.prefix_iff_eq_take.mp htext] at hle
          exact hle

/-- No head reaches across an opening brace. -/
theorem headsFrom_append_openBrace {skip : Nat} (offset : Nat) (previous : Option Char)
    {front : List Char} (back : List Char) (hskip : skip ≤ front.length) :
    headsFrom skip previous offset (front ++ '{' :: back) =
      headsFrom skip previous offset front ++
        headsFrom 0 (some '{') (offset + Utf8.size front + '{'.utf8Size) back := by
  induction front generalizing skip offset previous with
  | nil =>
    obtain rfl : skip = 0 := by simpa using hskip
    have hbrace : HeadText.ofStart? ('{' :: back) = none := by
      rw [← List.nil_append ('{' :: back), HeadText.ofStart?_append_openBrace]
      rfl
    simp [headsFrom, hbrace]
  | cons character front ih =>
    rw [List.length_cons] at hskip
    have hlater {skip : Nat} (hskip : skip ≤ front.length) :
        headsFrom skip (some character) (offset + character.utf8Size) (front ++ '{' :: back) =
          headsFrom skip (some character) (offset + character.utf8Size) front ++
            headsFrom 0 (some '{')
              (offset + Utf8.size (character :: front) + '{'.utf8Size) back := by
      rw [ih _ _ hskip, Utf8.size_cons, Nat.add_assoc offset]
    cases skip with
    | succ skip => exact hlater (by omega)
    | zero =>
      rw [List.cons_append, headsFrom_zero_cons, headsFrom_zero_cons, ← List.cons_append,
        HeadText.ofStart?_append_openBrace]
      split
      · exact hlater (Nat.zero_le _)
      · rename_i headText hhead
        have hlength : headText.text.length - 1 ≤ front.length := by
          split at hhead
          · simp at hhead
          · have hle := (HeadText.isPrefix_of_ofStart? hhead).1.length_le
            rw [List.length_cons] at hle
            omega
        rw [hlater hlength, List.cons_append]

end Java

end JavaDiff
