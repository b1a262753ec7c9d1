import JavaDiff.Proofs.Java.Concat
import JavaDiff.Proofs.Java.Truncation

/-!
# Appended text

A declaration whose body ends in front of some text does not depend on that text.  So when a source
ends with a finished line, every type that it completes is also completed, with the same parts, in
each source that starts with it.  An outline keeps such a type unless a later declaration takes its
name.
-/

namespace JavaDiff

namespace Java

open Ascii

theorem pairwise_complete (masked : List Char) :
    (complete (declarations masked)).Pairwise fun earlier later =>
      earlier.1.start < later.1.start := by
  rw [complete, declarations, List.filterMap_filterMap, List.pairwise_filterMap]
  apply (pairwise_start_heads masked).imp
  intro earlier later hless first hfirst second hsecond
  simp only [Option.bind_map, Option.bind_eq_some_iff, Function.comp_apply, Option.map_eq_some_iff]
    at hfirst hsecond
  obtain ⟨-, -, -, -, rfl⟩ := hfirst
  obtain ⟨-, -, -, -, rfl⟩ := hsecond
  exact hless

/-- A complete declaration is found whatever text is appended. -/
theorem mem_declarations_append {front : List Char} (back : List Char) {declaration : Declaration}
    {close : Nat} (hmem : declaration ∈ declarations front)
    (hclose : declaration.closing? = some close) : declaration ∈ declarations (front ++ back) := by
  have hcomplete := isComplete_of_mem_declarations hmem hclose
  have hopening := hcomplete.opening_lt_close
  have hlength := hcomplete.close_lt_length
  have htake : (Utf8.encode front).take (Utf8.encode front).length =
      (Utf8.encode (front ++ back)).take (Utf8.encode front).length := by
    rw [Utf8.encode_append, List.take_left, List.take_length]
  obtain ⟨closing?, hfound⟩ := mem_declarations_of_take_eq hmem (by omega) htake
  obtain ⟨-, -, hclosing⟩ := mem_declarations.mp hmem
  obtain ⟨-, -, hfoundClosing⟩ := mem_declarations.mp hfound
  have hbehind : closingBrace (Utf8.encode (front ++ back)) declaration.opening = some close := by
    rw [Utf8.encode_append]
    exact (closingDelimiter_append hlength).mpr (hclosing.trans hclose)
  have hsame : closing? = declaration.closing? :=
    (hfoundClosing.symm.trans hbehind).trans hclose.symm
  rwa [hsame] at hfound

theorem bodyMethodSpans_append {front : List UInt8} (back : List UInt8) (kind : TypeKind)
    {opening close : Nat} (hopening : opening < close) (hclose : close ≤ front.length) :
    bodyMethodSpans kind (front ++ back) opening close =
      bodyMethodSpans kind front opening close := by
  have hstart : membersStart? kind (front ++ back) opening close =
      membersStart? kind front opening close := by
    unfold membersStart?
    rw [List.take_append_of_le_length hclose]
  rw [bodyMethodSpans, bodyMethodSpans, hstart]
  cases hmembers : membersStart? kind front opening close with
  | none => rfl
  | some start =>
    have hle := (membersStart?_bounds hopening hmembers).2
    simp only [methodSpans]
    rw [List.take_append_of_le_length hclose, List.take_append_of_le_length (by omega)]

theorem cut_append {front : List Char} (back : List Char) {start stop : Nat} {text : String}
    (hcut : cut front start stop = .ok text) : cut (front ++ back) start stop = .ok text := by
  unfold cut at hcut ⊢
  split at hcut
  · rename_i piece hpiece
    obtain ⟨before, after, rfl, hstart, hstop⟩ := Utf8.cut?_eq_some_iff.mp hpiece
    have hlonger : Utf8.cut? (before ++ piece ++ after ++ back) start stop = some piece :=
      Utf8.cut?_eq_some_iff.mpr ⟨before, after ++ back, List.append_assoc .., hstart, hstop⟩
    rw [hlonger]
    exact hcut
  · cases hcut

theorem lineOf_append {front : List Char} (back : List Char) {offset : Nat}
    (hoffset : offset ≤ (Utf8.encode front).length) :
    (linesOf (front ++ back)).lineOf offset = (linesOf front).lineOf offset := by
  rw [LineIndex.lineOf_ofBytes, LineIndex.lineOf_ofBytes, Utf8.encode_append,
    List.take_append_of_le_length hoffset]

theorem methodOf_append {front : List Char} (back : List Char) {owner : String}
    {span : MethodSpan} {method : Method} (hclose : span.close < (Utf8.encode front).length)
    (hstart : span.start ≤ span.close)
    (hmethod : methodOf front (linesOf front) owner span = .ok method) :
    methodOf (front ++ back) (linesOf (front ++ back)) owner span = .ok method := by
  unfold methodOf at hmethod ⊢
  rw [lineOf_append back (by omega), lineOf_append back (by omega)]
  cases hname : cut front span.start span.nameStop with
  | error error =>
    rw [hname] at hmethod
    cases hmethod
  | ok name =>
    cases htext : cut front span.start (span.close + 1) with
    | error error =>
      rw [hname, htext] at hmethod
      cases hmethod
    | ok text =>
      rw [hname, htext] at hmethod
      rw [cut_append back hname, cut_append back htext]
      exact hmethod

/-- The type of a complete declaration does not depend on the text behind it. -/
theorem typeOf_append {masked source : List Char} (maskedBack back : List Char) {head : Head}
    {opening close : Nat} {type : DeclaredType}
    (hcomplete : IsComplete (Utf8.encode masked) head opening close)
    (hlength : (Utf8.encode masked).length = (Utf8.encode source).length)
    (htype : typeOf source (Utf8.encode masked) (linesOf source) head opening close = .ok type) :
    typeOf (source ++ back) (Utf8.encode (masked ++ maskedBack)) (linesOf (source ++ back)) head
      opening close = .ok type := by
  have hopening := hcomplete.start_lt_opening
  have hbody := hcomplete.opening_lt_close
  have hclose := hcomplete.close_lt_length
  unfold typeOf at htype ⊢
  rw [lineOf_append back (by omega), lineOf_append back (by omega), Utf8.encode_append,
    bodyMethodSpans_append _ _ hbody (Nat.le_of_lt hclose)]
  cases htext : cut source head.start (close + 1) with
  | error error =>
    rw [htext] at htype
    cases htype
  | ok text =>
    cases hmethods : (bodyMethodSpans head.kind (Utf8.encode masked) opening close).mapM
        (methodOf source (linesOf source) head.name) with
    | error error =>
      rw [htext, hmethods] at htype
      cases htype
    | ok methods =>
      have hlater : (bodyMethodSpans head.kind (Utf8.encode masked) opening close).mapM
          (methodOf (source ++ back) (linesOf (source ++ back)) head.name) = .ok methods := by
        rw [mapM_eq_ok_iff] at hmethods ⊢
        rw [← hmethods]
        apply List.map_congr_left
        intro span hspan
        obtain ⟨hmethod, -, hend⟩ := hcomplete.bodyMethodSpans_spec.1 span hspan
        have hname := hmethod.start_lt_nameStop
        have hparen := hmethod.nameStop_le_paren
        have hlist := hmethod.paren_lt_close
        obtain ⟨method, -, hresult⟩ : ∃ method ∈ methods,
            methodOf source (linesOf source) head.name span = .ok method := by
          have hmem : methodOf source (linesOf source) head.name span ∈
              methods.map (Except.ok (ε := Error)) := hmethods ▸ List.mem_map_of_mem hspan
          exact (List.mem_map.mp hmem).imp fun method hmem => ⟨hmem.1, hmem.2.symm⟩
        rw [hresult, methodOf_append back (by omega) (by omega) hresult]
      rw [htext, hmethods] at htype
      rw [cut_append back htext, hlater]
      exact htype

theorem get?_foldl_addType (types : List DeclaredType) (outline : Outline) (name : String) :
    (types.foldl addType outline).types.get? name =
      (types.filter (·.name == name)).getLast?.or (outline.types.get? name) := by
  induction types generalizing outline with
  | nil => rfl
  | cons first types ih =>
    rw [List.foldl_cons, ih, addType]
    by_cases hname : first.name = name
    · subst hname
      rw [NameMap.get?_insert_self, List.filter_cons_of_pos (by simp), List.getLast?_cons]
      cases (types.filter (·.name == first.name)).getLast? <;> rfl
    · rw [NameMap.get?_insert_of_ne _ _ (Ne.symm hname), List.filter_cons_of_neg (by simpa)]

theorem AreTypes.map_filter {masked source : List Char} {types : List DeclaredType}
    (hcovers : Covers masked source) (htypes : AreTypes masked source types) (name : String) :
    ((complete (declarations masked)).filter (·.1.name == name)).map (fun (head, opening, close) =>
      typeOf source (Utf8.encode masked) (linesOf source) head opening close) =
      (types.filter (·.name == name)).map .ok := by
  apply map_filter_results htypes
  intro ⟨head, opening, close⟩ hmem type htype
  have hcomplete := isComplete_of_mem_declarations (mem_complete.mp hmem) rfl
  rw [(hcomplete.holds_of_typeOf_eq_ok hcovers htype).name_eq]

theorem filter_complete_append {masked back : List Char} {name : String}
    (hfurther : ∀ declaration ∈ declarations (masked ++ back), declaration.closing?.isSome →
      declaration.head.name = name → declaration ∈ declarations masked) :
    (complete (declarations (masked ++ back))).filter (·.1.name == name) =
      (complete (declarations masked)).filter (·.1.name == name) := by
  apply eq_of_ascending fun earlier later => earlier.1.start < later.1.start
  · exact fun earlier later hless hmore => Nat.lt_asymm hless hmore
  · exact (pairwise_complete _).filter _
  · exact (pairwise_complete _).filter _
  · intro ⟨head, opening, close⟩
    simp only [List.mem_filter, mem_complete, beq_iff_eq]
    constructor
    · exact fun hmem => ⟨hfurther _ hmem.1 rfl hmem.2, hmem.2⟩
    · exact fun hmem => ⟨mem_declarations_append back hmem.1 rfl, hmem.2⟩

/-- A name without a further complete declaration keeps its types. -/
theorem filter_types_append {masked maskedBack source back : List Char}
    (hcovers : Covers masked source) (hlater : Covers (masked ++ maskedBack) (source ++ back))
    {types others : List DeclaredType} (htypes : AreTypes masked source types)
    (hothers : AreTypes (masked ++ maskedBack) (source ++ back) others) {name : String}
    (hfurther : ∀ declaration ∈ declarations (masked ++ maskedBack),
      declaration.closing?.isSome → declaration.head.name = name →
      declaration ∈ declarations masked) :
    others.filter (·.name == name) = types.filter (·.name == name) := by
  have hbefore := htypes.map_filter hcovers name
  have hafter := hothers.map_filter hlater name
  rw [filter_complete_append hfurther] at hafter
  rw [← List.map_id (others.filter _), ← List.map_id (types.filter _)]
  apply map_results_eq_map_results hafter hbefore
  intro ⟨head, opening, close⟩ hmem other type hother htype
  have hpart := mem_complete.mp (List.mem_filter.mp hmem).1
  have hcomplete := isComplete_of_mem_declarations hpart rfl
  have happend := typeOf_append maskedBack back hcomplete hcovers.masks.length_eq htype
  exact Except.ok.inj (hother.symm.trans happend)

variable {source : String}

/-- A complete declaration of a source has a type, and whatever text is appended, it is found with
the same type. -/
theorem EndsLine.keeps_declaration (hsource : EndsLine source) (added : String)
    {declaration : Declaration} (hmem : declaration ∈ declarations (mask source).toList)
    {close : Nat} (hclose : declaration.closing? = some close) :
    declaration ∈ declarations (mask (source ++ added)).toList ∧
    ∃ type,
      typeOf source.toList (Utf8.encode (mask source).toList) (linesOf source.toList)
        declaration.head declaration.opening close = .ok type ∧
      typeOf (source ++ added).toList (Utf8.encode (mask (source ++ added)).toList)
        (linesOf (source ++ added).toList) declaration.head declaration.opening close =
          .ok type := by
  have hcovers := covers_mask source
  have hcomplete := isComplete_of_mem_declarations hmem hclose
  obtain ⟨type, htype, -⟩ := hcomplete.exists_typeOf_eq_ok hcovers
  rw [hsource.toList_mask_append, String.toList_append]
  exact ⟨mem_declarations_append _ hmem hclose, type, htype,
    typeOf_append _ _ hcomplete hcovers.masks.length_eq htype⟩

theorem EndsLine.keeps_type (hsource : EndsLine source) (added : String) {result : Outline}
    {name : String} {type : DeclaredType} (hresult : outline source = .ok result)
    (htype : result.types.get? name = some type)
    (hfurther : ∀ declaration ∈ declarations (mask (source ++ added)).toList,
      declaration.closing?.isSome → declaration.head.name = name →
      declaration ∈ declarations (mask source).toList) :
    ∃ later, outline (source ++ added) = .ok later ∧ later.types.get? name = some type := by
  have hcovers := covers_mask source
  have hlater := covers_mask (source ++ added)
  have htext : (source ++ added).toList = source.toList ++ added.toList := String.toList_append
  obtain ⟨types, htypes⟩ := exists_areTypes hcovers
  obtain ⟨others, hothers⟩ := exists_areTypes hlater
  have hblank : source.toList.all Blank.isBlank = false := by
    rw [← Bool.not_eq_true]
    intro hblank
    rw [outline, if_pos hblank] at hresult
    obtain rfl := Except.ok.inj hresult
    cases htype
  have hlaterBlank : (source ++ added).toList.all Blank.isBlank = false := by
    rw [htext, List.all_append, hblank, Bool.false_and]
  rw [outline_eq_finished hblank htypes] at hresult
  rw [outline_eq_finished hlaterBlank hothers]
  obtain ⟨-, rfl⟩ := finished_eq_ok_iff.mp hresult
  rw [hsource.toList_mask_append] at hlater hfurther hothers
  rw [htext] at hlater hothers
  rw [get?_foldl_addType] at htype
  have hget (lines : LineIndex) (declared : List Declaration) :
      (others.foldl addType (unclosedOutline lines declared)).types.get? name = some type := by
    rw [get?_foldl_addType, filter_types_append hcovers hlater htypes hothers hfurther]
    exact htype
  exact ⟨_, finished_eq_ok_iff.mpr ⟨size_ne_zero_of_get? (hget ..), rfl⟩, hget ..⟩

/-- What a source that ends with a finished line completes is there, with the same parts, whatever
text is appended.  A type of its outline stays if no further declaration of its name is
completed. -/
theorem EndsLine.keeps_complete (hsource : EndsLine source) (added : String) :
    (∀ declaration ∈ declarations (mask source).toList, ∀ close,
      declaration.closing? = some close →
      declaration ∈ declarations (mask (source ++ added)).toList ∧
      ∃ type,
        typeOf source.toList (Utf8.encode (mask source).toList) (linesOf source.toList)
          declaration.head declaration.opening close = .ok type ∧
        typeOf (source ++ added).toList (Utf8.encode (mask (source ++ added)).toList)
          (linesOf (source ++ added).toList) declaration.head declaration.opening close =
            .ok type) ∧
    ∀ result name type, outline source = .ok result → result.types.get? name = some type →
      (∀ declaration ∈ declarations (mask (source ++ added)).toList,
        declaration.closing?.isSome → declaration.head.name = name →
        declaration ∈ declarations (mask source).toList) →
      ∃ later, outline (source ++ added) = .ok later ∧ later.types.get? name = some type :=
  ⟨fun _ hmem _ hclose => hsource.keeps_declaration added hmem hclose,
    fun _ _ _ hresult htype hfurther => hsource.keeps_type added hresult htype hfurther⟩

theorem keeps_complete_of_first_class :
    ∃ later, outline ("class A \x7b m()\x7b\x7d\x7d\nclass B \x7b\x7d\nclass C \x7b\n" ++
      "\x7d class B \x7b n()\x7b\x7d\x7d") = .ok later ∧
      ∃ type, later.types.get? "A" = some type ∧ type.text = "class A \x7b m()\x7b\x7d\x7d" := by
  have hsource : EndsLine "class A \x7b m()\x7b\x7d\x7d\nclass B \x7b\x7d\nclass C \x7b\n" :=
    ⟨by decide +kernel, by decide +kernel⟩
  have htext : (outline "class A \x7b m()\x7b\x7d\x7d\nclass B \x7b\x7d\nclass C \x7b\n").map
      (fun result => (result.types.get? "A").map (·.text)) =
        .ok (some "class A \x7b m()\x7b\x7d\x7d") := by
    decide +kernel
  cases hresult : outline "class A \x7b m()\x7b\x7d\x7d\nclass B \x7b\x7d\nclass C \x7b\n" with
  | error error =>
    rw [hresult] at htext
    cases htext
  | ok result =>
    rw [hresult] at htext
    obtain ⟨type, htype, htext⟩ := Option.map_eq_some_iff.mp (Except.ok.inj htext)
    obtain ⟨later, hlater, hkept⟩ :=
      (hsource.keeps_complete "\x7d class B \x7b n()\x7b\x7d\x7d").2 result "A" type hresult htype
        (by decide +kernel)
    exact ⟨later, hlater, type, hkept, htext⟩

end Java

end JavaDiff
