import JavaDiff.Proofs.Java.Appended
import JavaDiff.Proofs.Java.Header
import JavaDiff.Proofs.Replacement

/-!
# Every declaration is accounted for

A declaration of a source is kept as a type, or an issue notes what became of it: its body does not
end, or a later declaration of the same name takes its place.  So the types and the issues of an
outline are together as many as the declarations.  Without a complete declaration there is an error
instead, which names the line of the first declaration if there is one.
-/

namespace JavaDiff

namespace Java

open Ascii

/-- The notes about types that take the place of earlier ones. -/
theorem issues_foldl_addType (types : List DeclaredType) {outline : Outline}
    (hempty : outline.types = .empty) :
    (types.foldl addType outline).issues = outline.issues ++
      (replacements DeclaredType.name types).map fun pair => duplicateIssue pair.1 pair.2 := by
  induction types using List.reverseRecOn with
  | nil => simp
  | append_singleton types last ih =>
    have hlast : (types.foldl addType outline).types.get? last.name =
        lastNamed? DeclaredType.name last.name types := by
      rw [get?_foldl_addType, hempty]
      exact Option.or_none
    rw [List.foldl_append, List.foldl_cons, List.foldl_nil, addType, hlast,
      replacements_append_singleton, List.map_append, ih]
    cases lastNamed? DeclaredType.name last.name types <;> simp

/-- Each type adds an entry or an issue. -/
theorem size_add_length_foldl_addType (types : List DeclaredType) (outline : Outline) :
    (types.foldl addType outline).types.size + (types.foldl addType outline).issues.length =
      outline.types.size + outline.issues.length + types.length := by
  induction types generalizing outline with
  | nil => rfl
  | cons first types ih =>
    have hfirst : (addType outline first).types.size + (addType outline first).issues.length =
        outline.types.size + outline.issues.length + 1 := by
      rw [addType]
      cases hearlier : outline.types.get? first.name with
      | none =>
        have hsize := NameMap.size_insert_of_notMem first (NameMap.get?_eq_none_iff.mp hearlier)
        simp only [hsize]
        omega
      | some earlier =>
        have hsize := NameMap.size_insert_of_mem first (NameMap.mem_names_iff.mpr ⟨_, hearlier⟩)
        simp only [hsize, List.length_append, List.length_singleton]
        omega
    rw [List.foldl_cons, ih, hfirst, List.length_cons]
    omega

/-- The heads that declare a type: no class literal and no annotation type, and with a brace that
opens a body. -/
def declaringHeads (masked : List Char) : List Head :=
  (heads masked).filter fun head => (head.opening? (Utf8.encode masked)).isSome

theorem map_head_declarations (masked : List Char) :
    (declarations masked).map Declaration.head = declaringHeads masked := by
  unfold declarations declaringHeads
  induction heads masked with
  | nil => rfl
  | cons head heads ih =>
    rw [List.filterMap_cons, List.filter_cons, ← ih]
    cases head.opening? (Utf8.encode masked) <;> rfl

theorem pairwise_declarations (masked : List Char) :
    (declarations masked).Pairwise fun earlier later => earlier.head.start < later.head.start := by
  rw [← List.pairwise_map (f := Declaration.head) (R := fun earlier later =>
    earlier.start < later.start), map_head_declarations]
  exact (pairwise_start_heads masked).filter _

theorem nodup_complete (masked : List Char) : (complete (declarations masked)).Nodup := by
  apply (pairwise_complete masked).imp
  rintro declaration _ hless rfl
  exact Nat.lt_irrefl _ hless

theorem length_filter_add_length_complete (declarations : List Declaration) :
    (declarations.filter (·.closing?.isNone)).length + (complete declarations).length =
      declarations.length := by
  induction declarations with
  | nil => rfl
  | cons declaration declarations ih =>
    obtain ⟨head, opening, closing?⟩ := declaration
    cases closing? <;> simp [complete] at ih ⊢ <;> omega

theorem declarations_eq_nil_of_blank {masked source : List Char} (hcovers : Covers masked source)
    (hblank : source.all Blank.isBlank = true) : declarations masked = [] := by
  have hmasked : ∀ character ∈ masked, Blank.isBlank character = true := by
    induction hcovers with
    | nil => simp
    | keep character _ ih =>
      rw [List.all_cons, Bool.and_eq_true] at hblank
      exact List.forall_mem_cons.mpr ⟨hblank.1, ih hblank.2⟩
    | blank character _ _ ih =>
      rw [List.all_cons, Bool.and_eq_true] at hblank
      intro other hother
      rcases List.mem_append.mp hother with hspace | hrest
      · rw [List.eq_of_mem_replicate hspace]
        rfl
      · exact ih hblank.2 other hrest
  rw [List.eq_nil_iff_forall_not_mem]
  intro declaration hmem
  obtain ⟨left, right, headText, rfl, -, -⟩ := exists_of_mem_heads (mem_declarations.mp hmem).1
  obtain ⟨first, others, hkeyword, hfirst⟩ : ∃ first others,
      headText.kind.keyword.toList = first :: others ∧ Blank.isBlank first = false := by
    cases headText.kind <;> exact ⟨_, _, rfl, by decide +kernel⟩
  have hshown := hmasked first (by simp [HeadText.text, hkeyword])
  rw [hfirst] at hshown
  contradiction

/-- The one-based line of a declaration, counted in words of 32 bits by the line feeds in front of its
keyword. -/
def headLine (source : List Char) (head : Head) : UInt32 :=
  UInt32.ofNat (((Utf8.encode source).take head.start).count newline + 1)

theorem countsTo_headLine (source : List Char) (head : Head) :
    CountsTo (headLine source head) (((Utf8.encode source).take head.start).count newline + 1) :=
  countsTo_ofNat _

/-- What is noted about the declarations of a source: first those whose bodies do not end, then
those that another one replaces, both in the order of the keywords. -/
def declarationNotes (source : List Char) (declarations : List Declaration) : List Note :=
  (declarations.filter (·.closing?.isNone)).map (fun declaration =>
      .unclosed (headLine source declaration.head) declaration.head.kind declaration.head.name) ++
    (replacements (·.1.name) (complete declarations)).map fun (earlier, later) =>
      .repeated earlier.1.name (headLine source later.1) (headLine source earlier.1)

/-- What the outline of a source says about its declarations.  Each is a type or an issue.  A name
has the type of its last complete declaration, and every other complete one is replaced once. -/
structure AccountsFor (source : String) (result : Outline) : Prop where
  size_add_length : result.types.size + result.issues.length =
    (declaringHeads (mask source).toList).length
  issues_eq : result.issues =
    (declarationNotes source.toList (declarations (mask source).toList)).map Note.issue
  types_eq : ∀ name, (result.types.get? name).map .ok =
    (lastNamed? (·.1.name) name (complete (declarations (mask source).toList))).map
      fun (head, opening, close) => typeOf source.toList (Utf8.encode (mask source).toList)
        (linesOf source.toList) head opening close
  replaced_perm :
    ((replacements (·.1.name) (complete (declarations (mask source).toList))).map Prod.fst).Perm
      ((complete (declarations (mask source).toList)).filter fun declaration =>
        lastNamed? (·.1.name) declaration.1.name (complete (declarations (mask source).toList)) ≠
          some declaration)
  of_size_eq_zero : result.types.size = 0 →
    source.toList.all Blank.isBlank = true ∧ result.issues = []

section Outlines

variable {source : String} {types : List DeclaredType}

theorem AreTypes.map_name_startLine (htypes : AreTypes (mask source).toList source.toList types) :
    types.map (fun type => (type.name, type.startLine)) =
      (complete (declarations (mask source).toList)).map fun declaration =>
        (declaration.1.name, headLine source.toList declaration.1) := by
  apply map_results_eq_map_results htypes rfl
  intro ⟨head, opening, close⟩ hmem type declaration htype hsame
  obtain rfl := Except.ok.inj hsame
  have hcomplete := isComplete_of_mem_declarations (mem_complete.mp hmem) rfl
  have hholds := hcomplete.holds_of_typeOf_eq_ok (covers_mask source) htype
  rw [hholds.name_eq, hholds.startLine_eq, LineIndex.lineOf_ofBytes, headLine]

/-- The issues of an outline are the notes about the declarations. -/
theorem AreTypes.issues_eq (htypes : AreTypes (mask source).toList source.toList types) :
    (types.foldl addType (unclosedOutline (linesOf source.toList)
      (declarations (mask source).toList))).issues =
      (declarationNotes source.toList (declarations (mask source).toList)).map Note.issue := by
  have hunclosed : (unclosedOutline (linesOf source.toList)
      (declarations (mask source).toList)).issues =
      (((declarations (mask source).toList).filter (·.closing?.isNone)).map fun declaration =>
        Note.unclosed (headLine source.toList declaration.head) declaration.head.kind
          declaration.head.name).map Note.issue := by
    rw [unclosedOutline, List.map_map]
    apply List.map_congr_left
    intro declaration _
    rw [unclosedIssue, LineIndex.lineOf_ofBytes]
    rfl
  -- A note about a replaced type mentions no more than names and lines.
  have hreplaced : (replacements DeclaredType.name types).map
      (fun pair => duplicateIssue pair.1 pair.2) =
      ((replacements (·.1.name) (complete (declarations (mask source).toList))).map
        fun (earlier, later) => Note.repeated earlier.1.name (headLine source.toList later.1)
          (headLine source.toList earlier.1)).map Note.issue := by
    have hviews := congrArg (replacements Prod.fst) htypes.map_name_startLine
    rw [replacements_map, replacements_map] at hviews
    have hnotes := congrArg (List.map fun pair =>
      (Note.repeated pair.1.1 pair.2.2 pair.1.2).issue) hviews
    rw [List.map_map, List.map_map] at hnotes
    rw [List.map_map]
    exact hnotes
  rw [issues_foldl_addType types rfl, hunclosed, hreplaced, declarationNotes, List.map_append]

theorem AreTypes.get?_eq (htypes : AreTypes (mask source).toList source.toList types)
    (lines : LineIndex) (name : String) :
    ((types.foldl addType (unclosedOutline lines
      (declarations (mask source).toList))).types.get? name).map .ok =
      (lastNamed? (·.1.name) name (complete (declarations (mask source).toList))).map
        fun (head, opening, close) => typeOf source.toList (Utf8.encode (mask source).toList)
          (linesOf source.toList) head opening close := by
  have hlast := congrArg List.getLast? (htypes.map_filter (covers_mask source) name)
  rw [List.getLast?_map, List.getLast?_map] at hlast
  rw [get?_foldl_addType, lastNamed?, hlast]
  exact congrArg _ Option.or_none

theorem AreTypes.length_eq (htypes : AreTypes (mask source).toList source.toList types) :
    types.length = (complete (declarations (mask source).toList)).length := by
  have hlength := congrArg List.length htypes
  rwa [List.length_map, List.length_map, eq_comm] at hlength

/-- The types and the issues are together as many as the declarations. -/
theorem AreTypes.size_add_length (htypes : AreTypes (mask source).toList source.toList types)
    (lines : LineIndex) {outline : Outline}
    (houtline : outline =
      types.foldl addType (unclosedOutline lines (declarations (mask source).toList))) :
    outline.types.size + outline.issues.length =
      (declaringHeads (mask source).toList).length := by
  have hparts := length_filter_add_length_complete (declarations (mask source).toList)
  have hstart : (unclosedOutline lines (declarations (mask source).toList)).types.size = 0 := rfl
  rw [houtline, size_add_length_foldl_addType, hstart, htypes.length_eq, ← map_head_declarations,
    List.length_map, ← hparts, unclosedOutline, List.length_map, Nat.zero_add]

/-- A source without a complete declaration has no outline.  The error names the line of the first
declaration, if there is one. -/
theorem noTypeError_of_forall_unclosed (source : List Char) {declarations : List Declaration}
    (hunclosed : ∀ declaration ∈ declarations, declaration.closing? = none) :
    ∃ detail, noTypeError (unclosedOutline (linesOf source) declarations).issues =
      .inSource (declarations.head?.map fun declaration => headLine source declaration.head)
        detail := by
  have hall : declarations.filter (·.closing?.isNone) = declarations :=
    List.filter_eq_self.mpr fun declaration hmem => by rw [hunclosed declaration hmem]; rfl
  rw [unclosedOutline, hall]
  cases declarations with
  | nil => exact ⟨_, rfl⟩
  | cons first others =>
    let message := (unclosedIssue (linesOf source) first.head).message
    refine ⟨s!"no class could be recovered: {message}", ?_⟩
    rw [List.head?_cons, Option.map_some, headLine, ← LineIndex.lineOf_ofBytes]
    rfl

theorem AreTypes.accountsFor (htypes : AreTypes (mask source).toList source.toList types)
    {result : Outline} (hresult : result = types.foldl addType
      (unclosedOutline (linesOf source.toList) (declarations (mask source).toList)))
    (hsize : result.types.size ≠ 0) : AccountsFor source result where
  size_add_length := htypes.size_add_length _ hresult
  issues_eq := by rw [hresult, htypes.issues_eq]
  types_eq name := by rw [hresult, htypes.get?_eq]
  replaced_perm := map_fst_replacements_perm (nodup_complete _)
  of_size_eq_zero hzero := absurd hzero hsize

theorem accountsFor_empty (hblank : source.toList.all Blank.isBlank = true) :
    AccountsFor source (.empty unnamedSource) := by
  have hnone := declarations_eq_nil_of_blank (covers_mask source) hblank
  constructor
  case size_add_length =>
    rw [← map_head_declarations, hnone]
    rfl
  case issues_eq =>
    rw [hnone]
    rfl
  case types_eq =>
    rw [hnone]
    exact fun _ => rfl
  case replaced_perm => exact map_fst_replacements_perm (nodup_complete _)
  case of_size_eq_zero => exact fun _ => ⟨hblank, rfl⟩

end Outlines

/-- An outline accounts for every declaration of its source.  Where there is none, no declaration is
complete, and the error names the line of the first one. -/
theorem outline_accounts_for_declarations (source : String) :
    (declarations (mask source).toList).map Declaration.head =
      declaringHeads (mask source).toList ∧
    ((declarations (mask source).toList).Pairwise fun earlier later =>
      earlier.head.start < later.head.start) ∧
    (∀ declaration ∈ declarations (mask source).toList,
      CountsTo (headLine source.toList declaration.head)
        (((Utf8.encode source.toList).take declaration.head.start).count newline + 1)) ∧
    match outline source with
    | .ok result => AccountsFor source result
    | .error error =>
      (∀ declaration ∈ declarations (mask source).toList, declaration.closing? = none) ∧
      ∃ detail, error = .inSource ((declarations (mask source).toList).head?.map fun declaration =>
        headLine source.toList declaration.head) detail := by
  refine ⟨map_head_declarations _, pairwise_declarations _,
    fun declaration _ => countsTo_headLine _ declaration.head, ?_⟩
  cases hblank : source.toList.all Blank.isBlank with
  | true =>
    rw [outline, if_pos hblank]
    exact accountsFor_empty hblank
  | false =>
    obtain ⟨types, htypes⟩ := exists_areTypes (covers_mask source)
    rw [outline_eq_finished hblank htypes]
    cases types with
    | nil =>
      have hunclosed : ∀ declaration ∈ declarations (mask source).toList,
          declaration.closing? = none := by
        intro declaration hmem
        cases hclose : declaration.closing? with
        | none => rfl
        | some close =>
          obtain ⟨type, htype, -⟩ := htypes.exists_type (covers_mask source) hmem hclose
          exact absurd htype List.not_mem_nil
      exact ⟨hunclosed, noTypeError_of_forall_unclosed source.toList hunclosed⟩
    | cons first types =>
      have hsize := size_foldl_addType_ne_zero (List.cons_ne_nil first types)
      rw [finished_foldl_addType (List.cons_ne_nil first types)]
      exact htypes.accountsFor rfl (hsize _)

end Java

end JavaDiff
