import JavaDiff.Proofs.Java.Verbatim

/-!
# Masked source determines the layout

The layout of an outline is all of it but the texts, of which only the sizes count.  Two sources
with the same masked source have outlines with the same layout, or fail with the same line and
detail.  So nothing that stands in a comment or a literal reaches the structure of an outline.

Blank sources are set aside.  They are recognised before masking, which turns a comment into blanks.
-/

namespace JavaDiff

namespace Java

/-- A method without its text. -/
structure MethodLayout where
  name : String
  owner : String
  size : Nat
  startLine : UInt32
  endLine : UInt32
  startByte : Nat
deriving DecidableEq

/-- A type without its text and those of its methods. -/
structure TypeLayout where
  name : String
  filename : String
  kind : TypeKind
  size : Nat
  startLine : UInt32
  endLine : UInt32
  startByte : Nat
  methods : NameMap MethodLayout
deriving DecidableEq

/-- An outline without texts. -/
structure OutlineLayout where
  filename : String
  types : NameMap TypeLayout
  issues : List Issue
deriving DecidableEq

/-- The layout of a method. -/
def methodLayout (method : Method) : MethodLayout :=
  ⟨method.name, method.owner, Utf8.size method.text.toList, method.startLine, method.endLine,
    method.startByte⟩

/-- The layout of a type. -/
def typeLayout (type : DeclaredType) : TypeLayout :=
  ⟨type.name, type.filename, type.kind, Utf8.size type.text.toList, type.startLine, type.endLine,
    type.startByte, type.methods.mapValues methodLayout⟩

/-- The layout of an outline. -/
def outlineLayout (outline : Outline) : OutlineLayout :=
  ⟨outline.filename, outline.types.mapValues typeLayout, outline.issues⟩

theorem duplicateIssue_eq_of_layout_eq {earlier later other second : DeclaredType}
    (hearlier : typeLayout earlier = typeLayout other)
    (hlater : typeLayout later = typeLayout second) :
    duplicateIssue earlier later = duplicateIssue other second := by
  simp only [typeLayout, TypeLayout.mk.injEq] at hearlier hlater
  obtain ⟨hname, -, -, -, hline, -⟩ := hearlier
  obtain ⟨-, -, -, -, hlaterLine, -⟩ := hlater
  rw [duplicateIssue, duplicateIssue, hname, hline, hlaterLine]

/-- The layout of an outline after one more type depends on the layouts of the two. -/
theorem outlineLayout_addType {first second : Outline} {type other : DeclaredType}
    (houtline : outlineLayout first = outlineLayout second)
    (htype : typeLayout type = typeLayout other) :
    outlineLayout (addType first type) = outlineLayout (addType second other) := by
  have hname : type.name = other.name := congrArg TypeLayout.name htype
  obtain ⟨hfilename, htypes, hissues⟩ := (OutlineLayout.mk.injEq ..).mp houtline
  have hearlier : (first.types.get? type.name).map typeLayout =
      (second.types.get? other.name).map typeLayout := by
    rw [← NameMap.get?_mapValues, ← NameMap.get?_mapValues, htypes, hname]
  rw [addType, addType, outlineLayout, outlineLayout, OutlineLayout.mk.injEq]
  refine ⟨hfilename, ?_, ?_⟩
  · rw [NameMap.mapValues_insert, NameMap.mapValues_insert, htypes, hname, htype]
  · cases hfirst : first.types.get? type.name with
    | none =>
      rw [hfirst, Option.map_none] at hearlier
      rw [Option.map_eq_none_iff.mp hearlier.symm]
      exact hissues
    | some earlier =>
      rw [hfirst, Option.map_some] at hearlier
      obtain ⟨before, hbefore, hlayout⟩ := Option.map_eq_some_iff.mp hearlier.symm
      simp only [hbefore, duplicateIssue_eq_of_layout_eq hlayout htype.symm, hissues]

theorem outlineLayout_foldl_addType {first second : Outline} {types others : List DeclaredType}
    (houtline : outlineLayout first = outlineLayout second)
    (htypes : types.map typeLayout = others.map typeLayout) :
    outlineLayout (types.foldl addType first) = outlineLayout (others.foldl addType second) := by
  induction types generalizing first second others with
  | nil =>
    obtain rfl := List.map_eq_nil_iff.mp htypes.symm
    exact houtline
  | cons type types ih =>
    obtain ⟨other, others, rfl, hother, hothers⟩ := List.map_eq_cons_iff.mp htypes.symm
    rw [List.foldl_cons, List.foldl_cons]
    exact ih (outlineLayout_addType houtline hother.symm) hothers.symm

section Sources

variable {first second : String} {masked : List Char}

theorem linesOf_eq (hfirst : Covers masked first.toList) (hsecond : Covers masked second.toList) :
    linesOf first.toList = linesOf second.toList :=
  hfirst.masks.lines_eq.symm.trans hsecond.masks.lines_eq

theorem methodLayout_eq (hfirst : Covers masked first.toList)
    (hsecond : Covers masked second.toList) {span : MethodSpan} {owner : String}
    {method other : Method} (hspan : span.IsMethod (Utf8.encode masked))
    (hmethod : span.Holds masked first.toList owner method)
    (hother : span.Holds masked second.toList owner other) :
    methodLayout method = methodLayout other := by
  have hname : method.name = other.name :=
    String.toList_inj.mp (Utf8.encode_injective (hmethod.name_eq.trans hother.name_eq.symm))
  have hstart : method.startByte = other.startByte :=
    hmethod.startByte_eq.trans hother.startByte_eq.symm
  have hsize : Utf8.size method.text.toList = Utf8.size other.text.toList := by
    have hstop := hmethod.start_add_size hfirst hspan
    have hotherStop := hother.start_add_size hsecond hspan
    omega
  rw [methodLayout, methodLayout, hname, hmethod.owner_eq, hother.owner_eq, hsize,
    hmethod.startLine_eq, hother.startLine_eq, hmethod.endLine_eq, hother.endLine_eq, hstart,
    linesOf_eq hfirst hsecond]

/-- Two types of one declaration have the same layout. -/
theorem typeLayout_eq (hfirst : Covers masked first.toList)
    (hsecond : Covers masked second.toList) {head : Head} {opening close : Nat}
    {type other : DeclaredType} (hcomplete : IsComplete (Utf8.encode masked) head opening close)
    (htype : head.Holds masked first.toList opening close type)
    (hother : head.Holds masked second.toList opening close other) :
    typeLayout type = typeLayout other := by
  have hstart : type.startByte = other.startByte :=
    htype.startByte_eq.trans hother.startByte_eq.symm
  have hsize : Utf8.size type.text.toList = Utf8.size other.text.toList := by
    have hstop := htype.start_add_size hfirst hcomplete
    have hotherStop := hother.start_add_size hsecond hcomplete
    omega
  have hmethods : type.methods.mapValues methodLayout = other.methods.mapValues methodLayout := by
    obtain ⟨methods, hmethods, hmap⟩ := htype.methods_eq
    obtain ⟨others, hothers, hotherMap⟩ := hother.methods_eq
    have hlayouts : methods.map methodLayout = others.map methodLayout := by
      apply map_results_eq_map_results hmethods hothers
      intro span hspan method second hmethod hsecondMethod
      have hisMethod := (hcomplete.bodyMethodSpans_spec.1 span hspan).1
      exact methodLayout_eq hfirst hsecond hisMethod
        (holds_of_methodOf_eq_ok hfirst hisMethod hmethod)
        (holds_of_methodOf_eq_ok hsecond hisMethod hsecondMethod)
    have hentries (list : List Method) :
        (list.map fun method => (method.name, method)).map (fun entry =>
          (entry.1, methodLayout entry.2)) =
        (list.map methodLayout).map fun layout => (layout.name, layout) := by
      rw [List.map_map, List.map_map]
      rfl
    rw [hmap, hotherMap, NameMap.mapValues_ofList, NameMap.mapValues_ofList, hentries, hentries,
      hlayouts]
  rw [typeLayout, typeLayout, htype.name_eq, hother.name_eq, htype.filename_eq, hother.filename_eq,
    htype.kind_eq, hother.kind_eq, hsize, htype.startLine_eq, hother.startLine_eq,
    htype.endLine_eq, hother.endLine_eq, hstart, hmethods, linesOf_eq hfirst hsecond]

theorem map_typeLayout_eq (hfirst : Covers masked first.toList)
    (hsecond : Covers masked second.toList) {types others : List DeclaredType}
    (htypes : AreTypes masked first.toList types) (hothers : AreTypes masked second.toList others) :
    types.map typeLayout = others.map typeLayout := by
  apply map_results_eq_map_results htypes hothers
  intro ⟨head, opening, close⟩ hmem type other htype hother
  have hcomplete := isComplete_of_mem_declarations (mem_complete.mp hmem) rfl
  exact typeLayout_eq hfirst hsecond hcomplete (hcomplete.holds_of_typeOf_eq_ok hfirst htype)
    (hcomplete.holds_of_typeOf_eq_ok hsecond hother)

end Sources

theorem isEmpty_eq_of_layout_eq {first second : Outline}
    (hlayout : outlineLayout first = outlineLayout second) : first.isEmpty = second.isEmpty := by
  have hsize (outline : Outline) : outline.types.size = (outlineLayout outline).types.size := by
    simp [outlineLayout, NameMap.size, NameMap.mapValues]
  rw [Outline.isEmpty, Outline.isEmpty, hsize, hsize, hlayout]

theorem exists_noTypeError_eq (issues : List Issue) :
    ∃ line detail, noTypeError issues = .inSource line detail := by
  cases issues with
  | nil => exact ⟨none, _, rfl⟩
  | cons issue issues => exact ⟨some issue.line, _, rfl⟩

/-- Two sources with the same masked source, neither of them blank, fail with the same line and
detail or have outlines with the same layout. -/
theorem layout_eq_of_mask_eq {first second : String} (hmask : mask first = mask second)
    (hfirst : first.toList.all Blank.isBlank = false)
    (hsecond : second.toList.all Blank.isBlank = false) :
    (∃ line detail, outline first = .error (.inSource line detail) ∧
      outline second = .error (.inSource line detail)) ∨
    ∃ left right, outline first = .ok left ∧ outline second = .ok right ∧
      outlineLayout left = outlineLayout right := by
  have hfirstCovers := covers_mask first
  have hsecondCovers := covers_mask second
  obtain ⟨types, htypes⟩ := exists_areTypes hfirstCovers
  obtain ⟨others, hothers⟩ := exists_areTypes hsecondCovers
  have houtline := outline_eq_finished hfirst htypes
  have hother := outline_eq_finished hsecond hothers
  rw [← hmask] at hsecondCovers hothers hother
  rw [← linesOf_eq hfirstCovers hsecondCovers] at hother
  generalize unclosedOutline _ _ = start at houtline hother
  have hstart : outlineLayout start = outlineLayout start := rfl
  have hlayout := outlineLayout_foldl_addType hstart
    (map_typeLayout_eq hfirstCovers hsecondCovers htypes hothers)
  have hissues : (types.foldl addType start).issues = (others.foldl addType start).issues :=
    congrArg OutlineLayout.issues hlayout
  rw [houtline, hother, finished, finished, isEmpty_eq_of_layout_eq hlayout, hissues]
  split
  · obtain ⟨line, detail, herror⟩ := exists_noTypeError_eq (others.foldl addType start).issues
    exact Or.inl ⟨line, detail, congrArg Except.error herror, congrArg Except.error herror⟩
  · exact Or.inr ⟨_, _, rfl, rfl, hlayout⟩

theorem layout_eq_of_braces_in_literals :
    ∃ left right, outline "class A \x7b m()\x7b/*\x7d*/\"\x7b\"\x7d\x7d" = .ok left ∧
      outline "class A \x7b m()\x7b/*\x7b*/\"\x7d\"\x7d\x7d" = .ok right ∧
      outlineLayout left = outlineLayout right := by
  have hmask : mask "class A \x7b m()\x7b/*\x7d*/\"\x7b\"\x7d\x7d" =
      mask "class A \x7b m()\x7b/*\x7b*/\"\x7d\"\x7d\x7d" := by
    decide +kernel
  have hok : (outline "class A \x7b m()\x7b/*\x7d*/\"\x7b\"\x7d\x7d").isOk = true := by
    decide +kernel
  rcases layout_eq_of_mask_eq hmask (by decide) (by decide) with herror | hlayout
  · obtain ⟨line, detail, hfirst, -⟩ := herror
    rw [hfirst] at hok
    cases hok
  · exact hlayout

end Java

end JavaDiff
