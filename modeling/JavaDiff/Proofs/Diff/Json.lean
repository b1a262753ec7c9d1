import JavaDiff.Diff.Json
import JavaDiff.Proofs.Outline.Json

/-!
# Reports read back

A report is read back from its JSON text in either spacing when its numbers are: the duration and the
similarities are finite numbers whose numerals read back.  The notes of a report may be left out of
the text, and then there are none.
-/

namespace JavaDiff

open Json

/-- The similarities in a record. -/
def Record.similarities : Record → List Single
  | ofType type => type.methods.filterMap (·.similarity?)
  | ofMethod method => method.similarity?.toList

/-- The similarities in a report. -/
def Report.similarities (report : Report) : List Single :=
  report.records.flatMap Record.similarities

/-- Whether the duration and the similarities of a report are finite. -/
structure Report.IsFinite (report : Report) : Prop where
  duration_isFinite : report.duration.isFinite = true
  similarities_areFinite : ∀ value ∈ report.similarities, value.isFinite = true

/-- Whether the printed duration and similarities of a report read back as the same numbers. -/
structure Report.NumbersReadBack (report : Report) : Prop where
  duration_readsBack : report.duration.ReadsBack .double
  similarities_readBack : ∀ value ∈ report.similarities, value.ReadsBack .single

/-- Whether numbers are finite and their numerals read back. -/
def ArePrintable (values : List Single) : Prop :=
  ∀ value ∈ values, value.isFinite = true ∧ value.ReadsBack .single

theorem ofName?_name (change : Change) : Change.ofName? change.name = some change := by
  cases change <;> rfl

/-- A record has the fields of its change behind the member that tells its kind. -/
theorem fields?_ofMembers_kind {known : List String} {members : List (String × Json)}
    (kind : Json) (hnames : members.map Prod.fst = known) (hnodup : known.Nodup)
    (hkind : Record.kindField ∉ known) :
    (ofMembers ((Record.kindField, kind) :: members)).fields? known = some members := by
  subst hnames
  have hnames : (((Record.kindField, kind) :: members).map Prod.fst).Nodup :=
    List.nodup_cons.mpr ⟨hkind, hnodup⟩
  rw [fields?_ofMembers hnames, List.filter_cons_of_neg (by simpa using hkind),
    List.filter_eq_self.mpr]
  intro member hmember
  exact List.contains_iff_mem.mpr (List.mem_map_of_mem hmember)

namespace MethodChange

variable {change : MethodChange}

theorem toOptionalBinary?_similarity {similarity? : Option Single}
    (hprint : ArePrintable similarity?.toList) :
    ((similarity?.map ofSingle).getD .null).toOptionalBinary? = some similarity? ∧
      ((similarity?.map ofSingle).getD .null).isReadable = true := by
  cases similarity? with
  | none => exact ⟨rfl, rfl⟩
  | some similarity =>
    obtain ⟨hfinite, hreads⟩ := hprint similarity (List.mem_singleton_self _)
    obtain ⟨hbinary, hreadable⟩ := toBinary?_ofBinary hfinite hreads
    exact ⟨toOptionalBinary?_of_toBinary? hbinary, hreadable⟩

theorem ofJson?_of_fields {value : Json}
    (hfields : value.fields? fieldNames = some change.toMembers)
    (hprint : ArePrintable change.similarity?.toList) : ofJson? value = some change := by
  have hsimilarity := (toOptionalBinary?_similarity hprint).1
  refine bind_of_eq_some hfields ?_
  refine bind_field rfl (toString?_ofString _) ?_
  refine bind_optionalField rfl (toOptionalString?_ofString? _) ?_
  refine bind_optionalField rfl (toOptionalString?_ofString? _) ?_
  refine bind_field rfl (ofName?_name _) ?_
  exact bind_optionalField rfl hsimilarity rfl

theorem ofJson?_toJson (hprint : ArePrintable change.similarity?.toList) :
    ofJson? change.toJson = some change := by
  refine ofJson?_of_fields ?_ hprint
  rw [toJson, fields?_ofMembers_of_names]
  · rfl
  · decide

theorem isReadable_of_mem_toMembers (hprint : ArePrintable change.similarity?.toList) :
    change.toMembers.all (·.2.isReadable) = true := by
  have hsimilarity := (toOptionalBinary?_similarity hprint).2
  simp only [toMembers, List.all_cons, List.all_nil, Bool.and_self, isReadable_ofString,
    isReadable_ofString?, hsimilarity]

theorem depth_of_mem_toMembers (change : MethodChange) :
    ∀ member ∈ change.toMembers, member.2.depth ≤ 0 := by
  have hsimilarity : ((change.similarity?.map ofSingle).getD .null).depth = 0 := by
    cases change.similarity? with
    | none => rfl
    | some value =>
      rw [Option.map_some, Option.getD_some, ofSingle, ofBinary]
      split <;> rfl
  simp only [toMembers, List.forall_mem_cons, List.not_mem_nil, false_implies, implies_true,
    and_true, depth_ofString, depth_ofString?, hsimilarity, Nat.le_refl]

end MethodChange

namespace TypeChange

variable {change : TypeChange}

theorem arePrintable_of_mem (hprint : ArePrintable (change.methods.filterMap (·.similarity?)))
    {method : MethodChange} (hmethod : method ∈ change.methods) :
    ArePrintable method.similarity?.toList := by
  intro value hvalue
  exact hprint value (List.mem_filterMap.mpr ⟨method, hmethod, Option.mem_toList.mp hvalue⟩)

theorem ofJson?_of_fields {value : Json}
    (hfields : value.fields? fieldNames = some change.toMembers)
    (hprint : ArePrintable (change.methods.filterMap (·.similarity?))) :
    ofJson? value = some change := by
  have hmethods : (array (change.methods.map MethodChange.toJson)).toList? MethodChange.ofJson? =
      some change.methods :=
    toList?_map fun method hmethod =>
      MethodChange.ofJson?_toJson (arePrintable_of_mem hprint hmethod)
  refine bind_of_eq_some hfields ?_
  refine bind_optionalField rfl (toOptionalString?_ofString? _) ?_
  refine bind_optionalField rfl (toOptionalString?_ofString? _) ?_
  refine bind_field rfl (ofName?_name _) ?_
  exact bind_field rfl hmethods rfl

theorem isReadable_of_mem_toMembers
    (hprint : ArePrintable (change.methods.filterMap (·.similarity?))) :
    change.toMembers.all (·.2.isReadable) = true := by
  have hmethods : (array (change.methods.map MethodChange.toJson)).isReadable = true := by
    rw [isReadable_array, List.all_map, List.all_eq_true]
    intro method hmethod
    rw [Function.comp_apply, MethodChange.toJson, isReadable_ofMembers]
    exact MethodChange.isReadable_of_mem_toMembers (arePrintable_of_mem hprint hmethod)
  simp only [toMembers, List.all_cons, List.all_nil, Bool.and_self, isReadable_ofString,
    isReadable_ofString?, hmethods]

theorem depth_of_mem_toMembers (change : TypeChange) :
    ∀ member ∈ change.toMembers, member.2.depth ≤ 2 := by
  have hmethods : (array (change.methods.map MethodChange.toJson)).depth ≤ 2 := by
    apply depth_array_le
    intro element helement
    obtain ⟨method, -, rfl⟩ := List.mem_map.mp helement
    exact depth_ofMembers_le method.depth_of_mem_toMembers
  simp only [toMembers, List.forall_mem_cons, List.not_mem_nil, false_implies, implies_true,
    and_true, depth_ofString, depth_ofString?, Nat.zero_le, hmethods]

end TypeChange

namespace Record

variable {record : Record}

/-- A record says first of which kind it is. -/
theorem kindAndChange?_ofMembers (kind : String) {known : List String}
    {members : List (String × Json)} (hnames : members.map Prod.fst = known)
    (hnodup : known.Nodup) (hkind : kindField ∉ known) :
    kindAndChange? (ofMembers ((kindField, ofString kind) :: members)) =
      some (kind, ofMembers ((kindField, ofString kind) :: members)) := by
  subst hnames
  have hnames : (((kindField, ofString kind) :: members).map Prod.fst).Nodup :=
    List.nodup_cons.mpr ⟨hkind, hnodup⟩
  have hothers : members.filter ([kindField].contains ·.1) = [] := by
    rw [List.filter_eq_nil_iff]
    intro member hmember hcontains
    obtain hname : member.1 = kindField := by simpa using hcontains
    exact hkind (hname ▸ List.mem_map_of_mem hmember)
  have hfields : (ofMembers ((kindField, ofString kind) :: members)).fields? [kindField] =
      some [(kindField, ofString kind)] := by
    rw [fields?_ofMembers hnames, List.filter_cons_of_pos (by simp), hothers]
  unfold kindAndChange?
  split
  · rename_i harray
    cases harray
  · rw [hfields]
    rfl

theorem depth_toJson_le (record : Record) : record.toJson.depth ≤ 3 := by
  cases record with
  | ofType change =>
    exact depth_ofMembers_le (List.forall_mem_cons.mpr
      ⟨Nat.zero_le _, change.depth_of_mem_toMembers⟩)
  | ofMethod change =>
    refine depth_ofMembers_le (List.forall_mem_cons.mpr ⟨Nat.zero_le _, fun member hmember => ?_⟩)
    exact Nat.le_trans (change.depth_of_mem_toMembers member hmember) (Nat.zero_le _)

theorem isReadable_toJson (hprint : ArePrintable record.similarities) :
    record.toJson.isReadable = true := by
  cases record with
  | ofType change =>
    rw [toJson, isReadable_ofMembers, List.all_cons, isReadable_ofString, Bool.true_and]
    exact TypeChange.isReadable_of_mem_toMembers hprint
  | ofMethod change =>
    rw [toJson, isReadable_ofMembers, List.all_cons, isReadable_ofString, Bool.true_and]
    exact MethodChange.isReadable_of_mem_toMembers hprint

theorem ofJson?_toJson (hprint : ArePrintable record.similarities) :
    ofJson? 2 record.toJson = some record := by
  have hgood : ¬ (¬ record.toJson.isReadable = true ∨ depthLimit < 2 + record.toJson.depth) := by
    have hdepth := depth_toJson_le record
    have hlimit : depthLimit = 127 := rfl
    rintro (hunreadable | hdeep)
    · exact hunreadable (isReadable_toJson hprint)
    · omega
  rw [ofJson?, if_neg hgood]
  cases record with
  | ofType change =>
    have hnames : change.toMembers.map Prod.fst = TypeChange.fieldNames := rfl
    have hfields := fields?_ofMembers_kind (ofString typeKind) hnames (by decide) (by decide)
    have hchange := TypeChange.ofJson?_of_fields hfields hprint
    rw [toJson, kindAndChange?_ofMembers typeKind hnames (by decide) (by decide)]
    simp only [Option.bind_eq_bind, Option.bind_some, if_true, hchange]
    rfl
  | ofMethod change =>
    have hnames : change.toMembers.map Prod.fst = MethodChange.fieldNames := rfl
    have hfields := fields?_ofMembers_kind (ofString methodKind) hnames (by decide) (by decide)
    have hchange := MethodChange.ofJson?_of_fields hfields hprint
    have hkind : methodKind ≠ typeKind := by decide
    rw [toJson, kindAndChange?_ofMembers methodKind hnames (by decide) (by decide)]
    simp only [Option.bind_eq_bind, Option.bind_some, if_neg hkind, if_true, hchange]
    rfl

end Record

namespace Summary

theorem ofJson?_toJson (summary : Summary) : ofJson? summary.toJson = some summary := by
  have hcount {fields : List (String × Json)} {name : String} {count : UInt32}
      (hfield : field? fields name = some (.ofWord32 count)) :
      (do (← field? fields name).toWord32?) = some count :=
    bind_of_eq_some hfield (toWord32?_ofWord32 count)
  rw [ofJson?, toJson]
  refine bind_of_eq_some (fields?_ofMembers_of_names rfl (by decide)) ?_
  refine bind_of_eq_some (hcount rfl) ?_
  refine bind_of_eq_some (hcount rfl) ?_
  refine bind_of_eq_some (hcount rfl) ?_
  refine bind_of_eq_some (hcount rfl) ?_
  refine bind_of_eq_some (hcount rfl) ?_
  exact bind_of_eq_some (hcount rfl) rfl

theorem isReadable_toJson (summary : Summary) : summary.toJson.isReadable = true := by
  rw [toJson, isReadable_ofMembers]
  simp only [List.all_cons, List.all_nil, Bool.and_self, isReadable_ofWord32]

end Summary

namespace SideIssue

theorem ofName?_name (side : Side) : Side.ofName? side.name = some side := by
  cases side <;> rfl

theorem ofJson?_toJson (issue : SideIssue) : ofJson? issue.toJson = some issue := by
  rw [ofJson?, toJson]
  refine bind_of_eq_some (fields?_ofMembers_of_names rfl (by decide)) ?_
  refine bind_field rfl (ofName?_name _) ?_
  refine bind_field rfl (toWord32?_ofWord32 _) ?_
  exact bind_field rfl (toString?_ofString _) rfl

theorem isReadable_toJson (issue : SideIssue) : issue.toJson.isReadable = true := by
  rw [toJson, isReadable_ofMembers]
  simp only [List.all_cons, List.all_nil, Bool.and_self, isReadable_ofString, isReadable_ofWord32]

end SideIssue

/-- The object without the members of a name. -/
def Json.withoutMember (name : String) : Json → Json
  | .object members => .object (members.filter (·.1 ≠ some name))
  | value => value

theorem Json.withoutMember_ofMembers (name : String) (members : List (String × Json)) :
    (ofMembers members).withoutMember name = ofMembers (members.filter (·.1 ≠ name)) := by
  rw [ofMembers, withoutMember, List.filter_map]
  simp [ofMembers, Function.comp_def]

theorem Json.isReadable_withoutMember (name : String) {members : List (String × Json)}
    (hreadable : (ofMembers members).isReadable = true) :
    ((ofMembers members).withoutMember name).isReadable = true := by
  rw [isReadable_ofMembers, List.all_eq_true] at hreadable
  rw [withoutMember_ofMembers, isReadable_ofMembers, List.all_eq_true]
  exact fun member hmember => hreadable member (List.mem_filter.mp hmember).1

namespace Report

variable {report : Report}

theorem arePrintable_of_mem (hfinite : report.IsFinite) (hreads : report.NumbersReadBack)
    {record : Record} (hrecord : record ∈ report.records) :
    ArePrintable record.similarities := by
  intro value hvalue
  have hmem : value ∈ report.similarities := List.mem_flatMap.mpr ⟨record, hrecord, hvalue⟩
  exact ⟨hfinite.similarities_areFinite value hmem, hreads.similarities_readBack value hmem⟩

/-- The members of the written form of a report but for its notes. -/
def otherMembers (report : Report) : List (String × Json) := [
  ("filename", .ofString report.filename),
  ("records", .array (report.records.map Record.toJson)),
  ("summary", report.summary.toJson),
  ("summary_text", .ofString report.summaryText),
  ("duration_ms", .ofDouble report.duration)]

theorem ofJson?_of_fields (hfinite : report.IsFinite)
    (hreads : report.NumbersReadBack) {value : Json} {fields : List (String × Json)}
    (hfields : value.fields? fieldNames = some fields)
    (hothers : ∀ name, name ≠ "issues" → field? fields name = field? report.otherMembers name)
    {issues : List SideIssue}
    (hissues : ((field? fields "issues").getD (.array [])).toList? SideIssue.ofJson? =
      some issues) : ofJson? value = some { report with issues } := by
  have hfilename : field? fields "filename" = some (.ofString report.filename) :=
    hothers _ (by decide)
  have hrecords : field? fields "records" = some (.array (report.records.map Record.toJson)) :=
    hothers _ (by decide)
  have hsummary : field? fields "summary" = some report.summary.toJson := hothers _ (by decide)
  have htext : field? fields "summary_text" = some (.ofString report.summaryText) :=
    hothers _ (by decide)
  have hduration : field? fields "duration_ms" = some (.ofDouble report.duration) :=
    hothers _ (by decide)
  have hrecordsRead : (array (report.records.map Record.toJson)).toList? (Record.ofJson? 2) =
      some report.records :=
    toList?_map fun record hrecord =>
      Record.ofJson?_toJson (arePrintable_of_mem hfinite hreads hrecord)
  have hsummaryRead := Summary.ofJson?_toJson report.summary
  have hdurationRead : (ofDouble report.duration).toBinary? = some report.duration :=
    (toBinary?_ofBinary hfinite.duration_isFinite hreads.duration_readsBack).1
  refine bind_of_eq_some hfields ?_
  refine bind_field hfilename (toString?_ofString _) ?_
  refine bind_field hrecords hrecordsRead ?_
  refine bind_field hsummary hsummaryRead ?_
  refine bind_field htext (toString?_ofString _) ?_
  refine bind_of_eq_some hissues ?_
  exact bind_field hduration hdurationRead rfl

theorem ofJson?_toJson (hfinite : report.IsFinite)
    (hreads : report.NumbersReadBack) : ofJson? report.toJson = some report := by
  have hissues : (array (report.issues.map SideIssue.toJson)).toList? SideIssue.ofJson? =
      some report.issues :=
    toList?_map fun issue _ => SideIssue.ofJson?_toJson issue
  refine ofJson?_of_fields hfinite hreads (fields?_ofMembers_of_names rfl (by decide)) ?_
    hissues
  intro name hname
  simp only [field?, otherMembers, List.lookup_cons, List.lookup_nil, beq_false_of_ne hname]

theorem ofJson?_withoutMember (hfinite : report.IsFinite)
    (hreads : report.NumbersReadBack) :
    ofJson? (report.toJson.withoutMember "issues") = some { report with issues := [] } := by
  have hmembers : report.toJson.withoutMember "issues" = ofMembers report.otherMembers := by
    rw [toJson, Json.withoutMember_ofMembers]
    simp [otherMembers]
  rw [hmembers]
  have hfields : (ofMembers report.otherMembers).fields? fieldNames = some report.otherMembers := by
    rw [fields?_ofMembers (by simp [otherMembers])]
    simp [otherMembers, fieldNames]
  exact ofJson?_of_fields hfinite hreads hfields (fun _ _ => rfl) rfl

theorem isReadable_toJson (hfinite : report.IsFinite)
    (hreads : report.NumbersReadBack) : report.toJson.isReadable = true := by
  have hrecords : (array (report.records.map Record.toJson)).isReadable = true := by
    rw [isReadable_array, List.all_map, List.all_eq_true]
    exact fun record hrecord =>
      Record.isReadable_toJson (arePrintable_of_mem hfinite hreads hrecord)
  have hsummary := Summary.isReadable_toJson report.summary
  have hissues : (array (report.issues.map SideIssue.toJson)).isReadable = true := by
    rw [isReadable_array, List.all_map, List.all_eq_true]
    exact fun issue _ => SideIssue.isReadable_toJson issue
  have hduration : (ofDouble report.duration).isReadable = true :=
    (toBinary?_ofBinary hfinite.duration_isFinite hreads.duration_readsBack).2
  rw [toJson, isReadable_ofMembers]
  simp only [List.all_cons, List.all_nil, Bool.and_self, isReadable_ofString, hrecords, hsummary,
    hissues, hduration]

end Report

/-- Outlines and reports are read back from their JSON texts in either spacing.  A report may leave
out its notes and is then read without any. -/
theorem json_round_trip :
    (∀ (outline : Outline) (spacing : Spacing), outline.FitsWords →
      Outline.importText (outline.exportText spacing) = .ok outline) ∧
    ∀ (report : Report) (spacing : Spacing), report.IsFinite → report.NumbersReadBack →
      Report.importText (report.exportText spacing) = .ok report ∧
      Report.importText ((report.toJson.withoutMember "issues").text spacing) =
        .ok { report with issues := [] } := by
  refine ⟨fun outline spacing hfits => Outline.importText_exportText hfits spacing, ?_⟩
  intro report spacing hfinite hreads
  have hreadable := Report.isReadable_toJson hfinite hreads
  constructor
  · rw [Report.importText, Report.exportText, ofText?_text hreadable, Option.bind_some,
      Report.ofJson?_toJson hfinite hreads]
  · have hothers : (report.toJson.withoutMember "issues").isReadable = true :=
      isReadable_withoutMember _ hreadable
    rw [Report.importText, ofText?_text hothers, Option.bind_some,
      Report.ofJson?_withoutMember hfinite hreads]

/-- An outline whose texts hold a quote, a control character and a letter outside ASCII. -/
def sampleOutline : Outline where
  filename := "A\"\x01é.java"
  types := .ofList [("A", {
    name := "A", filename := "A.java", kind := .enumType, text := "enum A \x7b; m()\x7b\n\x7d\x7d",
    startLine := 1, endLine := 2, startByte := 0
    methods := .ofList [("m", ⟨"m", "A", "m()\x7b\n\x7d", 1, 2, 9⟩)] })]
  issues := [⟨3, "class 'B' has no closing brace"⟩]

/-- A report with a similarity of 0.875 and a duration of 12.5 milliseconds. -/
def sampleReport : Report where
  filename := "A.java"
  records := (TypeChange.modified "A" [.modified "A" "m" (.ofQuotient false 7 8)]).records
  summary := ⟨⟨0, 0, 1⟩, ⟨0, 0, 1⟩⟩
  summaryText := "classes: 1 modified; methods: 1 modified (1 structural issue)"
  issues := [⟨.head, 3, "class 'B' has no closing brace"⟩]
  duration := .ofQuotient false 25 2

theorem fitsWords_sampleOutline : sampleOutline.FitsWords := by
  constructor
  intro type htype
  obtain rfl := List.mem_singleton.mp htype
  refine ⟨by decide, fun method hmethod => ?_⟩
  obtain rfl := List.mem_singleton.mp hmethod
  exact ⟨by decide⟩

theorem similarities_sampleReport : ∀ value ∈ sampleReport.similarities,
    value = .ofQuotient false 7 8 := by
  decide +kernel

theorem isFinite_sampleReport : sampleReport.IsFinite := by
  refine ⟨by decide +kernel, fun value hvalue => ?_⟩
  obtain rfl := similarities_sampleReport value hvalue
  decide +kernel

theorem numbersReadBack_sampleReport : sampleReport.NumbersReadBack := by
  constructor
  · have hnumeral : sampleReport.duration.numeral? .double = some ⟨false, 12, [5], none⟩ := by
      decide +kernel
    intro numeral hnumeral'
    obtain rfl := Option.some.inj (hnumeral.symm.trans hnumeral')
    decide +kernel
  · intro value hvalue numeral hnumeral'
    obtain rfl := similarities_sampleReport value hvalue
    have hnumeral : (Binary.ofQuotient false 7 8 : Single).numeral? .single =
        some ⟨false, 0, [8, 7, 5], none⟩ := by
      decide +kernel
    obtain rfl := Option.some.inj (hnumeral.symm.trans hnumeral')
    decide +kernel

theorem json_round_trip_samples :
    Outline.importText (sampleOutline.exportText .indented) = .ok sampleOutline ∧
    Report.importText (sampleReport.exportText .compact) = .ok sampleReport ∧
    Report.importText ((sampleReport.toJson.withoutMember "issues").text .indented) =
      .ok { sampleReport with issues := [] } :=
  ⟨json_round_trip.1 sampleOutline .indented fitsWords_sampleOutline,
    (json_round_trip.2 sampleReport .compact isFinite_sampleReport numbersReadBack_sampleReport).1,
    (json_round_trip.2 sampleReport .indented isFinite_sampleReport numbersReadBack_sampleReport).2⟩

end JavaDiff
