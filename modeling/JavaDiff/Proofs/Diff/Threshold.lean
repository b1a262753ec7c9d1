import JavaDiff.Proofs.Diff.Record
import JavaDiff.Proofs.Diff.Revision

/-!
# Comparisons under another threshold

A greater threshold reports more methods as modified, and a type that is reported for its methods or
for the text outside of them stays reported.  So the records under a threshold are found, in the
same order, among those under a greater one, and the two lists differ in modified methods and types
only. At threshold zero no method is modified, and at threshold one each method whose text differs
is.
-/

namespace JavaDiff

/-- Whether two settings differ in the threshold only, which is not lower in the second. -/
structure Settings.Raises (lower upper : Settings) : Prop where
  detectMemberChanges_eq : lower.detectMemberChanges = upper.detectMemberChanges
  expandMembers_eq : lower.expandMembers = upper.expandMembers
  isAtLeast : upper.effectiveThreshold.isAtLeast lower.effectiveThreshold = true

section Methods

variable {lower upper : Settings} {older newer : Method} {base head : NameMap Method}

theorem IsRewritten.mono (hraises : lower.Raises upper)
    (hrewritten : IsRewritten lower.effectiveThreshold older newer) :
    IsRewritten upper.effectiveThreshold older newer := by
  obtain ⟨hdifferent, hone | hless⟩ := hrewritten
  · have hatLeast := hraises.isAtLeast
    rw [hone, upper.effectiveThreshold_isAtLeast_one_iff] at hatLeast
    exact ⟨hdifferent, Or.inl hatLeast⟩
  · exact ⟨hdifferent, Or.inr (Binary.isLess_of_isLess_of_isAtLeast hless hraises.isAtLeast)⟩

theorem MethodsDiffer.mono (hraises : lower.Raises upper)
    (hdiffer : MethodsDiffer lower.effectiveThreshold base head) :
    MethodsDiffer upper.effectiveThreshold base head :=
  hdiffer.imp_right fun ⟨name, older, newer, holder, hnewer, hrewritten⟩ =>
    ⟨name, older, newer, holder, hnewer, hrewritten.mono hraises⟩

/-- A selection that has each result of another one has them in the same order. -/
theorem filterMap_sublist_filterMap {α β : Type} {list : List α} {f g : α → Option β}
    (hkept : ∀ value ∈ list, ∀ result, f value = some result → g value = some result) :
    (list.filterMap f).Sublist (list.filterMap g) := by
  induction list with
  | nil => exact .slnil
  | cons first list ih =>
    obtain ⟨hfirst, hlist⟩ := List.forall_mem_cons.mp hkept
    have hrest := ih hlist
    rw [List.filterMap_cons, List.filterMap_cons]
    cases hresult : f first with
    | some result =>
      rw [hfirst result hresult]
      exact hrest.cons_cons result
    | none =>
      cases g first with
      | some result => exact hrest.cons result
      | none => exact hrest

theorem rewrittenMethods_sublist (hraises : lower.Raises upper) (base head : NameMap Method) :
    (rewrittenMethods lower.effectiveThreshold base head).Sublist
      (rewrittenMethods upper.effectiveThreshold base head) := by
  apply filterMap_sublist_filterMap
  rintro ⟨name, older⟩ - result hresult
  simp only [Option.bind_eq_bind, Option.bind_eq_some_iff] at hresult ⊢
  obtain ⟨newer, hnewer, hresult⟩ := hresult
  refine ⟨newer, hnewer, ?_⟩
  rw [isModified_snd] at hresult ⊢
  split at hresult
  · rename_i hmodified
    have hrewritten := ((isModified_fst_iff lower older newer).mp hmodified).mono hraises
    rw [if_pos ((isModified_fst_iff upper older newer).mpr hrewritten)]
    exact hresult
  · cases hresult

theorem methodChanges_sublist (hraises : lower.Raises upper) (owner : String)
    (base head : NameMap Method) :
    (methodChanges lower.effectiveThreshold owner base head).Sublist
      (methodChanges upper.effectiveThreshold owner base head) := by
  rw [methodChanges_eq_groupChanges, methodChanges_eq_groupChanges]
  exact ((rewrittenMethods_sublist hraises base head).map _).append_left _

theorem filter_methodChanges (threshold : Single) (owner : String) (base head : NameMap Method) :
    (methodChanges threshold owner base head).filter (·.change ≠ .modified) =
      groupChanges owner (head.names.filter fun name => !base.contains name)
        (base.names.filter fun name => !head.contains name) [] := by
  rw [methodChanges_eq_groupChanges, groupChanges, groupChanges, List.filter_append, List.map_nil]
  congr 1
  · rw [List.filter_eq_self]
    intro change hchange
    rcases List.mem_append.mp hchange with hadded | hremoved
    · obtain ⟨name, -, rfl⟩ := List.mem_map.mp hadded
      rfl
    · obtain ⟨name, -, rfl⟩ := List.mem_map.mp hremoved
      rfl
  · rw [List.filter_eq_nil_iff]
    intro change hchange
    obtain ⟨entry, -, rfl⟩ := List.mem_map.mp hchange
    exact Bool.false_ne_true

end Methods

theorem IsReported.mono {lower upper : Settings} {older newer : DeclaredType}
    (hraises : lower.Raises upper) (hreported : IsReported lower older newer) :
    IsReported upper older newer := by
  rcases hreported with hdiffer | ⟨hdetect, hskeletons⟩
  · exact Or.inl (hdiffer.mono hraises)
  · exact Or.inr ⟨hraises.detectMemberChanges_eq ▸ hdetect, hskeletons⟩

/-- Whether a change of a type reports what another one does, but for some modified methods. -/
structure TypeChange.Narrows (fewer more : TypeChange) : Prop where
  before?_eq : fewer.before? = more.before?
  after?_eq : fewer.after? = more.after?
  change_eq : fewer.change = more.change
  methods_sublist : fewer.methods.Sublist more.methods
  unmodified_eq :
    fewer.methods.filter (·.change ≠ .modified) = more.methods.filter (·.change ≠ .modified)
  eq_of_ne : fewer.change ≠ .modified → fewer = more

theorem TypeChange.Narrows.refl (change : TypeChange) : change.Narrows change :=
  ⟨rfl, rfl, rfl, .refl _, rfl, fun _ => rfl⟩

/-- Whether a change of a type, if there is one, narrows that of another comparison.  Only a
modified type without other methods than modified ones may have no change at all. -/
inductive Narrows? : Option TypeChange → Option TypeChange → Prop
  | none : Narrows? none none
  | dropped {more : TypeChange} (hmodified : more.change = .modified)
      (hmethods : more.methods.filter (·.change ≠ .modified) = []) : Narrows? none (some more)
  | kept {fewer more : TypeChange} (hnarrows : fewer.Narrows more) :
      Narrows? (some fewer) (some more)

theorem Narrows?.refl (change? : Option TypeChange) : Narrows? change? change? := by
  cases change? with
  | none => exact .none
  | some change => exact .kept (.refl change)

section Types

variable {lower upper : Settings} {base head : Outline} {change? other? : Option TypeChange}

/-- The change of a type that only one side has does not depend on the threshold. -/
theorem typeChange?_eq_of_raises (hraises : lower.Raises upper) (name : String)
    {base? head? : Option DeclaredType} (honly : base? = none ∨ head? = none) :
    typeChange? lower name base? head? = typeChange? upper name base? head? := by
  rcases honly with rfl | rfl
  · cases head? <;> simp only [typeChange?, hraises.expandMembers_eq]
  · cases base? <;> simp only [typeChange?, hraises.expandMembers_eq]

theorem pairChange?_narrows (hraises : lower.Raises upper) {older newer : DeclaredType}
    {name : String}
    (hchange : ∀ change, change? = some change ↔ IsReported lower older newer ∧ change =
      .modified name (methodChanges lower.effectiveThreshold name older.methods newer.methods))
    (hother : ∀ change, other? = some change ↔ IsReported upper older newer ∧ change =
      .modified name (methodChanges upper.effectiveThreshold name older.methods newer.methods)) :
    Narrows? change? other? := by
  have hnone {settings : Settings} {result? : Option TypeChange} {result : TypeChange}
      (hresult : ∀ change, result? = some change ↔
        IsReported settings older newer ∧ change = result)
      (hunreported : ¬ IsReported settings older newer) : result? = none :=
    Option.eq_none_iff_forall_ne_some.mpr fun change hsome =>
      hunreported ((hresult change).mp hsome).1
  have hunmodified := (filter_methodChanges lower.effectiveThreshold name older.methods
    newer.methods).trans (filter_methodChanges upper.effectiveThreshold name older.methods
      newer.methods).symm
  by_cases hlower : IsReported lower older newer
  · rw [(hchange _).mpr ⟨hlower, rfl⟩, (hother _).mpr ⟨hlower.mono hraises, rfl⟩]
    exact .kept ⟨rfl, rfl, rfl, methodChanges_sublist hraises .., hunmodified,
      fun hne => absurd rfl hne⟩
  · rw [hnone hchange hlower]
    by_cases hupper : IsReported upper older newer
    · rw [(hother _).mpr ⟨hupper, rfl⟩]
      refine .dropped rfl (hunmodified.symm.trans ?_)
      have hnil : methodChanges lower.effectiveThreshold name older.methods newer.methods = [] := by
        by_contra hne
        exact hlower (Or.inl ((methodChanges_ne_nil_iff lower name _ _).mp hne))
      rw [hnil, List.filter_nil]
    · rw [hnone hother hupper]
      exact .none

/-- Under a lower threshold the change of a type reports no more. -/
theorem typeChange?_narrows (hraises : lower.Raises upper)
    (hlower : SkeletonsExist lower base head) (hupper : SkeletonsExist upper base head)
    {name : String}
    (hchange : typeChange? lower name (base.types.get? name) (head.types.get? name) = .ok change?)
    (hother : typeChange? upper name (base.types.get? name) (head.types.get? name) = .ok other?) :
    Narrows? change? other? := by
  have hsame (honly : base.types.get? name = none ∨ head.types.get? name = none) :
      Narrows? change? other? := by
    rw [typeChange?_eq_of_raises hraises name honly, hother] at hchange
    obtain rfl := Except.ok.inj hchange
    exact .refl other?
  cases hbase : base.types.get? name with
  | none => exact hsame (Or.inl hbase)
  | some older =>
    cases hhead : head.types.get? name with
    | none => exact hsame (Or.inr hhead)
    | some newer =>
      obtain ⟨first?, hfirst, hfirstChange⟩ :=
        pairChange?_spec name (hlower name older newer hbase hhead)
      obtain ⟨second?, hsecond, hsecondChange⟩ :=
        pairChange?_spec name (hupper name older newer hbase hhead)
      rw [hbase, hhead] at hchange hother
      obtain rfl := Except.ok.inj (hfirst.symm.trans hchange)
      obtain rfl := Except.ok.inj (hsecond.symm.trans hother)
      exact pairChange?_narrows hraises hfirstChange hsecondChange

end Types

/-- Whether some records are those of another comparison but for modified methods and types: the
methods are among the other ones in the same order and with the same scores, the types among the
other ones with the same changes, and nothing differs that is added or removed. -/
structure Narrows (fewer more : List Record) : Prop where
  methods_sublist : (fewer.filterMap Record.method?).Sublist (more.filterMap Record.method?)
  types_sublist :
    ((fewer.filterMap Record.type?).map fun type => (type.name, type.change)).Sublist
      ((more.filterMap Record.type?).map fun type => (type.name, type.change))
  exists_of_mem : ∀ type, .ofType type ∈ fewer → ∃ other, .ofType other ∈ more ∧ type.Narrows other
  unmodified_eq : fewer.filter (·.change ≠ .modified) = more.filter (·.change ≠ .modified)

namespace Narrows

theorem nil : Narrows [] [] :=
  ⟨.slnil, .slnil, fun _ hnil => absurd hnil List.not_mem_nil, rfl⟩

theorem append {fewer more others rest : List Record} (hfront : Narrows fewer more)
    (hback : Narrows others rest) : Narrows (fewer ++ others) (more ++ rest) where
  methods_sublist := by
    rw [List.filterMap_append, List.filterMap_append]
    exact hfront.methods_sublist.append hback.methods_sublist
  types_sublist := by
    rw [List.filterMap_append, List.filterMap_append, List.map_append, List.map_append]
    exact hfront.types_sublist.append hback.types_sublist
  exists_of_mem type htype := by
    rcases List.mem_append.mp htype with htype | htype
    · obtain ⟨other, hother, hnarrows⟩ := hfront.exists_of_mem type htype
      exact ⟨other, List.mem_append_left _ hother, hnarrows⟩
    · obtain ⟨other, hother, hnarrows⟩ := hback.exists_of_mem type htype
      exact ⟨other, List.mem_append_right _ hother, hnarrows⟩
  unmodified_eq := by
    rw [List.filter_append, List.filter_append, hfront.unmodified_eq, hback.unmodified_eq]

end Narrows

namespace TypeChange

theorem filter_records_of_modified {change : TypeChange} (hmodified : change.change = .modified) :
    change.records.filter (·.change ≠ .modified) =
      (change.methods.filter (·.change ≠ .modified)).map .ofMethod := by
  rw [records, List.filter_cons_of_neg (by simp [Record.change, hmodified]), List.filter_map]
  rfl

theorem Narrows.records {fewer more : TypeChange} (hnarrows : fewer.Narrows more) :
    JavaDiff.Narrows fewer.records more.records where
  methods_sublist := by
    rw [filterMap_method?_records, filterMap_method?_records]
    exact hnarrows.methods_sublist
  types_sublist := by
    rw [filterMap_type?_records, filterMap_type?_records, List.map_singleton, List.map_singleton,
      name, name, hnarrows.before?_eq, hnarrows.after?_eq, hnarrows.change_eq]
  exists_of_mem type htype := by
    obtain rfl := mem_records_iff.mp htype
    exact ⟨more, mem_records_iff.mpr rfl, hnarrows⟩
  unmodified_eq := by
    by_cases hmodified : fewer.change = .modified
    · rw [filter_records_of_modified hmodified,
        filter_records_of_modified (hnarrows.change_eq.symm.trans hmodified),
        hnarrows.unmodified_eq]
    · rw [hnarrows.eq_of_ne hmodified]

end TypeChange

theorem narrows_records {changes others : List (Option TypeChange)}
    (hnarrows : List.Forall₂ Narrows? changes others) :
    Narrows ((changes.filterMap id).flatMap TypeChange.records)
      ((others.filterMap id).flatMap TypeChange.records) := by
  induction hnarrows with
  | nil => exact .nil
  | cons hfirst hrest ih =>
    cases hfirst with
    | none => exact ih
    | @dropped more hmodified hmethods =>
      have hdropped : Narrows [] more.records :=
        ⟨List.nil_sublist _, List.nil_sublist _, fun _ hnil => absurd hnil List.not_mem_nil, by
          rw [TypeChange.filter_records_of_modified hmodified, hmethods, List.map_nil,
            List.filter_nil]⟩
      exact hdropped.append ih
    | kept hkept => exact hkept.records.append ih

/-- Under a lower threshold a comparison reports no more. -/
theorem exists_narrows {lower upper : Settings} {base head : Outline}
    (hraises : lower.Raises upper) (hlower : SkeletonsExist lower base head)
    (hupper : SkeletonsExist upper base head) :
    ∃ fewer more, compareOutlines lower base head = .ok fewer ∧
      compareOutlines upper base head = .ok more ∧ Narrows fewer more := by
  obtain ⟨changes, hchanges, hfewer⟩ := exists_changes hlower
  obtain ⟨others, hothers, hmore⟩ := exists_changes hupper
  refine ⟨_, _, hfewer, hmore, ?_⟩
  exact narrows_records (forall₂_results hchanges hothers fun name _ change? other? =>
    typeChange?_narrows hraises hlower hupper)

/-- Whether some records report a method of a type as modified. -/
def ReportsModified (records : List Record) (owner name : String) : Prop :=
  ∃ change, .ofMethod change ∈ records ∧ change.owner = owner ∧ change.name = name ∧
    change.change = .modified

theorem exists_of_mem_groupChanges {owner : String} {added removed : List String}
    {modified : List (String × Single)} {change : MethodChange}
    (hchange : change ∈ groupChanges owner added removed modified)
    (hmodified : change.change = .modified) :
    ∃ name score, (name, score) ∈ modified ∧ change = .modified owner name score := by
  rw [groupChanges, List.mem_append, List.mem_append] at hchange
  rcases hchange with (hadded | hremoved) | hchange
  · obtain ⟨name, -, rfl⟩ := List.mem_map.mp hadded
    cases hmodified
  · obtain ⟨name, -, rfl⟩ := List.mem_map.mp hremoved
    cases hmodified
  · obtain ⟨⟨name, score⟩, hentry, rfl⟩ := List.mem_map.mp hchange
    exact ⟨name, score, hentry, rfl⟩

section Comparison

variable {settings : Settings} {base head : Outline} {records : List Record}

theorem ofMethod_mem_of_mem_methods (hskeletons : SkeletonsExist settings base head)
    (hrecords : compareOutlines settings base head = .ok records) {type : TypeChange}
    (htype : .ofType type ∈ records) {change : MethodChange} (hchange : change ∈ type.methods) :
    .ofMethod change ∈ records := by
  obtain ⟨blocks, hok, -, -⟩ := exists_blocks hskeletons
  obtain rfl := Except.ok.inj (hok.symm.trans hrecords)
  obtain ⟨block, hblock, hmem⟩ := List.mem_flatMap.mp htype
  obtain rfl := TypeChange.mem_records_iff.mp hmem
  exact List.mem_flatMap.mpr ⟨type, hblock, TypeChange.mem_records_iff_mem_methods.mpr hchange⟩

theorem reportsModified_iff (hskeletons : SkeletonsExist settings base head)
    (hrecords : compareOutlines settings base head = .ok records) {owner name : String} :
    ReportsModified records owner name ↔ ∃ first second older newer,
      base.types.get? owner = some first ∧ head.types.get? owner = some second ∧
        first.methods.get? name = some older ∧ second.methods.get? name = some newer ∧
          IsRewritten settings.effectiveThreshold older newer := by
  obtain ⟨blocks, hok, -, hblocks⟩ := exists_blocks hskeletons
  obtain rfl := Except.ok.inj (hok.symm.trans hrecords)
  constructor
  · rintro ⟨change, hmem, rfl, rfl, hmodified⟩
    obtain ⟨block, hblock, hmem⟩ := List.mem_flatMap.mp hmem
    rw [TypeChange.mem_records_iff_mem_methods] at hmem
    obtain ⟨owner, hchange⟩ := (hblocks block).mp hblock
    cases hchange with
    | added =>
      obtain ⟨method, -, rfl⟩ := List.mem_map.mp hmem
      cases hmodified
    | removed =>
      obtain ⟨method, -, rfl⟩ := List.mem_map.mp hmem
      cases hmodified
    | @modified first second hbase hhead =>
      rw [methodChanges_eq_groupChanges] at hmem
      obtain ⟨name, score, hentry, rfl⟩ := exists_of_mem_groupChanges hmem hmodified
      obtain ⟨older, newer, holder, hnewer, hrewritten, -⟩ := mem_rewrittenMethods_iff.mp hentry
      exact ⟨first, second, older, newer, hbase, hhead, holder, hnewer, hrewritten⟩
  · rintro ⟨first, second, older, newer, hbase, hhead, holder, hnewer, hrewritten⟩
    have hreported : IsReported settings first second :=
      Or.inl (Or.inr ⟨name, older, newer, holder, hnewer, hrewritten⟩)
    have hentry := mem_rewrittenMethods_iff.mpr ⟨older, newer, holder, hnewer, hrewritten, rfl⟩
    have hchange : MethodChange.modified owner name (similarity older.text newer.text) ∈
        methodChanges settings.effectiveThreshold owner first.methods second.methods := by
      rw [methodChanges_eq_groupChanges]
      exact List.mem_append_right _ (List.mem_map_of_mem hentry)
    exact ⟨_, List.mem_flatMap.mpr ⟨_, (hblocks _).mpr ⟨owner, .modified hbase hhead hreported⟩,
      TypeChange.mem_records_iff_mem_methods.mpr hchange⟩, rfl, rfl, rfl⟩

end Comparison

theorem exists_rank?_similarity (base head : String) :
    ∃ rank : Nat, (similarity base head).rank? = some (rank : Int) := by
  rw [similarity]
  split <;> exact ⟨_, rfl⟩

/-- No similarity is below zero. -/
theorem not_isRewritten_of_rank?_eq_zero {threshold : Single} (hzero : threshold.rank? = some 0)
    (older newer : Method) : ¬ IsRewritten threshold older newer := by
  rintro ⟨-, rfl | hless⟩
  · exact absurd (Binary.rank?_one.symm.trans hzero) (by decide)
  · obtain ⟨rank, hrank⟩ := exists_rank?_similarity older.text newer.text
    rw [Binary.isLess, hrank, hzero, decide_eq_true_eq] at hless
    omega

theorem isRewritten_one_iff {older newer : Method} :
    IsRewritten .one older newer ↔ older.text ≠ newer.text :=
  and_iff_left (Or.inl rfl)

namespace Java

variable {older newer : String} {base head : Outline}

/-- A comparison of outlined sources reports no more under a lower threshold, no modified method at
zero and every one with another text at one. -/
theorem compareOutlines_threshold (hbase : IsOutline older base) (hhead : IsOutline newer head) :
    (∀ lower upper : Settings, lower.Raises upper → ∃ fewer more,
      compareOutlines lower base head = .ok fewer ∧ compareOutlines upper base head = .ok more ∧
        Narrows fewer more) ∧
    (∀ settings : Settings, settings.effectiveThreshold.rank? = some 0 → ∃ records,
      compareOutlines settings base head = .ok records ∧
        (∀ change, .ofMethod change ∈ records → change.change ≠ .modified) ∧
        ∀ type, .ofType type ∈ records → ∀ change ∈ type.methods, change.change ≠ .modified) ∧
    ∀ settings : Settings, settings.effectiveThreshold = .one → ∃ records,
      compareOutlines settings base head = .ok records ∧
        ∀ owner first second, base.types.get? owner = some first →
          head.types.get? owner = some second → ∀ name before after,
            first.methods.get? name = some before → second.methods.get? name = some after →
              (ReportsModified records owner name ↔ before.text ≠ after.text) := by
  have hskeletons (settings : Settings) := skeletonsExist_of_isOutline hbase hhead settings
  refine ⟨fun lower upper hraises => exists_narrows hraises (hskeletons lower) (hskeletons upper),
    fun settings hzero => ?_, fun settings hone => ?_⟩
  · obtain ⟨blocks, hok, -⟩ := exists_blocks (hskeletons settings)
    have hmethods : ∀ change, .ofMethod change ∈ blocks.flatMap TypeChange.records →
        change.change ≠ .modified := by
      intro change hchange hmodified
      obtain ⟨_, _, before, after, -, -, -, -, hrewritten⟩ :=
        (reportsModified_iff (hskeletons settings) hok).mp ⟨change, hchange, rfl, rfl, hmodified⟩
      exact not_isRewritten_of_rank?_eq_zero hzero before after hrewritten
    exact ⟨_, hok, hmethods, fun type htype change hchange =>
      hmethods change (ofMethod_mem_of_mem_methods (hskeletons settings) hok htype hchange)⟩
  · obtain ⟨blocks, hok, -⟩ := exists_blocks (hskeletons settings)
    refine ⟨_, hok, fun owner first second hfirst hsecond name before after hbefore hafter => ?_⟩
    rw [reportsModified_iff (hskeletons settings) hok, hone, ← isRewritten_one_iff]
    constructor
    · rintro ⟨_, _, _, _, hfirst', hsecond', hbefore', hafter', hrewritten⟩
      obtain rfl := Option.some.inj (hfirst.symm.trans hfirst')
      obtain rfl := Option.some.inj (hsecond.symm.trans hsecond')
      obtain rfl := Option.some.inj (hbefore.symm.trans hbefore')
      obtain rfl := Option.some.inj (hafter.symm.trans hafter')
      exact hrewritten
    · exact fun hrewritten =>
        ⟨first, second, before, after, hfirst, hsecond, hbefore, hafter, hrewritten⟩

/-- A source with one method. -/
def tickSource (step : String) : String := "class Clock \x7b tick()\x7b " ++ step ++ " \x7d \x7d"

/-- The type in that source. -/
def tickType (step : String) : DeclaredType where
  name := "Clock"
  filename := unnamedSource
  kind := .classType
  text := tickSource step
  startLine := 1
  endLine := 1
  startByte := 0
  methods := .ofList [("tick", ⟨"tick", "Clock", "tick()\x7b " ++ step ++ " \x7d", 1, 1, 14⟩)]

/-- The outline of that source. -/
def tickOutline (step : String) : Outline :=
  ⟨unnamedSource, .ofList [("Clock", tickType step)], []⟩

theorem compareOutlines_threshold_tick :
    (∃ fewer more,
      compareOutlines ⟨.zero, true, true⟩ (tickOutline "++t;") (tickOutline "t += 2;") = .ok fewer ∧
      compareOutlines ⟨.one, true, true⟩ (tickOutline "++t;") (tickOutline "t += 2;") = .ok more ∧
      Narrows fewer more) ∧
    (∃ records,
      compareOutlines ⟨.zero, true, true⟩ (tickOutline "++t;") (tickOutline "t += 2;") =
        .ok records ∧
      (∀ change, .ofMethod change ∈ records → change.change ≠ .modified) ∧
      ∀ type, .ofType type ∈ records → ∀ change ∈ type.methods, change.change ≠ .modified) ∧
    ∃ records,
      compareOutlines ⟨.one, true, true⟩ (tickOutline "++t;") (tickOutline "t += 2;") =
        .ok records ∧
      ReportsModified records "Clock" "tick" := by
  have houtline : outline (tickSource "++t;") = .ok (tickOutline "++t;") ∧
      outline (tickSource "t += 2;") = .ok (tickOutline "t += 2;") := by
    decide +kernel
  obtain ⟨hraise, hzero, hone⟩ :=
    compareOutlines_threshold (.unnamed houtline.1) (.unnamed houtline.2)
  have hraises : Settings.Raises ⟨.zero, true, true⟩ ⟨.one, true, true⟩ :=
    ⟨rfl, rfl, by decide +kernel⟩
  obtain ⟨records, hok, hmodified⟩ := hone ⟨.one, true, true⟩ (by decide +kernel)
  refine ⟨hraise _ _ hraises, hzero ⟨.zero, true, true⟩ (by decide +kernel), records, hok, ?_⟩
  have hget (step : String) : (NameMap.ofList [("Clock", tickType step)]).get? "Clock" =
      some (tickType step) := rfl
  exact (hmodified "Clock" _ _ (hget "++t;") (hget "t += 2;") "tick" _ _ rfl rfl).mpr (by decide)

end Java

end JavaDiff
