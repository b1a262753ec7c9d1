import JavaDiff.Proofs.Diff.Record
import JavaDiff.Proofs.Diff.Revision

/-!
# What the two flags add

Without listed members the records of a comparison are those with listed members, less the methods
of added and removed types.  Without the detection of member changes they are those with it, less
the modified types that hold no method.  Neither flag changes anything else, whatever the other
settings are.
-/

namespace JavaDiff

/-- The change of a type without listed members: the methods of an added or removed type are left
out. -/
def TypeChange.collapsed (change : TypeChange) : TypeChange :=
  if change.change = .modified then change else { change with methods := [] }

/-- The records without listed members, given whether the last type before them is modified.  The
records of methods behind an added or removed type are left out. -/
def collapseFrom (modified : Bool) : List Record → List Record
  | [] => []
  | .ofType change :: rest =>
    .ofType change.collapsed :: collapseFrom (change.change = .modified) rest
  | .ofMethod change :: rest =>
    if modified then .ofMethod change :: collapseFrom modified rest else collapseFrom modified rest

/-- The records without listed members. -/
def collapse (records : List Record) : List Record := collapseFrom true records

namespace TypeChange

theorem collapsed_of_modified {change : TypeChange} (hmodified : change.change = .modified) :
    change.collapsed = change := if_pos hmodified

theorem collapsed_of_ne {change : TypeChange} (hother : change.change ≠ .modified) :
    change.collapsed = { change with methods := [] } := if_neg hother

end TypeChange

/-- What stands behind the methods of a type is collapsed in the same way as behind the type. -/
theorem collapseFrom_methods_append (modified : Bool) (methods : List MethodChange)
    (rest : List Record) :
    collapseFrom modified (methods.map .ofMethod ++ rest) =
      (if modified then methods.map .ofMethod else []) ++ collapseFrom modified rest := by
  induction methods with
  | nil => cases modified <;> rfl
  | cons method methods ih =>
    rw [List.map_cons, List.cons_append, collapseFrom, ih]
    cases modified <;> rfl

theorem collapseFrom_flatMap_records (modified : Bool) (blocks : List TypeChange) :
    collapseFrom modified (blocks.flatMap TypeChange.records) =
      (blocks.map TypeChange.collapsed).flatMap TypeChange.records := by
  induction blocks generalizing modified with
  | nil => rfl
  | cons block blocks ih =>
    rw [List.flatMap_cons, List.map_cons, List.flatMap_cons, TypeChange.records, List.cons_append,
      collapseFrom, collapseFrom_methods_append, ih, TypeChange.records, List.cons_append]
    by_cases hmodified : block.change = .modified
    · rw [TypeChange.collapsed_of_modified hmodified, if_pos (decide_eq_true hmodified)]
    · rw [TypeChange.collapsed_of_ne hmodified, if_neg (by simpa using hmodified), List.map_nil]

theorem change_of_pairChange?_eq_ok {settings : Settings} {name : String}
    {base head : DeclaredType} {change : TypeChange}
    (hchange : pairChange? settings name base head = .ok (some change)) :
    change.change = .modified := by
  rcases pairChange?_cases settings name base head with ⟨-, hpair⟩ | ⟨-, -, hpair⟩ | ⟨-, -, hpair⟩ <;>
    rw [hpair] at hchange
  · obtain rfl := Option.some.inj (Except.ok.inj hchange)
    rfl
  · cases Except.ok.inj hchange
  · cases hmembers : membersDiffer base head with
    | error error =>
      rw [hmembers] at hchange
      cases hchange
    | ok differ =>
      rw [hmembers] at hchange
      cases differ with
      | false => cases Except.ok.inj hchange
      | true =>
        obtain rfl := Option.some.inj (Except.ok.inj hchange)
        rfl

/-- A type is reported without listed members as with them, but for the members. -/
theorem typeChange?_collapsed (settings : Settings) (name : String)
    (base? head? : Option DeclaredType) :
    typeChange? { settings with expandMembers := false } name base? head? =
      (typeChange? { settings with expandMembers := true } name base? head?).map
        (Option.map TypeChange.collapsed) := by
  cases base? with
  | none => cases head? <;> rfl
  | some base =>
    cases head? with
    | none => rfl
    | some head =>
      have hsame : pairChange? { settings with expandMembers := false } name base head =
          pairChange? { settings with expandMembers := true } name base head := rfl
      simp only [typeChange?, hsame]
      cases hchange : pairChange? { settings with expandMembers := true } name base head with
      | error error => rfl
      | ok change? =>
        cases change? with
        | none => rfl
        | some change =>
          have hmodified := change_of_pairChange?_eq_ok hchange
          simp only [Except.map, Option.map_some, TypeChange.collapsed_of_modified hmodified]

/-- A comparison without listed members reports, or fails, as the one with them. -/
theorem compareOutlines_collapse (settings : Settings) (base head : Outline) :
    compareOutlines { settings with expandMembers := false } base head =
      (compareOutlines { settings with expandMembers := true } base head).map collapse := by
  simp only [compareOutlines, typeChange?_collapsed settings, mapM_map_result]
  cases (base.types.unionNames head.types).mapM fun name =>
      typeChange? { settings with expandMembers := true } name (base.types.get? name)
        (head.types.get? name) with
  | error error => rfl
  | ok changes =>
    have hblocks : (changes.map (Option.map TypeChange.collapsed)).filterMap id =
        (changes.filterMap id).map TypeChange.collapsed := by
      rw [List.filterMap_map, List.map_filterMap]
      rfl
    have hrecords := collapseFrom_flatMap_records true (changes.filterMap id)
    rw [← hblocks] at hrecords
    exact congrArg Except.ok hrecords.symm

/-- Whether a type is reported as modified, but no method of it is. -/
def TypeChange.isMembersOnly (change : TypeChange) : Bool :=
  change.change = .modified ∧ change.methods = []

/-- Whether a record is that of a modified type which holds no method. -/
def Record.isMembersOnly : Record → Bool
  | ofType change => change.isMembersOnly
  | ofMethod _ => false

theorem TypeChange.filter_records (change : TypeChange) :
    (change.records.filter fun record => !record.isMembersOnly) =
      if change.isMembersOnly then [] else change.records := by
  have hmethods : (change.methods.map Record.ofMethod).filter (fun record =>
      !record.isMembersOnly) = change.methods.map .ofMethod := by
    rw [List.filter_eq_self]
    intro record hrecord
    obtain ⟨method, -, rfl⟩ := List.mem_map.mp hrecord
    rfl
  rw [records, List.filter_cons, hmethods, Record.isMembersOnly]
  cases hmembers : change.isMembersOnly with
  | false => rfl
  | true =>
    obtain ⟨-, hnil⟩ := of_decide_eq_true hmembers
    rw [hnil]
    rfl

theorem filter_flatMap_records (blocks : List TypeChange) :
    ((blocks.flatMap TypeChange.records).filter fun record => !record.isMembersOnly) =
      (blocks.filter fun change => !change.isMembersOnly).flatMap TypeChange.records := by
  induction blocks with
  | nil => rfl
  | cons block blocks ih =>
    rw [List.flatMap_cons, List.filter_append, ih, block.filter_records, List.filter_cons]
    cases block.isMembersOnly <;> rfl

theorem typeChange?_filter {settings : Settings} {name : String}
    {base? head? : Option DeclaredType} {change? : Option TypeChange}
    (hchange : typeChange? { settings with detectMemberChanges := true } name base? head? =
      .ok change?) :
    typeChange? { settings with detectMemberChanges := false } name base? head? =
      .ok (change?.filter fun change => !change.isMembersOnly) := by
  cases base? with
  | none =>
    cases head? with
    | none =>
      obtain rfl := Except.ok.inj hchange
      rfl
    | some head =>
      obtain rfl := Except.ok.inj hchange
      rfl
  | some base =>
    cases head? with
    | none =>
      obtain rfl := Except.ok.inj hchange
      rfl
    | some head =>
      have hthreshold (detect : Bool) : ({ settings with detectMemberChanges := detect } :
          Settings).effectiveThreshold = settings.effectiveThreshold := rfl
      simp only [typeChange?, pairChange?, hthreshold] at hchange ⊢
      generalize methodChanges settings.effectiveThreshold name base.methods head.methods = methods
        at hchange ⊢
      by_cases hmethods : methods = []
      · subst hmethods
        cases hmembers : membersDiffer base head with
        | error error =>
          rw [hmembers] at hchange
          cases hchange
        | ok differ =>
          rw [hmembers] at hchange
          obtain rfl := Except.ok.inj hchange
          cases differ <;> rfl
      · rw [if_pos hmethods] at hchange ⊢
        obtain rfl := Except.ok.inj hchange
        have hkept : (TypeChange.modified name methods).isMembersOnly = false :=
          decide_eq_false fun hmembers => hmethods hmembers.2
        rw [Option.filter_some, hkept]
        rfl

/-- A comparison without detection reports what the one with it does, but for the modified types
that hold no method. -/
theorem compareOutlines_filter {settings : Settings} {base head : Outline} {records : List Record}
    (hrecords : compareOutlines { settings with detectMemberChanges := true } base head =
      .ok records) :
    compareOutlines { settings with detectMemberChanges := false } base head =
      .ok (records.filter fun record => !record.isMembersOnly) := by
  obtain ⟨changes, hchanges, rfl⟩ := exists_changes_of_compareOutlines_eq_ok hrecords
  have hothers := mapM_eq_ok_map hchanges fun name _ change? => typeChange?_filter
  have hblocks : (changes.map (Option.filter fun change => !change.isMembersOnly)).filterMap id =
      (changes.filterMap id).filter fun change => !change.isMembersOnly := by
    rw [List.filterMap_map, List.filter_filterMap]
    rfl
  have hfiltered := filter_flatMap_records (changes.filterMap id)
  rw [← hblocks] at hfiltered
  rw [compareOutlines, hothers]
  exact congrArg Except.ok hfiltered.symm

namespace Java

/-- The comparison of outlined sources succeeds under every setting.  Without listed members it has
the records of the comparison with them, collapsed, and without the detection of member changes it
has those of the comparison with it, except for the modified types that hold no method. -/
theorem compareOutlines_flags {older newer : String} {base head : Outline}
    (hbase : IsOutline older base) (hhead : IsOutline newer head) (settings : Settings) :
    (∃ expanded, compareOutlines { settings with expandMembers := true } base head = .ok expanded ∧
      compareOutlines { settings with expandMembers := false } base head =
        .ok (collapse expanded)) ∧
    ∃ detected,
      compareOutlines { settings with detectMemberChanges := true } base head = .ok detected ∧
      compareOutlines { settings with detectMemberChanges := false } base head =
        .ok (detected.filter fun record => !record.isMembersOnly) := by
  have hsucceeds (settings : Settings) :
      ∃ records, compareOutlines settings base head = .ok records := by
    obtain ⟨blocks, hblocks, -⟩ := exists_blocks (skeletonsExist_of_isOutline hbase hhead settings)
    exact ⟨_, hblocks⟩
  obtain ⟨expanded, hexpanded⟩ := hsucceeds { settings with expandMembers := true }
  obtain ⟨detected, hdetected⟩ := hsucceeds { settings with detectMemberChanges := true }
  have hcollapsed := compareOutlines_collapse settings base head
  rw [hexpanded] at hcollapsed
  exact ⟨⟨expanded, hexpanded, hcollapsed⟩, detected, hdetected, compareOutlines_filter hdetected⟩

/-- A revision with three types. -/
def typesRevision : Revision :=
  ⟨"Types.java", "class A{m(){}} class B{int a;} class C{}"⟩

/-- A later revision without the first type.  A field of the second type has another name, and the
third has a method. -/
def laterTypesRevision : Revision :=
  ⟨"Types.java", "class B{int b;} class C{n(){}}"⟩

/-- The records between the two revisions when both flags are on. -/
def typesRecords : List Record := [
  .ofType (.removed "A" [.removed "A" "m"]), .ofMethod (.removed "A" "m"),
  .ofType (.modified "B" []),
  .ofType (.modified "C" [.added "C" "n"]), .ofMethod (.added "C" "n")]

theorem compareOutlines_flags_types :
    ∃ base head, IsOutline typesRevision.source base ∧ IsOutline laterTypesRevision.source head ∧
      compareOutlines ⟨.one, true, true⟩ base head = .ok typesRecords ∧
      compareOutlines ⟨.one, true, false⟩ base head = .ok [
        .ofType (.removed "A" []),
        .ofType (.modified "B" []),
        .ofType (.modified "C" [.added "C" "n"]), .ofMethod (.added "C" "n")] ∧
      compareOutlines ⟨.one, false, true⟩ base head =
        .ok (typesRecords.filter fun record => record ≠ .ofType (.modified "B" [])) := by
  have hrecords : Language.java.diff ⟨.one, true, true⟩ typesRevision laterTypesRevision =
      .ok typesRecords := by
    decide +kernel
  obtain ⟨base, head, hbase, hhead, hboth⟩ := Language.exists_outlineOf_of_diff_eq_ok hrecords
  have hbase := Language.isOutline_of_java_outlineOf hbase
  have hhead := Language.isOutline_of_java_outlineOf hhead
  obtain ⟨⟨expanded, hexpanded, hcollapsed⟩, detected, hdetected, hfiltered⟩ :=
    compareOutlines_flags hbase hhead ⟨.one, true, true⟩
  obtain rfl := Except.ok.inj (hboth.symm.trans hexpanded)
  obtain rfl := Except.ok.inj (hboth.symm.trans hdetected)
  refine ⟨base, head, hbase, hhead, hboth, hcollapsed.trans ?_, hfiltered.trans ?_⟩
  · decide
  · decide

end Java

end JavaDiff
