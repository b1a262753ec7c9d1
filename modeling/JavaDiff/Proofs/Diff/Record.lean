import JavaDiff.Diff.Compare

/-!
# Records and blocks

The records of a comparison are blocks, each the record of a type followed by those of its methods.
A block says everything twice, so the types can be read off the records and the records off the
types.
-/

namespace JavaDiff

namespace TypeChange

theorem filterMap_method?_records (change : TypeChange) :
    change.records.filterMap Record.method? = change.methods := by
  have hmethod : Record.method? ∘ Record.ofMethod = some := rfl
  rw [records, List.filterMap_cons_none rfl, List.filterMap_map, hmethod, List.filterMap_some]

theorem filterMap_type?_records (change : TypeChange) :
    change.records.filterMap Record.type? = [change] := by
  simp [records, Record.type?, Function.comp_def]

theorem mem_records_iff {change other : TypeChange} :
    .ofType other ∈ change.records ↔ other = change := by
  simp [records]

theorem mem_records_iff_mem_methods {change : TypeChange} {method : MethodChange} :
    .ofMethod method ∈ change.records ↔ method ∈ change.methods := by
  simp [records]

end TypeChange

theorem filterMap_type?_flatMap_records (blocks : List TypeChange) :
    (blocks.flatMap TypeChange.records).filterMap Record.type? = blocks := by
  rw [List.filterMap_flatMap]
  simp only [TypeChange.filterMap_type?_records, List.flatMap_singleton']

theorem filterMap_method?_flatMap_records (blocks : List TypeChange) :
    (blocks.flatMap TypeChange.records).filterMap Record.method? =
      blocks.flatMap TypeChange.methods := by
  rw [List.filterMap_flatMap]
  simp only [TypeChange.filterMap_method?_records]

/-- A comparison that succeeds has looked at every name, and its records are the blocks of those
that changed. -/
theorem exists_changes_of_compareOutlines_eq_ok {settings : Settings} {base head : Outline}
    {records : List Record} (hrecords : compareOutlines settings base head = .ok records) :
    ∃ changes : List (Option TypeChange),
      (base.types.unionNames head.types).mapM (fun name =>
        typeChange? settings name (base.types.get? name) (head.types.get? name)) = .ok changes ∧
      records = (changes.filterMap id).flatMap TypeChange.records := by
  rw [compareOutlines] at hrecords
  cases hchanges : (base.types.unionNames head.types).mapM fun name =>
      typeChange? settings name (base.types.get? name) (head.types.get? name) with
  | error error =>
    rw [hchanges] at hrecords
    cases hrecords
  | ok changes =>
    rw [hchanges] at hrecords
    exact ⟨changes, rfl, (Except.ok.inj hrecords).symm⟩

end JavaDiff
