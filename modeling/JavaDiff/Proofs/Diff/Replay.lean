import JavaDiff.Proofs.Diff.Revision

/-!
# Replaying records

An inventory lists the types of an outline and the names of their methods.  The records of a
comparison that also lists the methods of added and removed types lead from the inventory of the
older outline to that of the newer one, and no record says what the inventories do not bear out.  So
the records of a history, replayed one comparison after the other, lead from its first outline to its
last.
-/

namespace JavaDiff

/-- The names of the methods of each type. -/
abbrev Inventory := NameMap (NameMap Unit)

/-- The names of the methods of a type. -/
def DeclaredType.methodNames (type : DeclaredType) : NameMap Unit :=
  type.methods.mapValues fun _ => ()

/-- The inventory of an outline. -/
def Outline.inventory (outline : Outline) : Inventory :=
  outline.types.mapValues DeclaredType.methodNames

namespace Record

/-- Whether an inventory has the type or the method that a record is about. -/
def IsIn (inventory : Inventory) : Record → Prop
  | ofType change => change.name ∈ inventory.names
  | ofMethod change => ∃ methods,
      inventory.get? change.owner = some methods ∧ change.name ∈ methods.names

/-- The inventory after the change of a record.  A method can only be added to a type that is there,
and a method of a type that is no longer there has been removed with it. -/
def replay? (inventory : Inventory) : Record → Option Inventory
  | ofType change =>
    match change.change with
    | .added => some (inventory.insert change.name .empty)
    | .removed => some (inventory.erase change.name)
    | .modified => some inventory
  | ofMethod change =>
    match change.change, inventory.get? change.owner with
    | .added, some methods => some (inventory.insert change.owner (methods.insert change.name ()))
    | .added, none => none
    | .removed, some methods => some (inventory.insert change.owner (methods.erase change.name))
    | .removed, none => some inventory
    | .modified, _ => some inventory

end Record

/-- The inventory after the changes of some records, one after the other. -/
def replay? (inventory : Inventory) (records : List Record) : Option Inventory :=
  records.foldlM Record.replay? inventory

theorem replay?_append (inventory : Inventory) (first second : List Record) :
    replay? inventory (first ++ second) =
      (replay? inventory first).bind fun middle => replay? middle second :=
  List.foldlM_append

theorem replay?_cons (inventory : Inventory) (record : Record) (records : List Record) :
    replay? inventory (record :: records) =
      (record.replay? inventory).bind fun middle => replay? middle records :=
  List.foldlM_cons

theorem Outline.get?_inventory (outline : Outline) (name : String) :
    outline.inventory.get? name = (outline.types.get? name).map DeclaredType.methodNames :=
  NameMap.get?_mapValues ..

theorem DeclaredType.names_methodNames (type : DeclaredType) :
    type.methodNames.names = type.methods.names :=
  NameMap.names_mapValues ..

theorem replay?_map_added (inventory : Inventory) (owner : String) (methods : NameMap Unit)
    (names : List String) :
    replay? (inventory.insert owner methods)
        (names.map fun name => .ofMethod (.added owner name)) =
      some (inventory.insert owner (names.foldl (fun all name => all.insert name ()) methods)) := by
  induction names generalizing methods with
  | nil => rfl
  | cons name names ih =>
    have hstep : (Record.ofMethod (.added owner name)).replay? (inventory.insert owner methods) =
        some (inventory.insert owner (methods.insert name ())) := by
      simp [Record.replay?, MethodChange.added, MethodChange.name]
    rw [List.map_cons, replay?_cons, hstep, Option.bind_some, ih, List.foldl_cons]

theorem replay?_map_removed (inventory : Inventory) (owner : String) (methods : NameMap Unit)
    (names : List String) :
    replay? (inventory.insert owner methods)
        (names.map fun name => .ofMethod (.removed owner name)) =
      some (inventory.insert owner (names.foldl NameMap.erase methods)) := by
  induction names generalizing methods with
  | nil => rfl
  | cons name names ih =>
    have hstep : (Record.ofMethod (.removed owner name)).replay? (inventory.insert owner methods) =
        some (inventory.insert owner (methods.erase name)) := by
      simp [Record.replay?, MethodChange.removed, MethodChange.name]
    rw [List.map_cons, replay?_cons, hstep, Option.bind_some, ih, List.foldl_cons]

theorem replay?_map_removed_of_missing {inventory : Inventory} {owner : String}
    (hmissing : inventory.get? owner = none) (names : List String) :
    replay? inventory (names.map fun name => .ofMethod (.removed owner name)) = some inventory := by
  induction names with
  | nil => rfl
  | cons name names ih =>
    have hstep : (Record.ofMethod (.removed owner name)).replay? inventory = some inventory := by
      simp [Record.replay?, MethodChange.removed, hmissing]
    rw [List.map_cons, replay?_cons, hstep, Option.bind_some, ih]

theorem replay?_map_modified (inventory : Inventory) (owner : String)
    (modified : List (String × Single)) :
    replay? inventory (modified.map fun (name, score) => .ofMethod (.modified owner name score)) =
      some inventory := by
  induction modified with
  | nil => rfl
  | cons entry modified ih =>
    rw [List.map_cons, replay?_cons]
    exact ih

/-- The changes of three groups of methods add the first group and remove the second. -/
theorem replay?_groupChanges (inventory : Inventory) (owner : String) (methods : NameMap Unit)
    (added removed : List String) (modified : List (String × Single)) :
    replay? (inventory.insert owner methods)
        ((groupChanges owner added removed modified).map .ofMethod) =
      some (inventory.insert owner (removed.foldl NameMap.erase
        (added.foldl (fun all name => all.insert name ()) methods))) := by
  have hadded := replay?_map_added inventory owner methods added
  have hremoved := replay?_map_removed inventory owner
    (added.foldl (fun all name => all.insert name ()) methods) removed
  rw [groupChanges, List.map_append, List.map_append, List.map_map, List.map_map, List.map_map,
    replay?_append, replay?_append]
  simp only [Function.comp_def, hadded, hremoved, Option.bind_some]
  exact replay?_map_modified ..

/-- The added and the removed methods lead from the names of one type to those of the other. -/
theorem MethodGroups.foldl_erase_foldl_insert {threshold : Single} {older newer : DeclaredType}
    {added removed : List String} {modified : List (String × Single)}
    (hgroups : MethodGroups threshold older.methods newer.methods added removed modified) :
    removed.foldl NameMap.erase
        (added.foldl (fun all name => all.insert name ()) older.methodNames) =
      newer.methodNames := by
  apply NameMap.eq_of_mem_names_iff
  intro name
  rw [NameMap.mem_names_foldl_erase, NameMap.mem_names_foldl_insert, hgroups.mem_added_iff,
    hgroups.mem_removed_iff, DeclaredType.names_methodNames, DeclaredType.names_methodNames]
  by_cases holder : name ∈ older.methods.names <;> by_cases hnewer : name ∈ newer.methods.names <;>
    simp [holder, hnewer]

namespace IsChangeOf

variable {settings : Settings} {base head : Outline} {name : String} {block : TypeChange}

/-- The records of one block lead to the newer inventory at its type and change nothing else. -/
theorem exists_replay? (hexpand : settings.expandMembers = true)
    (hchange : IsChangeOf settings base head name block) {inventory : Inventory}
    (hinventory : inventory.get? name = base.inventory.get? name) :
    ∃ result, replay? inventory block.records = some result ∧
      result.get? name = head.inventory.get? name ∧
      ∀ other, other ≠ name → result.get? other = inventory.get? other := by
  have hlisted (type : DeclaredType) : listedMethods settings type = type.methods.names := by
    rw [listedMethods, if_pos hexpand]
  cases hchange with
  | @added type hbase hhead =>
    have hall : type.methods.names.foldl (fun all name => all.insert name ()) .empty =
        type.methodNames := by
      apply NameMap.eq_of_mem_names_iff
      intro method
      rw [NameMap.mem_names_foldl_insert, DeclaredType.names_methodNames]
      simp [NameMap.names]
    refine ⟨inventory.insert name type.methodNames, ?_, ?_, fun other hother => ?_⟩
    · have hmethods := replay?_map_added inventory name .empty type.methods.names
      rw [TypeChange.records, replay?_cons, hlisted, TypeChange.added, List.map_map, ← hall]
      exact hmethods
    · rw [NameMap.get?_insert_self, Outline.get?_inventory, hhead, Option.map_some]
    · exact NameMap.get?_insert_of_ne _ _ hother
  | @removed type hbase hhead =>
    refine ⟨inventory.erase name, ?_, ?_, fun other hother => ?_⟩
    · have hmethods := replay?_map_removed_of_missing (inventory.get?_erase_self name)
        type.methods.names
      rw [TypeChange.records, replay?_cons, hlisted, TypeChange.removed, List.map_map]
      exact hmethods
    · rw [NameMap.get?_erase_self, Outline.get?_inventory, hhead, Option.map_none]
    · exact NameMap.get?_erase_of_ne _ hother
  | @modified older newer hbase hhead hreported =>
    rw [Outline.get?_inventory, hbase, Option.map_some] at hinventory
    have hgroups := methodGroups settings older.methods newer.methods
    refine ⟨inventory.insert name newer.methodNames, ?_, ?_, fun other hother => ?_⟩
    · have hmethods := replay?_groupChanges inventory name older.methodNames
        (newer.methods.names.filter fun name => !older.methods.contains name)
        (older.methods.names.filter fun name => !newer.methods.contains name)
        (rewrittenMethods settings.effectiveThreshold older.methods newer.methods)
      rw [NameMap.insert_eq_self hinventory, hgroups.foldl_erase_foldl_insert,
        ← methodChanges_eq_groupChanges] at hmethods
      rw [TypeChange.records, replay?_cons]
      exact hmethods
    · rw [NameMap.get?_insert_self, Outline.get?_inventory, hhead, Option.map_some]
    · exact NameMap.get?_insert_of_ne _ _ hother

/-- A record of an added type or method is about one that the older inventory does not have, any
other record about one that it has. -/
theorem isIn_iff (hchange : IsChangeOf settings base head name block) {record : Record}
    (hrecord : record ∈ block.records) :
    record.IsIn base.inventory ↔ record.change ≠ .added := by
  have hremoved : Change.removed ≠ .added := by decide
  have hmodified : Change.modified ≠ .added := by decide
  rw [TypeChange.records, List.mem_cons, List.mem_map] at hrecord
  cases hchange with
  | @added type hbase hhead =>
    have hmissing : base.inventory.get? name = none := by
      rw [Outline.get?_inventory, hbase, Option.map_none]
    rcases hrecord with rfl | ⟨change, hmem, rfl⟩
    · exact iff_of_false (NameMap.get?_eq_none_iff.mp hmissing) (· rfl)
    · obtain ⟨method, -, rfl⟩ := List.mem_map.mp hmem
      refine iff_of_false ?_ (· rfl)
      rintro ⟨methods, hmethods, -⟩
      cases hmissing.symm.trans hmethods
  | @removed type hbase hhead =>
    have hthere : base.inventory.get? name = some type.methodNames := by
      rw [Outline.get?_inventory, hbase, Option.map_some]
    rcases hrecord with rfl | ⟨change, hmem, rfl⟩
    · exact iff_of_true (NameMap.mem_names_iff.mpr ⟨_, hthere⟩) hremoved
    · obtain ⟨method, hmethod, rfl⟩ := List.mem_map.mp hmem
      refine iff_of_true ⟨_, hthere, ?_⟩ hremoved
      rw [DeclaredType.names_methodNames]
      exact (((areListed settings type).mem_iff method).mp hmethod).2
  | @modified older newer hbase hhead hreported =>
    have hthere : base.inventory.get? name = some older.methodNames := by
      rw [Outline.get?_inventory, hbase, Option.map_some]
    have hgroups := methodGroups settings older.methods newer.methods
    have hmethod (method : String) : (∃ methods,
        base.inventory.get? name = some methods ∧ method ∈ methods.names) ↔
          method ∈ older.methods.names := by
      simp [hthere, DeclaredType.names_methodNames]
    rcases hrecord with rfl | ⟨change, hmem, rfl⟩
    · exact iff_of_true (NameMap.mem_names_iff.mpr ⟨_, hthere⟩) hmodified
    · simp only [TypeChange.modified, methodChanges_eq_groupChanges, groupChanges,
        List.mem_append, List.mem_map] at hmem
      rcases hmem with (⟨method, hadded, rfl⟩ | ⟨method, hgone, rfl⟩) | ⟨⟨method, score⟩, hboth, rfl⟩
      · exact iff_of_false (mt (hmethod method).mp ((hgroups.mem_added_iff method).mp hadded).2)
          (· rfl)
      · exact iff_of_true ((hmethod method).mpr ((hgroups.mem_removed_iff method).mp hgone).1)
          hremoved
      · obtain ⟨first, -, hfirst, -⟩ := (hgroups.mem_modified_iff method score).mp hboth
        exact iff_of_true ((hmethod method).mpr (NameMap.mem_names_iff.mpr ⟨first, hfirst⟩))
          hmodified

end IsChangeOf

theorem get?_inventory_eq_of_unchanged {settings : Settings} {base head : Outline} {name : String}
    (hunchanged : ∀ block, ¬ IsChangeOf settings base head name block) :
    base.inventory.get? name = head.inventory.get? name := by
  rw [Outline.get?_inventory, Outline.get?_inventory]
  rcases IsChangeOf.not_exists_iff.mp hunchanged with
    ⟨hbase, hhead⟩ | ⟨older, newer, hbase, hhead, hunreported⟩
  · rw [hbase, hhead, Option.map_none]
  · have hnames := names_eq_of_not_methodsDiffer fun hdiffer => hunreported (Or.inl hdiffer)
    rw [hbase, hhead, Option.map_some, Option.map_some]
    refine congrArg some (NameMap.eq_of_mem_names_iff fun method => ?_)
    rw [DeclaredType.names_methodNames, DeclaredType.names_methodNames, hnames]

/-- The records of blocks about different types lead to the newer inventory at those types and change
nothing else. -/
theorem exists_replay?_flatMap_records {settings : Settings} {base head : Outline}
    (hexpand : settings.expandMembers = true) {blocks : List TypeChange} (inventory : Inventory)
    (hdifferent : (blocks.map TypeChange.name).Nodup)
    (hblocks : ∀ block ∈ blocks, IsChangeOf settings base head block.name block ∧
      inventory.get? block.name = base.inventory.get? block.name) :
    ∃ result, replay? inventory (blocks.flatMap TypeChange.records) = some result ∧
      (∀ name ∈ blocks.map TypeChange.name, result.get? name = head.inventory.get? name) ∧
      ∀ name, name ∉ blocks.map TypeChange.name → result.get? name = inventory.get? name := by
  induction blocks generalizing inventory with
  | nil => exact ⟨inventory, rfl, by simp, fun _ _ => rfl⟩
  | cons block blocks ih =>
    rw [List.map_cons, List.nodup_cons] at hdifferent
    obtain ⟨hnew, hdifferent⟩ := hdifferent
    obtain ⟨hchange, hinventory⟩ := hblocks block List.mem_cons_self
    obtain ⟨middle, hmiddle, hfirst, hothers⟩ := hchange.exists_replay? hexpand hinventory
    have hlater : ∀ later ∈ blocks, IsChangeOf settings base head later.name later ∧
        middle.get? later.name = base.inventory.get? later.name := by
      intro later hlater
      obtain ⟨hchange, hbefore⟩ := hblocks later (List.mem_cons_of_mem _ hlater)
      have hother : later.name ≠ block.name := fun hequal =>
        hnew (hequal ▸ List.mem_map_of_mem hlater)
      exact ⟨hchange, (hothers later.name hother).trans hbefore⟩
    obtain ⟨result, hresult, hreached, hkept⟩ := ih middle hdifferent hlater
    refine ⟨result, ?_, fun name hname => ?_, fun name hname => ?_⟩
    · rw [List.flatMap_cons, replay?_append, hmiddle, Option.bind_some, hresult]
    · rcases List.mem_cons.mp hname with rfl | hname
      · rw [hkept _ hnew, hfirst]
      · exact hreached name hname
    · rw [List.map_cons, List.mem_cons, not_or] at hname
      rw [hkept name hname.2, hothers name hname.1]

/-- What the records between two outlines tell.  They lead from one inventory to the other, and each is
about a type or method that the older one has, or has not if it is added.  When every difference
counts, a method of both outlines without a record has kept its text. -/
structure LeadTo (settings : Settings) (base head : Outline) (records : List Record) : Prop where
  isIn_iff : ∀ record ∈ records, record.IsIn base.inventory ↔ record.change ≠ .added
  replay?_eq : replay? base.inventory records = some head.inventory
  text_eq : settings.effectiveThreshold = .one → ∀ type method older newer,
    base.method? type method = some older → head.method? type method = some newer →
    (∀ change, .ofMethod change ∈ records → change.change = .modified → change.owner = type →
      change.name ≠ method) →
    older.text = newer.text

theorem exists_leadTo {settings : Settings} (hexpand : settings.expandMembers = true)
    {base head : Outline} (hskeletons : SkeletonsExist settings base head) :
    ∃ records, compareOutlines settings base head = .ok records ∧
      LeadTo settings base head records := by
  obtain ⟨blocks, hok, hnames, hblocks⟩ := exists_blocks hskeletons
  have hchanges : ∀ block ∈ blocks, IsChangeOf settings base head block.name block :=
    fun _ => isChangeOf_of_mem hblocks
  refine ⟨_, hok, ?_⟩
  constructor
  case isIn_iff =>
    intro record hrecord
    obtain ⟨block, hblock, hrecord⟩ := List.mem_flatMap.mp hrecord
    exact (hchanges block hblock).isIn_iff hrecord
  case replay?_eq =>
    obtain ⟨result, hresult, hreached, hkept⟩ :=
      exists_replay?_flatMap_records hexpand base.inventory (nodup_of_pairwise_bytesLess hnames)
        fun block hblock => ⟨hchanges block hblock, rfl⟩
    rw [hresult]
    refine congrArg some (NameMap.eq_of_get?_eq fun name => ?_)
    by_cases hname : name ∈ blocks.map TypeChange.name
    · exact hreached name hname
    · rw [hkept name hname]
      apply get?_inventory_eq_of_unchanged
      intro block hchange
      exact hname (hchange.name_eq ▸ List.mem_map_of_mem ((hblocks block).mpr ⟨name, hchange⟩))
  case text_eq =>
    intro hone type method older newer holder hnewer hunmodified
    by_contra hdifferent
    obtain ⟨base', hbase, holder⟩ := Option.bind_eq_some_iff.mp holder
    obtain ⟨head', hhead, hnewer⟩ := Option.bind_eq_some_iff.mp hnewer
    have hrewritten : IsRewritten settings.effectiveThreshold older newer :=
      ⟨hdifferent, Or.inl hone⟩
    have hdiffer : MethodsDiffer settings.effectiveThreshold base'.methods head'.methods :=
      Or.inr ⟨method, older, newer, holder, hnewer, hrewritten⟩
    have hblock := (hblocks _).mpr ⟨type, .modified hbase hhead (Or.inl hdiffer)⟩
    have hmodified := (methodGroups settings base'.methods head'.methods).mem_modified_iff method
      (similarity older.text newer.text)
    have hmem : MethodChange.modified type method (similarity older.text newer.text) ∈
        methodChanges settings.effectiveThreshold type base'.methods head'.methods := by
      rw [methodChanges_eq_groupChanges, groupChanges]
      exact List.mem_append_right _ (List.mem_map.mpr
        ⟨_, hmodified.mpr ⟨older, newer, holder, hnewer, hrewritten, rfl⟩, rfl⟩)
    exact hunmodified _ (List.mem_flatMap.mpr ⟨_, hblock, List.mem_cons_of_mem _
      (List.mem_map_of_mem hmem)⟩) rfl rfl rfl

/-- The records of a history lead from its first outline to its last. -/
theorem exists_replay?_history {settings : Settings} (hexpand : settings.expandMembers = true)
    {first : Revision} {rest : List Revision}
    (houtlines : ∀ revision ∈ first :: rest, ∃ outline,
      Language.java.outlineOf revision = .ok outline) :
    ∃ older newer steps, Language.java.outlineOf first = .ok older ∧
      Language.java.outlineOf ((first :: rest).getLast (List.cons_ne_nil first rest)) = .ok newer ∧
      ((first :: rest).zip rest).mapM (fun (base, head) =>
        Language.java.diff settings base head) = .ok steps ∧
      replay? older.inventory steps.flatten = some newer.inventory := by
  induction rest generalizing first with
  | nil =>
    obtain ⟨outline, houtline⟩ := houtlines first List.mem_cons_self
    exact ⟨outline, outline, [], houtline, houtline, rfl, rfl⟩
  | cons next rest ih =>
    obtain ⟨older, holder⟩ := houtlines first List.mem_cons_self
    obtain ⟨middle, newer, steps, hmiddle, hnewer, hsteps, hreplay⟩ :=
      ih fun revision hrevision => houtlines revision (List.mem_cons_of_mem first hrevision)
    have hskeletons := Language.skeletonsExist_of_java_outlineOf holder hmiddle settings
    obtain ⟨records, hrecords, hlead⟩ := exists_leadTo hexpand hskeletons
    refine ⟨older, newer, records :: steps, holder, hnewer, ?_, ?_⟩
    · rw [List.zip_cons_cons, List.mapM_cons]
      simp only [Language.diff_eq_compareOutlines holder hmiddle, hrecords, hsteps]
      rfl
    · rw [List.flatten_cons, replay?_append, hlead.replay?_eq, Option.bind_some, hreplay]

/-- With the methods of added and removed types listed, the records of a comparison lead from the older
inventory to the newer one, and those of a history from its first inventory to its last. -/
theorem replay?_comparison_and_history {settings : Settings}
    (hexpand : settings.expandMembers = true) :
    (∀ base head : Outline, SkeletonsExist settings base head →
      ∃ records, compareOutlines settings base head = .ok records ∧
        LeadTo settings base head records) ∧
    ∀ (first : Revision) (rest : List Revision),
      (∀ revision ∈ first :: rest, ∃ outline, Language.java.outlineOf revision = .ok outline) →
      ∃ older newer steps, Language.java.outlineOf first = .ok older ∧
        Language.java.outlineOf ((first :: rest).getLast (List.cons_ne_nil first rest)) =
          .ok newer ∧
        ((first :: rest).zip rest).mapM (fun (base, head) =>
          Language.java.diff settings base head) = .ok steps ∧
        replay? older.inventory steps.flatten = some newer.inventory :=
  ⟨fun _ _ => exists_leadTo hexpand, fun _ _ => exists_replay?_history hexpand⟩

/-- A revision. -/
def queueRevision : Revision :=
  ⟨"Queue.java", "class Queue { push(){} }"⟩

/-- Two later revisions: the first changes the methods of the type, the second replaces the type. -/
def laterQueueRevisions : List Revision := [
  ⟨"Queue.java", "class Queue { push(){0} pop(){} }"⟩,
  ⟨"Queue.java", "class Item { pop(){} }"⟩]

theorem replay?_queueRevisions :
    (∃ older newer records, Language.java.outlineOf queueRevision = .ok older ∧
      Language.java.outlineOf (laterQueueRevisions.head (by decide)) = .ok newer ∧
      compareOutlines ⟨.one, true, true⟩ older newer = .ok records ∧
      LeadTo ⟨.one, true, true⟩ older newer records) ∧
    ∃ older newer steps, Language.java.outlineOf queueRevision = .ok older ∧
      Language.java.outlineOf (laterQueueRevisions.getLast (by decide)) = .ok newer ∧
      ((queueRevision :: laterQueueRevisions).zip laterQueueRevisions).mapM (fun (base, head) =>
        Language.java.diff ⟨.one, true, true⟩ base head) = .ok steps ∧
      replay? older.inventory steps.flatten = some newer.inventory := by
  have hoks : ∀ revision ∈ queueRevision :: laterQueueRevisions,
      (Language.java.outlineOf revision).isOk = true := by
    decide +kernel
  have houtlines : ∀ revision ∈ queueRevision :: laterQueueRevisions, ∃ outline,
      Language.java.outlineOf revision = .ok outline := by
    intro revision hrevision
    have hok := hoks revision hrevision
    cases houtline : Language.java.outlineOf revision with
    | ok outline => exact ⟨outline, rfl⟩
    | error error =>
      rw [houtline] at hok
      cases hok
  have hexpand : (⟨.one, true, true⟩ : Settings).expandMembers = true := rfl
  have hboth := replay?_comparison_and_history hexpand
  refine ⟨?_, hboth.2 queueRevision laterQueueRevisions houtlines⟩
  obtain ⟨older, holder⟩ := houtlines queueRevision (by decide)
  obtain ⟨newer, hnewer⟩ := houtlines (laterQueueRevisions.head (by decide)) (by decide)
  have hskeletons := Language.skeletonsExist_of_java_outlineOf holder hnewer ⟨.one, true, true⟩
  obtain ⟨records, hrecords, hlead⟩ := hboth.1 older newer hskeletons
  exact ⟨older, newer, records, holder, hnewer, hrecords, hlead⟩

end JavaDiff
