import JavaDiff.Diff.Compare
import JavaDiff.Proofs.NameMap
import JavaDiff.Proofs.Outcome
import JavaDiff.Proofs.Settings
import JavaDiff.Proofs.Text.Order

/-!
# What a comparison reports

The records of a comparison are blocks, each the record of a type followed by those of its methods.
There is one block for each type that is in one outline only and one for each type of both outlines
that differs, in ascending order of the bytes of the names.  Two types differ when a method is in
one of them only, when the texts of a method differ enough for the threshold, or, on request, when
the texts outside the methods differ.
-/

namespace JavaDiff

/-- The order of names by their bytes. -/
def BytesLess (left right : String) : Prop :=
  Utf8.encode left.toList < Utf8.encode right.toList

theorem bytesLess_of_lt {left right : String} (hless : left < right) : BytesLess left right :=
  Utf8.encode_lt_encode hless

theorem nodup_of_pairwise_bytesLess {names : List String} (hnames : names.Pairwise BytesLess) :
    names.Nodup := by
  apply hnames.imp
  rintro left right hless rfl
  exact List.lt_irrefl _ hless

/-! ## Methods -/

/-- Whether the texts of a method differ enough for a threshold. -/
def IsRewritten (threshold : Single) (older newer : Method) : Prop :=
  older.text ≠ newer.text ∧
    (threshold = .one ∨ (similarity older.text newer.text).isLess threshold = true)

/-- Whether two types differ in a method. -/
def MethodsDiffer (threshold : Single) (base head : NameMap Method) : Prop :=
  (∃ name, (name ∈ base.names ∧ name ∉ head.names) ∨ (name ∈ head.names ∧ name ∉ base.names)) ∨
    ∃ name older newer, base.get? name = some older ∧ head.get? name = some newer ∧
      IsRewritten threshold older newer

theorem names_eq_of_not_methodsDiffer {threshold : Single} {base head : NameMap Method}
    (hsame : ¬ MethodsDiffer threshold base head) : base.names = head.names := by
  apply NameMap.names_eq_of_mem_iff
  intro name
  constructor
  · intro hbase
    exact Classical.byContradiction fun hhead => hsame (Or.inl ⟨name, Or.inl ⟨hbase, hhead⟩⟩)
  · intro hhead
    exact Classical.byContradiction fun hbase => hsame (Or.inl ⟨name, Or.inr ⟨hhead, hbase⟩⟩)

/-- The names of the methods that differ between two types, the modified ones with their scores. -/
structure MethodGroups (threshold : Single) (base head : NameMap Method)
    (added removed : List String) (modified : List (String × Single)) : Prop where
  added_ascending : added.Pairwise BytesLess
  removed_ascending : removed.Pairwise BytesLess
  modified_ascending : (modified.map Prod.fst).Pairwise BytesLess
  mem_added_iff : ∀ name, name ∈ added ↔ name ∈ head.names ∧ name ∉ base.names
  mem_removed_iff : ∀ name, name ∈ removed ↔ name ∈ base.names ∧ name ∉ head.names
  mem_modified_iff : ∀ name score, (name, score) ∈ modified ↔
    ∃ older newer, base.get? name = some older ∧ head.get? name = some newer ∧
      IsRewritten threshold older newer ∧ score = similarity older.text newer.text

/-- The changes of three groups of methods. -/
def groupChanges (owner : String) (added removed : List String)
    (modified : List (String × Single)) : List MethodChange :=
  added.map (.added owner) ++ removed.map (.removed owner) ++
    modified.map fun (name, score) => .modified owner name score

theorem isModified_snd (threshold : Single) (base head : String) :
    (isModified threshold base head).2 = similarity base head := by
  rw [isModified]
  split
  · rename_i hequal
    rw [similarity, if_pos hequal]
  · rfl

theorem isModified_fst_iff (settings : Settings) (older newer : Method) :
    (isModified settings.effectiveThreshold older.text newer.text).1 = true ↔
      IsRewritten settings.effectiveThreshold older newer := by
  rw [isModified, IsRewritten]
  split
  · rename_i hequal
    exact iff_of_false Bool.false_ne_true fun hrewritten => hrewritten.1 hequal
  · rename_i hdifferent
    rw [Bool.or_eq_true, settings.effectiveThreshold_isAtLeast_one_iff]
    exact (and_iff_right hdifferent).symm

theorem mem_filter_names_iff {base head : NameMap Method} {name : String} :
    name ∈ head.names.filter (fun name => !base.contains name) ↔
      name ∈ head.names ∧ name ∉ base.names := by
  rw [List.mem_filter, Bool.not_eq_true', ← Bool.not_eq_true, NameMap.contains_iff]

theorem pairwise_filter_names (map : NameMap Method) (keep : String → Bool) :
    (map.names.filter keep).Pairwise BytesLess :=
  (map.pairwise_names.filter keep).imp bytesLess_of_lt

/-- The methods of both types that are rewritten, with their scores. -/
def rewrittenMethods (threshold : Single) (base head : NameMap Method) : List (String × Single) :=
  base.entries.filterMap fun (name, older) => do
    let newer ← head.get? name
    let (modified, score) := isModified threshold older.text newer.text
    if modified then some (name, score) else none

theorem methodChanges_eq_groupChanges (threshold : Single) (owner : String)
    (base head : NameMap Method) :
    methodChanges threshold owner base head =
      groupChanges owner (head.names.filter fun name => !base.contains name)
        (base.names.filter fun name => !head.contains name)
        (rewrittenMethods threshold base head) := by
  rw [methodChanges, groupChanges, rewrittenMethods, List.map_filterMap]
  congr 2
  funext ⟨name, older⟩
  cases hnewer : head.get? name with
  | none => simp [hnewer]
  | some newer =>
    simp only [hnewer, Option.bind_eq_bind, Option.bind_some]
    split <;> rfl

theorem mem_rewrittenMethods_iff {settings : Settings} {base head : NameMap Method} {name : String}
    {score : Single} :
    (name, score) ∈ rewrittenMethods settings.effectiveThreshold base head ↔
      ∃ older newer, base.get? name = some older ∧ head.get? name = some newer ∧
        IsRewritten settings.effectiveThreshold older newer ∧
        score = similarity older.text newer.text := by
  rw [rewrittenMethods, List.mem_filterMap]
  constructor
  · rintro ⟨⟨entry, older⟩, hentry, hsome⟩
    simp only [Option.bind_eq_bind, Option.bind_eq_some_iff] at hsome
    obtain ⟨newer, hnewer, hsome⟩ := hsome
    split at hsome
    · rename_i hmodified
      obtain ⟨rfl, rfl⟩ := Prod.mk.inj (Option.some.inj hsome)
      exact ⟨older, newer, NameMap.get?_eq_some_iff.mpr hentry, hnewer,
        (isModified_fst_iff settings older newer).mp hmodified, isModified_snd ..⟩
    · cases hsome
  · rintro ⟨older, newer, holder, hnewer, hrewritten, rfl⟩
    refine ⟨(name, older), NameMap.get?_eq_some_iff.mp holder, ?_⟩
    simp only [hnewer, Option.bind_eq_bind, Option.bind_some,
      (isModified_fst_iff settings older newer).mpr hrewritten, if_true, isModified_snd]

theorem pairwise_rewrittenMethods (threshold : Single) (base head : NameMap Method) :
    ((rewrittenMethods threshold base head).map Prod.fst).Pairwise BytesLess := by
  have hname {entry : String × Method} {result : String × Single}
      (hresult : (do
        let newer ← head.get? entry.1
        let (modified, score) := isModified threshold entry.2.text newer.text
        if modified then some (entry.1, score) else none) = some result) : result.1 = entry.1 := by
    simp only [Option.bind_eq_bind, Option.bind_eq_some_iff] at hresult
    obtain ⟨newer, -, hresult⟩ := hresult
    split at hresult
    · exact (congrArg Prod.fst (Option.some.inj hresult)).symm
    · cases hresult
  rw [List.pairwise_map, rewrittenMethods, List.pairwise_filterMap]
  apply (List.pairwise_map.mp base.ascending).imp
  intro earlier later hless first hfirst second hsecond
  rw [hname hfirst, hname hsecond]
  exact bytesLess_of_lt hless

theorem methodGroups (settings : Settings) (base head : NameMap Method) :
    MethodGroups settings.effectiveThreshold base head
      (head.names.filter fun name => !base.contains name)
      (base.names.filter fun name => !head.contains name)
      (rewrittenMethods settings.effectiveThreshold base head) where
  added_ascending := pairwise_filter_names head _
  removed_ascending := pairwise_filter_names base _
  modified_ascending := pairwise_rewrittenMethods ..
  mem_added_iff _ := mem_filter_names_iff
  mem_removed_iff _ := mem_filter_names_iff
  mem_modified_iff _ _ := mem_rewrittenMethods_iff

theorem map_name_groupChanges (owner : String) (added removed : List String)
    (modified : List (String × Single)) :
    (groupChanges owner added removed modified).map MethodChange.name =
      added ++ removed ++ modified.map Prod.fst := by
  rw [groupChanges, List.map_append, List.map_append, List.map_map, List.map_map, List.map_map]
  congr 2
  · exact List.map_id _
  · exact List.map_id _

namespace MethodGroups

variable {threshold : Single} {base head : NameMap Method} {added removed : List String}
  {modified : List (String × Single)}

theorem nodup_names (hgroups : MethodGroups threshold base head added removed modified)
    (owner : String) :
    ((groupChanges owner added removed modified).map MethodChange.name).Nodup := by
  have hmodified {name : String} (hname : name ∈ modified.map Prod.fst) :
      name ∈ base.names ∧ name ∈ head.names := by
    obtain ⟨⟨name, score⟩, hmem, rfl⟩ := List.mem_map.mp hname
    obtain ⟨older, newer, holder, hnewer, -⟩ := (hgroups.mem_modified_iff name score).mp hmem
    exact ⟨NameMap.mem_names_iff.mpr ⟨older, holder⟩, NameMap.mem_names_iff.mpr ⟨newer, hnewer⟩⟩
  rw [map_name_groupChanges, List.nodup_append, List.nodup_append]
  refine ⟨⟨nodup_of_pairwise_bytesLess hgroups.added_ascending,
    nodup_of_pairwise_bytesLess hgroups.removed_ascending, ?_⟩,
    nodup_of_pairwise_bytesLess hgroups.modified_ascending, ?_⟩
  · rintro name hadded _ hremoved rfl
    exact ((hgroups.mem_added_iff name).mp hadded).2 ((hgroups.mem_removed_iff name).mp hremoved).1
  · rintro name hsided _ hboth rfl
    rcases List.mem_append.mp hsided with hadded | hremoved
    · exact ((hgroups.mem_added_iff name).mp hadded).2 (hmodified hboth).1
    · exact ((hgroups.mem_removed_iff name).mp hremoved).2 (hmodified hboth).2

theorem groupChanges_ne_nil_iff
    (hgroups : MethodGroups threshold base head added removed modified) (owner : String) :
    groupChanges owner added removed modified ≠ [] ↔ MethodsDiffer threshold base head := by
  constructor
  · intro hchanges
    cases added with
    | cons name added =>
      exact Or.inl ⟨name, Or.inr ((hgroups.mem_added_iff name).mp List.mem_cons_self)⟩
    | nil =>
      cases removed with
      | cons name removed =>
        exact Or.inl ⟨name, Or.inl ((hgroups.mem_removed_iff name).mp List.mem_cons_self)⟩
      | nil =>
        cases modified with
        | cons entry modified =>
          obtain ⟨older, newer, holder, hnewer, hrewritten, -⟩ :=
            (hgroups.mem_modified_iff entry.1 entry.2).mp List.mem_cons_self
          exact Or.inr ⟨entry.1, older, newer, holder, hnewer, hrewritten⟩
        | nil => exact absurd rfl hchanges
  · intro hdiffer hchanges
    simp only [groupChanges, List.append_eq_nil_iff, List.map_eq_nil_iff] at hchanges
    obtain ⟨⟨rfl, rfl⟩, rfl⟩ := hchanges
    rcases hdiffer with ⟨name, hremoved | hadded⟩ | ⟨name, older, newer, holder, hnewer, hrewritten⟩
    · exact absurd ((hgroups.mem_removed_iff name).mpr hremoved) List.not_mem_nil
    · exact absurd ((hgroups.mem_added_iff name).mpr hadded) List.not_mem_nil
    · have hmodified := (hgroups.mem_modified_iff name (similarity older.text newer.text)).mpr
        ⟨older, newer, holder, hnewer, hrewritten, rfl⟩
      exact absurd hmodified List.not_mem_nil

end MethodGroups

theorem methodChanges_ne_nil_iff (settings : Settings) (owner : String)
    (base head : NameMap Method) :
    methodChanges settings.effectiveThreshold owner base head ≠ [] ↔
      MethodsDiffer settings.effectiveThreshold base head := by
  rw [methodChanges_eq_groupChanges]
  exact (methodGroups settings base head).groupChanges_ne_nil_iff owner

/-- What the record of a method states: the type it belongs to, a name on each side that has the
method, and a score when both sides have it. -/
structure MethodChange.IsRecordOf (owner : String) (change : MethodChange) : Prop where
  owner_eq : change.owner = owner
  before?_eq : change.before? = if change.change = .added then none else some change.name
  after?_eq : change.after? = if change.change = .removed then none else some change.name
  similarity?_iff : change.similarity?.isSome = true ↔ change.change = .modified

theorem MethodChange.isRecordOf_added (owner name : String) :
    (MethodChange.added owner name).IsRecordOf owner :=
  ⟨rfl, rfl, rfl, iff_of_false Bool.false_ne_true nofun⟩

theorem MethodChange.isRecordOf_removed (owner name : String) :
    (MethodChange.removed owner name).IsRecordOf owner :=
  ⟨rfl, rfl, rfl, iff_of_false Bool.false_ne_true nofun⟩

theorem MethodChange.isRecordOf_modified (owner name : String) (score : Single) :
    (MethodChange.modified owner name score).IsRecordOf owner :=
  ⟨rfl, rfl, rfl, iff_of_true rfl rfl⟩

theorem isRecordOf_of_mem_groupChanges {owner : String} {added removed : List String}
    {modified : List (String × Single)} {change : MethodChange}
    (hchange : change ∈ groupChanges owner added removed modified) : change.IsRecordOf owner := by
  rw [groupChanges, List.mem_append, List.mem_append] at hchange
  rcases hchange with (hadded | hremoved) | hmodified
  · obtain ⟨name, -, rfl⟩ := List.mem_map.mp hadded
    exact MethodChange.isRecordOf_added owner name
  · obtain ⟨name, -, rfl⟩ := List.mem_map.mp hremoved
    exact MethodChange.isRecordOf_removed owner name
  · obtain ⟨⟨name, score⟩, -, rfl⟩ := List.mem_map.mp hmodified
    exact MethodChange.isRecordOf_modified owner name score

/-! ## Types -/

/-- Whether the texts of two types outside their methods differ. -/
def SkeletonsDiffer (older newer : DeclaredType) : Prop :=
  ∃ base head, older.skeleton = .ok base ∧ newer.skeleton = .ok head ∧ base ≠ head

/-- Whether a type of both outlines is reported. -/
def IsReported (settings : Settings) (older newer : DeclaredType) : Prop :=
  MethodsDiffer settings.effectiveThreshold older.methods newer.methods ∨
    settings.detectMemberChanges = true ∧ SkeletonsDiffer older newer

/-- Whether every skeleton that a comparison looks at exists. -/
def SkeletonsExist (settings : Settings) (base head : Outline) : Prop :=
  ∀ name older newer, base.types.get? name = some older → head.types.get? name = some newer →
    ¬ MethodsDiffer settings.effectiveThreshold older.methods newer.methods →
    settings.detectMemberChanges = true →
    (∃ text, older.skeleton = .ok text) ∧ ∃ text, newer.skeleton = .ok text

/-- The methods that are listed with a type that is in one outline only. -/
def listedMethods (settings : Settings) (type : DeclaredType) : List String :=
  if settings.expandMembers then type.methods.names else []

/-- The change of the type with a name between two outlines. -/
inductive IsChangeOf (settings : Settings) (base head : Outline) (name : String) : TypeChange → Prop
  | added {type : DeclaredType} (hbase : base.types.get? name = none)
      (hhead : head.types.get? name = some type) :
      IsChangeOf settings base head name
        (.added name ((listedMethods settings type).map (.added name)))
  | removed {type : DeclaredType} (hbase : base.types.get? name = some type)
      (hhead : head.types.get? name = none) :
      IsChangeOf settings base head name
        (.removed name ((listedMethods settings type).map (.removed name)))
  | modified {older newer : DeclaredType} (hbase : base.types.get? name = some older)
      (hhead : head.types.get? name = some newer) (hreported : IsReported settings older newer) :
      IsChangeOf settings base head name
        (.modified name
          (methodChanges settings.effectiveThreshold name older.methods newer.methods))

theorem skeletonsDiffer_iff {older newer : DeclaredType} {base head : String}
    (hbase : older.skeleton = .ok base) (hhead : newer.skeleton = .ok head) :
    SkeletonsDiffer older newer ↔ base ≠ head := by
  constructor
  · rintro ⟨first, second, hfirst, hsecond, hne⟩
    obtain rfl := Except.ok.inj (hbase.symm.trans hfirst)
    obtain rfl := Except.ok.inj (hhead.symm.trans hsecond)
    exact hne
  · exact fun hne => ⟨base, head, hbase, hhead, hne⟩

theorem membersDiffer_eq_ok {older newer : DeclaredType} {base head : String}
    (hbase : older.skeleton = .ok base) (hhead : newer.skeleton = .ok head) :
    membersDiffer older newer = .ok (base != head) := by
  rw [membersDiffer, hbase, hhead]
  rfl

/-- A pair of types has the changes of its methods.  Where there are none, the text outside methods
decides, if it is asked for. -/
theorem pairChange?_cases (settings : Settings) (name : String) (older newer : DeclaredType) :
    let methods := methodChanges settings.effectiveThreshold name older.methods newer.methods
    (methods ≠ [] ∧
      pairChange? settings name older newer = .ok (some (.modified name methods))) ∨
    (methods = [] ∧ settings.detectMemberChanges = false ∧
      pairChange? settings name older newer = .ok none) ∨
    (methods = [] ∧ settings.detectMemberChanges = true ∧
      pairChange? settings name older newer = (membersDiffer older newer).map fun differ =>
        if differ then some (.modified name []) else none) := by
  intro methods
  by_cases hmethods : methods = []
  case neg => exact Or.inl ⟨hmethods, if_pos hmethods⟩
  right
  cases hdetect : settings.detectMemberChanges with
  | false =>
    exact Or.inl ⟨hmethods, rfl,
      (if_neg (not_not.mpr hmethods)).trans (if_neg (Bool.eq_false_iff.mp hdetect))⟩
  | true =>
    refine Or.inr ⟨hmethods, rfl, (if_neg (not_not.mpr hmethods)).trans ((if_pos hdetect).trans ?_)⟩
    cases membersDiffer older newer <;> rfl

/-- A type of both outlines has a change exactly when it is reported. -/
theorem pairChange?_spec {settings : Settings} {older newer : DeclaredType} (name : String)
    (hskeletons : ¬ MethodsDiffer settings.effectiveThreshold older.methods newer.methods →
      settings.detectMemberChanges = true →
      (∃ text, older.skeleton = .ok text) ∧ ∃ text, newer.skeleton = .ok text) :
    ∃ change?, pairChange? settings name older newer = .ok change? ∧
      ∀ change, change? = some change ↔ IsReported settings older newer ∧
        change = .modified name
          (methodChanges settings.effectiveThreshold name older.methods newer.methods) := by
  have hsome {change : TypeChange} {methods : List MethodChange}
      (hreported : IsReported settings older newer) :
      some (TypeChange.modified name methods) = some change ↔
        IsReported settings older newer ∧ change = .modified name methods := by
    rw [Option.some.injEq, and_iff_right hreported, eq_comm]
  have hnone {change : TypeChange} {methods : List MethodChange}
      (hunreported : ¬ IsReported settings older newer) :
      none = some change ↔ IsReported settings older newer ∧ change = .modified name methods :=
    iff_of_false (Option.some_ne_none change).symm fun hchange => hunreported hchange.1
  have hdiffer := methodChanges_ne_nil_iff settings name older.methods newer.methods
  rcases pairChange?_cases settings name older newer with ⟨hmethods, hpair⟩ |
    ⟨hmethods, hdetect, hpair⟩ | ⟨hmethods, hdetect, hpair⟩
  · exact ⟨_, hpair, fun change => hsome (Or.inl (hdiffer.mp hmethods))⟩
  · refine ⟨none, hpair, fun change => hnone ?_⟩
    rintro (hreported | ⟨hdetected, -⟩)
    · exact hdiffer.mpr hreported hmethods
    · exact Bool.false_ne_true (hdetect.symm.trans hdetected)
  · have hsame : ¬ MethodsDiffer settings.effectiveThreshold older.methods newer.methods :=
      fun hreported => hdiffer.mpr hreported hmethods
    obtain ⟨⟨base, hbase⟩, head, hhead⟩ := hskeletons hsame hdetect
    have hreported : IsReported settings older newer ↔ base ≠ head := by
      rw [IsReported, or_iff_right hsame, and_iff_right hdetect, skeletonsDiffer_iff hbase hhead]
    rw [membersDiffer_eq_ok hbase hhead] at hpair
    by_cases hequal : base = head
    · rw [bne_eq_false_iff_eq.mpr hequal] at hpair
      exact ⟨none, hpair, fun change => hnone fun hchanged => hreported.mp hchanged hequal⟩
    · rw [bne_iff_ne.mpr hequal] at hpair
      rw [hmethods]
      exact ⟨_, hpair, fun change => hsome (hreported.mpr hequal)⟩

namespace IsChangeOf

variable {settings : Settings} {base head : Outline} {name : String} {change : TypeChange}
  {older newer : DeclaredType}

theorem iff_added (hbase : base.types.get? name = none)
    (hhead : head.types.get? name = some newer) :
    IsChangeOf settings base head name change ↔
      change = .added name ((listedMethods settings newer).map (.added name)) := by
  constructor
  · intro hchange
    cases hchange with
    | added _ hsome =>
      obtain rfl := Option.some.inj (hhead.symm.trans hsome)
      rfl
    | removed hsome => exact nomatch hbase.symm.trans hsome
    | modified hsome => exact nomatch hbase.symm.trans hsome
  · rintro rfl
    exact .added hbase hhead

theorem iff_removed (hbase : base.types.get? name = some older)
    (hhead : head.types.get? name = none) :
    IsChangeOf settings base head name change ↔
      change = .removed name ((listedMethods settings older).map (.removed name)) := by
  constructor
  · intro hchange
    cases hchange with
    | added hnone => exact nomatch hnone.symm.trans hbase
    | removed hsome =>
      obtain rfl := Option.some.inj (hbase.symm.trans hsome)
      rfl
    | modified _ hsome => exact nomatch hhead.symm.trans hsome
  · rintro rfl
    exact .removed hbase hhead

theorem iff_modified (hbase : base.types.get? name = some older)
    (hhead : head.types.get? name = some newer) :
    IsChangeOf settings base head name change ↔ IsReported settings older newer ∧
      change = .modified name
        (methodChanges settings.effectiveThreshold name older.methods newer.methods) := by
  constructor
  · intro hchange
    cases hchange with
    | added hnone => exact nomatch hnone.symm.trans hbase
    | removed _ hnone => exact nomatch hnone.symm.trans hhead
    | modified holder hnewer hreported =>
      obtain rfl := Option.some.inj (hbase.symm.trans holder)
      obtain rfl := Option.some.inj (hhead.symm.trans hnewer)
      exact ⟨hreported, rfl⟩
  · rintro ⟨hreported, rfl⟩
    exact .modified hbase hhead hreported

theorem mem_names (hchange : IsChangeOf settings base head name change) :
    name ∈ base.types.names ∨ name ∈ head.types.names := by
  cases hchange with
  | added _ hhead => exact Or.inr (NameMap.mem_names_iff.mpr ⟨_, hhead⟩)
  | removed hbase => exact Or.inl (NameMap.mem_names_iff.mpr ⟨_, hbase⟩)
  | modified hbase => exact Or.inl (NameMap.mem_names_iff.mpr ⟨_, hbase⟩)

theorem name_eq (hchange : IsChangeOf settings base head name change) : change.name = name := by
  cases hchange <;> rfl

/-- A type without a change is in neither outline, or in both and not reported. -/
theorem not_exists_iff : (∀ change, ¬ IsChangeOf settings base head name change) ↔
    (base.types.get? name = none ∧ head.types.get? name = none) ∨
      ∃ older newer, base.types.get? name = some older ∧ head.types.get? name = some newer ∧
        ¬ IsReported settings older newer := by
  constructor
  · intro hunchanged
    cases hbase : base.types.get? name with
    | none =>
      cases hhead : head.types.get? name with
      | none => exact Or.inl ⟨rfl, rfl⟩
      | some newer => exact absurd (.added hbase hhead) (hunchanged _)
    | some older =>
      cases hhead : head.types.get? name with
      | none => exact absurd (.removed hbase hhead) (hunchanged _)
      | some newer => exact Or.inr ⟨older, newer, rfl, rfl, fun hreported =>
          hunchanged _ (.modified hbase hhead hreported)⟩
  · rintro (⟨hbase, hhead⟩ | ⟨older, newer, hbase, hhead, hunreported⟩) change hchange
    · rcases hchange.mem_names with hmem | hmem
      · exact NameMap.get?_eq_none_iff.mp hbase hmem
      · exact NameMap.get?_eq_none_iff.mp hhead hmem
    · exact hunreported ((iff_modified hbase hhead).mp hchange).1

end IsChangeOf

theorem typeChange?_spec {settings : Settings} {base head : Outline}
    (hskeletons : SkeletonsExist settings base head) (name : String) :
    ∃ change?,
      typeChange? settings name (base.types.get? name) (head.types.get? name) = .ok change? ∧
      ∀ change, change? = some change ↔ IsChangeOf settings base head name change := by
  cases hbase : base.types.get? name with
  | none =>
    cases hhead : head.types.get? name with
    | none =>
      refine ⟨none, rfl, fun change => iff_of_false (Option.some_ne_none change).symm ?_⟩
      exact IsChangeOf.not_exists_iff.mpr (Or.inl ⟨hbase, hhead⟩) change
    | some newer =>
      refine ⟨_, rfl, fun change => ?_⟩
      rw [IsChangeOf.iff_added hbase hhead, Option.some.injEq, eq_comm]
      rfl
  | some older =>
    cases hhead : head.types.get? name with
    | none =>
      refine ⟨_, rfl, fun change => ?_⟩
      rw [IsChangeOf.iff_removed hbase hhead, Option.some.injEq, eq_comm]
      rfl
    | some newer =>
      obtain ⟨change?, hpair, hchange⟩ :=
        pairChange?_spec name (hskeletons name older newer hbase hhead)
      exact ⟨change?, hpair, fun change =>
        (hchange change).trans (IsChangeOf.iff_modified hbase hhead).symm⟩

theorem typeChange?_eq_ok_some_iff {settings : Settings} {base head : Outline}
    (hskeletons : SkeletonsExist settings base head) {name : String} {change : TypeChange} :
    typeChange? settings name (base.types.get? name) (head.types.get? name) = .ok (some change) ↔
      IsChangeOf settings base head name change := by
  obtain ⟨change?, hok, hchange⟩ := typeChange?_spec hskeletons name
  rw [hok, Except.ok.injEq, hchange]

/-! ## Outlines -/

/-- A comparison finds the change of each type, and its records are those of the changes. -/
theorem exists_changes {settings : Settings} {base head : Outline}
    (hskeletons : SkeletonsExist settings base head) :
    ∃ changes : List (Option TypeChange),
      ((base.types.unionNames head.types).map fun name =>
        typeChange? settings name (base.types.get? name) (head.types.get? name)) =
          changes.map .ok ∧
      compareOutlines settings base head =
        .ok ((changes.filterMap id).flatMap TypeChange.records) := by
  have hstep (name : String) (_ : name ∈ base.types.unionNames head.types) :=
    (typeChange?_spec hskeletons name).imp fun change? hchange => hchange.1
  obtain ⟨changes, hchanges⟩ := exists_map_eq_map_ok hstep
  refine ⟨changes, hchanges, ?_⟩
  rw [compareOutlines, mapM_eq_ok_iff.mpr hchanges]
  rfl

/-- The blocks of a comparison are the changes of the types of both outlines, in ascending order. -/
theorem exists_blocks {settings : Settings} {base head : Outline}
    (hskeletons : SkeletonsExist settings base head) :
    ∃ blocks : List TypeChange,
      compareOutlines settings base head = .ok (blocks.flatMap TypeChange.records) ∧
      (blocks.map TypeChange.name).Pairwise BytesLess ∧
      ∀ block, block ∈ blocks ↔ ∃ name, IsChangeOf settings base head name block := by
  obtain ⟨changes, hchanges, hok⟩ := exists_changes hskeletons
  refine ⟨changes.filterMap id, hok, ?_, fun block => ?_⟩
  · have hname {name : String} {change : TypeChange}
        (hjoin : (typeChange? settings name (base.types.get? name)
          (head.types.get? name)).toOption.join = some change) : change.name = name := by
      cases hresult : typeChange? settings name (base.types.get? name) (head.types.get? name) with
      | error error =>
        rw [hresult] at hjoin
        cases hjoin
      | ok change? =>
        rw [hresult] at hjoin
        obtain rfl : change? = some change := hjoin
        exact ((typeChange?_eq_ok_some_iff hskeletons).mp hresult).name_eq
    rw [filterMap_id_results hchanges, List.pairwise_map, List.pairwise_filterMap]
    apply (NameMap.pairwise_unionNames base.types head.types).imp
    intro earlier later hless first hfirst second hsecond
    rw [hname hfirst, hname hsecond]
    exact bytesLess_of_lt hless
  · rw [List.mem_filterMap]
    constructor
    · rintro ⟨change?, hmem, rfl⟩
      obtain ⟨name, -, hresult⟩ := exists_of_mem_results hchanges hmem
      exact ⟨name, (typeChange?_eq_ok_some_iff hskeletons).mp hresult⟩
    · rintro ⟨name, hchange⟩
      have hmem := NameMap.mem_unionNames.mpr hchange.mem_names
      have hresult := (typeChange?_eq_ok_some_iff hskeletons).mpr hchange
      exact ⟨some block, mem_results_of_eq_ok hchanges hmem hresult, rfl⟩

theorem isChangeOf_of_mem {settings : Settings} {base head : Outline} {blocks : List TypeChange}
    (hblocks : ∀ block, block ∈ blocks ↔ ∃ name, IsChangeOf settings base head name block)
    {block : TypeChange} (hblock : block ∈ blocks) :
    IsChangeOf settings base head block.name block := by
  obtain ⟨name, hchange⟩ := (hblocks block).mp hblock
  rwa [hchange.name_eq]

/-- The methods that are listed with a type that is in one outline only. -/
structure AreListed (settings : Settings) (type : DeclaredType) (names : List String) : Prop where
  ascending : names.Pairwise BytesLess
  mem_iff : ∀ name, name ∈ names ↔ settings.expandMembers = true ∧ name ∈ type.methods.names

/-- The blocks that a comparison of two outlines calls for. -/
structure AreBlocks (settings : Settings) (base head : Outline) (blocks : List TypeChange) :
    Prop where
  names_ascending : (blocks.map TypeChange.name).Pairwise BytesLess
  added_iff : ∀ name, (∃ block ∈ blocks, block.name = name ∧ block.change = .added) ↔
    name ∈ head.types.names ∧ name ∉ base.types.names
  removed_iff : ∀ name, (∃ block ∈ blocks, block.name = name ∧ block.change = .removed) ↔
    name ∈ base.types.names ∧ name ∉ head.types.names
  modified_iff : ∀ name, (∃ block ∈ blocks, block.name = name ∧ block.change = .modified) ↔
    ∃ older newer, base.types.get? name = some older ∧ head.types.get? name = some newer ∧
      IsReported settings older newer
  before?_eq : ∀ block ∈ blocks,
    block.before? = if block.change = .added then none else some block.name
  after?_eq : ∀ block ∈ blocks,
    block.after? = if block.change = .removed then none else some block.name
  added_methods : ∀ block ∈ blocks, block.change = .added → ∃ type names,
    head.types.get? block.name = some type ∧ AreListed settings type names ∧
      block.methods = names.map (.added block.name)
  removed_methods : ∀ block ∈ blocks, block.change = .removed → ∃ type names,
    base.types.get? block.name = some type ∧ AreListed settings type names ∧
      block.methods = names.map (.removed block.name)
  modified_methods : ∀ block ∈ blocks, block.change = .modified →
    ∃ older newer added removed modified,
      base.types.get? block.name = some older ∧ head.types.get? block.name = some newer ∧
      MethodGroups settings.effectiveThreshold older.methods newer.methods added removed modified ∧
      block.methods = groupChanges block.name added removed modified
  methods_nodup : ∀ block ∈ blocks, (block.methods.map MethodChange.name).Nodup
  methods_isRecordOf : ∀ block ∈ blocks, ∀ change ∈ block.methods, change.IsRecordOf block.name

theorem areListed (settings : Settings) (type : DeclaredType) :
    AreListed settings type (listedMethods settings type) := by
  rw [listedMethods]
  split
  · rename_i hexpand
    exact ⟨type.methods.pairwise_names.imp bytesLess_of_lt,
      fun name => (and_iff_right hexpand).symm⟩
  · rename_i hfold
    exact ⟨.nil, fun name => iff_of_false List.not_mem_nil fun hlisted => hfold hlisted.1⟩

namespace IsChangeOf

variable {settings : Settings} {base head : Outline} {name : String} {block : TypeChange}

theorem of_added (hchange : IsChangeOf settings base head name block)
    (hadded : block.change = .added) :
    base.types.get? name = none ∧ ∃ type, head.types.get? name = some type ∧
      block.methods = (listedMethods settings type).map (.added name) := by
  cases hchange with
  | added hbase hhead => exact ⟨hbase, _, hhead, rfl⟩
  | removed => cases hadded
  | modified => cases hadded

theorem of_removed (hchange : IsChangeOf settings base head name block)
    (hremoved : block.change = .removed) :
    head.types.get? name = none ∧ ∃ type, base.types.get? name = some type ∧
      block.methods = (listedMethods settings type).map (.removed name) := by
  cases hchange with
  | added => cases hremoved
  | removed hbase hhead => exact ⟨hhead, _, hbase, rfl⟩
  | modified => cases hremoved

theorem of_modified (hchange : IsChangeOf settings base head name block)
    (hmodified : block.change = .modified) :
    ∃ older newer, base.types.get? name = some older ∧ head.types.get? name = some newer ∧
      IsReported settings older newer ∧
      block.methods =
        methodChanges settings.effectiveThreshold name older.methods newer.methods := by
  cases hchange with
  | added => cases hmodified
  | removed => cases hmodified
  | modified hbase hhead hreported => exact ⟨_, _, hbase, hhead, hreported, rfl⟩

theorem before?_eq (hchange : IsChangeOf settings base head name block) :
    block.before? = if block.change = .added then none else some name := by
  cases hchange <;> rfl

theorem after?_eq (hchange : IsChangeOf settings base head name block) :
    block.after? = if block.change = .removed then none else some name := by
  cases hchange <;> rfl

theorem methods_nodup (hchange : IsChangeOf settings base head name block) :
    (block.methods.map MethodChange.name).Nodup := by
  have hlisted (type : DeclaredType) : (listedMethods settings type).Nodup :=
    nodup_of_pairwise_bytesLess (areListed settings type).ascending
  cases hchange with
  | @added type =>
    simpa [TypeChange.added, MethodChange.added, MethodChange.name, Function.comp_def]
      using hlisted type
  | @removed type =>
    simpa [TypeChange.removed, MethodChange.removed, MethodChange.name, Function.comp_def]
      using hlisted type
  | @modified older newer =>
    rw [methodChanges_eq_groupChanges]
    exact (methodGroups settings older.methods newer.methods).nodup_names name

theorem methods_isRecordOf (hchange : IsChangeOf settings base head name block)
    {change : MethodChange} (hmem : change ∈ block.methods) : change.IsRecordOf name := by
  cases hchange with
  | added =>
    obtain ⟨method, -, rfl⟩ := List.mem_map.mp hmem
    exact MethodChange.isRecordOf_added name method
  | removed =>
    obtain ⟨method, -, rfl⟩ := List.mem_map.mp hmem
    exact MethodChange.isRecordOf_removed name method
  | modified =>
    rw [methodChanges_eq_groupChanges] at hmem
    exact isRecordOf_of_mem_groupChanges hmem

end IsChangeOf

theorem areBlocks_of_mem_iff {settings : Settings} {base head : Outline} {blocks : List TypeChange}
    (hnames : (blocks.map TypeChange.name).Pairwise BytesLess)
    (hblocks : ∀ block, block ∈ blocks ↔ ∃ name, IsChangeOf settings base head name block) :
    AreBlocks settings base head blocks := by
  have hchanges : ∀ block ∈ blocks, IsChangeOf settings base head block.name block :=
    fun _ => isChangeOf_of_mem hblocks
  constructor
  case names_ascending => exact hnames
  case added_iff =>
    intro name
    constructor
    · rintro ⟨block, hblock, rfl, hadded⟩
      obtain ⟨hbase, type, hhead, -⟩ := (hchanges block hblock).of_added hadded
      exact ⟨NameMap.mem_names_iff.mpr ⟨type, hhead⟩, NameMap.get?_eq_none_iff.mp hbase⟩
    · rintro ⟨hhead, hbase⟩
      obtain ⟨type, htype⟩ := NameMap.mem_names_iff.mp hhead
      have hchange : IsChangeOf settings base head name _ :=
        .added (NameMap.get?_eq_none_iff.mpr hbase) htype
      exact ⟨_, (hblocks _).mpr ⟨name, hchange⟩, rfl, rfl⟩
  case removed_iff =>
    intro name
    constructor
    · rintro ⟨block, hblock, rfl, hremoved⟩
      obtain ⟨hhead, type, hbase, -⟩ := (hchanges block hblock).of_removed hremoved
      exact ⟨NameMap.mem_names_iff.mpr ⟨type, hbase⟩, NameMap.get?_eq_none_iff.mp hhead⟩
    · rintro ⟨hbase, hhead⟩
      obtain ⟨type, htype⟩ := NameMap.mem_names_iff.mp hbase
      have hchange : IsChangeOf settings base head name _ :=
        .removed htype (NameMap.get?_eq_none_iff.mpr hhead)
      exact ⟨_, (hblocks _).mpr ⟨name, hchange⟩, rfl, rfl⟩
  case modified_iff =>
    intro name
    constructor
    · rintro ⟨block, hblock, rfl, hmodified⟩
      obtain ⟨older, newer, hbase, hhead, hreported, -⟩ :=
        (hchanges block hblock).of_modified hmodified
      exact ⟨older, newer, hbase, hhead, hreported⟩
    · rintro ⟨older, newer, hbase, hhead, hreported⟩
      exact ⟨_, (hblocks _).mpr ⟨name, .modified hbase hhead hreported⟩, rfl, rfl⟩
  case before?_eq => exact fun block hblock => (hchanges block hblock).before?_eq
  case after?_eq => exact fun block hblock => (hchanges block hblock).after?_eq
  case added_methods =>
    intro block hblock hadded
    obtain ⟨-, type, hhead, hmethods⟩ := (hchanges block hblock).of_added hadded
    exact ⟨type, _, hhead, areListed settings type, hmethods⟩
  case removed_methods =>
    intro block hblock hremoved
    obtain ⟨-, type, hbase, hmethods⟩ := (hchanges block hblock).of_removed hremoved
    exact ⟨type, _, hbase, areListed settings type, hmethods⟩
  case modified_methods =>
    intro block hblock hmodified
    obtain ⟨older, newer, hbase, hhead, -, hmethods⟩ :=
      (hchanges block hblock).of_modified hmodified
    rw [methodChanges_eq_groupChanges] at hmethods
    exact ⟨older, newer, _, _, _, hbase, hhead, methodGroups settings older.methods newer.methods,
      hmethods⟩
  case methods_nodup => exact fun block hblock => (hchanges block hblock).methods_nodup
  case methods_isRecordOf =>
    exact fun block hblock change hmem => (hchanges block hblock).methods_isRecordOf hmem

/-- A comparison whose skeletons exist reports the blocks that the outlines call for, each as the
record of a type followed by the records of its methods. -/
theorem compareOutlines_eq_ok {settings : Settings} {base head : Outline}
    (hskeletons : SkeletonsExist settings base head) :
    ∃ blocks, AreBlocks settings base head blocks ∧
      compareOutlines settings base head =
        .ok (blocks.flatMap fun block => .ofType block :: block.methods.map .ofMethod) := by
  obtain ⟨blocks, hok, hnames, hblocks⟩ := exists_blocks hskeletons
  exact ⟨blocks, areBlocks_of_mem_iff hnames hblocks, hok⟩

/-- An outline of one class with one method. -/
def counterOutline (text : String) : Outline :=
  ⟨"Counter.java", .ofList [("Counter", ⟨"Counter", "Counter.java", .classType, text, 1, 1, 0,
    .ofList [("next", ⟨"next", "Counter", "next(){}", 1, 1, 16⟩)]⟩)], []⟩

theorem compareOutlines_eq_ok_of_new_field :
    ∃ blocks, AreBlocks ⟨.one, true, true⟩ (counterOutline "class Counter { next(){} }")
        (counterOutline "class Counter { next(){} int last; }") blocks ∧
      blocks.flatMap TypeChange.records = [.ofType (.modified "Counter" [])] := by
  have hskeletons : SkeletonsExist ⟨.one, true, true⟩ (counterOutline "class Counter { next(){} }")
      (counterOutline "class Counter { next(){} int last; }") := by
    intro name older newer hbase hhead _ _
    rw [NameMap.get?_eq_some_iff] at hbase hhead
    obtain ⟨-, rfl⟩ := Prod.mk.inj (List.mem_singleton.mp hbase)
    obtain ⟨-, rfl⟩ := Prod.mk.inj (List.mem_singleton.mp hhead)
    exact ⟨⟨"class Counter {  }", by decide +kernel⟩,
      "class Counter {  int last; }", by decide +kernel⟩
  obtain ⟨blocks, hblocks, hok⟩ := compareOutlines_eq_ok hskeletons
  have hrecords : compareOutlines ⟨.one, true, true⟩ (counterOutline "class Counter { next(){} }")
      (counterOutline "class Counter { next(){} int last; }") =
        .ok [.ofType (.modified "Counter" [])] := by
    decide +kernel
  exact ⟨blocks, hblocks, Except.ok.inj (hok.symm.trans hrecords)⟩

end JavaDiff
