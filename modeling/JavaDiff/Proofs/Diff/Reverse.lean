import JavaDiff.Proofs.Diff.Compare
import JavaDiff.Proofs.Diff.Similarity

/-!
# Comparing in the other direction

The comparison from one outline to another and the one back report the same blocks in the same
order.  What one calls added, the other calls removed.  Within a block the methods that were removed
are now the added ones and come first, those that were added come next, and the modified ones keep
their scores.
-/

namespace JavaDiff

/-- What happened in the other direction. -/
def Change.reverse : Change → Change
  | added => removed
  | removed => added
  | modified => modified

/-- The change of a method in the other direction. -/
def MethodChange.reverse (change : MethodChange) : MethodChange :=
  ⟨change.owner, change.after?, change.before?, change.change.reverse, change.similarity?⟩

@[simp]
theorem MethodChange.reverse_added (owner name : String) :
    (MethodChange.added owner name).reverse = .removed owner name := rfl

@[simp]
theorem MethodChange.reverse_removed (owner name : String) :
    (MethodChange.removed owner name).reverse = .added owner name := rfl

/-- The changes of the methods of a type in the other direction: first those that were removed, then
those that were added, and then the modified ones as they are. -/
def reverseMethods (changes : List MethodChange) : List MethodChange :=
  (changes.filter (·.change = .removed)).map .reverse ++
    (changes.filter (·.change = .added)).map .reverse ++
    changes.filter (·.change = .modified)

/-- The change of a type in the other direction. -/
def TypeChange.reverse (change : TypeChange) : TypeChange :=
  ⟨change.after?, change.before?, change.change.reverse, reverseMethods change.methods⟩

theorem reverseMethods_eq_nil_iff {changes : List MethodChange} :
    reverseMethods changes = [] ↔ changes = [] := by
  cases changes with
  | nil => simp [reverseMethods]
  | cons change changes =>
    cases hchange : change.change <;> simp [reverseMethods, hchange]

theorem filter_change_map {α : Type} {f : α → MethodChange} {change : Change}
    (hchange : ∀ value, (f value).change = change) (kept : Change) (values : List α) :
    (values.map f).filter (·.change = kept) = if change = kept then values.map f else [] := by
  split
  · rename_i hkept
    simp [List.filter_eq_self, hchange, hkept]
  · rename_i hdropped
    simp [List.filter_eq_nil_iff, hchange, hdropped]

theorem reverseMethods_groupChanges (owner : String) (added removed : List String)
    (modified : List (String × Single)) :
    reverseMethods (groupChanges owner added removed modified) =
      groupChanges owner removed added modified := by
  have hadded (kept : Change) := filter_change_map (f := .added owner) (fun _ => rfl) kept added
  have hremoved (kept : Change) :=
    filter_change_map (f := .removed owner) (fun _ => rfl) kept removed
  have hmodified (kept : Change) := filter_change_map
    (f := fun entry => MethodChange.modified owner entry.1 entry.2) (fun _ => rfl) kept modified
  simp only [reverseMethods, groupChanges, List.filter_append, hadded, hremoved, hmodified]
  simp [Function.comp_def]

theorem reverseMethods_map_added (owner : String) (names : List String) :
    reverseMethods (names.map (.added owner)) = names.map (.removed owner) := by
  simpa [groupChanges] using reverseMethods_groupChanges owner names [] []

theorem reverseMethods_map_removed (owner : String) (names : List String) :
    reverseMethods (names.map (.removed owner)) = names.map (.added owner) := by
  simpa [groupChanges] using reverseMethods_groupChanges owner [] names []

theorem isRewritten_comm {threshold : Single} {older newer : Method} :
    IsRewritten threshold older newer ↔ IsRewritten threshold newer older := by
  rw [IsRewritten, IsRewritten, similarity_comm, ne_comm]

/-- The rewritten methods and their scores do not depend on the direction. -/
theorem rewrittenMethods_comm (settings : Settings) (base head : NameMap Method) :
    rewrittenMethods settings.effectiveThreshold head base =
      rewrittenMethods settings.effectiveThreshold base head := by
  apply eq_of_ascending fun first second => BytesLess first.1 second.1
  · exact fun first second hless hmore => List.lt_asymm hless hmore
  · exact List.pairwise_map.mp (pairwise_rewrittenMethods ..)
  · exact List.pairwise_map.mp (pairwise_rewrittenMethods ..)
  · intro (name, score)
    have hswap (base head : NameMap Method)
        (hmem : (name, score) ∈ rewrittenMethods settings.effectiveThreshold head base) :
        (name, score) ∈ rewrittenMethods settings.effectiveThreshold base head := by
      obtain ⟨newer, older, hnewer, holder, hrewritten, rfl⟩ := mem_rewrittenMethods_iff.mp hmem
      exact mem_rewrittenMethods_iff.mpr
        ⟨older, newer, holder, hnewer, isRewritten_comm.mp hrewritten, similarity_comm ..⟩
    exact ⟨hswap base head, hswap head base⟩

theorem methodChanges_reverse (settings : Settings) (owner : String) (base head : NameMap Method) :
    methodChanges settings.effectiveThreshold owner head base =
      reverseMethods (methodChanges settings.effectiveThreshold owner base head) := by
  rw [methodChanges_eq_groupChanges, methodChanges_eq_groupChanges, reverseMethods_groupChanges,
    rewrittenMethods_comm]

theorem DeclaredType.eq_splitCharacter_of_skeleton_eq_error {type : DeclaredType} {error : Error}
    (hskeleton : type.skeleton = .error error) : error = .splitCharacter := by
  unfold skeleton at hskeleton
  dsimp only at hskeleton
  split at hskeleton
  · exact (Except.error.inj hskeleton).symm
  · split at hskeleton
    · cases hskeleton
    · exact (Except.error.inj hskeleton).symm

theorem membersDiffer_comm (base head : DeclaredType) :
    membersDiffer head base = membersDiffer base head := by
  rw [membersDiffer, membersDiffer]
  cases hbase : base.skeleton with
  | error cause =>
    obtain rfl := DeclaredType.eq_splitCharacter_of_skeleton_eq_error hbase
    cases hhead : head.skeleton with
    | error cause =>
      obtain rfl := DeclaredType.eq_splitCharacter_of_skeleton_eq_error hhead
      rfl
    | ok newer => rfl
  | ok older =>
    cases hhead : head.skeleton with
    | error cause => rfl
    | ok newer => exact congrArg Except.ok (bne_comm ..)

theorem membersDiffer_eq_error {base head : DeclaredType} {error : Error}
    (hfailed : membersDiffer base head = .error error) : error = .splitCharacter := by
  rw [membersDiffer] at hfailed
  cases hbase : base.skeleton with
  | error cause =>
    rw [hbase] at hfailed
    obtain rfl : cause = error := Except.error.inj hfailed
    exact DeclaredType.eq_splitCharacter_of_skeleton_eq_error hbase
  | ok older =>
    cases hhead : head.skeleton with
    | error cause =>
      rw [hbase, hhead] at hfailed
      obtain rfl : cause = error := Except.error.inj hfailed
      exact DeclaredType.eq_splitCharacter_of_skeleton_eq_error hhead
    | ok newer =>
      rw [hbase, hhead] at hfailed
      cases hfailed

theorem pairChange?_reverse (settings : Settings) (name : String) (base head : DeclaredType) :
    pairChange? settings name head base =
      (pairChange? settings name base head).map (Option.map TypeChange.reverse) := by
  rw [pairChange?, pairChange?, methodChanges_reverse, membersDiffer_comm]
  generalize methodChanges settings.effectiveThreshold name base.methods head.methods = methods
  by_cases hmethods : methods = []
  · subst hmethods
    cases settings.detectMemberChanges with
    | false => rfl
    | true =>
      cases membersDiffer base head with
      | error error => rfl
      | ok differ => cases differ <;> rfl
  · have hreversed : reverseMethods methods ≠ [] := mt reverseMethods_eq_nil_iff.mp hmethods
    simp only [hmethods, hreversed, ne_eq, not_false_eq_true, if_true]
    rfl

theorem typeChange?_reverse (settings : Settings) (name : String)
    (base? head? : Option DeclaredType) :
    typeChange? settings name head? base? =
      (typeChange? settings name base? head?).map (Option.map TypeChange.reverse) := by
  cases base? with
  | none =>
    cases head? with
    | none => rfl
    | some head =>
      simp [typeChange?, Except.map, TypeChange.reverse, TypeChange.added, TypeChange.removed,
        Change.reverse, reverseMethods_map_added]
  | some base =>
    cases head? with
    | none =>
      simp [typeChange?, Except.map, TypeChange.reverse, TypeChange.added, TypeChange.removed,
        Change.reverse, reverseMethods_map_removed]
    | some head => exact pairChange?_reverse settings name base head

theorem pairChange?_eq_error {settings : Settings} {name : String} {base head : DeclaredType}
    {error : Error} (hfailed : pairChange? settings name base head = .error error) :
    error = .splitCharacter := by
  rcases pairChange?_cases settings name base head with ⟨-, hpair⟩ | ⟨-, -, hpair⟩ | ⟨-, -, hpair⟩ <;>
    rw [hpair] at hfailed
  · cases hfailed
  · cases hfailed
  · cases hmembers : membersDiffer base head with
    | error cause =>
      rw [hmembers] at hfailed
      obtain rfl : cause = error := Except.error.inj hfailed
      exact membersDiffer_eq_error hmembers
    | ok differ =>
      rw [hmembers] at hfailed
      cases hfailed

theorem typeChange?_eq_error {settings : Settings} {name : String}
    {base? head? : Option DeclaredType} {error : Error}
    (hfailed : typeChange? settings name base? head? = .error error) : error = .splitCharacter := by
  cases base? with
  | none => cases head? <;> cases hfailed
  | some base =>
    cases head? with
    | none => cases hfailed
    | some head => exact pairChange?_eq_error hfailed

theorem filterMap_id_map_reverse (changes : List (Option TypeChange)) :
    (changes.map (Option.map TypeChange.reverse)).filterMap id =
      (changes.filterMap id).map TypeChange.reverse := by
  rw [List.filterMap_map, List.map_filterMap]
  rfl

/-- The comparison in the other direction reports the reversed blocks in the same order, or a
skeleton is missing in either direction. -/
theorem compareOutlines_reverse (settings : Settings) (base head : Outline) :
    (∃ blocks : List TypeChange,
      compareOutlines settings base head = .ok (blocks.flatMap TypeChange.records) ∧
      compareOutlines settings head base =
        .ok ((blocks.map TypeChange.reverse).flatMap TypeChange.records)) ∨
    compareOutlines settings base head = .error .splitCharacter ∧
      compareOutlines settings head base = .error .splitCharacter := by
  have hback : (head.types.unionNames base.types).mapM (fun name =>
        typeChange? settings name (head.types.get? name) (base.types.get? name)) =
      ((base.types.unionNames head.types).mapM fun name =>
        typeChange? settings name (base.types.get? name) (head.types.get? name)).map
          (List.map (Option.map TypeChange.reverse)) := by
    simp only [NameMap.unionNames_comm head.types base.types,
      typeChange?_reverse settings _ (base.types.get? _) (head.types.get? _), mapM_map_result]
  rw [compareOutlines, compareOutlines, hback]
  cases hchanges : (base.types.unionNames head.types).mapM fun name =>
      typeChange? settings name (base.types.get? name) (head.types.get? name) with
  | error error =>
    obtain ⟨name, -, hfailed⟩ := exists_of_mapM_eq_error hchanges
    obtain rfl := typeChange?_eq_error hfailed
    exact Or.inr ⟨rfl, rfl⟩
  | ok changes =>
    refine Or.inl ⟨changes.filterMap id, rfl, ?_⟩
    rw [← filterMap_id_map_reverse]
    rfl

end JavaDiff
