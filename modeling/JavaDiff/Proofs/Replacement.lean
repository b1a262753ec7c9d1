import Mathlib.Data.List.Basic
import Mathlib.Data.List.Induction

/-!
# Values that replace earlier ones

When the values of a list are stored under their names one after the other, the last value of each
name stays, and a value whose name occurred before replaces the one stored then.  Each value but the
last of its name is replaced exactly once.
-/

namespace JavaDiff

variable {α β : Type} {name : α → String}

/-- The last value of a list with a name. -/
def lastNamed? (name : α → String) (key : String) (list : List α) : Option α :=
  (list.filter (name · == key)).getLast?

/-- Each value of a list whose name occurred before, behind the value that it replaces: the last one
of that name in front of it. -/
def replacements (name : α → String) (list : List α) : List (α × α) :=
  list.zipIdx.filterMap fun (later, index) =>
    (lastNamed? name (name later) (list.take index)).map (·, later)

theorem lastNamed?_append_singleton (key : String) (list : List α) (last : α) :
    lastNamed? name key (list ++ [last]) =
      if name last = key then some last else lastNamed? name key list := by
  unfold lastNamed?
  rw [List.filter_append]
  split
  · simp [*]
  · simp [*]

theorem lastNamed?_eq_some {key : String} {list : List α} {value : α}
    (hvalue : lastNamed? name key list = some value) : value ∈ list ∧ name value = key := by
  have hmem := List.mem_filter.mp (List.mem_of_getLast? hvalue)
  exact ⟨hmem.1, by simpa using hmem.2⟩

theorem lastNamed?_map (f : β → α) (key : String) (list : List β) :
    lastNamed? name key (list.map f) = (lastNamed? (name ∘ f) key list).map f := by
  rw [lastNamed?, lastNamed?, List.filter_map, List.getLast?_map]
  rfl

@[simp]
theorem replacements_nil : replacements name ([] : List α) = [] := rfl

/-- A further value replaces the last one of its name. -/
theorem replacements_append_singleton (list : List α) (last : α) :
    replacements name (list ++ [last]) =
      replacements name list ++ ((lastNamed? name (name last) list).map (·, last)).toList := by
  unfold replacements
  rw [List.zipIdx_append, List.filterMap_append]
  congr 1
  · refine List.filterMap_congr fun ⟨later, index⟩ hentry => ?_
    have hindex := (List.mem_zipIdx hentry).2.1
    have htake : (list ++ [last]).take index = list.take index :=
      List.take_append_of_le_length (by omega)
    simp only [htake]
  · cases hlast : lastNamed? name (name last) list <;> simp [hlast]

theorem replacements_map (f : β → α) (list : List β) :
    replacements name (list.map f) =
      (replacements (name ∘ f) list).map fun pair => (f pair.1, f pair.2) := by
  induction list using List.reverseRecOn with
  | nil => rfl
  | append_singleton list last ih =>
    rw [List.map_append, List.map_singleton, replacements_append_singleton, ih, lastNamed?_map,
      replacements_append_singleton, List.map_append]
    cases hlast : lastNamed? (name ∘ f) (name (f last)) list <;> simp [hlast]

/-- A value is replaced when it is not the last of its name. -/
theorem mem_map_fst_replacements {list : List α} (hnodup : list.Nodup) {value : α} :
    value ∈ (replacements name list).map Prod.fst ↔
      value ∈ list ∧ lastNamed? name (name value) list ≠ some value := by
  induction list using List.reverseRecOn with
  | nil => simp
  | append_singleton list last ih =>
    obtain ⟨hlist, -, hlast⟩ := List.nodup_append.mp hnodup
    have hnew : last ∉ list := fun hmem => hlast last hmem last (List.mem_singleton_self _) rfl
    have hadded : value ∈ ((lastNamed? name (name last) list).map (·, last)).toList.map Prod.fst ↔
        lastNamed? name (name last) list = some value := by
      cases lastNamed? name (name last) list <;> simp [eq_comm]
    rw [replacements_append_singleton, List.map_append, List.mem_append, ih hlist, hadded,
      lastNamed?_append_singleton, List.mem_append, List.mem_singleton]
    by_cases hvalue : value = last
    · subst hvalue
      have hnone : lastNamed? name (name value) list ≠ some value := fun hsome =>
        hnew (lastNamed?_eq_some hsome).1
      simp [hnew, hnone]
    · by_cases hname : name last = name value
      · have hlater : some last ≠ some value := fun hsome => hvalue (Option.some.inj hsome).symm
        have hmem : lastNamed? name (name value) list = some value → value ∈ list := fun hsome =>
          (lastNamed?_eq_some hsome).1
        rw [if_pos hname, hname, or_iff_left hvalue]
        tauto
      · have hother : lastNamed? name (name last) list ≠ some value := fun hsome =>
          hname (lastNamed?_eq_some hsome).2.symm
        rw [if_neg hname, or_iff_left hvalue, or_iff_left hother]

theorem nodup_map_fst_replacements {list : List α} (hnodup : list.Nodup) :
    ((replacements name list).map Prod.fst).Nodup := by
  induction list using List.reverseRecOn with
  | nil => simp
  | append_singleton list last ih =>
    have hlist := (List.nodup_append.mp hnodup).1
    rw [replacements_append_singleton, List.map_append]
    cases hlast : lastNamed? name (name last) list with
    | none => simpa using ih hlist
    | some earlier =>
      have hname := (lastNamed?_eq_some hlast).2
      have hkept : earlier ∉ (replacements name list).map Prod.fst := by
        rw [mem_map_fst_replacements hlist, hname]
        exact fun hreplaced => hreplaced.2 hlast
      refine List.nodup_append.mpr ⟨ih hlist, by simp, ?_⟩
      rintro value hvalue other hother rfl
      obtain rfl := List.mem_singleton.mp hother
      exact hkept hvalue

/-- Every value but the last of each name is replaced once. -/
theorem map_fst_replacements_perm [DecidableEq α] {list : List α} (hnodup : list.Nodup) :
    ((replacements name list).map Prod.fst).Perm
      (list.filter fun value => lastNamed? name (name value) list ≠ some value) := by
  apply (List.perm_ext_iff_of_nodup (nodup_map_fst_replacements hnodup) (hnodup.filter _)).mpr
  intro value
  rw [mem_map_fst_replacements hnodup, List.mem_filter, decide_eq_true_iff]

end JavaDiff
