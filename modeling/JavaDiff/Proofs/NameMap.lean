import JavaDiff.NameMap

/-!
# The contents of name maps

A name has a value exactly when the two form an entry, the entries of a map built from a list come
from that list, and the names of two maps together are those of either.  A function on values can be
applied before or after an insertion.  Maps that give each name the same value are the same map, so
a map after a change is known by its values.
-/

namespace JavaDiff

/-- Lists in strictly ascending order with the same members are the same list. -/
theorem eq_of_ascending {α : Type} (less : α → α → Prop) {left right : List α}
    (hasymm : ∀ first second, less first second → ¬ less second first)
    (hleft : left.Pairwise less) (hright : right.Pairwise less)
    (hmem : ∀ value, value ∈ left ↔ value ∈ right) : left = right := by
  have hnodup {list : List α} (hlist : list.Pairwise less) : list.Nodup := by
    apply hlist.imp
    rintro first _ hless rfl
    exact hasymm first first hless hless
  have hperm : left.Perm right :=
    (List.perm_ext_iff_of_nodup (hnodup hleft) (hnodup hright)).mpr hmem
  apply hperm.eq_of_pairwise _ hleft hright
  intro first second _ _ hless hmore
  exact absurd hmore (hasymm first second hless)

namespace NameMap

variable {α β : Type}

theorem eq_of_entries_eq {left right : NameMap α} (hentries : left.entries = right.entries) :
    left = right := by
  cases left
  cases right
  exact (NameMap.mk.injEq ..).mpr hentries

theorem find?_eq_some_iff_mem {entries : List (String × α)} {name : String} {value : α}
    (hascending : (entries.map Prod.fst).Pairwise (· < ·)) :
    entries.find? (·.1 == name) = some (name, value) ↔ (name, value) ∈ entries := by
  induction entries with
  | nil => simp
  | cons entry rest ih =>
    rw [List.map_cons, List.pairwise_cons] at hascending
    by_cases hname : entry.1 = name
    · have hrest : (name, value) ∉ rest := fun hmem =>
        String.lt_irrefl name (hname ▸ hascending.1 name (List.mem_map_of_mem hmem))
      rw [List.find?_cons_of_pos (by simpa using hname), List.mem_cons, or_iff_left hrest,
        Option.some.injEq, eq_comm]
    · have hentry : (name, value) ≠ entry := fun hequal => hname (hequal ▸ rfl)
      rw [List.find?_cons_of_neg (by simpa using hname), ih hascending.2, List.mem_cons,
        or_iff_right hentry]

theorem get?_eq_some_iff {map : NameMap α} {name : String} {value : α} :
    map.get? name = some value ↔ (name, value) ∈ map.entries := by
  rw [← find?_eq_some_iff_mem map.ascending, get?, Option.map_eq_some_iff]
  constructor
  · rintro ⟨entry, hfind, rfl⟩
    have hname : entry.1 = name := by simpa using List.find?_some hfind
    rw [hfind, ← hname]
  · exact fun hfind => ⟨_, hfind, rfl⟩

theorem mem_names_iff {map : NameMap α} {name : String} :
    name ∈ map.names ↔ ∃ value, map.get? name = some value := by
  simp [names, get?_eq_some_iff]

theorem get?_eq_none_iff {map : NameMap α} {name : String} :
    map.get? name = none ↔ name ∉ map.names := by
  rw [mem_names_iff, ← Option.ne_none_iff_exists', Ne, Classical.not_not]

theorem contains_iff {map : NameMap α} {name : String} :
    map.contains name = true ↔ name ∈ map.names := by
  rw [contains, Option.isSome_iff_exists, mem_names_iff]

@[simp]
theorem entries_empty : (empty : NameMap α).entries = [] := rfl

theorem mem_insertEntry {name : String} {value : α} {entries : List (String × α)}
    {entry : String × α} (hentry : entry ∈ insertEntry name value entries) :
    entry = (name, value) ∨ entry ∈ entries := by
  induction entries with
  | nil => exact Or.inl (List.mem_singleton.mp hentry)
  | cons first rest ih =>
    unfold insertEntry at hentry
    split at hentry
    · exact List.mem_cons.mp hentry
    · split at hentry
      · rcases List.mem_cons.mp hentry with rfl | hentry
        · exact Or.inr List.mem_cons_self
        · exact (ih hentry).imp_right (List.mem_cons_of_mem first)
      · exact (List.mem_cons.mp hentry).imp_right (List.mem_cons_of_mem first)

theorem mem_of_mem_ofList {entries : List (String × α)} {entry : String × α}
    (hentry : entry ∈ (ofList entries).entries) : entry ∈ entries := by
  have hfold (remaining : List (String × α)) (map : NameMap α) :
      entry ∈ (remaining.foldl (fun map entry => map.insert entry.1 entry.2) map).entries →
        entry ∈ map.entries ∨ entry ∈ remaining := by
    induction remaining generalizing map with
    | nil => exact Or.inl
    | cons first remaining ih =>
      intro hmem
      rcases ih _ hmem with hmap | hremaining
      · rcases mem_insertEntry hmap with rfl | hmap
        · exact Or.inr List.mem_cons_self
        · exact Or.inl hmap
      · exact Or.inr (List.mem_cons_of_mem first hremaining)
  simpa using hfold entries empty hentry

theorem insertEntry_of_forall_lt {name : String} {value : α} {entries : List (String × α)}
    (hless : ∀ entry ∈ entries, entry.1 < name) :
    insertEntry name value entries = entries ++ [(name, value)] := by
  induction entries with
  | nil => rfl
  | cons entry rest ih =>
    obtain ⟨hentry, hrest⟩ := List.forall_mem_cons.mp hless
    have hafter : ¬ name < entry.1 := fun hbefore =>
      String.lt_irrefl _ (String.lt_trans hbefore hentry)
    rw [insertEntry, if_neg hafter, if_pos hentry, ih hrest, List.cons_append]

theorem ofList_entries (map : NameMap α) : ofList map.entries = map := by
  have hfold (front back : List (String × α)) (start : NameMap α) (hstart : start.entries = front)
      (hascending : ((front ++ back).map Prod.fst).Pairwise (· < ·)) :
      (back.foldl (fun map entry => map.insert entry.1 entry.2) start).entries = front ++ back := by
    induction back generalizing front start with
    | nil => rw [List.foldl_nil, hstart, List.append_nil]
    | cons entry back ih =>
      rw [List.append_cons] at hascending ⊢
      apply ih _ _ _ hascending
      show insertEntry entry.1 entry.2 start.entries = front ++ [entry]
      rw [hstart]
      apply insertEntry_of_forall_lt
      intro earlier hearlier
      rw [List.map_append, List.map_append] at hascending
      have hfront := (List.pairwise_append.mp hascending).1
      exact (List.pairwise_append.mp hfront).2.2 _ (List.mem_map_of_mem hearlier) _
        (List.mem_singleton_self _)
  exact eq_of_entries_eq (hfold [] map.entries empty rfl map.ascending)

theorem mem_names_insert {map : NameMap α} {name other : String} {value : α} :
    other ∈ (map.insert name value).names ↔ other = name ∨ other ∈ map.names :=
  mem_names_insertEntry

@[simp]
theorem names_mapValues (map : NameMap α) (f : α → β) : (map.mapValues f).names = map.names := by
  simp [names, mapValues]

@[simp]
theorem get?_mapValues (map : NameMap α) (f : α → β) (name : String) :
    (map.mapValues f).get? name = (map.get? name).map f := by
  simp [get?, mapValues, List.find?_map, Function.comp_def]

theorem insertEntry_map (f : α → β) (name : String) (value : α) (entries : List (String × α)) :
    insertEntry name (f value) (entries.map fun entry => (entry.1, f entry.2)) =
      (insertEntry name value entries).map fun entry => (entry.1, f entry.2) := by
  induction entries with
  | nil => rfl
  | cons entry rest ih =>
    simp only [List.map_cons, insertEntry]
    split
    · rfl
    · split
      · rw [ih, List.map_cons]
      · rfl

/-- A function on values can be applied before or after an insertion. -/
theorem mapValues_insert (map : NameMap α) (f : α → β) (name : String) (value : α) :
    (map.insert name value).mapValues f = (map.mapValues f).insert name (f value) :=
  eq_of_entries_eq (insertEntry_map f name value map.entries).symm

theorem mapValues_ofList (f : α → β) (entries : List (String × α)) :
    (ofList entries).mapValues f = ofList (entries.map fun entry => (entry.1, f entry.2)) := by
  have hfold (map : NameMap α) :
      (entries.foldl (fun map entry => map.insert entry.1 entry.2) map).mapValues f =
        (entries.map fun entry => (entry.1, f entry.2)).foldl
          (fun map entry => map.insert entry.1 entry.2) (map.mapValues f) := by
    induction entries generalizing map with
    | nil => rfl
    | cons entry rest ih =>
      rw [List.foldl_cons, ih, mapValues_insert, List.map_cons, List.foldl_cons]
  exact hfold empty

theorem mem_names_foldl_insert {map : NameMap Unit} {added : List String} {name : String} :
    name ∈ (added.foldl (fun union name => union.insert name ()) map).names ↔
      name ∈ map.names ∨ name ∈ added := by
  induction added generalizing map with
  | nil => simp
  | cons first added ih =>
    rw [List.foldl_cons, ih, mem_names_insert, List.mem_cons, or_comm (a := name = first), or_assoc]

theorem mem_unionNames {left : NameMap α} {right : NameMap β} {name : String} :
    name ∈ left.unionNames right ↔ name ∈ left.names ∨ name ∈ right.names := by
  rw [unionNames, mem_names_foldl_insert, names_mapValues]

theorem pairwise_names (map : NameMap α) : map.names.Pairwise (· < ·) := map.ascending

/-- Maps that give each name the same value are the same map. -/
theorem eq_of_get?_eq {left right : NameMap α} (hget : ∀ name, left.get? name = right.get? name) :
    left = right := by
  apply eq_of_entries_eq
  apply eq_of_ascending fun first second => first.1 < second.1
  · exact fun first second hless hmore => String.lt_irrefl _ (String.lt_trans hless hmore)
  · exact List.pairwise_map.mp left.ascending
  · exact List.pairwise_map.mp right.ascending
  · intro entry
    rw [← get?_eq_some_iff, ← get?_eq_some_iff, hget]

theorem names_eq_of_mem_iff {left : NameMap α} {right : NameMap β}
    (hmem : ∀ name, name ∈ left.names ↔ name ∈ right.names) : left.names = right.names :=
  eq_of_ascending (· < ·) (fun _ _ hless hmore => String.lt_irrefl _ (String.lt_trans hless hmore))
    left.pairwise_names right.pairwise_names hmem

theorem values_mapValues (map : NameMap α) (f : α → β) :
    (map.mapValues f).values = map.values.map f := by
  simp [values, mapValues]

/-- Maps with the same names are the same in a view in which their values agree. -/
theorem mapValues_eq_mapValues {γ : Type} {left : NameMap α} {right : NameMap β} {f : α → γ}
    {g : β → γ} (hnames : left.names = right.names)
    (hvalues : ∀ name first second, left.get? name = some first → right.get? name = some second →
      f first = g second) : left.mapValues f = right.mapValues g := by
  apply eq_of_get?_eq
  intro name
  rw [get?_mapValues, get?_mapValues]
  cases hfirst : left.get? name with
  | none =>
    rw [get?_eq_none_iff, hnames, ← get?_eq_none_iff] at hfirst
    rw [hfirst, Option.map_none, Option.map_none]
  | some first =>
    have hmem : name ∈ left.names := mem_names_iff.mpr ⟨first, hfirst⟩
    rw [hnames, mem_names_iff] at hmem
    obtain ⟨second, hsecond⟩ := hmem
    rw [hsecond, Option.map_some, Option.map_some, hvalues name first second hfirst hsecond]

theorem pairwise_unionNames (left : NameMap α) (right : NameMap β) :
    (left.unionNames right).Pairwise (· < ·) :=
  pairwise_names _

theorem unionNames_comm (left : NameMap α) (right : NameMap β) :
    left.unionNames right = right.unionNames left := by
  apply names_eq_of_mem_iff
  intro name
  exact mem_unionNames.trans (or_comm.trans mem_unionNames.symm)

theorem length_names (map : NameMap α) : map.names.length = map.size := List.length_map ..

theorem nodup_names (map : NameMap α) : map.names.Nodup := by
  apply map.pairwise_names.imp
  rintro name _ hless rfl
  exact String.lt_irrefl name hless

theorem size_insert_of_mem {map : NameMap α} {name : String} (value : α)
    (hname : name ∈ map.names) : (map.insert name value).size = map.size := by
  have hnames : (map.insert name value).names = map.names := by
    apply names_eq_of_mem_iff
    intro other
    rw [mem_names_insert, or_iff_right_of_imp]
    rintro rfl
    exact hname
  rw [← length_names, hnames, length_names]

theorem size_insert_of_notMem {map : NameMap α} {name : String} (value : α)
    (hname : name ∉ map.names) : (map.insert name value).size = map.size + 1 := by
  have hnames : (map.insert name value).names.Perm (name :: map.names) := by
    have hnew : (name :: map.names).Nodup := List.nodup_cons.mpr ⟨hname, nodup_names map⟩
    apply (List.perm_ext_iff_of_nodup (nodup_names _) hnew).mpr
    intro other
    rw [mem_names_insert, List.mem_cons]
  rw [← length_names, hnames.length_eq, List.length_cons, length_names]

/-- The map without a name. -/
def erase (map : NameMap α) (name : String) : NameMap α :=
  ⟨map.entries.filter (·.1 ≠ name), map.ascending.sublist (List.filter_sublist.map Prod.fst)⟩

@[simp]
theorem get?_erase_self (map : NameMap α) (name : String) : (map.erase name).get? name = none := by
  rw [get?_eq_none_iff]
  intro hname
  obtain ⟨entry, hentry, rfl⟩ := List.mem_map.mp hname
  simpa using (List.mem_filter.mp hentry).2

theorem get?_erase_of_ne (map : NameMap α) {name other : String} (hother : other ≠ name) :
    (map.erase name).get? other = map.get? other := by
  apply Option.ext
  intro value
  rw [get?_eq_some_iff, get?_eq_some_iff, erase, List.mem_filter, and_iff_left]
  simpa using hother

theorem mem_names_erase {map : NameMap α} {name other : String} :
    other ∈ (map.erase name).names ↔ other ∈ map.names ∧ other ≠ name := by
  by_cases hother : other = name
  · subst hother
    simp [mem_names_iff]
  · simp [mem_names_iff, get?_erase_of_ne map hother, hother]

@[simp]
theorem insert_insert (map : NameMap α) (name : String) (first second : α) :
    (map.insert name first).insert name second = map.insert name second := by
  apply eq_of_get?_eq
  intro other
  by_cases hother : other = name
  · subst hother
    rw [get?_insert_self, get?_insert_self]
  · rw [get?_insert_of_ne _ _ hother, get?_insert_of_ne _ _ hother, get?_insert_of_ne _ _ hother]

theorem insert_eq_self {map : NameMap α} {name : String} {value : α}
    (hvalue : map.get? name = some value) : map.insert name value = map := by
  apply eq_of_get?_eq
  intro other
  by_cases hother : other = name
  · subst hother
    rw [get?_insert_self, hvalue]
  · exact get?_insert_of_ne _ _ hother

theorem eq_of_mem_names_iff {left right : NameMap Unit}
    (hnames : ∀ name, name ∈ left.names ↔ name ∈ right.names) : left = right := by
  apply eq_of_get?_eq
  intro name
  apply Option.ext
  intro value
  have hvalue (map : NameMap Unit) : map.get? name = some value ↔ name ∈ map.names :=
    ⟨fun hsome => mem_names_iff.mpr ⟨value, hsome⟩, fun hmem => (mem_names_iff.mp hmem).choose_spec⟩
  rw [hvalue, hvalue, hnames]

theorem mem_names_foldl_erase {map : NameMap Unit} {removed : List String} {name : String} :
    name ∈ (removed.foldl erase map).names ↔ name ∈ map.names ∧ name ∉ removed := by
  induction removed generalizing map with
  | nil => simp
  | cons first removed ih =>
    rw [List.foldl_cons, ih, mem_names_erase, List.mem_cons, not_or, and_assoc]

end NameMap

end JavaDiff
