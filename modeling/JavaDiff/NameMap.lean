/-!
# Maps keyed by name

A name map holds at most one value for each name and lists its entries in ascending order of names,
that is by code point.  Two maps with the same entries are equal.
-/

namespace JavaDiff

/-- A finite map from names to values. -/
structure NameMap (α : Type) where
  /-- The entries of the map. -/
  entries : List (String × α)
  /-- The names ascend strictly, so none occurs twice. -/
  ascending : (entries.map Prod.fst).Pairwise (· < ·)
deriving DecidableEq

namespace NameMap

variable {α β : Type}

/-- The map without entries. -/
def empty : NameMap α := ⟨[], List.Pairwise.nil⟩

instance : Inhabited (NameMap α) := ⟨empty⟩

/-- The entries after a name has been given a value. -/
def insertEntry (name : String) (value : α) : List (String × α) → List (String × α)
  | [] => [(name, value)]
  | entry :: rest =>
    if name < entry.1 then (name, value) :: entry :: rest
    else if entry.1 < name then entry :: insertEntry name value rest
    else (name, value) :: rest

theorem mem_names_insertEntry {name other : String} {value : α} {entries : List (String × α)} :
    other ∈ (insertEntry name value entries).map Prod.fst ↔
      other = name ∨ other ∈ entries.map Prod.fst := by
  induction entries with
  | nil => simp [insertEntry]
  | cons entry rest ih =>
    simp only [insertEntry]
    split
    · simp
    · split
      · rw [List.map_cons, List.mem_cons, ih, List.map_cons, List.mem_cons]
        exact or_left_comm
      · rename_i hbefore hafter
        have hequal : entry.1 = name :=
          String.le_antisymm (String.not_lt.mp hbefore) (String.not_lt.mp hafter)
        simp [hequal]

theorem ascending_insertEntry (name : String) (value : α) {entries : List (String × α)}
    (hentries : (entries.map Prod.fst).Pairwise (· < ·)) :
    ((insertEntry name value entries).map Prod.fst).Pairwise (· < ·) := by
  induction entries with
  | nil => simp [insertEntry]
  | cons entry rest ih =>
    rw [List.map_cons, List.pairwise_cons] at hentries
    obtain ⟨hfirst, hrest⟩ := hentries
    simp only [insertEntry]
    split
    · rename_i hbefore
      rw [List.map_cons, List.map_cons, List.pairwise_cons, List.pairwise_cons]
      refine ⟨fun other hother => ?_, hfirst, hrest⟩
      rcases List.mem_cons.mp hother with rfl | hother
      · exact hbefore
      · exact String.lt_trans hbefore (hfirst other hother)
    · split
      · rename_i hafter
        rw [List.map_cons, List.pairwise_cons]
        refine ⟨fun other hother => ?_, ih hrest⟩
        rcases mem_names_insertEntry.mp hother with rfl | hother
        · exact hafter
        · exact hfirst other hother
      · rename_i hbefore hafter
        have hequal : entry.1 = name :=
          String.le_antisymm (String.not_lt.mp hbefore) (String.not_lt.mp hafter)
        rw [List.map_cons, List.pairwise_cons]
        exact ⟨by simpa [← hequal] using hfirst, hrest⟩

/-- The map with a value for a name, in place of any earlier one. -/
def insert (map : NameMap α) (name : String) (value : α) : NameMap α :=
  ⟨insertEntry name value map.entries, ascending_insertEntry name value map.ascending⟩

/-- The map of some entries, of which the last for a name counts. -/
def ofList (entries : List (String × α)) : NameMap α :=
  entries.foldl (fun map entry => map.insert entry.1 entry.2) empty

/-- The value of a name. -/
def get? (map : NameMap α) (name : String) : Option α :=
  (map.entries.find? (·.1 == name)).map Prod.snd

/-- Whether a name has a value. -/
def contains (map : NameMap α) (name : String) : Bool := (map.get? name).isSome

/-- The names in ascending order. -/
def names (map : NameMap α) : List String := map.entries.map Prod.fst

/-- The values in ascending order of their names. -/
def values (map : NameMap α) : List α := map.entries.map Prod.snd

/-- The number of entries. -/
def size (map : NameMap α) : Nat := map.entries.length

/-- The map with a function applied to each value. -/
def mapValues (map : NameMap α) (f : α → β) : NameMap β :=
  ⟨map.entries.map fun entry => (entry.1, f entry.2), by
    simpa [Function.comp_def] using map.ascending⟩

theorem find?_insertEntry_self (name : String) (value : α) (entries : List (String × α)) :
    (insertEntry name value entries).find? (·.1 == name) = some (name, value) := by
  induction entries with
  | nil => simp [insertEntry]
  | cons entry rest ih =>
    simp only [insertEntry]
    split
    · simp
    · split
      · rename_i hafter
        have hother : entry.1 ≠ name := fun hequal => String.lt_irrefl name (hequal ▸ hafter)
        simp [hother, ih]
      · simp

theorem find?_insertEntry_of_ne {name other : String} (value : α) (hother : other ≠ name)
    (entries : List (String × α)) :
    (insertEntry name value entries).find? (·.1 == other) = entries.find? (·.1 == other) := by
  have hname : ¬ name = other := fun hequal => hother hequal.symm
  induction entries with
  | nil => simp [insertEntry, hname]
  | cons entry rest ih =>
    simp only [insertEntry]
    split
    · simp [hname]
    · split
      · simp only [List.find?_cons, ih]
      · rename_i hbefore hafter
        have hequal : entry.1 = name :=
          String.le_antisymm (String.not_lt.mp hbefore) (String.not_lt.mp hafter)
        simp [hname, hequal]

@[simp]
theorem get?_insert_self (map : NameMap α) (name : String) (value : α) :
    (map.insert name value).get? name = some value := by
  simp [get?, insert, find?_insertEntry_self]

theorem get?_insert_of_ne (map : NameMap α) {name other : String} (value : α)
    (hother : other ≠ name) : (map.insert name value).get? other = map.get? other := by
  simp [get?, insert, find?_insertEntry_of_ne value hother]

/-- The names that occur in either of two maps, in ascending order. -/
def unionNames (left : NameMap α) (right : NameMap β) : List String :=
  (right.names.foldl (fun union name => union.insert name ()) (left.mapValues fun _ => ())).names

end NameMap

end JavaDiff
