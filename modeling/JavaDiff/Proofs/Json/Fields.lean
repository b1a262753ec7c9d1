import JavaDiff.Json.Fields

/-!
# Fields read back

Each way of writing a field is undone by the way of reading it: texts, counts in range, finite
numbers and lists.  So a record is read back field after field.  What is written is readable as a
whole, and its depth is bounded by that of its parts.
-/

namespace JavaDiff

section Numbers

variable {format : BinaryFormat}

/-- Whether the numeral that a number is written as, if there is one, reads back as the number. -/
def Binary.ReadsBack (layout : FloatLayout) (value : Binary format) : Prop :=
  ∀ numeral, value.numeral? layout = some numeral → numeral.toBinary? = some value

theorem Binary.exists_numeral (layout : FloatLayout) {value : Binary format}
    (hfinite : value.isFinite = true) : ∃ numeral, value.numeral? layout = some numeral := by
  cases value with
  | nan => cases hfinite
  | number negative magnitude bounded =>
    rw [numeral?]
    split
    · exact ⟨_, rfl⟩
    · rw [if_pos (of_decide_eq_true hfinite)]
      exact ⟨_, rfl⟩

theorem Numeral.isSome_toBinary? (numeral : Numeral) (other : BinaryFormat) :
    (numeral.toBinary? : Option (Binary format)).isSome =
      (numeral.toBinary? : Option (Binary other)).isSome := by
  unfold toBinary?
  split
  · rfl
  · rw [Option.isSome_map, Option.isSome_map]

end Numbers

namespace Json

/-- A written record has the fields that are known of it. -/
theorem fields?_ofMembers {known : List String} {members : List (String × Json)}
    (hnodup : (members.map Prod.fst).Nodup) :
    (ofMembers members).fields? known = some (members.filter (known.contains ·.1)) := by
  have hnamed : (members.map fun member => (some member.1, member.2)).mapM
      (fun member : Option String × Json => member.1.map (·, member.2)) = some members := by
    induction members with
    | nil => rfl
    | cons member members ih =>
      rw [List.map_cons, List.nodup_cons] at hnodup
      rw [List.map_cons, List.mapM_cons, ih hnodup.2]
      rfl
  have hfields : ((members.filter (known.contains ·.1)).map Prod.fst).Nodup :=
    hnodup.sublist (List.filter_sublist.map Prod.fst)
  rw [ofMembers, fields?, hnamed]
  simp only [Option.bind_eq_bind, Option.bind_some, if_pos hfields]

/-- A record that is written with all of its fields has those fields. -/
theorem fields?_ofMembers_of_names {known : List String} {members : List (String × Json)}
    (hnames : members.map Prod.fst = known) (hnodup : known.Nodup) :
    (ofMembers members).fields? known = some members := by
  subst hnames
  rw [fields?_ofMembers hnodup, List.filter_eq_self.mpr]
  intro member hmember
  exact List.contains_iff_mem.mpr (List.mem_map_of_mem hmember)

theorem toNatBelow?_ofNat {limit value : Nat} (hvalue : value < limit) :
    (ofNat value).toNatBelow? limit = some value := by
  simp [toNatBelow?, ofNat, Numeral.toNat?, Numeral.ofNat, Numeral.isInteger, hvalue]

theorem toWord32?_ofWord32 (value : UInt32) : (ofWord32 value).toWord32? = some value := by
  rw [toWord32?, ofWord32, toNatBelow?_ofNat value.toNat_lt, Option.map_some, UInt32.ofNat_toNat]

theorem toWord64?_ofNat {value : Nat} (hvalue : value < Nat.pow 2 64) :
    (ofNat value).toWord64? = some value :=
  toNatBelow?_ofNat hvalue

theorem toString?_ofString (text : String) : (ofString text).toString? = some text := rfl

theorem toOptionalString?_ofString? (text? : Option String) :
    (ofString? text?).toOptionalString? = some text? := by
  cases text? <;> rfl

theorem mapM_map_write {α β : Type} {read? : β → Option α} {write : α → β} {list : List α}
    (hread : ∀ value ∈ list, read? (write value) = some value) :
    (list.map write).mapM read? = some list := by
  induction list with
  | nil => rfl
  | cons first list ih =>
    obtain ⟨hfirst, hlist⟩ := List.forall_mem_cons.mp hread
    rw [List.map_cons, List.mapM_cons, hfirst, ih hlist]
    rfl

section Lists

variable {α : Type} {read? : Json → Option α} {write : α → Json}

theorem toList?_map {list : List α} (hread : ∀ value ∈ list, read? (write value) = some value) :
    (array (list.map write)).toList? read? = some list :=
  mapM_map_write hread

end Lists

section Reading

variable {α β : Type} {fields : List (String × Json)} {name : String} {value : Json} {record : β}

theorem bind_of_eq_some {read? : Option α} {content : α} {rest : α → Option β}
    (hread : read? = some content) (hrest : rest content = some record) :
    (read? >>= rest) = some record :=
  Option.bind_eq_some_iff.mpr ⟨content, hread, hrest⟩

/-- A record is read field after field. -/
theorem bind_field {read? : Json → Option α} {content : α} {rest : α → Option β}
    (hfield : field? fields name = some value) (hread : read? value = some content)
    (hrest : rest content = some record) :
    (do let value ← field? fields name; rest (← read? value)) = some record :=
  bind_of_eq_some hfield (bind_of_eq_some hread hrest)

theorem bind_optionalField {read? : Json → Option (Option α)} {content : Option α}
    {rest : Option α → Option β} (hfield : field? fields name = some value)
    (hread : read? value = some content) (hrest : rest content = some record) :
    (do rest (← optionalField? read? fields name)) = some record := by
  have hoptional : optionalField? read? fields name = some content := by
    rw [optionalField?, hfield]
    exact hread
  exact bind_of_eq_some hoptional hrest

end Reading

section Numbers

variable {format : BinaryFormat} {layout : FloatLayout} {value : Binary format}

/-- A finite number is written as a numeral, and read back if the numeral is. -/
theorem toBinary?_ofBinary (hfinite : value.isFinite = true) (hreads : value.ReadsBack layout) :
    (ofBinary layout value).toBinary? = some value ∧ (ofBinary layout value).isReadable = true := by
  obtain ⟨numeral, hnumeral⟩ := Binary.exists_numeral layout hfinite
  have hbinary := hreads numeral hnumeral
  rw [ofBinary, hnumeral]
  refine ⟨hbinary, ?_⟩
  rw [isReadable, Numeral.isSome_toBinary? numeral format, hbinary]
  rfl

theorem toOptionalBinary?_of_toBinary? {json : Json} (hvalue : json.toBinary? = some value) :
    json.toOptionalBinary? = some (some value) := by
  cases json with
  | null => cases hvalue
  | number numeral => exact congrArg (Option.map some) hvalue
  | bool _ | string _ | array _ | object _ => cases hvalue

end Numbers

theorem isReadable_array (elements : List Json) :
    (array elements).isReadable = elements.all isReadable := by
  rw [isReadable]
  induction elements with
  | nil => rfl
  | cons element elements ih => rw [elementsAreReadable, ih, List.all_cons]

theorem isReadable_ofMembers (members : List (String × Json)) :
    (ofMembers members).isReadable = members.all (·.2.isReadable) := by
  rw [ofMembers, isReadable]
  induction members with
  | nil => rfl
  | cons member members ih =>
    rw [List.map_cons, membersAreReadable, ih, List.all_cons, Option.isSome_some, Bool.true_and]

theorem isReadable_ofString (text : String) : (ofString text).isReadable = true := rfl

theorem isReadable_ofString? (text? : Option String) : (ofString? text?).isReadable = true := by
  cases text? <;> rfl

theorem isReadable_ofNat {value : Nat} (hvalue : value < Nat.pow 2 64) :
    (ofNat value).isReadable = true := by
  have hword : (Numeral.ofNat value).isWord = true := by
    simp only [Numeral.isWord, Numeral.ofNat, Numeral.isInteger, List.isEmpty_nil,
      Option.isNone_none, Bool.and_self, Bool.true_and, Bool.false_eq_true, if_false]
    exact decide_eq_true hvalue
  rw [ofNat, isReadable, Numeral.toBinary?, if_pos hword]
  rfl

theorem isReadable_ofWord32 (value : UInt32) : (ofWord32 value).isReadable = true :=
  isReadable_ofNat (Nat.lt_trans value.toNat_lt (by decide))

theorem depth_ofString (text : String) : (ofString text).depth = 0 := rfl

theorem depth_ofString? (text? : Option String) : (ofString? text?).depth = 0 := by
  cases text? <;> rfl

theorem depth_array_le {elements : List Json} {bound : Nat}
    (helements : ∀ element ∈ elements, element.depth ≤ bound) :
    (array elements).depth ≤ bound + 1 := by
  rw [depth, Nat.add_le_add_iff_right]
  induction elements with
  | nil => exact Nat.zero_le _
  | cons element elements ih =>
    obtain ⟨hfirst, hrest⟩ := List.forall_mem_cons.mp helements
    exact Nat.max_le.mpr ⟨hfirst, ih hrest⟩

theorem depth_ofMembers_le {members : List (String × Json)} {bound : Nat}
    (hmembers : ∀ member ∈ members, member.2.depth ≤ bound) :
    (ofMembers members).depth ≤ bound + 1 := by
  rw [ofMembers, depth, Nat.add_le_add_iff_right]
  induction members with
  | nil => exact Nat.zero_le _
  | cons member members ih =>
    obtain ⟨hfirst, hrest⟩ := List.forall_mem_cons.mp hmembers
    exact Nat.max_le.mpr ⟨hfirst, ih hrest⟩

end Json

end JavaDiff
