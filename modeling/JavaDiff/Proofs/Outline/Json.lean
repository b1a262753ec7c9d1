import JavaDiff.Outline.Json
import JavaDiff.Proofs.Json.Fields
import JavaDiff.Proofs.Json.Reader
import JavaDiff.Proofs.NameMap

/-!
# Outlines read back

An outline is read back from its JSON text in either spacing, whatever characters its texts hold.
Its offsets are words of 64 bits.
-/

namespace JavaDiff

open Json

/-- Whether the offset of a method fits into a word. -/
structure Method.FitsWords (method : Method) : Prop where
  startByte_lt : method.startByte < Nat.pow 2 64

/-- Whether the offsets of a type and its methods fit into words. -/
structure DeclaredType.FitsWords (type : DeclaredType) : Prop where
  startByte_lt : type.startByte < Nat.pow 2 64
  methods_fit : ∀ method ∈ type.methods.values, method.FitsWords

/-- Whether the offsets of an outline fit into words. -/
structure Outline.FitsWords (outline : Outline) : Prop where
  types_fit : ∀ type ∈ outline.types.values, type.FitsWords

namespace NameMap

variable {α : Type} {read? : Json → Option α} {write : α → Json} {map : NameMap α}

theorem ofJson?_toJson (hread : ∀ value ∈ map.values, read? (write value) = some value) :
    ofJson? read? (map.toJson write) = some map := by
  have hentries : (map.toJson write).toEntries? read? = some map.entries := by
    rw [toJson, ofMembers, toEntries?, List.map_map]
    apply mapM_map_write
    intro entry hentry
    simp only [Function.comp_apply, Option.bind_eq_bind, Option.bind_some,
      hread entry.2 (List.mem_map_of_mem hentry)]
    rfl
  rw [ofJson?, hentries, Option.map_some, ofList_entries]

theorem isReadable_toJson (hreadable : ∀ value ∈ map.values, (write value).isReadable = true) :
    (map.toJson write).isReadable = true := by
  rw [toJson, isReadable_ofMembers, List.all_map, List.all_eq_true]
  exact fun entry hentry => hreadable entry.2 (List.mem_map_of_mem hentry)

end NameMap

namespace Method

variable {method : Method}

theorem ofJson?_toJson (hfits : method.FitsWords) : ofJson? method.toJson = some method := by
  rw [ofJson?, toJson]
  refine bind_of_eq_some (fields?_ofMembers_of_names rfl (by decide)) ?_
  refine bind_field rfl (toString?_ofString _) ?_
  refine bind_field rfl (toString?_ofString _) ?_
  refine bind_field rfl (toString?_ofString _) ?_
  refine bind_field rfl (toWord32?_ofWord32 _) ?_
  refine bind_field rfl (toWord32?_ofWord32 _) ?_
  exact bind_field rfl (toWord64?_ofNat hfits.startByte_lt) rfl

theorem isReadable_toJson (hfits : method.FitsWords) : method.toJson.isReadable = true := by
  rw [toJson, isReadable_ofMembers]
  simp only [List.all_cons, List.all_nil, Bool.and_self, isReadable_ofString,
    isReadable_ofWord32, isReadable_ofNat hfits.startByte_lt]

end Method

namespace DeclaredType

variable {type : DeclaredType}

theorem ofKeyword?_keyword (kind : TypeKind) : TypeKind.ofKeyword? kind.keyword = some kind := by
  cases kind <;> rfl

theorem ofJson?_toJson (hfits : type.FitsWords) : ofJson? type.toJson = some type := by
  have hmethods : NameMap.ofJson? Method.ofJson? (type.methods.toJson Method.toJson) =
      some type.methods :=
    NameMap.ofJson?_toJson fun method hmethod =>
      Method.ofJson?_toJson (hfits.methods_fit method hmethod)
  rw [ofJson?, toJson]
  refine bind_of_eq_some (fields?_ofMembers_of_names rfl (by decide)) ?_
  refine bind_field rfl (toString?_ofString _) ?_
  refine bind_field rfl (toString?_ofString _) ?_
  refine bind_field rfl (ofKeyword?_keyword _) ?_
  refine bind_field rfl (toString?_ofString _) ?_
  refine bind_field rfl (toWord32?_ofWord32 _) ?_
  refine bind_field rfl (toWord32?_ofWord32 _) ?_
  refine bind_field rfl (toWord64?_ofNat hfits.startByte_lt) ?_
  exact bind_field rfl hmethods rfl

theorem isReadable_toJson (hfits : type.FitsWords) : type.toJson.isReadable = true := by
  have hmethods : (type.methods.toJson Method.toJson).isReadable = true :=
    NameMap.isReadable_toJson fun method hmethod =>
      Method.isReadable_toJson (hfits.methods_fit method hmethod)
  rw [toJson, isReadable_ofMembers]
  simp only [List.all_cons, List.all_nil, Bool.and_self, isReadable_ofString,
    isReadable_ofWord32, isReadable_ofNat hfits.startByte_lt, hmethods]

end DeclaredType

namespace Issue

theorem ofJson?_toJson (issue : Issue) : ofJson? issue.toJson = some issue := by
  rw [ofJson?, toJson]
  refine bind_of_eq_some (fields?_ofMembers_of_names rfl (by decide)) ?_
  refine bind_field rfl (toWord32?_ofWord32 _) ?_
  exact bind_field rfl (toString?_ofString _) rfl

theorem isReadable_toJson (issue : Issue) : issue.toJson.isReadable = true := by
  rw [toJson, isReadable_ofMembers]
  simp only [List.all_cons, List.all_nil, Bool.and_self, isReadable_ofString, isReadable_ofWord32]

end Issue

namespace Outline

variable {outline : Outline}

theorem ofJson?_toJson (hfits : outline.FitsWords) : ofJson? outline.toJson = some outline := by
  have htypes : NameMap.ofJson? DeclaredType.ofJson? (outline.types.toJson DeclaredType.toJson) =
      some outline.types :=
    NameMap.ofJson?_toJson fun type htype =>
      DeclaredType.ofJson?_toJson (hfits.types_fit type htype)
  have hissues : (array (outline.issues.map Issue.toJson)).toList? Issue.ofJson? =
      some outline.issues :=
    toList?_map fun issue _ => Issue.ofJson?_toJson issue
  rw [ofJson?, toJson]
  refine bind_of_eq_some (fields?_ofMembers_of_names rfl (by decide)) ?_
  refine bind_field rfl (toString?_ofString _) ?_
  refine bind_field rfl htypes ?_
  exact bind_field rfl hissues rfl

theorem isReadable_toJson (hfits : outline.FitsWords) : outline.toJson.isReadable = true := by
  have htypes : (outline.types.toJson DeclaredType.toJson).isReadable = true :=
    NameMap.isReadable_toJson fun type htype =>
      DeclaredType.isReadable_toJson (hfits.types_fit type htype)
  have hissues : (array (outline.issues.map Issue.toJson)).isReadable = true := by
    rw [isReadable_array, List.all_map, List.all_eq_true]
    exact fun issue _ => Issue.isReadable_toJson issue
  rw [toJson, isReadable_ofMembers]
  simp only [List.all_cons, List.all_nil, Bool.and_self, isReadable_ofString, htypes, hissues]

/-- An outline is read back from its JSON text. -/
theorem importText_exportText (hfits : outline.FitsWords) (spacing : Spacing) :
    importText (outline.exportText spacing) = .ok outline := by
  rw [importText, exportText, Json.ofText?_text (isReadable_toJson hfits), Option.bind_some,
    ofJson?_toJson hfits]

end Outline

end JavaDiff
