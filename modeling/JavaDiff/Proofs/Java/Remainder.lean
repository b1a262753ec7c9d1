import JavaDiff.Proofs.Java.Skeleton
import JavaDiff.Proofs.Outline.Deletion

/-!
# Skeletons lose the methods and nothing else

The skeleton of a type of an outline is the text of the type without the spans of its methods.  Each
of these is in the text, starts and ends between characters and overlaps no other, so all of them
are removed.  The skeleton is shorter than the text by the sizes of the methods, and when each
method is put back at its offset, the first one first, the text is there again.
-/

namespace JavaDiff

/-- A text with a piece put in at its offset, which has to lie between two characters. -/
def Piece.insertInto? (piece : Piece) (text : List Char) : Option (List Char) :=
  (Utf8.splitAt? piece.start text).map fun parts => parts.1 ++ piece.text ++ parts.2

namespace Utf8

theorem size_eq_of_perm {left right : List Char} (hperm : left.Perm right) :
    size left = size right := by
  induction hperm with
  | nil => rfl
  | cons character _ ih => rw [size_cons, size_cons, ih]
  | swap first second rest =>
    rw [size_cons, size_cons, size_cons, size_cons]
    omega
  | trans _ _ ihleft ihright => exact ihleft.trans ihright

theorem size_flatMap {α : Type} (list : List α) (f : α → List Char) :
    size (list.flatMap f) = list.foldr (fun value total => size (f value) + total) 0 := by
  induction list with
  | nil => rfl
  | cons first list ih => rw [List.flatMap_cons, size_append, ih, List.foldr_cons]

end Utf8

namespace Leaves

/-- The pieces can be put back one after the other. -/
theorem foldlM_insertInto? {pieces : List Piece} {text kept : List Char} (before : List Char)
    (hleaves : Leaves (Utf8.size before) pieces text kept) :
    pieces.foldlM (fun text piece => piece.insertInto? text) (before ++ kept) =
      some (before ++ text) := by
  induction pieces generalizing before text kept with
  | nil =>
    obtain rfl : text = kept := hleaves
    rfl
  | cons piece pieces ih =>
    obtain ⟨front, back, rest, rfl, rfl, hstart, hback⟩ := hleaves
    have hsplit : Utf8.splitAt? piece.start (before ++ (front ++ rest)) =
        some (before ++ front, rest) :=
      Utf8.splitAt?_eq_some_iff.mpr
        ⟨(List.append_assoc ..).symm, by rw [Utf8.size_append, hstart]⟩
    have hstop : piece.stop = Utf8.size (before ++ front ++ piece.text) := by
      rw [Piece.stop, hstart, Utf8.size_append, Utf8.size_append]
    rw [hstop] at hback
    have hlater := ih (before ++ front ++ piece.text) hback
    rw [List.foldlM_cons, Piece.insertInto?, hsplit, Option.map_some, Option.bind_eq_bind,
      Option.bind_some]
    simpa only [List.append_assoc] using hlater

end Leaves

namespace DeclaredType

/-- What a skeleton is that loses the methods of a type and nothing else: every method starts in the
type, all spans are removed and none is passed over, and with the methods back at their offsets it
is the text. -/
structure LosesMethods (type : DeclaredType) (kept : String) : Prop where
  skeleton_eq : type.skeleton = .ok kept
  startByte_le : ∀ method ∈ type.methods.values, type.startByte ≤ method.startByte
  removesSpans : type.RemovesSpans (type.pieces.map Piece.span) []
  size_add : Utf8.size kept.toList +
      type.methods.values.foldr (fun method total => Utf8.size method.text.toList + total) 0 =
    Utf8.size type.text.toList
  foldlM_eq : type.pieces.foldlM (fun text piece => piece.insertInto? text) kept.toList =
    some type.text.toList

namespace HoldsMethods

variable {type : DeclaredType}

theorem removesSpans (hholds : type.HoldsMethods) :
    type.RemovesSpans (type.pieces.map Piece.span) [] := by
  obtain ⟨kept, hkept, hleaves⟩ := hholds.exists_skeleton
  constructor
  case perm =>
    rw [hholds.filter_methodSpans_eq, hholds.methodSpans_eq, List.append_nil]
    exact type.pieces_perm.symm.map Piece.span
  case apart => exact List.pairwise_map.mpr hholds.pairwise_pieces
  case exists_of_mem_passed => exact fun _ hnil => absurd hnil List.not_mem_nil
  case encode_eq =>
    intro other hother
    obtain rfl := Except.ok.inj (hkept.symm.trans hother)
    exact hleaves.encode_eq
  case error_iff =>
    refine iff_of_false (fun ⟨_, herror⟩ => nomatch hkept.symm.trans herror) ?_
    rintro ⟨span, hspan, hinside⟩
    obtain ⟨piece, hpiece, rfl⟩ := List.mem_map.mp hspan
    obtain ⟨left, right, htext, hstart⟩ := hholds.exists_of_mem_pieces hpiece
    have hboundary : Utf8.IsBoundary type.text.toList piece.start :=
      ⟨left, piece.text ++ right, by rw [htext, List.append_assoc], by omega⟩
    have hstop : Utf8.IsBoundary type.text.toList piece.stop :=
      ⟨left ++ piece.text, right, htext, by rw [Utf8.size_append, Piece.stop]; omega⟩
    exact hinside.elim hboundary.not_insideCharacter hstop.not_insideCharacter

theorem exists_losesMethods (hholds : type.HoldsMethods) : ∃ kept, type.LosesMethods kept := by
  obtain ⟨kept, hkept, hleaves⟩ := hholds.exists_skeleton
  refine ⟨kept, hkept, fun method hmethod => ?_, hholds.removesSpans, ?_, ?_⟩
  · obtain ⟨left, right, -, hstart⟩ := hholds.exists_append_of_mem_values hmethod
    exact hstart ▸ Nat.le_add_right ..
  · rw [Utf8.size_eq_of_perm hleaves.perm, Utf8.size_append,
      Utf8.size_eq_of_perm type.flatMap_pieces_perm, Utf8.size_flatMap]
  · exact hleaves.foldlM_insertInto? []

end HoldsMethods

end DeclaredType

namespace Java

/-- The skeleton of a type of an outline loses the methods of the type and nothing else. -/
theorem exists_losesMethods_of_isOutline {source : String} {result : Outline}
    (houtline : IsOutline source result) {name : String} {type : DeclaredType}
    (htype : result.types.get? name = some type) : ∃ kept, type.LosesMethods kept :=
  (houtline.holdsMethods htype).exists_losesMethods

/-- A source with a method that is dropped for a later one of its name, and methods in an order that
is not that of their names. -/
def overloadSource : String :=
  "/* \u00fc */ class A \x7b m(int \u00e4)\x7b\x7d z()\x7b\x7d m()\x7b\x7d " ++
    "a()\x7b \"\u20ac\"; \x7d \x7d"

/-- The type in that source. -/
def overloadType (filename : String) : DeclaredType where
  name := "A"
  filename
  kind := .classType
  text := "class A \x7b m(int \u00e4)\x7b\x7d z()\x7b\x7d m()\x7b\x7d a()\x7b \"\u20ac\"; \x7d \x7d"
  startLine := 1
  endLine := 1
  startByte := 9
  methods := .ofList [
    ("m", ⟨"m", "A", "m()\x7b\x7d", 1, 1, 37⟩), ("z", ⟨"z", "A", "z()\x7b\x7d", 1, 1, 31⟩),
    ("a", ⟨"a", "A", "a()\x7b \"\u20ac\"; \x7d", 1, 1, 43⟩)]

theorem exists_losesMethods_overloadType : ∃ kept, (overloadType "A.java").LosesMethods kept := by
  have houtline : outline overloadSource =
      .ok ⟨unnamedSource, .ofList [("A", overloadType unnamedSource)], []⟩ := by
    decide +kernel
  have htype : (NameMap.ofList [("A", overloadType "A.java")]).get? "A" =
      some (overloadType "A.java") := rfl
  exact exists_losesMethods_of_isOutline (.named houtline "A.java") htype

end Java

end JavaDiff
