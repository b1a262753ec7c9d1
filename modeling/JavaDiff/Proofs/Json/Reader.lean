import JavaDiff.Json.Reader
import JavaDiff.Proofs.Json.Token

/-!
# Values read back

The reader takes the tokens of a value from the state that expects a value to the state behind it,
whatever arrays and objects are open.  So a readable value is read back from its text in either
spacing.
-/

namespace JavaDiff

namespace Json

namespace Reading

/-- The first token of a value does not end an array, so it also may come first in one. -/
theorem foldlM_firstElement (value : Json) (frames : List Frame) (rest : List JsonToken) :
    (value.tokens ++ rest).foldlM step? ⟨.firstElement, frames⟩ =
      (value.tokens ++ rest).foldlM step? ⟨.value, .array [] :: frames⟩ := by
  match value with
  | null | bool _ | number _ | string _ | array [] | array (_ :: _) | object [] |
    object ((_, _) :: _) => rw [tokens]; rfl

mutual

/-- The tokens of a value lead behind the value. -/
theorem foldlM_tokens (value : Json) (frames : List Frame) :
    value.tokens.foldlM step? ⟨.value, frames⟩ = some ⟨.after value, frames⟩ := by
  match value with
  | null | bool _ | number _ | string _ | array [] | object [] => rw [tokens]; rfl
  | array (element :: elements) =>
    rw [tokens, List.foldlM_cons]
    show (element.tokens ++ (elementTokens elements ++ [JsonToken.closeArray])).foldlM step?
      ⟨.firstElement, frames⟩ = _
    rw [foldlM_firstElement, List.foldlM_append, foldlM_tokens element]
    exact foldlM_elementTokens elements element [] frames
  | object ((key?, value) :: members) =>
    rw [tokens, List.foldlM_cons]
    show (value.tokens ++ (memberTokens members ++ [JsonToken.closeObject])).foldlM step?
      ⟨.value, .object [] key? :: frames⟩ = _
    rw [List.foldlM_append, foldlM_tokens value]
    exact foldlM_memberTokens members key? value [] frames

theorem foldlM_elementTokens (elements : List Json) (value : Json) (done : List Json)
    (frames : List Frame) :
    (elementTokens elements ++ [JsonToken.closeArray]).foldlM step?
        ⟨.after value, .array done :: frames⟩ =
      some ⟨.after (.array (done.reverse ++ value :: elements)), frames⟩ := by
  match elements with
  | [] =>
    show some (Reading.mk (.after (.array (value :: done).reverse)) frames) = _
    rw [List.reverse_cons]
  | element :: elements =>
    rw [elementTokens, List.cons_append, List.foldlM_cons, List.append_assoc]
    show (element.tokens ++ (elementTokens elements ++ [JsonToken.closeArray])).foldlM step?
      ⟨.value, .array (value :: done) :: frames⟩ = _
    rw [List.foldlM_append, foldlM_tokens element]
    refine (foldlM_elementTokens elements element (value :: done) frames).trans ?_
    rw [List.reverse_cons, List.append_assoc, List.singleton_append]

theorem foldlM_memberTokens (members : Members) (key? : Option String) (value : Json)
    (done : Members) (frames : List Frame) :
    (memberTokens members ++ [JsonToken.closeObject]).foldlM step?
        ⟨.after value, .object done key? :: frames⟩ =
      some ⟨.after (.object (done.reverse ++ (key?, value) :: members)), frames⟩ := by
  match members with
  | [] =>
    show some (Reading.mk (.after (.object ((key?, value) :: done).reverse)) frames) = _
    rw [List.reverse_cons]
  | (next?, next) :: members =>
    rw [memberTokens, List.cons_append, List.foldlM_cons, List.cons_append, List.cons_append,
      List.append_assoc]
    show (next.tokens ++ (memberTokens members ++ [JsonToken.closeObject])).foldlM step?
      ⟨.value, .object ((key?, value) :: done) next? :: frames⟩ = _
    rw [List.foldlM_append, foldlM_tokens next]
    refine (foldlM_memberTokens members next? next ((key?, value) :: done) frames).trans ?_
    rw [List.reverse_cons, List.append_assoc, List.singleton_append]

end

end Reading

/-- A readable value is read back from its text. -/
theorem ofText?_text {value : Json} (hreadable : value.isReadable = true) (spacing : Spacing) :
    ofText? (value.text spacing) = some value := by
  have htokens : JsonToken.ofText? (value.write spacing 0) = some value.tokens := by
    have hrest : JsonToken.ofText? [] = some [] := by rw [JsonToken.ofText?]
    have hends : JsonToken.EndsToken [] := fun _ hfirst => absurd hfirst (Option.not_mem_none _)
    have hwrite := ofText?_write spacing 0 value hreadable hends hrest
    rwa [List.append_nil, List.append_nil] at hwrite
  rw [ofText?, text, String.toList_ofList, htokens]
  simp only [Option.bind_eq_bind, Option.bind_some, ofTokens?, Reading.start,
    Reading.foldlM_tokens, Reading.result?]

end Json

end JavaDiff
