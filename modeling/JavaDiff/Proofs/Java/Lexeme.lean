import JavaDiff.Proofs.Java.Mask
import Mathlib.Data.List.Induction
import Mathlib.Data.Nat.Find

/-!
# Lexemes

Java source divides from left to right into lexemes: comments, literals and single bytes of code.  A
comment or literal starts where its opener stands in code and ends at the first place that can end
it, or with the source.  In a literal a backslash escapes the byte behind it, and no escaped byte
ends anything.  An unterminated string or character literal ends in front of the line feed.

There is one division of a source into lexemes, and the masked source joins the images of its
lexemes.
-/

namespace JavaDiff

namespace Java

open Ascii

/-- What encloses bytes that are not code. -/
inductive Enclosure where
  /-- A comment up to the end of the line. -/
  | lineComment
  /-- A comment up to its closing mark. -/
  | blockComment
  /-- A literal between three double quotes. -/
  | textBlock
  /-- A literal between double quotes. -/
  | string
  /-- A literal between single quotes. -/
  | character
deriving DecidableEq, Repr

namespace Enclosure

/-- Every enclosure, in the order in which they are looked for. -/
def all : List Enclosure := [lineComment, blockComment, textBlock, string, character]

/-- The bytes that start an enclosure. -/
def opener : Enclosure → List UInt8
  | lineComment => [slash, slash]
  | blockComment => [slash, star]
  | textBlock => [quote, quote, quote]
  | string => [quote]
  | character => [apostrophe]

/-- The bytes that end a terminated enclosure and belong to it. -/
def closer : Enclosure → List UInt8
  | lineComment => []
  | blockComment => [star, slash]
  | textBlock => [quote, quote, quote]
  | string => [quote]
  | character => [apostrophe]

/-- Whether an enclosure is a literal, which keeps its quotes and has escapes. -/
def isLiteral : Enclosure → Bool
  | lineComment | blockComment => false
  | textBlock | string | character => true

/-- Whether an enclosure cannot reach into the next line. -/
def isOneLine : Enclosure → Bool
  | lineComment | string | character => true
  | blockComment | textBlock => false

/-- The enclosure that starts with a text, if any. -/
def at? (text : List UInt8) : Option Enclosure := all.find? (·.opener.isPrefixOf text)

/-- Whether an enclosure can end in front of a text: its closer stands there, or a line feed. -/
def CanEnd (enclosure : Enclosure) (rest : List UInt8) : Prop :=
  (enclosure.closer ≠ [] ∧ enclosure.closer <+: rest) ∨
    (enclosure.isOneLine = true ∧ [newline] <+: rest)

/-- Whether no escape is open behind some bytes: each backslash has the byte that it escapes. -/
inductive IsWhole : List UInt8 → Prop
  | nil : IsWhole []
  | byte {byte : UInt8} {rest : List UInt8} : byte ≠ backslash → IsWhole rest →
      IsWhole (byte :: rest)
  | escape {byte : UInt8} {rest : List UInt8} : IsWhole rest → IsWhole (backslash :: byte :: rest)

/-- Whether an enclosure can end between two texts, where the first is all of its body so far. -/
def EndsBetween (enclosure : Enclosure) (body rest : List UInt8) : Prop :=
  (enclosure.isLiteral = true → IsWhole body) ∧ enclosure.CanEnd rest

/-- Whether a body reaches to the first place at which the enclosure can end, or to the end of the
source. -/
structure IsBody (enclosure : Enclosure) (body rest : List UInt8) : Prop where
  ends : rest = [] ∨ enclosure.EndsBetween body rest
  not_earlier : ∀ front back, body = front ++ back → back ≠ [] →
    ¬ enclosure.EndsBetween front (back ++ rest)

/-- The closer of an enclosure whose body is followed by a text.  There is none when the enclosure
is not terminated. -/
def closerIn (enclosure : Enclosure) (rest : List UInt8) : List UInt8 :=
  if enclosure.closer.isPrefixOf rest then enclosure.closer else []

end Enclosure

/-- A part of Java source. -/
inductive Lexeme where
  /-- A byte of code. -/
  | code (byte : UInt8)
  /-- A comment or literal, with its body and the closer that it has. -/
  | enclosed (enclosure : Enclosure) (body closer : List UInt8)
deriving DecidableEq, Repr

namespace Lexeme

/-- The bytes of a lexeme. -/
def bytes : Lexeme → List UInt8
  | code byte => [byte]
  | enclosed enclosure body closer => enclosure.opener ++ body ++ closer

/-- The image of a lexeme in masked source.  Code and the quotes of literals stay.  Of all else only
the line feeds stay, and a space takes the place of each other byte. -/
def masked : Lexeme → List UInt8
  | code byte => [byte]
  | enclosed enclosure body closer =>
    enclosure.opener.map (image enclosure.isLiteral) ++ body.map (image false) ++
      closer.map (image enclosure.isLiteral)

end Lexeme

/-- The division of a text into lexemes. -/
inductive Lexes : List UInt8 → List Lexeme → Prop
  | nil : Lexes [] []
  | code {byte : UInt8} {rest : List UInt8} {lexemes : List Lexeme}
      (hcode : Enclosure.at? (byte :: rest) = none) (hrest : Lexes rest lexemes) :
      Lexes (byte :: rest) (.code byte :: lexemes)
  | enclosed {enclosure : Enclosure} {body closer rest : List UInt8} {lexemes : List Lexeme}
      (hopener : Enclosure.at? (enclosure.opener ++ (body ++ (closer ++ rest))) = some enclosure)
      (hbody : enclosure.IsBody body (closer ++ rest))
      (hcloser : closer = enclosure.closerIn (closer ++ rest)) (hrest : Lexes rest lexemes) :
      Lexes (enclosure.opener ++ (body ++ (closer ++ rest)))
        (.enclosed enclosure body closer :: lexemes)

namespace Enclosure

variable {enclosure : Enclosure} {body rest : List UInt8}

theorem isWhole_cons_iff {byte : UInt8} {front : List UInt8} (hbyte : byte ≠ backslash) :
    IsWhole (byte :: front) ↔ IsWhole front := by
  constructor
  · intro hwhole
    cases hwhole with
    | byte _ hfront => exact hfront
    | escape _ => exact absurd rfl hbyte
  · exact .byte hbyte

theorem isWhole_escape_iff {byte : UInt8} {front : List UInt8} :
    IsWhole (backslash :: byte :: front) ↔ IsWhole front := by
  constructor
  · intro hwhole
    cases hwhole with
    | byte hbyte _ => exact absurd rfl hbyte
    | escape hfront => exact hfront
  · exact .escape

theorem not_isWhole_backslash : ¬ IsWhole [backslash] := by
  intro hwhole
  cases hwhole with
  | byte hbyte _ => exact hbyte rfl

/-- An open escape is a backslash at the end. -/
theorem exists_of_not_isWhole (hbody : ¬ IsWhole body) :
    ∃ front, body = front ++ [backslash] ∧ IsWhole front := by
  induction body using List.twoStepInduction with
  | nil => exact absurd .nil hbody
  | singleton byte =>
    by_cases hbyte : byte = backslash
    · exact ⟨[], by rw [hbyte]; rfl, .nil⟩
    · exact absurd (.byte hbyte .nil) hbody
  | cons_cons byte second body ih ihs =>
    by_cases hbyte : byte = backslash
    · subst hbyte
      obtain ⟨front, rfl, hfront⟩ := ih fun hwhole => hbody (.escape hwhole)
      exact ⟨backslash :: second :: front, rfl, .escape hfront⟩
    · obtain ⟨front, hsplit, hfront⟩ := ihs second fun hwhole => hbody (.byte hbyte hwhole)
      exact ⟨byte :: front, by rw [hsplit]; rfl, .byte hbyte hfront⟩

theorem takeWhile_append_pair_length_mod_two (bytes : List UInt8) (second : UInt8) :
    ((bytes ++ [second, backslash]).takeWhile (· = backslash)).length % 2 =
      (bytes.takeWhile (· = backslash)).length % 2 := by
  rw [List.takeWhile_append]
  split
  · rename_i hall
    by_cases hsecond : second = backslash
    · simp [hsecond, hall]
    · simp [hsecond, hall]
  · rfl

/-- No escape is open behind some bytes when the backslashes at their end come in pairs. -/
theorem isWhole_iff_length_takeWhile :
    IsWhole body ↔ (body.reverse.takeWhile (· = backslash)).length % 2 = 0 := by
  induction body using List.twoStepInduction with
  | nil => exact iff_of_true .nil rfl
  | singleton byte =>
    by_cases hbyte : byte = backslash
    · subst hbyte
      exact iff_of_false not_isWhole_backslash (by decide)
    · exact iff_of_true (.byte hbyte .nil) (by simp [hbyte])
  | cons_cons byte second body ih ihs =>
    by_cases hbyte : byte = backslash
    · subst hbyte
      rw [isWhole_escape_iff, ih, List.reverse_cons, List.reverse_cons, List.append_assoc,
        List.singleton_append, takeWhile_append_pair_length_mod_two]
    · have hstop : [byte].takeWhile (· = backslash) = [] := by simp [hbyte]
      rw [isWhole_cons_iff hbyte, ihs second, List.reverse_cons (a := byte), List.takeWhile_append,
        hstop, List.append_nil]
      split
      · rename_i hall
        rw [hall]
      · rfl

/-- Whether an enclosure cannot end inside a body. -/
def IsUnended (enclosure : Enclosure) (body rest : List UInt8) : Prop :=
  ∀ front back, body = front ++ back → back ≠ [] → ¬ enclosure.EndsBetween front (back ++ rest)

/-- A part of a body that is whole by itself can be left out. -/
theorem IsUnended.of_append (front : List UInt8) (hbody : enclosure.IsUnended (front ++ body) rest)
    (hwhole : enclosure.isLiteral = true → ∀ back, IsWhole (front ++ back) ↔ IsWhole back) :
    enclosure.IsUnended body rest := fun left right hsplit hright hends =>
  hbody (front ++ left) right (by rw [hsplit, List.append_assoc]) hright
    ⟨fun hliteral => (hwhole hliteral left).mpr (hends.1 hliteral), hends.2⟩

theorem IsUnended.of_append_right {back : List UInt8}
    (hbody : enclosure.IsUnended (body ++ back) rest) : enclosure.IsUnended body (back ++ rest) :=
  fun left right hsplit hright hends =>
    hbody left (right ++ back) (by rw [hsplit, List.append_assoc]) (by simp [hright])
      (by rwa [List.append_assoc])

theorem IsUnended.not_canEnd {byte : UInt8} (hbody : enclosure.IsUnended (byte :: body) rest) :
    ¬ enclosure.CanEnd (byte :: (body ++ rest)) := fun hend =>
  hbody [] (byte :: body) rfl (List.cons_ne_nil _ _) ⟨fun _ => .nil, hend⟩

theorem exists_isBody (enclosure : Enclosure) (text : List UInt8) :
    ∃ body rest, text = body ++ rest ∧ enclosure.IsBody body rest := by
  by_cases hends : ∃ count, enclosure.EndsBetween (text.take count) (text.drop count)
  · classical
    refine ⟨text.take (Nat.find hends), text.drop (Nat.find hends),
      (List.take_append_drop ..).symm, Or.inr (Nat.find_spec hends), ?_⟩
    intro front back hsplit hback hearlier
    have hfront : text = front ++ (back ++ text.drop (Nat.find hends)) := by
      rw [← List.append_assoc, ← hsplit, List.take_append_drop]
    have hless : front.length < Nat.find hends := by
      have hlength := congrArg List.length hsplit
      have hpositive := List.length_pos_iff.mpr hback
      rw [List.length_take, List.length_append] at hlength
      omega
    refine Nat.find_min hends hless ?_
    rw [hfront, List.take_left, List.drop_left]
    exact hearlier
  · refine ⟨text, [], (List.append_nil text).symm, Or.inl rfl, ?_⟩
    rintro front back rfl - hearlier
    rw [List.append_nil] at hearlier
    exact hends ⟨front.length, by rwa [List.take_left, List.drop_left]⟩

theorem IsBody.unique {other second : List UInt8} (hbody : enclosure.IsBody body rest)
    (hother : enclosure.IsBody other second) (htext : body ++ rest = other ++ second) :
    body = other ∧ rest = second := by
  have hprefix {body rest other second back : List UInt8} (hbody : enclosure.IsBody body rest)
      (hother : enclosure.IsBody other second) (hsplit : other = body ++ back)
      (hrest : rest = back ++ second) : back = [] := by
    by_contra hback
    rcases hbody.ends with rfl | hends
    · exact hback (List.append_eq_nil_iff.mp hrest.symm).1
    · exact hother.not_earlier body back hsplit hback (hrest ▸ hends)
  rcases List.append_eq_append_iff.mp htext with ⟨back, hsplit, hrest⟩ | ⟨back, hsplit, hrest⟩
  · obtain rfl := hprefix hbody hother hsplit hrest
    exact ⟨by simpa using hsplit.symm, by simpa using hrest⟩
  · obtain rfl := hprefix hother hbody hsplit hrest
    exact ⟨by simpa using hsplit, by simpa using hrest.symm⟩

end Enclosure

theorem exists_lexes (text : List UInt8) : ∃ lexemes, Lexes text lexemes := by
  induction hlength : text.length using Nat.strongRecOn generalizing text with
  | ind length ih =>
    cases text with
    | nil => exact ⟨[], .nil⟩
    | cons byte text =>
      cases hopener : Enclosure.at? (byte :: text) with
      | none =>
        obtain ⟨lexemes, hlexes⟩ := ih text.length (by simp [← hlength]) text rfl
        exact ⟨_, .code hopener hlexes⟩
      | some enclosure =>
        have hprefix := List.find?_some hopener
        obtain ⟨inside, hinside⟩ := List.isPrefixOf_iff_prefix.mp hprefix
        obtain ⟨body, behind, rfl, hbody⟩ := enclosure.exists_isBody inside
        have hcloser : enclosure.closerIn behind <+: behind := by
          unfold Enclosure.closerIn
          split
          · rename_i hcloser
            exact List.isPrefixOf_iff_prefix.mp hcloser
          · exact List.nil_prefix
        obtain ⟨rest, hrest⟩ := hcloser
        have hpositive : 0 < enclosure.opener.length := by cases enclosure <;> decide
        have hshorter := congrArg List.length hinside
        rw [← hrest] at hshorter
        simp only [List.length_append, hlength] at hshorter
        obtain ⟨lexemes, hlexes⟩ := ih rest.length (by omega) rest rfl
        rw [← hinside] at hopener ⊢
        generalize hfound : enclosure.closerIn behind = closer at hrest
        subst hrest
        exact ⟨_, .enclosed hopener hbody hfound.symm hlexes⟩

theorem Lexes.unique {text : List UInt8} {lexemes others : List Lexeme}
    (hlexes : Lexes text lexemes) (hothers : Lexes text others) : others = lexemes := by
  induction hlexes generalizing others with
  | nil =>
    generalize htext : [] = text at hothers
    cases hothers with
    | nil => rfl
    | code => cases htext
    | @enclosed enclosure => cases enclosure <;> cases htext
  | @code byte rest lexemes hcode _ ih =>
    generalize htext : byte :: rest = text at hothers
    cases hothers with
    | nil => cases htext
    | code _ hrest =>
      obtain ⟨rfl, rfl⟩ := List.cons.inj htext
      rw [ih hrest]
    | enclosed hopener => rw [← htext, hcode] at hopener; cases hopener
  | @enclosed enclosure body closer rest lexemes hopener hbody hcloser _ ih =>
    generalize htext : enclosure.opener ++ (body ++ (closer ++ rest)) = text at hothers
    cases hothers with
    | nil => cases enclosure <;> cases htext
    | code hcode => rw [htext, hcode] at hopener; cases hopener
    | @enclosed other otherBody otherCloser otherRest others hother hotherBody hotherCloser hrest =>
      obtain rfl : enclosure = other := by
        rw [htext, hother] at hopener
        exact (Option.some.inj hopener).symm
      obtain ⟨rfl, hbehind⟩ := hbody.unique hotherBody (List.append_cancel_left htext)
      rw [hbehind, ← hotherCloser] at hcloser
      subst hcloser
      obtain rfl := List.append_cancel_left hbehind
      rw [ih hrest]

theorem Lexes.flatMap_bytes {text : List UInt8} {lexemes : List Lexeme}
    (hlexes : Lexes text lexemes) : lexemes.flatMap Lexeme.bytes = text := by
  induction hlexes with
  | nil => rfl
  | code _ _ ih => rw [List.flatMap_cons, ih]; rfl
  | enclosed _ _ _ _ ih =>
    rw [List.flatMap_cons, ih, Lexeme.bytes, List.append_assoc, List.append_assoc]

/-- Whether the scan masks some bytes in front of a text as given and goes on in another state. -/
structure Scan.Passes (scan after : Scan) (front masked rest : List UInt8) : Prop where
  mask_eq : scan.mask (front ++ rest) = masked ++ after.mask rest
  pending_eq : (scan.finish (front ++ rest)).pending = (after.finish rest).pending

theorem Scan.Passes.trans {first second third : Scan} {front back masked maskedBack rest : List UInt8}
    (hfirst : first.Passes second front masked (back ++ rest))
    (hsecond : second.Passes third back maskedBack rest) :
    first.Passes third (front ++ back) (masked ++ maskedBack) rest where
  mask_eq := by rw [List.append_assoc, hfirst.mask_eq, hsecond.mask_eq, List.append_assoc]
  pending_eq := by rw [List.append_assoc, hfirst.pending_eq, hsecond.pending_eq]

theorem Scan.Passes.refl (scan : Scan) (rest : List UInt8) : scan.Passes scan [] [] rest := ⟨rfl, rfl⟩

theorem Scan.Passes.idle {scan : Scan} {region : Region} {shown : Bool}
    {front masked rest : List UInt8} (hpasses : scan.Passes ⟨region, 0, shown⟩ front masked rest)
    (shown' : Bool) : scan.Passes ⟨region, 0, shown'⟩ front masked rest where
  mask_eq := by rw [hpasses.mask_eq, Scan.mask_idle region shown shown']
  pending_eq := by
    rw [hpasses.pending_eq]
    cases rest <;> rfl

namespace Enclosure

variable {enclosure : Enclosure} {body rest : List UInt8}

/-- The region of the scan inside an enclosure. -/
def region : Enclosure → Region
  | lineComment => .lineComment
  | blockComment => .blockComment
  | textBlock => .textBlock
  | string => .string
  | character => .character

theorem at?_eq_none_iff {text : List UInt8} :
    at? text = none ↔ ∀ enclosure : Enclosure, ¬ enclosure.opener <+: text := by
  rw [at?, List.find?_eq_none]
  constructor
  · intro hnone enclosure hprefix
    exact hnone enclosure (by cases enclosure <;> decide) (List.isPrefixOf_iff_prefix.mpr hprefix)
  · exact fun hnone enclosure _ hprefix => hnone enclosure (List.isPrefixOf_iff_prefix.mp hprefix)

theorem pair_isPrefix_iff {first second byte : UInt8} :
    [first, second] <+: byte :: rest ↔ byte = first ∧ rest.take 1 = [second] := by
  rw [List.prefix_iff_eq_take]
  simp [eq_comm]

theorem triple_isPrefix_iff {first second third byte : UInt8} :
    [first, second, third] <+: byte :: rest ↔ byte = first ∧ rest.take 2 = [second, third] := by
  rw [List.prefix_iff_eq_take]
  simp [eq_comm]

theorem singleton_isPrefix_iff {first byte : UInt8} : [first] <+: byte :: rest ↔ byte = first := by
  rw [List.prefix_iff_eq_take]
  simp [eq_comm]

theorem token_code {first : UInt8} (hcode : at? (first :: rest) = none) :
    Region.code.token first rest = ⟨0, true, .code⟩ := by
  rw [at?_eq_none_iff] at hcode
  have hline := hcode lineComment
  have hblock := hcode blockComment
  have htext := hcode textBlock
  have hstring := hcode string
  have hcharacter := hcode character
  simp only [opener, pair_isPrefix_iff, triple_isPrefix_iff, singleton_isPrefix_iff] at *
  simp only [Region.token, if_neg hline, if_neg hblock, if_neg htext, if_neg hstring,
    if_neg hcharacter]

/-- Inside an enclosure the scan hides each byte at which the enclosure cannot end. -/
theorem token_body {first : UInt8} (hend : ¬ enclosure.CanEnd (first :: rest))
    (hplain : enclosure.isLiteral = true → first ≠ backslash) :
    enclosure.region.token first rest = ⟨0, false, enclosure.region⟩ := by
  rw [CanEnd, not_or, singleton_isPrefix_iff] at hend
  cases enclosure
  case lineComment => exact if_neg fun hline => hend.2 ⟨rfl, hline⟩
  case blockComment =>
    exact if_neg fun hclose => hend.1 ⟨List.cons_ne_nil _ _, pair_isPrefix_iff.mpr hclose⟩
  case textBlock =>
    have hclose : ¬ (first = quote ∧ rest.take 2 = [quote, quote]) := fun hclose =>
      hend.1 ⟨List.cons_ne_nil _ _, triple_isPrefix_iff.mpr hclose⟩
    simp only [region, Region.token, if_neg (hplain rfl), if_neg hclose]
  case string | character =>
    have hline : ¬ (first = newline ∨ first = _) := not_or.mpr
      ⟨fun hline => hend.2 ⟨rfl, hline⟩,
        fun hclose => hend.1 ⟨List.cons_ne_nil _ _, singleton_isPrefix_iff.mpr hclose⟩⟩
    simp only [region, Region.token, Region.literalToken, if_neg (hplain rfl), if_neg hline]

theorem token_escape (hliteral : enclosure.isLiteral = true) :
    enclosure.region.token backslash rest = ⟨1, false, enclosure.region⟩ := by
  cases enclosure <;> first | rfl | cases hliteral

theorem passes_token {region next : Region} {visible : Bool} {first : UInt8} (more : List UInt8)
    (shown : Bool) (htoken : region.token first (more ++ rest) = ⟨more.length, visible, next⟩) :
    Scan.Passes ⟨region, 0, shown⟩ ⟨next, 0, visible⟩ (first :: more)
      ((first :: more).map (image visible)) rest := by
  have hmore (more : List UInt8) : Scan.Passes ⟨next, more.length, visible⟩ ⟨next, 0, visible⟩ more
      (more.map (image visible)) rest := by
    induction more with
    | nil => exact ⟨rfl, rfl⟩
    | cons byte more ih => exact ⟨congrArg (image visible byte :: ·) ih.mask_eq, ih.pending_eq⟩
  have hstep : Scan.step ⟨region, 0, shown⟩ first (more ++ rest) =
      (visible, ⟨next, more.length, visible⟩) := by
    simp only [Scan.step, htoken]
  obtain ⟨hmask, hfinish⟩ := hmore more
  constructor
  · rw [List.cons_append, Scan.mask, hstep, hmask]
    rfl
  · rw [List.cons_append, Scan.finish, hstep, hfinish]

theorem token_opener {first : UInt8} {more : List UInt8} (hfirst : enclosure.opener = first :: more)
    (hopener : at? (enclosure.opener ++ rest) = some enclosure) :
    Region.code.token first (more ++ rest) =
      ⟨more.length, enclosure.isLiteral, enclosure.region⟩ := by
  cases enclosure <;> obtain ⟨rfl, rfl⟩ := List.cons.inj hfirst
  case string =>
    have htext : ¬ rest.take 2 = [quote, quote] := by
      intro htake
      have hprefix : textBlock.opener.isPrefixOf (quote :: rest) = true :=
        List.isPrefixOf_iff_prefix.mpr (triple_isPrefix_iff.mpr ⟨rfl, htake⟩)
      have hfirst : at? (quote :: rest) = some textBlock := by
        simp only [at?, all, List.find?_cons, hprefix]
        rfl
      cases hfirst.symm.trans hopener
    exact if_neg (fun hblock => htext hblock.2)
  all_goals rfl

theorem token_closer {first : UInt8} {more : List UInt8}
    (hfirst : enclosure.closer = first :: more) :
    enclosure.region.token first (more ++ rest) = ⟨more.length, enclosure.isLiteral, .code⟩ := by
  cases enclosure
  case lineComment => cases hfirst
  all_goals
    obtain ⟨rfl, rfl⟩ := List.cons.inj hfirst
    rfl

theorem passes_opener (shown : Bool) (hopener : at? (enclosure.opener ++ rest) = some enclosure) :
    Scan.Passes ⟨.code, 0, shown⟩ ⟨enclosure.region, 0, enclosure.isLiteral⟩ enclosure.opener
      (enclosure.opener.map (image enclosure.isLiteral)) rest := by
  obtain ⟨first, more, hfirst⟩ : ∃ first more, enclosure.opener = first :: more := by
    cases enclosure <;> exact ⟨_, _, rfl⟩
  have htoken := token_opener hfirst hopener
  rw [hfirst]
  exact passes_token more shown htoken

/-- Behind its body the scan leaves an enclosure, with the closer if there is one. -/
theorem passes_closer (shown : Bool) (hends : rest = [] ∨ enclosure.CanEnd rest) :
    ∃ behind, rest = enclosure.closerIn rest ++ behind ∧
      Scan.Passes ⟨enclosure.region, 0, shown⟩ ⟨.code, 0, true⟩ (enclosure.closerIn rest)
        ((enclosure.closerIn rest).map (image enclosure.isLiteral)) behind := by
  by_cases hcloser : enclosure.closer ≠ [] ∧ enclosure.closer <+: rest
  · obtain ⟨hcloser, behind, rfl⟩ := hcloser
    obtain ⟨first, more, hfirst⟩ := List.exists_cons_of_ne_nil hcloser
    have hclosed : enclosure.closerIn (enclosure.closer ++ behind) = enclosure.closer :=
      if_pos (List.isPrefixOf_iff_prefix.mpr (List.prefix_append ..))
    refine ⟨behind, by rw [hclosed], ?_⟩
    rw [hclosed, hfirst]
    exact (passes_token more shown (token_closer hfirst)).idle true
  · have hopen : enclosure.closerIn rest = [] := by
      unfold closerIn
      split
      · rename_i hprefix
        by_contra hne
        exact hcloser ⟨hne, List.isPrefixOf_iff_prefix.mp hprefix⟩
      · rfl
    refine ⟨rest, by rw [hopen, List.nil_append], ?_⟩
    rw [hopen, List.map_nil]
    rcases hends with rfl | hclosed | ⟨hline, behind, rfl⟩
    · exact ⟨rfl, rfl⟩
    · exact absurd hclosed hcloser
    · cases enclosure <;> first | exact ⟨rfl, rfl⟩ | cases hline

/-- The scan hides a body without an open escape. -/
theorem passes_body (shown : Bool) (hbody : enclosure.IsUnended body rest)
    (hwhole : enclosure.isLiteral = true → IsWhole body) :
    Scan.Passes ⟨enclosure.region, 0, shown⟩ ⟨enclosure.region, 0, false⟩ body
      (body.map (image false)) rest := by
  induction body using List.twoStepInduction generalizing shown with
  | nil => exact (Scan.Passes.refl ..).idle false
  | singleton byte =>
    have hbyte : enclosure.isLiteral = true → byte ≠ backslash := by
      rintro hliteral rfl
      exact not_isWhole_backslash (hwhole hliteral)
    exact passes_token [] shown (token_body hbody.not_canEnd hbyte)
  | cons_cons byte second body ih ihs =>
    by_cases hbyte : enclosure.isLiteral = true ∧ byte = backslash
    · obtain ⟨hliteral, rfl⟩ := hbyte
      have hrest := hbody.of_append [backslash, second] fun _ _ => isWhole_escape_iff
      exact (passes_token [second] shown (token_escape hliteral)).trans
        (ih false hrest fun _ => isWhole_escape_iff.mp (hwhole hliteral))
    · have hplain := not_and.mp hbyte
      have hrest := hbody.of_append [byte] fun hliteral _ => isWhole_cons_iff (hplain hliteral)
      exact (passes_token [] shown (token_body hbody.not_canEnd hplain)).trans
        (ihs second false hrest fun hliteral =>
          (isWhole_cons_iff (hplain hliteral)).mp (hwhole hliteral))

/-- An open escape is hidden, and the scan still waits for the byte that it escapes. -/
theorem mask_open_escape (shown : Bool) (hbody : enclosure.IsUnended body [])
    (hliteral : enclosure.isLiteral = true) (hescape : ¬ IsWhole body) :
    Scan.mask ⟨enclosure.region, 0, shown⟩ body = body.map (image false) ∧
      (Scan.finish ⟨enclosure.region, 0, shown⟩ body).pending = 1 := by
  obtain ⟨front, rfl, hwhole⟩ := exists_of_not_isWhole hescape
  obtain ⟨hmask, hfinish⟩ := passes_body shown hbody.of_append_right fun _ => hwhole
  rw [List.append_nil] at hmask hfinish
  rw [hmask, hfinish, List.map_append]
  simp only [Scan.mask, Scan.finish, Scan.step, token_escape hliteral]
  exact ⟨rfl, trivial⟩

end Enclosure

/-- Whether a lexeme is a literal without a closer in which an escape is open. -/
def Lexeme.EndsEscaping : Lexeme → Prop
  | enclosed enclosure body [] => enclosure.isLiteral = true ∧ ¬ Enclosure.IsWhole body
  | _ => False

/-- Whether the scan joins the images of some lexemes, and ends inside a token when the last of them
ends in an open escape. -/
structure Scan.Reads (scan : Scan) (text : List UInt8) (lexemes : List Lexeme) : Prop where
  mask_eq : scan.mask text = lexemes.flatMap Lexeme.masked
  pending_ne_zero_iff : (scan.finish text).pending ≠ 0 ↔
    ∃ last ∈ lexemes.getLast?, last.EndsEscaping

theorem Scan.Passes.reads {scan after : Scan} {lexeme : Lexeme} {lexemes : List Lexeme}
    {text rest : List UInt8} (hpasses : scan.Passes after text lexeme.masked rest)
    (hlexeme : ¬ lexeme.EndsEscaping) (hrest : after.Reads rest lexemes) :
    scan.Reads (text ++ rest) (lexeme :: lexemes) where
  mask_eq := by rw [hpasses.mask_eq, hrest.mask_eq, List.flatMap_cons]
  pending_ne_zero_iff := by
    rw [hpasses.pending_eq, hrest.pending_ne_zero_iff]
    cases lexemes with
    | nil => simpa using hlexeme
    | cons second lexemes => rw [List.getLast?_cons_cons]

theorem Lexes.reads {text : List UInt8} {lexemes : List Lexeme} (hlexes : Lexes text lexemes)
    (shown : Bool) : Scan.Reads ⟨.code, 0, shown⟩ text lexemes := by
  induction hlexes generalizing shown with
  | nil => exact ⟨rfl, by simp [Scan.finish]⟩
  | @code byte rest lexemes hcode _ ih =>
    have hpasses : Scan.Passes ⟨.code, 0, shown⟩ ⟨.code, 0, true⟩ [byte] (Lexeme.code byte).masked
        rest :=
      Enclosure.passes_token [] shown (Enclosure.token_code hcode)
    exact hpasses.reads not_false (ih true)
  | @enclosed enclosure body closer rest lexemes hopener hbody hcloser hrest ih =>
    have hstart := Enclosure.passes_opener shown hopener
    by_cases hwhole : enclosure.isLiteral = true → Enclosure.IsWhole body
    · obtain ⟨behind, hsplit, hend⟩ :=
        Enclosure.passes_closer false (hbody.ends.imp_right fun hends => hends.2)
      rw [← hcloser] at hsplit hend
      obtain rfl := List.append_cancel_left hsplit
      have hpasses :=
        (hstart.trans (Enclosure.passes_body _ hbody.not_earlier hwhole)).trans hend
      have hlexeme : ¬ (Lexeme.enclosed enclosure body closer).EndsEscaping := by
        rcases closer with _ | ⟨first, closer⟩
        · exact fun hescape => hescape.2 (hwhole hescape.1)
        · exact not_false
      rw [← List.append_assoc, ← List.append_assoc]
      exact hpasses.reads hlexeme (ih true)
    · -- Nothing stands behind an open escape.
      obtain ⟨hliteral, hescape⟩ := Classical.not_imp.mp hwhole
      obtain ⟨rfl, rfl⟩ : closer = [] ∧ rest = [] := by
        rcases hbody.ends with hnone | hends
        · exact List.append_eq_nil_iff.mp hnone
        · exact absurd (hends.1 hliteral) hescape
      obtain rfl := Lexes.nil.unique hrest
      obtain ⟨hmask, hpending⟩ :=
        Enclosure.mask_open_escape enclosure.isLiteral hbody.not_earlier hliteral hescape
      simp only [List.append_nil] at hstart ⊢
      constructor
      · rw [hstart.mask_eq, hmask, List.flatMap_singleton, Lexeme.masked, List.map_nil,
          List.append_nil]
      · rw [hstart.pending_eq, hpending]
        exact iff_of_true Nat.one_ne_zero ⟨_, rfl, hliteral, hescape⟩

/-- A source divides into lexemes in one way, and their images make up the masked source. -/
theorem mask_eq_flatMap_masked (source : String) :
    ∃ lexemes, Lexes (Utf8.encode source.toList) lexemes ∧
      (∀ others, Lexes (Utf8.encode source.toList) others → others = lexemes) ∧
      lexemes.flatMap Lexeme.bytes = Utf8.encode source.toList ∧
      Utf8.encode (mask source).toList = lexemes.flatMap Lexeme.masked := by
  obtain ⟨lexemes, hlexes⟩ := exists_lexes (Utf8.encode source.toList)
  refine ⟨lexemes, hlexes, fun others hothers => hlexes.unique hothers, hlexes.flatMap_bytes, ?_⟩
  rw [encode_mask, maskBytes, Scan.start, (hlexes.reads true).mask_eq]

end Java

end JavaDiff
