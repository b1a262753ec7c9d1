import JavaDiff.Proofs.Java.Bounds
import JavaDiff.Proofs.Java.Nesting

/-!
# Methods at the level of their body

The search for methods counts braces only, passes over every method that it finds, and starts in an
enumeration behind a separator that another search has found.  Where a body nests its parentheses
and braces, all of this agrees with the nesting: the methods found stand where no brace but that of
the body is open, and a candidate at that level is only passed over inside of one of them.
-/

namespace JavaDiff

namespace Java

open Ascii

/-! ## One method -/

section Method

variable {before rest bytes pending later : List UInt8} {offset distance : Nat} {span : MethodSpan}

theorem take_takeWhile_add (property : UInt8 → Bool) (bytes : List UInt8) (length : Nat) :
    bytes.take ((bytes.takeWhile property).length + length) =
      bytes.takeWhile property ++ (bytes.dropWhile property).take length := by
  rw [← List.take_length_add_append, List.takeWhile_append_dropWhile]

theorem forall_ne_brace_of_bodyDistance? (hdistance : bodyDistance? bytes = some distance) :
    ∀ byte ∈ bytes.take distance, byte ≠ openBrace ∧ byte ≠ closeBrace := by
  have hblanks : ∀ byte ∈ bytes.takeWhile isBlank, byte ≠ openBrace ∧ byte ≠ closeBrace := by
    intro byte hmem
    have hbyte := List.all_eq_true.mp List.all_takeWhile byte hmem
    constructor <;> rintro rfl <;> contradiction
  have hword : ∀ byte ∈ throwsWord, byte ≠ openBrace ∧ byte ≠ closeBrace := by decide +kernel
  unfold bodyDistance? at hdistance
  dsimp only at hdistance
  split at hdistance
  · cases hdistance
  · split at hdistance
    · split at hdistance
      · rename_i hthrows
        obtain ⟨length, hlength, hdistance⟩ := Option.bind_eq_some_iff.mp hdistance
        split at hdistance
        · obtain rfl := Option.some.inj hdistance
          -- Behind the blanks and the word comes a clause that ends at its first brace.
          have hclause := List.findIdx?_eq_some_iff_getElem.mp hlength
          rw [Nat.add_assoc, take_takeWhile_add, ← hthrows, take_takeWhile_add, hthrows]
          simp only [List.mem_append]
          rintro byte (hmem | hmem | hmem)
          · exact hblanks byte hmem
          · exact hword byte hmem
          · obtain ⟨index, hindex, rfl⟩ := List.mem_take_iff_getElem.mp hmem
            have hends := hclause.2.2 index (by omega)
            constructor <;> intro hbyte <;> simp [endsThrows, hbyte] at hends
        · cases hdistance
      · cases hdistance
    · split at hdistance
      · obtain rfl := Option.some.inj hdistance
        have hgap := take_takeWhile_add isBlank bytes 0
        rw [Nat.add_zero, List.take_zero, List.append_nil] at hgap
        rwa [hgap]
      · cases hdistance

theorem MethodSpan.IsMethod.close_ne {front back : List UInt8} {byte : UInt8}
    (hspan : span.IsMethod (front ++ byte :: back)) (hbyte : byte ≠ closeBrace) :
    span.close ≠ front.length := by
  intro hequal
  have hclose := hspan.closeBrace_at
  rw [hequal, List.getElem?_append_right (Nat.le_refl _), Nat.sub_self] at hclose
  exact hbyte (Option.some.inj hclose)

theorem exists_searches_of_methodAt? (hspan : methodAt? before offset rest = some span) :
    ∃ listEnd distance,
      closingFrom openParen closeParen 0 (offset + 1) rest = some listEnd ∧
      bodyDistance? (rest.drop (listEnd - offset)) = some distance ∧
      closingFrom openBrace closeBrace 0 (listEnd + 1 + distance + 1)
        (rest.drop (listEnd + 1 + distance - offset)) = some span.close ∧
      span.paren = offset := by
  unfold methodAt? at hspan
  simp only [Option.bind_eq_bind, Option.bind_eq_some_iff] at hspan
  obtain ⟨name, -, hspan⟩ := hspan
  split at hspan
  · contradiction
  · simp only [Option.bind_eq_some_iff] at hspan
    obtain ⟨listEnd, hlist, distance, hdistance, close, hclose, hspan⟩ := hspan
    obtain rfl := Option.some.inj hspan
    exact ⟨listEnd, distance, hlist, hdistance, hclose, rfl⟩

/-- A method leaves as many braces pending as there were in front of its parameters. -/
theorem count_closeBrace_of_methodAt? (hspan : methodAt? before offset rest = some span)
    (hrest : pending? (closeParen :: pending) rest = some later) :
    ∃ behind, pending? (closeParen :: pending) (rest.take (span.close - offset)) = some behind ∧
      behind.count closeBrace = pending.count closeBrace := by
  obtain ⟨listEnd, distance, hlist, hdistance, hclose, -⟩ := exists_searches_of_methodAt? hspan
  have hlistEnd := (closingFrom_eq_some hlist).1
  have hbody := (closingFrom_eq_some hclose).1
  -- The parameter list leads back to the closers in front of it.
  obtain ⟨atList, hatList, hbehindList⟩ := exists_pending?_take hrest (listEnd - offset)
  have hatListEq : atList = pending := by
    apply eq_of_closingFrom [] rfl hlist
    rwa [Nat.add_sub_add_right]
  subst hatListEq
  -- Up to the body only parentheses follow.
  have hbrace := bodyDistance?_eq_some hdistance
  obtain ⟨atBody, hatBody, hbehindGap⟩ := exists_pending?_take hbehindList distance
  have hcount := count_closeBrace_eq_of_forall hatBody (forall_ne_brace_of_bodyDistance? hdistance)
  -- The body leads back to the closers in front of its brace.
  have hopening : listEnd - offset + (distance + 1) = listEnd + 1 + distance - offset := by omega
  rw [drop_eq_cons hbrace, List.drop_drop, hopening] at hbehindGap
  obtain ⟨inBody, hstep, hinBody⟩ := exists_of_pending?_cons hbehindGap
  obtain rfl : closeBrace :: atBody = inBody := Option.some.inj hstep
  obtain ⟨behind, hbehind, -⟩ :=
    exists_pending?_take hinBody (span.close + 1 - (listEnd + 1 + distance + 1))
  obtain rfl : behind = atBody := eq_of_closingFrom [] rfl hclose hbehind
  refine ⟨behind, ?_, hcount⟩
  have hlength : span.close - offset = listEnd - offset +
      (distance + (span.close + 1 - (listEnd + 1 + distance + 1) + 1)) := by omega
  rw [hlength, pending?_take_add, hatList, Option.bind_some, pending?_take_add, hatBody,
    Option.bind_some, drop_eq_cons hbrace, List.take_succ_cons, List.drop_drop, hopening,
    pending?_cons, hstep, Option.bind_some, hbehind]

end Method

/-! ## Searches -/

/-- What a search for methods knows about the nesting in front of it: the rest closes all pending
brackets, and behind the bytes to skip the depth counts the pending braces. -/
structure Tracks (pending : List UInt8) (skip depth : Nat) (rest : List UInt8) : Prop where
  pending?_eq : pending? pending rest = some []
  depth_eq : ∀ later, pending? pending (rest.take skip) = some later →
    later.count closeBrace = depth

namespace Tracks

variable {pending front back rest : List UInt8} {skip depth : Nat} {byte : UInt8}
  {span : MethodSpan}

theorem depth_eq_count (htracks : Tracks pending 0 depth rest) :
    depth = pending.count closeBrace :=
  (htracks.depth_eq pending rfl).symm

theorem of_count (hpending : pending? pending rest = some []) :
    Tracks pending 0 (pending.count closeBrace) rest := by
  refine ⟨hpending, fun later hlater => ?_⟩
  rw [Option.some.inj hlater]

/-- What one byte does to a search for methods. -/
inductive Step (pending later : List UInt8) (skip depth : Nat) (before : List UInt8) (byte : UInt8)
    (rest : List UInt8) : Prop
  /-- The search goes on, and no method stands there at the level of the body. -/
  | passes (depth' : Nat) (tracks : Tracks later (skip - 1) depth' rest)
      (spans_eq : methodSpansFrom skip depth before before.length (byte :: rest) =
        methodSpansFrom (skip - 1) depth' (byte :: before) (before.length + 1) rest)
      (methodAt?_eq : skip = 0 → byte = openParen → closeBrace ∉ pending →
        methodAt? before before.length rest = none)
  /-- A method is found, and the search goes on behind it. -/
  | finds (method : MethodSpan) (byte_eq : byte = openParen) (closes : closeBrace ∉ pending)
      (methodAt?_eq : methodAt? before before.length rest = some method)
      (tracks : Tracks later (method.close - before.length) 0 rest)
      (spans_eq : methodSpansFrom skip depth before before.length (byte :: rest) =
        method :: methodSpansFrom (method.close - before.length) 0 (byte :: before)
          (before.length + 1) rest)

/-- The search keeps track of the nesting at every byte. -/
theorem exists_step (htracks : Tracks pending skip depth (byte :: rest)) (before : List UInt8) :
    ∃ later, pendingStep? pending byte = some later ∧
      Step pending later skip depth before byte rest := by
  obtain ⟨later, hstep, hrest⟩ := exists_of_pending?_cons htracks.pending?_eq
  refine ⟨later, hstep, ?_⟩
  cases skip with
  | succ skip =>
    refine .passes depth ⟨hrest, fun behind hbehind => ?_⟩ rfl (by simp)
    apply htracks.depth_eq
    rw [List.take_succ_cons, pending?_cons, hstep, Option.bind_some]
    exact hbehind
  | zero =>
    have hdepth := htracks.depth_eq_count
    have hlater := count_closeBrace_of_pendingStep? hstep
    have hnext := of_count hrest
    rw [hlater, ← hdepth] at hnext
    by_cases hopen : byte = openBrace
    · rw [if_pos hopen] at hnext
      refine .passes (depth + 1) hnext ?_ fun _ hparen => ?_
      · rw [methodSpansFrom, if_pos hopen]
      · exact absurd (hopen.symm.trans hparen) (by decide)
    rw [if_neg hopen] at hnext
    by_cases hclose : byte = closeBrace
    · rw [if_pos hclose] at hnext
      refine .passes (depth - 1) hnext ?_ fun _ hparen => ?_
      · rw [methodSpansFrom, if_neg hopen, if_pos hclose]
      · exact absurd (hclose.symm.trans hparen) (by decide)
    rw [if_neg hclose] at hnext
    by_cases hparen : byte = openParen ∧ depth = 0
    · obtain ⟨rfl, rfl⟩ := hparen
      have hlevel : closeBrace ∉ pending := List.count_eq_zero.mp hdepth.symm
      cases hmethod : methodAt? before before.length rest with
      | none =>
        refine .passes 0 hnext ?_ fun _ _ _ => hmethod
        rw [methodSpansFrom, if_neg hopen, if_neg hclose, if_pos ⟨rfl, rfl⟩, hmethod]
      | some method =>
        refine .finds method rfl hlevel hmethod ⟨hrest, fun behind hbehind => ?_⟩ ?_
        · obtain rfl : closeParen :: pending = later := Option.some.inj hstep
          obtain ⟨same, hsame, hcount⟩ := count_closeBrace_of_methodAt? hmethod hrest
          rw [Option.some.inj (hbehind.symm.trans hsame), hcount, ← hdepth]
        · rw [methodSpansFrom, if_neg hopen, if_neg hclose, if_pos ⟨rfl, rfl⟩, hmethod]
    · refine .passes depth hnext ?_ fun _ hbyte hlevel => ?_
      · rw [methodSpansFrom, if_neg hopen, if_neg hclose, if_neg hparen]
      · exact absurd ⟨hbyte, hdepth.trans (List.count_eq_zero.mpr hlevel)⟩ hparen

theorem closesBraces_of_mem (htracks : Tracks pending skip depth rest) (before : List UInt8)
    (hspan : span ∈ methodSpansFrom skip depth before before.length rest) :
    ClosesBraces pending (rest.take (span.paren - before.length)) := by
  induction rest generalizing pending skip depth before with
  | nil => simp [methodSpansFrom] at hspan
  | cons byte rest ih =>
    obtain ⟨later, hstep, hcases⟩ := htracks.exists_step before
    -- A method found later has its parenthesis behind this byte.
    have hlater {skip depth : Nat} (htracks : Tracks later skip depth rest)
        (hspan : span ∈ methodSpansFrom skip depth (byte :: before) (before.length + 1) rest) :
        ClosesBraces pending ((byte :: rest).take (span.paren - before.length)) := by
      have hparen := ((methodSpansFrom_spec skip depth (byte :: before) rest).1 span hspan).2
      rw [List.length_cons] at hparen
      rw [show span.paren - before.length = span.paren - (before.length + 1) + 1 by omega,
        List.take_succ_cons, closesBraces_cons hstep]
      exact ih htracks (byte :: before) hspan
    cases hcases with
    | passes depth' hnext hspans _ =>
      rw [hspans] at hspan
      exact hlater hnext hspan
    | finds method _ hlevel hmethod hnext hspans =>
      rw [hspans] at hspan
      rcases List.mem_cons.mp hspan with rfl | hspan
      · obtain ⟨_, _, -, -, -, hparen⟩ := exists_searches_of_methodAt? hmethod
        rw [hparen, Nat.sub_self]
        exact ⟨pending, rfl, hlevel⟩
      · exact hlater hnext hspan

/-- Where no brace is pending, a method is found unless it stands inside of one that is found. -/
theorem exists_of_methodAt? (before : List UInt8)
    (htracks : Tracks pending skip depth (front ++ openParen :: back))
    (hskip : skip ≤ front.length) (hlevel : ClosesBraces pending front)
    (hspan : methodAt? (front.reverse ++ before) (before.length + front.length) back =
      some span) :
    ∃ captured ∈ methodSpansFrom skip depth before before.length (front ++ openParen :: back),
      captured = span ∨ captured.paren < before.length + front.length ∧
        before.length + front.length < captured.close := by
  induction front generalizing pending skip depth before with
  | nil =>
    obtain ⟨behind, hbehind, hnotMem⟩ := hlevel
    obtain rfl : pending = behind := Option.some.inj hbehind
    obtain rfl : skip = 0 := Nat.le_zero.mp hskip
    obtain ⟨later, -, hcases⟩ := htracks.exists_step before
    cases hcases with
    | passes _ _ _ hnone =>
      have hnothing := (hnone rfl rfl hnotMem).symm.trans hspan
      contradiction
    | finds method _ _ hmethod _ hspans =>
      obtain rfl : method = span := Option.some.inj (hmethod.symm.trans hspan)
      refine ⟨method, ?_, Or.inl rfl⟩
      rw [List.nil_append, hspans]
      exact List.mem_cons_self
  | cons byte front ih =>
    rw [List.cons_append] at htracks ⊢
    obtain ⟨later, hstep, hcases⟩ := htracks.exists_step before
    rw [closesBraces_cons hstep] at hlevel
    have hplace : before.length + (byte :: front).length =
        (byte :: before).length + front.length := by
      simp only [List.length_cons]
      omega
    rw [hplace, List.reverse_cons, List.append_assoc, List.singleton_append] at hspan
    rw [hplace]
    rw [List.length_cons] at hskip
    cases hcases with
    | passes depth' hnext hspans _ =>
      rw [hspans]
      exact ih (byte :: before) hnext (by omega) hlevel hspan
    | finds method _ _ hmethod hnext hspans =>
      rw [hspans]
      by_cases hbehind : method.close - before.length ≤ front.length
      · obtain ⟨captured, hmem, hcaptured⟩ := ih (byte :: before) hnext hbehind hlevel hspan
        exact ⟨captured, List.mem_cons_of_mem _ hmem, hcaptured⟩
      · refine ⟨method, List.mem_cons_self, Or.inr ?_⟩
        -- The candidate lies in front of the brace that ends the method, but is no brace itself.
        obtain ⟨hfound, hparen⟩ := isMethod_of_methodAt? hmethod
        rw [← List.cons_append, ← List.append_assoc] at hfound
        have hne := hfound.close_ne (by decide)
        simp only [List.length_append, List.length_reverse, List.length_cons] at hne ⊢
        omega

end Tracks

/-! ## Members -/

/-- The place of the `;` that ends the constants of an enumeration: the first one outside of all
brackets. -/
structure IsFirstSeparator (pending bytes : List UInt8) (index : Nat) : Prop where
  semicolon_at : bytes[index]? = some semicolon
  pending?_eq : pending? pending (bytes.take index) = some []
  pending?_ne : ∀ earlier < index, bytes[earlier]? = some semicolon →
    pending? pending (bytes.take earlier) ≠ some []

section Separator

variable {pending next rest bytes : List UInt8} {byte : UInt8}

theorem isFirstSeparator_cons_zero :
    IsFirstSeparator pending (byte :: rest) 0 ↔ byte = semicolon ∧ pending = [] := by
  constructor
  · intro hfirst
    exact ⟨Option.some.inj hfirst.semicolon_at, Option.some.inj hfirst.pending?_eq⟩
  · rintro ⟨rfl, rfl⟩
    exact ⟨rfl, rfl, by simp⟩

theorem isFirstSeparator_cons_succ (hstep : pendingStep? pending byte = some next) {index : Nat} :
    IsFirstSeparator pending (byte :: rest) (index + 1) ↔
      ¬ (byte = semicolon ∧ pending = []) ∧ IsFirstSeparator next rest index := by
  have hbehind (length : Nat) : pending? pending ((byte :: rest).take (length + 1)) =
      pending? next (rest.take length) := by
    rw [List.take_succ_cons, pending?_cons, hstep, Option.bind_some]
  constructor
  · rintro ⟨hsemicolon, hclosed, hearlier⟩
    rw [hbehind] at hclosed
    refine ⟨?_, hsemicolon, hclosed, fun earlier hlt hat hnone => ?_⟩
    · rintro ⟨rfl, rfl⟩
      exact hearlier 0 (Nat.succ_pos _) rfl rfl
    · exact hearlier (earlier + 1) (Nat.succ_lt_succ hlt) hat ((hbehind earlier).trans hnone)
  · rintro ⟨hnot, hsemicolon, hclosed, hearlier⟩
    refine ⟨hsemicolon, (hbehind index).trans hclosed, fun earlier hlt hat hnone => ?_⟩
    cases earlier with
    | zero => exact hnot ⟨Option.some.inj hat, Option.some.inj hnone⟩
    | succ earlier =>
      rw [hbehind] at hnone
      exact hearlier earlier (Nat.lt_of_succ_lt_succ hlt) hat hnone

theorem membersDistance?_cons (hstep : pendingStep? pending byte = some next) :
    membersDistance? pending.length (byte :: rest) =
      if byte = semicolon ∧ pending = [] then some 1
      else (membersDistance? next.length rest).map (· + 1) := by
  have hlength := length_of_pendingStep? hstep
  rw [membersDistance?]
  by_cases hopener : byte = openBrace ∨ byte = openParen
  · have hnot : ¬ (byte = semicolon ∧ pending = []) := by
      rintro ⟨rfl, -⟩
      exact absurd hopener (by decide)
    rw [if_pos hopener] at hlength ⊢
    rw [if_neg hnot, hlength]
  rw [if_neg hopener] at hlength ⊢
  by_cases hcloser : byte = closeBrace ∨ byte = closeParen
  · have hnot : ¬ (byte = semicolon ∧ pending = []) := by
      rintro ⟨rfl, -⟩
      exact absurd hcloser (by decide)
    rw [if_pos hcloser] at hlength ⊢
    rw [if_neg hnot, hlength]
  rw [if_neg hcloser] at hlength ⊢
  simp only [hlength, List.length_eq_zero_iff]

/-- The search for the end of the constants finds the first `;` outside of all brackets. -/
theorem membersDistance?_eq_some_iff {later : List UInt8} {distance : Nat}
    (hpending : pending? pending bytes = some later) :
    membersDistance? pending.length bytes = some distance ↔
      ∃ index, IsFirstSeparator pending bytes index ∧ distance = index + 1 := by
  induction bytes generalizing pending distance with
  | nil =>
    refine iff_of_false (by simp [membersDistance?]) ?_
    rintro ⟨index, hfirst, -⟩
    simpa using hfirst.semicolon_at
  | cons byte rest ih =>
    obtain ⟨next, hstep, hrest⟩ := exists_of_pending?_cons hpending
    rw [membersDistance?_cons hstep]
    split
    · rename_i hhere
      rw [Option.some.injEq]
      constructor
      · rintro rfl
        exact ⟨0, isFirstSeparator_cons_zero.mpr hhere, rfl⟩
      · rintro ⟨index, hfirst, rfl⟩
        cases index with
        | zero => rfl
        | succ index => exact absurd hhere ((isFirstSeparator_cons_succ hstep).mp hfirst).1
    · rename_i hnot
      simp only [Option.map_eq_some_iff, ih hrest]
      constructor
      · rintro ⟨_, ⟨index, hfirst, rfl⟩, rfl⟩
        exact ⟨index + 1, (isFirstSeparator_cons_succ hstep).mpr ⟨hnot, hfirst⟩, rfl⟩
      · rintro ⟨index, hfirst, rfl⟩
        cases index with
        | zero => exact absurd (isFirstSeparator_cons_zero.mp hfirst) hnot
        | succ index =>
          exact ⟨_, ⟨index, ((isFirstSeparator_cons_succ hstep).mp hfirst).2, rfl⟩, rfl⟩

end Separator

/-- Where the members of a body start.  In an enumeration they start behind the first `;` outside of
all brackets, and there are none without it. -/
def IsMembersStart (kind : TypeKind) (bytes : List UInt8) (opening close start : Nat) : Prop :=
  match kind with
  | .enumType => ∃ index, IsFirstSeparator [] (bytes.extract (opening + 1) close) index ∧
      start = opening + 1 + (index + 1)
  | _ => start = opening + 1

/-- Whether the brace at `opening` is the only one that is open at an offset behind it. -/
def AtOwnLevel (bytes : List UInt8) (opening offset : Nat) : Prop :=
  ClosesBraces [] (bytes.extract (opening + 1) offset)

section Bodies

variable {kind : TypeKind} {bytes : List UInt8} {opening close start offset : Nat}
  {span : MethodSpan}

theorem membersStart?_eq_some_iff (hnested : IsWellNested (bytes.extract (opening + 1) close)) :
    membersStart? kind bytes opening close = some start ↔
      IsMembersStart kind bytes opening close start := by
  have hbody : (bytes.take close).drop (opening + 1) = bytes.extract (opening + 1) close := by
    rw [List.extract_eq_take_drop, List.drop_take]
  cases kind with
  | enumType =>
    have hfirst (distance : Nat) :
        membersDistance? 0 (bytes.extract (opening + 1) close) = some distance ↔
          ∃ index, IsFirstSeparator [] (bytes.extract (opening + 1) close) index ∧
            distance = index + 1 :=
      membersDistance?_eq_some_iff hnested
    simp only [membersStart?, hbody, Option.map_eq_some_iff, IsMembersStart]
    constructor
    · rintro ⟨distance, hdistance, rfl⟩
      obtain ⟨index, hindex, rfl⟩ := (hfirst distance).mp hdistance
      exact ⟨index, hindex, rfl⟩
    · rintro ⟨index, hindex, rfl⟩
      exact ⟨index + 1, (hfirst _).mpr ⟨index, hindex, rfl⟩, rfl⟩
  | _ => simp [membersStart?, IsMembersStart, eq_comm]

theorem IsMembersStart.pending?_eq (hstart : IsMembersStart kind bytes opening close start) :
    pending? [] (bytes.extract (opening + 1) start) = some [] := by
  cases kind with
  | enumType =>
    obtain ⟨index, hfirst, rfl⟩ := hstart
    obtain ⟨hindex, hsemicolon⟩ := getElem?_of_extract hfirst.semicolon_at
    have hconstants := hfirst.pending?_eq
    rw [take_extract (Nat.le_of_lt hindex)] at hconstants
    rw [← extract_append_extract (Nat.le_add_right (opening + 1) index)
      (Nat.add_le_add_left (Nat.le_succ index) _), pending?_append, hconstants,
      extract_eq_cons hsemicolon (by omega), Nat.add_assoc, extract_eq_nil]
    rfl
  | _ =>
    obtain rfl := hstart
    rw [extract_eq_nil]
    rfl

/-- Behind the constants the level of a place does not depend on them. -/
theorem IsMembersStart.atOwnLevel_iff (hstart : IsMembersStart kind bytes opening close start)
    (hopening : opening < start) (hoffset : start ≤ offset) :
    AtOwnLevel bytes opening offset ↔ ClosesBraces [] (bytes.extract start offset) := by
  rw [AtOwnLevel, ← extract_append_extract hopening hoffset, ClosesBraces, pending?_append,
    hstart.pending?_eq, Option.bind_some]
  rfl

/-- The search for methods starts with the nesting of the body. -/
theorem IsMembersStart.tracks (hstart : IsMembersStart kind bytes opening close start)
    (hnested : IsWellNested (bytes.extract (opening + 1) close)) (hopening : opening < start)
    (hclose : start ≤ close) : Tracks [] 0 0 (bytes.extract start close) := by
  rw [IsWellNested, ← extract_append_extract hopening hclose, pending?_append, hstart.pending?_eq,
    Option.bind_some] at hnested
  exact Tracks.of_count hnested

theorem IsMembersStart.le_start (hstart : IsMembersStart kind bytes opening close start)
    (hbrace : bytes[opening]? = some openBrace) (hspan : span.IsMethod bytes)
    (hparen : start ≤ span.paren) : start ≤ span.start := by
  cases kind with
  | enumType =>
    obtain ⟨index, hfirst, rfl⟩ := hstart
    obtain ⟨-, hsemicolon⟩ := getElem?_of_extract hfirst.semicolon_at
    have hlt : opening + 1 + index < span.start :=
      hspan.lt_start hsemicolon (by omega) (by decide) (by decide)
    omega
  | _ =>
    obtain rfl := hstart
    exact hspan.lt_start hbrace hparen (by decide) (by decide)

theorem MethodSpan.IsMethod.pending?_extract (hspan : span.IsMethod bytes)
    (pending : List UInt8) :
    pending? pending (bytes.extract span.start span.paren) = some pending := by
  apply pending?_eq_of_forall
  rw [← extract_append_extract (Nat.le_of_lt hspan.start_lt_nameStop) hspan.nameStop_le_paren]
  intro byte hmem
  rcases List.mem_append.mp hmem with hname | hgap
  · exact not_bracket_of_property rfl (hspan.isIdentifier_of_mem byte hname)
  · exact not_bracket_of_property rfl (hspan.isBlank_of_mem byte hgap)

theorem methodSpans_eq_extract (hstart : start ≤ bytes.length) :
    methodSpans bytes start close =
      methodSpansFrom 0 0 (bytes.take start).reverse (bytes.take start).reverse.length
        (bytes.extract start close) := by
  rw [methodSpans, List.length_reverse, List.length_take, Nat.min_eq_left hstart,
    List.extract_eq_take_drop, List.drop_take]

/-- A candidate at the level of the body is captured, or it stands inside of a captured method. -/
theorem IsMembersStart.exists_captured (hstart : IsMembersStart kind bytes opening close start)
    (hnested : IsWellNested (bytes.extract (opening + 1) close)) (hopening : opening < start)
    (hle : start ≤ offset) (hclose : offset < close) (hparen : bytes[offset]? = some openParen)
    (hlevel : AtOwnLevel bytes opening offset)
    (hspan : methodAt? (bytes.take offset).reverse offset ((bytes.take close).drop (offset + 1)) =
      some span) :
    ∃ captured ∈ methodSpans bytes start close,
      captured = span ∨ captured.paren < offset ∧ offset < captured.close := by
  obtain ⟨hoffset, -⟩ := List.getElem?_eq_some_iff.mp hparen
  have hsplit : bytes.extract start close =
      bytes.extract start offset ++ openParen :: bytes.extract (offset + 1) close := by
    rw [← extract_eq_cons hparen hclose, extract_append_extract hle (Nat.le_of_lt hclose)]
  have hbefore : (bytes.extract start offset).reverse ++ (bytes.take start).reverse =
      (bytes.take offset).reverse := by
    rw [← List.reverse_append]
    exact congrArg _ (extract_append_extract (Nat.zero_le start) hle)
  have hplace : (bytes.take start).reverse.length + (bytes.extract start offset).length =
      offset := by
    have hlength := congrArg List.length hbefore
    simp only [List.length_append, List.length_reverse, List.length_take] at hlength ⊢
    omega
  have hback : (bytes.take close).drop (offset + 1) = bytes.extract (offset + 1) close := by
    rw [List.extract_eq_take_drop, List.drop_take]
  have htracks := hstart.tracks hnested hopening (by omega)
  rw [hsplit] at htracks
  rw [hstart.atOwnLevel_iff hopening hle] at hlevel
  rw [← hbefore, hback] at hspan
  have hfound := htracks.exists_of_methodAt? (bytes.take start).reverse (Nat.zero_le _) hlevel
    (by rwa [hplace])
  rwa [← hsplit, hplace, ← methodSpans_eq_extract (by omega)] at hfound

theorem AtOwnLevel.outside {inner innerClose : Nat} (hlevel : AtOwnLevel bytes opening offset)
    (hinner : opening < inner) (hclose : closingBrace bytes inner = some innerClose) :
    offset ≤ inner ∨ innerClose < offset := by
  refine Decidable.byContradiction fun hinside => ?_
  obtain ⟨-, hbrace, -⟩ := closingDelimiter_eq_some hclose
  obtain ⟨later, hlater, hnotMem⟩ := hlevel
  rw [← extract_append_extract hinner (by omega), extract_eq_cons hbrace (by omega)] at hlater
  obtain ⟨lower, -, hbody⟩ := exists_of_pending?_append hlater
  obtain ⟨inBody, hstep, hinBody⟩ := exists_of_pending?_cons hbody
  obtain rfl : closeBrace :: lower = inBody := Option.some.inj hstep
  rw [List.extract_eq_take_drop] at hinBody
  obtain ⟨above, rfl⟩ := exists_above_of_closingFrom [] rfl
    ((closingDelimiter_of_opener hbrace).symm.trans hclose) (by omega) hinBody
  exact hnotMem (by simp)

end Bodies

/-! ## Declarations -/

namespace IsComplete

variable {bytes : List UInt8} {head : Head} {opening close : Nat} {span : MethodSpan}

theorem exists_isMembersStart (hcomplete : IsComplete bytes head opening close)
    (hnested : IsWellNested (bytes.extract (opening + 1) close))
    (hspan : span ∈ bodyMethodSpans head.kind bytes opening close) :
    ∃ start, IsMembersStart head.kind bytes opening close start ∧ start ≤ span.start ∧
      span ∈ methodSpans bytes start close := by
  have hlength := hcomplete.close_lt_length
  have hmethod := (hcomplete.bodyMethodSpans_spec.1 span hspan).1
  unfold bodyMethodSpans at hspan
  split at hspan
  · rename_i start hstart
    have hle := (membersStart?_bounds hcomplete.opening_lt_close hstart).2
    have hmembers := (membersStart?_eq_some_iff hnested).mp hstart
    refine ⟨start, hmembers, ?_, hspan⟩
    rw [methodSpans_eq_extract (by omega)] at hspan
    have hparen := ((methodSpansFrom_spec _ _ _ _).1 span hspan).2
    rw [List.length_reverse, List.length_take, Nat.add_zero] at hparen
    exact hmembers.le_start hcomplete.openBrace_at hmethod (by omega)
  · exact absurd hspan List.not_mem_nil

/-- A method starts where no brace but that of the body is open. -/
theorem atOwnLevel_of_mem (hcomplete : IsComplete bytes head opening close)
    (hnested : IsWellNested (bytes.extract (opening + 1) close))
    (hspan : span ∈ bodyMethodSpans head.kind bytes opening close) :
    AtOwnLevel bytes opening span.start := by
  obtain ⟨hmethod, -, hend⟩ := hcomplete.bodyMethodSpans_spec.1 span hspan
  obtain ⟨start, hmembers, hle, hfound⟩ := hcomplete.exists_isMembersStart hnested hspan
  obtain ⟨hopening, hstart⟩ := membersStart?_bounds hcomplete.opening_lt_close
    ((membersStart?_eq_some_iff hnested).mpr hmembers)
  have hlength := hcomplete.close_lt_length
  have hname := hmethod.start_lt_nameStop
  have hgap := hmethod.nameStop_le_paren
  have hbody := hmethod.paren_lt_close
  have hbefore : (bytes.take start).reverse.length = start := by
    rw [List.length_reverse, List.length_take]
    omega
  rw [methodSpans_eq_extract (by omega)] at hfound
  have hlevel := (hmembers.tracks hnested hopening hstart).closesBraces_of_mem _ hfound
  rw [hbefore, take_extract (by omega), Nat.add_sub_cancel' (by omega),
    ← hmembers.atOwnLevel_iff hopening (by omega)] at hlevel
  -- Between the start and the parameters stands no bracket.
  obtain ⟨later, hlater, hnotMem⟩ := hlevel
  rw [← extract_append_extract (show opening + 1 ≤ span.start by omega)
    (show span.start ≤ span.paren by omega)] at hlater
  obtain ⟨next, hnext, hrest⟩ := exists_of_pending?_append hlater
  obtain rfl : next = later := Option.some.inj ((hmethod.pending?_extract next).symm.trans hrest)
  exact ⟨next, hnext, hnotMem⟩

end IsComplete

/-- What the search for the methods of a body captures.  Every method starts among the members of
the body, at the level of the body and so in no inner body.  A candidate among the members at that
level is captured itself, or it lies inside of a method that is. -/
structure CapturesOwnLevel (bytes : List UInt8) (declarations : List Declaration) (kind : TypeKind)
    (opening close : Nat) : Prop where
  isMember : ∀ span ∈ bodyMethodSpans kind bytes opening close,
    ∃ start, IsMembersStart kind bytes opening close start ∧ start ≤ span.start
  atOwnLevel : ∀ span ∈ bodyMethodSpans kind bytes opening close,
    AtOwnLevel bytes opening span.start
  outside_inner : ∀ span ∈ bodyMethodSpans kind bytes opening close,
    ∀ inner ∈ declarations, ∀ innerClose, inner.closing? = some innerClose →
      opening < inner.opening → innerClose < close →
      span.start < inner.opening ∨ innerClose < span.start
  exists_captured : ∀ start paren span, IsMembersStart kind bytes opening close start →
    start ≤ paren → paren < close → bytes[paren]? = some openParen →
    AtOwnLevel bytes opening paren →
    methodAt? (bytes.take paren).reverse paren ((bytes.take close).drop (paren + 1)) = some span →
    ∃ captured ∈ bodyMethodSpans kind bytes opening close,
      captured = span ∨ captured.paren < paren ∧ paren < captured.close

/-- Where a body nests its parentheses and braces, its methods are captured exactly at its own
level. -/
theorem capturesOwnLevel_of_mem_declarations {masked : List Char} {declaration : Declaration}
    {close : Nat} (hmem : declaration ∈ declarations masked)
    (hclose : declaration.closing? = some close)
    (hnested : IsWellNested ((Utf8.encode masked).extract (declaration.opening + 1) close)) :
    CapturesOwnLevel (Utf8.encode masked) (declarations masked) declaration.head.kind
      declaration.opening close := by
  have hcomplete := isComplete_of_mem_declarations hmem hclose
  constructor
  case isMember =>
    intro span hspan
    obtain ⟨start, hmembers, hle, -⟩ := hcomplete.exists_isMembersStart hnested hspan
    exact ⟨start, hmembers, hle⟩
  case atOwnLevel => exact fun span hspan => hcomplete.atOwnLevel_of_mem hnested hspan
  case outside_inner =>
    intro span hspan inner hinner innerClose hinnerClose hbehind _
    have hmethod := (hcomplete.bodyMethodSpans_spec.1 span hspan).1
    have hblock := (mem_declarations.mp hinner).2.2.trans hinnerClose
    have hbrace := (isComplete_of_mem_declarations hinner hinnerClose).openBrace_at
    rcases (hcomplete.atOwnLevel_of_mem hnested hspan).outside hbehind hblock with hle | hlt
    · -- A name starts with an identifier byte, which is no brace.
      have hne : span.start ≠ inner.opening := by
        intro hequal
        rw [← hequal] at hbrace
        have hbyte := hmethod.isIdentifier_of_mem openBrace
          (mem_extract hbrace (Nat.le_refl _) hmethod.start_lt_nameStop)
        contradiction
      exact Or.inl (Nat.lt_of_le_of_ne hle hne)
    · exact Or.inr hlt
  case exists_captured =>
    intro start paren span hmembers hle hend hparen hlevel hspan
    have hstart := (membersStart?_eq_some_iff hnested).mpr hmembers
    have hopening := (membersStart?_bounds hcomplete.opening_lt_close hstart).1
    rw [bodyMethodSpans, hstart]
    exact hmembers.exists_captured hnested hopening hle hend hparen hlevel hspan

/-- An enumeration whose constant has a body, with a method and an inner class behind the
constants. -/
def enumWithInnerClass : List Char :=
  ("enum A \x7b X(1) \x7b int f() \x7b \x7d \x7d; void g() \x7b \x7d " ++
    "class B \x7b void h() \x7b \x7d \x7d \x7d").toList

/-- Only the method between the constants and the inner class is captured. -/
theorem capturesOwnLevel_enumWithInnerClass :
    (⟨⟨.enumType, "A", 0, 6⟩, 7, some 69⟩ : Declaration) ∈ declarations enumWithInnerClass ∧
      IsWellNested ((Utf8.encode enumWithInnerClass).extract (7 + 1) 69) ∧
      bodyMethodSpans .enumType (Utf8.encode enumWithInnerClass) 7 69 = [⟨36, 37, 37, 42⟩] ∧
      CapturesOwnLevel (Utf8.encode enumWithInnerClass) (declarations enumWithInnerClass)
        .enumType 7 69 := by
  have hmem : (⟨⟨.enumType, "A", 0, 6⟩, 7, some 69⟩ : Declaration) ∈
      declarations enumWithInnerClass := by decide +kernel
  have hnested : IsWellNested ((Utf8.encode enumWithInnerClass).extract (7 + 1) 69) := by
    decide +kernel
  exact ⟨hmem, hnested, by decide +kernel, capturesOwnLevel_of_mem_declarations hmem rfl hnested⟩

end Java

end JavaDiff
