import JavaDiff.Diff.Summary
import JavaDiff.Proofs.Counter

/-!
# What a summary counts

A counter of a summary counts the records of its kind and change.  The text of a summary has
no parenthesis, so what a report adds in parentheses cannot be taken for a part of it.
-/

namespace JavaDiff

namespace Tally

@[simp]
theorem count_zero (change : Change) : zero.count change = 0 := by
  cases change <;> rfl

@[simp]
theorem count_record (tally : Tally) (change counted : Change) :
    (tally.record change).count counted =
      tally.count counted + if change = counted then 1 else 0 := by
  cases change <;> cases counted <;> simp [record, count]

end Tally

namespace Record

/-- Whether a record is that of a type with a change. -/
def isTypeWith (change : Change) : Record → Bool
  | ofType type => type.change = change
  | ofMethod _ => false

/-- Whether a record is that of a method with a change. -/
def isMethodWith (change : Change) : Record → Bool
  | ofType _ => false
  | ofMethod method => method.change = change

end Record

namespace Summary

/-- One more record adds one to the counter of its kind and change, and to no other. -/
theorem count_record (summary : Summary) (record : Record) (change : Change) :
    (summary.record record).types.count change =
        summary.types.count change + (if record.isTypeWith change then 1 else 0) ∧
      (summary.record record).methods.count change =
        summary.methods.count change + (if record.isMethodWith change then 1 else 0) := by
  cases record <;> simp [Summary.record, Record.isTypeWith, Record.isMethodWith]

theorem count_foldl_record (summary : Summary) (records : List Record) (change : Change) :
    (records.foldl record summary).types.count change =
        summary.types.count change + UInt32.ofNat (records.countP (·.isTypeWith change)) ∧
      (records.foldl record summary).methods.count change =
        summary.methods.count change + UInt32.ofNat (records.countP (·.isMethodWith change)) := by
  induction records generalizing summary with
  | nil => exact ⟨(UInt32.add_zero _).symm, (UInt32.add_zero _).symm⟩
  | cons first records ih =>
    obtain ⟨htypes, hmethods⟩ := ih (summary.record first)
    obtain ⟨htype, hmethod⟩ := summary.count_record first change
    rw [List.foldl_cons, List.countP_cons, List.countP_cons, htypes, hmethods, htype, hmethod,
      UInt32.ofNat_add, UInt32.ofNat_add, UInt32.add_assoc, UInt32.add_assoc]
    constructor
    · cases first.isTypeWith change <;> simp [UInt32.add_comm]
    · cases first.isMethodWith change <;> simp [UInt32.add_comm]

theorem countsTo_ofRecords (records : List Record) (change : Change) :
    CountsTo ((ofRecords records).types.count change) (records.countP (·.isTypeWith change)) ∧
      CountsTo ((ofRecords records).methods.count change)
        (records.countP (·.isMethodWith change)) := by
  obtain ⟨htypes, hmethods⟩ := count_foldl_record zero records change
  rw [ofRecords, htypes, hmethods]
  simp [zero, countsTo_ofNat]

end Summary

theorem notMem_toList_intercalate {character : Char} {separator : String}
    (hseparator : character ∉ separator.toList) {parts : List String}
    (hparts : ∀ part ∈ parts, character ∉ part.toList) :
    character ∉ (separator.intercalate parts).toList := by
  induction parts with
  | nil => exact List.not_mem_nil
  | cons first parts ih =>
    obtain ⟨hfirst, hrest⟩ := List.forall_mem_cons.mp hparts
    cases parts with
    | nil => simpa using hfirst
    | cons second parts =>
      rw [String.intercalate_cons_cons, String.toList_append, String.toList_append,
        List.mem_append, List.mem_append]
      rintro ((hmem | hmem) | hmem)
      · exact hfirst hmem
      · exact hseparator hmem
      · exact ih hrest hmem

theorem openParen_notMem_toDigits (count : Nat) : '(' ∉ Nat.toDigits 10 count := by
  intro hmem
  exact absurd (Nat.isDigit_of_mem_toDigits (by decide) (by decide) hmem) (by decide)

theorem Tally.openParen_notMem_text? {tally : Tally} {label text : String}
    (hlabel : '(' ∉ label.toList) (htext : tally.text? label = some text) : '(' ∉ text.toList := by
  have hcounts (changes : List Change) : '(' ∉ (", ".intercalate (changes.map fun change =>
      s!"{tally.count change} {change.name}")).toList := by
    apply notMem_toList_intercalate (by decide)
    intro part hpart
    obtain ⟨change, -, rfl⟩ := List.mem_map.mp hpart
    have hname : '(' ∉ change.name.toList := by cases change <;> decide
    simpa [openParen_notMem_toDigits, ToString.toString] using hname
  rw [text?] at htext
  split at htext
  · cases htext
  · obtain rfl := Option.some.inj htext
    simpa [hlabel] using hcounts _

theorem Summary.openParen_notMem_text (summary : Summary) : '(' ∉ summary.text.toList := by
  rw [text]
  split
  · decide
  · apply notMem_toList_intercalate (by decide)
    intro part hpart
    obtain ⟨text?, hmem, rfl⟩ := List.mem_filterMap.mp hpart
    simp only [List.mem_cons, List.not_mem_nil, or_false] at hmem
    rcases hmem with htypes | hmethods
    · exact Tally.openParen_notMem_text? (by decide) htypes.symm
    · exact Tally.openParen_notMem_text? (by decide) hmethods.symm

end JavaDiff
