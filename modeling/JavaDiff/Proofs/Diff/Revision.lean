import JavaDiff.Diff.Revision
import JavaDiff.Proofs.Diff.Compare
import JavaDiff.Proofs.Java.Skeleton

/-!
# Comparing outlined revisions

The comparison of two revisions succeeds only if both can be outlined, and then it is the comparison
of their outlines.  For Java revisions it needs no more than that, since every skeleton it looks at
exists.
-/

namespace JavaDiff

theorem Java.skeletonsExist_of_isOutline {base head : String} {older newer : Outline}
    (hbase : IsOutline base older) (hhead : IsOutline head newer) (settings : Settings) :
    SkeletonsExist settings older newer := by
  intro name first second hfirst hsecond _ _
  obtain ⟨kept, hkept, -⟩ := (hbase.holdsMethods hfirst).exists_skeleton
  obtain ⟨other, hother, -⟩ := (hhead.holdsMethods hsecond).exists_skeleton
  exact ⟨⟨kept, hkept⟩, other, hother⟩

namespace Language

variable {base head : Revision} {older newer : Outline}

theorem skeletonsExist_of_java_outlineOf (hbase : java.outlineOf base = .ok older)
    (hhead : java.outlineOf head = .ok newer) (settings : Settings) :
    SkeletonsExist settings older newer :=
  Java.skeletonsExist_of_isOutline (isOutline_of_java_outlineOf hbase)
    (isOutline_of_java_outlineOf hhead) settings

theorem diff_eq_compareOutlines {language : Language} (hbase : language.outlineOf base = .ok older)
    (hhead : language.outlineOf head = .ok newer) (settings : Settings) :
    language.diff settings base head = compareOutlines settings older newer := by
  rw [diff, outlinePair, hbase, hhead]
  rfl

/-- A comparison that succeeds has outlined both revisions. -/
theorem exists_outlineOf_of_diff_eq_ok {language : Language} {settings : Settings}
    {records : List Record} (hdiff : language.diff settings base head = .ok records) :
    ∃ older newer, language.outlineOf base = .ok older ∧ language.outlineOf head = .ok newer ∧
      compareOutlines settings older newer = .ok records := by
  cases hbase : language.outlineOf base with
  | error error =>
    rw [diff, outlinePair, hbase] at hdiff
    cases hdiff
  | ok older =>
    cases hhead : language.outlineOf head with
    | error error =>
      rw [diff, outlinePair, hbase, hhead] at hdiff
      cases hdiff
    | ok newer =>
      rw [diff_eq_compareOutlines hbase hhead] at hdiff
      exact ⟨older, newer, rfl, rfl, hdiff⟩

theorem report_eq_error_iff {language : Language} {settings : Settings} {duration : Double}
    {error : Error} :
    language.report settings base head duration = .error error ↔
      language.diff settings base head = .error error := by
  rw [report, diff]
  cases houtlines : language.outlinePair base head with
  | error cause => simp [bind, Except.bind]
  | ok outlines =>
    obtain ⟨older, newer⟩ := outlines
    cases hrecords : compareOutlines settings older newer with
    | error cause => simp [bind, Except.bind, hrecords]
    | ok records => simp [bind, Except.bind, hrecords, pure, Except.pure]

theorem report_eq_ok {language : Language} {settings : Settings} {records : List Record}
    (hbase : language.outlineOf base = .ok older) (hhead : language.outlineOf head = .ok newer)
    (hrecords : compareOutlines settings older newer = .ok records) (duration : Double) :
    language.report settings base head duration =
      .ok ((Report.ofRecords (if head.filename = "" then base.filename else head.filename) records
        duration).withIssues
          (older.issues.map (·.onSide .base) ++ newer.issues.map (·.onSide .head))) := by
  rw [report, outlinePair, hbase, hhead]
  simp only [bind, Except.bind, Except.mapError, pure, Except.pure, hrecords]

end Language

end JavaDiff
