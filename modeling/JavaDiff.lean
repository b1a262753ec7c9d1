import JavaDiff.Diff.Json
import JavaDiff.Diff.Revision
import JavaDiff.Outline.Json
import JavaDiff.Settings.Toml
import JavaDiff.Version
import JavaDiff.Proofs.NameMap
import JavaDiff.Proofs.Replacement
import JavaDiff.Proofs.Text.Boundary
import JavaDiff.Proofs.Text.Line
import JavaDiff.Proofs.Text.Sequence
import JavaDiff.Proofs.Java.Delimiter
import JavaDiff.Proofs.Java.Head
import JavaDiff.Proofs.Java.Declaration
import JavaDiff.Proofs.Java.Member
import JavaDiff.Proofs.Java.Mask
import JavaDiff.Proofs.Outcome
import JavaDiff.Proofs.Java.Place
import JavaDiff.Proofs.Java.Verbatim
import JavaDiff.Proofs.Java.Layout
import JavaDiff.Proofs.Java.Truncation
import JavaDiff.Proofs.Diff.Compare
import JavaDiff.Proofs.Diff.Similarity
import JavaDiff.Proofs.Diff.Reverse
import JavaDiff.Proofs.Outline.Skeleton
import JavaDiff.Proofs.Java.Skeleton
import JavaDiff.Proofs.Diff.Revision
import JavaDiff.Proofs.Diff.Replay
import JavaDiff.Proofs.Diff.Silence
import JavaDiff.Proofs.Java.Bounds
import JavaDiff.Proofs.Java.Lexeme
import JavaDiff.Proofs.Java.Appended
import JavaDiff.Proofs.Diff.Header
import JavaDiff.Proofs.Diff.Json
import JavaDiff.Proofs.Java.LineEnd
import JavaDiff.Proofs.Java.Account
import JavaDiff.Proofs.Java.Nesting
import JavaDiff.Proofs.Java.OwnLevel
import JavaDiff.Proofs.Java.Border
import JavaDiff.Proofs.Outline.Deletion
import JavaDiff.Proofs.Java.Remainder
import JavaDiff.Proofs.Diff.Threshold
import JavaDiff.Proofs.Diff.Flags
import JavaDiff.Proofs.Diff.Summary
import JavaDiff.Proofs.Diff.Report
import JavaDiff.Proofs.Diff.Failure
import JavaDiff.Proofs.Java.Balance
import JavaDiff.Proofs.Java.Containment
import JavaDiff.Proofs.Diff.Score
