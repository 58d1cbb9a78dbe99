import MetricRelay.Codec.Format
import MetricRelay.Proofs.Metric.Point
import MetricRelay.Proofs.Traversal

/-!
# Reading records

Both formats read a payload record by record, and each record gives the draft of a point.  What
was written for valid points gives drafts of these very points.
-/

namespace MetricRelay

theorem Point.IsValid.ofBuild_draft {p : Point} (h : p.IsValid) {allowsNonFinite : Bool}
    (finite : p.value.isFinite = true ∨ allowsNonFinite = true) :
    DecodeError.ofBuild (p.draft allowsNonFinite).build = .ok p := by
  rw [h.build_draft finite]
  rfl

theorem build_of_ofBuild {built : Except PointError Point} {p : Point}
    (h : DecodeError.ofBuild built = .ok p) : built = .ok p := by
  cases built with
  | error e => cases h
  | ok q =>
    cases h
    rfl

end MetricRelay
