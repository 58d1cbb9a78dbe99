import MetricRelay.Metric.Point

/-!
# Valid points

The points that drafts describe are those with a name and with dimensions in ascending order of
keys that are not empty (`Point.isValid_iff`).  Each of them has a draft that lists its
dimensions in that order (`Point.draft`), which a reader of payloads arrives at.
-/

namespace MetricRelay
namespace Point

/-- Some draft describes the point. -/
structure IsValid (p : Point) : Prop where
  named : p.name.isEmpty = false
  ascending : Keyed.Ascending p.dimensions
  keyed : ∀ e ∈ p.dimensions, e.1.isEmpty = false

/-- The draft that names all parts of a point. -/
def draft (p : Point) (allowsNonFinite : Bool) : Draft :=
  { p with allowsNonFinite }

namespace Draft

/-- Dimensions in order are added one behind the other. -/
theorem addDimensions_eq (metric : String) (ds rest : Dimensions)
    (ascending : Keyed.Ascending (ds ++ rest)) (keyed : ∀ e ∈ rest, e.1.isEmpty = false) :
    addDimensions metric ds rest = .ok (ds ++ rest) := by
  induction rest generalizing ds with
  | nil => simp [addDimensions]
  | cons e rest ih =>
    have below := ascending.lt_of_append
    have named : e.1.isEmpty = false := keyed e List.mem_cons_self
    have fresh : (Keyed.get? e.1 ds).isSome = false := by rw [Keyed.get?_eq_none below]; rfl
    simp only [addDimensions, named, fresh, Bool.false_eq_true, if_false]
    rw [Keyed.put_eq_append below, ih _ (by simpa using ascending) fun e' h' =>
      keyed e' (List.mem_cons_of_mem e h')]
    simp

/-- Whatever dimensions are added, their keys ascend and are not empty. -/
theorem of_addDimensions {metric : String} {ds rest ds' : Dimensions}
    (h : addDimensions metric ds rest = .ok ds') (ascending : Keyed.Ascending ds)
    (keyed : ∀ e ∈ ds, e.1.isEmpty = false) :
    Keyed.Ascending ds' ∧ ∀ e ∈ ds', e.1.isEmpty = false := by
  induction rest generalizing ds with
  | nil =>
    cases h
    exact ⟨ascending, keyed⟩
  | cons e rest ih =>
    unfold addDimensions at h
    split at h
    · cases h
    · rename_i named
      split at h
      · cases h
      · refine ih h (ascending.put _ _) fun e' h' => ?_
        rcases Keyed.mem_put h' with rfl | h'
        · simpa using named
        · exact keyed e' h'

end Draft

/-- The draft of a valid point describes it. -/
theorem IsValid.build_draft {p : Point} (h : p.IsValid) {allowsNonFinite : Bool}
    (finite : p.value.isFinite = true ∨ allowsNonFinite = true) :
    (p.draft allowsNonFinite).build = .ok p := by
  have allowed : (!p.value.isFinite && !allowsNonFinite) = false := by
    rcases finite with hf | hf <;> simp [hf]
  simp only [Draft.build, draft, h.named, allowed, Bool.false_eq_true, if_false]
  rw [Draft.addDimensions_eq _ [] p.dimensions h.ascending h.keyed]
  rfl

theorem isValid_of_build {d : Draft} {p : Point} (h : d.build = .ok p) : p.IsValid := by
  unfold Draft.build at h
  split at h
  · cases h
  · rename_i named
    split at h
    · cases h
    · cases hd : Draft.addDimensions d.name [] d.dimensions with
      | error e =>
        rw [hd] at h
        cases h
      | ok ds =>
        rw [hd] at h
        cases h
        obtain ⟨ascending, keyed⟩ := Draft.of_addDimensions hd List.Pairwise.nil nofun
        exact ⟨by simpa using named, ascending, keyed⟩

/-- **The valid points are those that drafts describe.** -/
theorem isValid_iff (p : Point) : p.IsValid ↔ ∃ d : Draft, d.build = .ok p :=
  ⟨fun h => ⟨_, h.build_draft (.inr rfl)⟩, fun ⟨_, h⟩ => isValid_of_build h⟩

/-! ### A point -/

/-- Two dimensions in order. -/
def sampleDimensions : Dimensions := [("host", "web-1"), ("path", "\\\"é")]

/-- A point with an empty source, dimensions and a time before the epoch. -/
def sample (kind : Kind) (value : Value) : Point :=
  ⟨"cpu.load", kind, value, some "", sampleDimensions, -1⟩

theorem isValid_sample (kind : Kind) (value : Value) : (sample kind value).IsValid where
  named := show "cpu.load".isEmpty = false by decide
  ascending := show sampleDimensions.Pairwise fun a b => compare a.1 b.1 = .lt by decide
  keyed := show ∀ e ∈ sampleDimensions, e.1.isEmpty = false by decide

end Point
end MetricRelay
