import MetricRelay.Proofs.Sender.Recording

/-!
# Distributions

A distribution is written value by value, and the dimensions of a bucket are those of the
distribution with one more.  A value that is not finite is found before anything is written, and
dimensions that no point can have are found with the first value.  But a key that is the one of
the bound of a bucket is found only when the first bucket comes, and by then the count, the sum
and the greatest value have been written (`Session.recordDistribution_cases`).
-/

namespace MetricRelay
namespace Session

/-! ### The writes of a distribution -/

section Parts

variable (source name : String) (kind : Kind) {snapshot : Snapshot}
  {dimensions : List (String × String)}

/-- The count as an integer that a value can be. -/
def countValue (snapshot : Snapshot) : Value :=
  .int (Int64.ofInt (min snapshot.count.toNat Int64.maxValue.toInt))

/-- The writes of the count, of the sum and of the greatest value. -/
def totals (source name : String) (kind : Kind) (snapshot : Snapshot)
    (dimensions : List (String × String)) : List Write :=
  [⟨source, name ++ ".count", kind, countValue snapshot, dimensions⟩,
    ⟨source, name ++ ".sum", kind, .float snapshot.total, dimensions⟩,
    ⟨source, name ++ ".max", .gauge, .float snapshot.max, dimensions⟩]

/-- The write of a bucket. -/
def bucketWrite (source name : String) (kind : Kind) (dimensions : List (String × String))
    (b : Bucket) : Write :=
  ⟨source, name ++ ".bucket", kind, .float b.count,
    dimensions ++ [("upper_bound", boundText b.upperBound)]⟩

theorem parts_eq (snapshot : Snapshot) (dimensions : List (String × String)) :
    parts source name kind snapshot dimensions = totals source name kind snapshot dimensions ++
      snapshot.buckets.map (bucketWrite source name kind dimensions) := by
  simp [totals, parts, writes, bucketWrite, Write.ofPart, countValue, Function.comp_def]

theorem isEmpty_append_eq_false (name : String) {suffix : String}
    (h : suffix.isEmpty = false) : (name ++ suffix).isEmpty = false := by
  rw [← Bool.not_eq_true] at h ⊢
  simp_all

theorem isSound_totals_iff (finite : isFinite snapshot = true) :
    ∀ w ∈ totals source name kind snapshot dimensions,
      w.draft.IsSound ↔ AreDimensions dimensions := by
  obtain ⟨⟨total, greatest⟩, -⟩ :
      (snapshot.total.isFinite = true ∧ snapshot.max.isFinite = true) ∧
        ∀ b ∈ snapshot.buckets, b.count.isFinite = true := by
    simpa [isFinite] using finite
  have iff {w : Write} {suffix : String} (named : suffix.isEmpty = false)
      (name_eq : w.name = name ++ suffix) (dimensions_eq : w.dimensions = dimensions)
      (finite : w.value.isFinite = true) : w.draft.IsSound ↔ AreDimensions dimensions := by
    refine ⟨fun h => dimensions_eq ▸ h.dimensioned, fun h => ⟨?_, .inl finite, ?_⟩⟩
    · rw [Write.draft, name_eq]
      exact isEmpty_append_eq_false name named
    · rw [Write.draft, dimensions_eq]
      exact h
  simp only [totals, List.forall_mem_cons]
  exact ⟨iff (by decide) rfl rfl rfl, iff (by decide) rfl rfl total,
    iff (by decide) rfl rfl greatest, nofun⟩

theorem isSound_bucketWrite_iff (finite : isFinite snapshot = true) :
    ∀ b ∈ snapshot.buckets, (bucketWrite source name kind dimensions b).draft.IsSound ↔
      AreDimensions dimensions ∧ "upper_bound" ∉ dimensions.map Prod.fst := by
  intro b hb
  have counted : b.count.isFinite = true := by
    simp only [isFinite, Bool.and_eq_true, List.all_eq_true] at finite
    exact finite.2 b hb
  have named : (name ++ ".bucket").isEmpty = false := isEmpty_append_eq_false name (by decide)
  constructor
  · intro h
    obtain ⟨dimensioned, -, fresh⟩ := areDimensions_append_singleton_iff.1 h.dimensioned
    exact ⟨dimensioned, fresh⟩
  · rintro ⟨dimensioned, fresh⟩
    exact ⟨named, .inl counted,
      areDimensions_append_singleton_iff.2 ⟨dimensioned, by decide, fresh⟩⟩

/-- All parts of a distribution make points if the key of the bounds is not taken. -/
theorem forall_parts_isSound_iff (finite : isFinite snapshot = true) :
    (∀ w ∈ parts source name kind snapshot dimensions, w.draft.IsSound) ↔
      AreDimensions dimensions ∧
        (snapshot.buckets = [] ∨ "upper_bound" ∉ dimensions.map Prod.fst) := by
  rw [parts_eq, List.forall_mem_append]
  constructor
  · rintro ⟨totals_sound, buckets_sound⟩
    refine ⟨(isSound_totals_iff source name kind finite _ List.mem_cons_self).1
      (totals_sound _ List.mem_cons_self), ?_⟩
    rcases hb : snapshot.buckets with _ | ⟨b, bs⟩
    · exact .inl rfl
    · have first : b ∈ snapshot.buckets := hb ▸ List.mem_cons_self
      have sound := buckets_sound _ (List.mem_map_of_mem first)
      exact .inr ((isSound_bucketWrite_iff source name kind finite b first).1 sound).2
  · rintro ⟨dimensioned, apart⟩
    refine ⟨fun w hw => (isSound_totals_iff source name kind finite w hw).2 dimensioned,
      fun w hw => ?_⟩
    obtain ⟨b, hb, rfl⟩ := List.mem_map.1 hw
    have fresh := apart.resolve_left (List.ne_nil_of_mem hb)
    exact (isSound_bucketWrite_iff source name kind finite b hb).2 ⟨dimensioned, fresh⟩

end Parts

/-! ### All or nothing -/

/-- A key of a distribution is the one of the bounds of its buckets, and there is nothing else
that would stop it. -/
structure Clashes (s : Session) (tracker : Tracker) (snapshot : Snapshot)
    (dimensions : List (String × String)) : Prop where
  isOpen : s.isClosed = false
  finite : isFinite (tracker.next snapshot).2.1 = true
  dimensioned : AreDimensions dimensions
  bucketed : (tracker.next snapshot).2.1.buckets ≠ []
  repeated : "upper_bound" ∈ dimensions.map Prod.fst

section Cases

variable {s : Session} {tracker : Tracker} {snapshot : Snapshot}
  {dimensions : List (String × String)}

/-- The parts of a distribution are written up to the first one that does not make a point. -/
theorem putAll_writes_eq (isOpen : s.isClosed = false) (name : String) (kind : Kind)
    (snapshot : Snapshot) (dimensions : List (String × String)) :
    let ws := parts s.defaultSource name kind snapshot dimensions
    let r := s.putAll (writes name kind snapshot dimensions)
    r.1 = (ws.takeWhile fun w => w.draft.IsSound).foldl after s ∧
      (r.2 = .ok () ↔ ∀ w ∈ ws, w.draft.IsSound) :=
  putAll_eq isOpen

/-- The totals are written, and the first bucket is refused. -/
theorem recordDistribution_of_clashes (h : s.Clashes tracker snapshot dimensions)
    (name : String) :
    let r := s.recordDistribution name tracker snapshot dimensions
    r.2.2.2 = .error (.invalidPoint
        (.duplicateDimensionKey (name ++ ".bucket") "upper_bound")) ∧
      r.1 = (totals s.defaultSource name (totalKind tracker) (tracker.next snapshot).2.1
        dimensions).foldl after s := by
  obtain ⟨b, bs, hb⟩ := List.exists_cons_of_ne_nil h.bucketed
  have counted : b.count.isFinite = true := by
    have finite := h.finite
    simp only [isFinite, Bool.and_eq_true, List.all_eq_true] at finite
    exact finite.2 b (hb ▸ List.mem_cons_self)
  have before := fun w hw =>
    (isSound_totals_iff s.defaultSource name (totalKind tracker) h.finite w hw).2 h.dimensioned
  have fault := Point.Draft.build_of_repeated
    (d := (bucketWrite s.defaultSource name (totalKind tracker) dimensions b).draft)
    (isEmpty_append_eq_false name (by decide)) counted rfl h.dimensioned (by decide) h.repeated
  have unsound : ¬(bucketWrite s.defaultSource name (totalKind tracker) dimensions
      b).draft.IsSound := by
    intro sound
    rw [sound.build] at fault
    cases fault
  -- the first bucket stands behind the totals
  have eq := parts_eq s.defaultSource name (totalKind tracker) (tracker.next snapshot).2.1
    dimensions
  rw [hb, List.map_cons] at eq
  rw [recordDistribution_of_isFinite h.isOpen h.finite]
  refine ⟨putAll_snd_eq_error h.isOpen eq before fault, ?_⟩
  rw [(putAll_writes_eq h.isOpen _ _ _ _).1, eq,
    List.takeWhile_append_of_pos (by simpa using before),
    List.takeWhile_cons_of_neg (by simpa using unsound), List.append_nil]

/-- A distribution whose dimensions no point can have writes nothing. -/
theorem putAll_of_not_areDimensions (isOpen : s.isClosed = false)
    (finite : isFinite snapshot = true) (undimensioned : ¬AreDimensions dimensions)
    (name : String) (kind : Kind) :
    (s.putAll (writes name kind snapshot dimensions)).1 = s := by
  have unsound := mt (isSound_totals_iff s.defaultSource name kind finite _
    List.mem_cons_self).1 undimensioned
  rw [(putAll_writes_eq isOpen _ _ _ _).1, parts_eq, totals, List.cons_append,
    List.takeWhile_cons_of_neg (by simpa using unsound)]
  rfl

variable (s tracker snapshot dimensions)

/-- When a distribution is accepted. -/
theorem recordDistribution_ok_iff (name : String) :
    (s.recordDistribution name tracker snapshot dimensions).2.2.2 = .ok () ↔
      s.isClosed = false ∧ isFinite (tracker.next snapshot).2.1 = true ∧
        AreDimensions dimensions ∧ ((tracker.next snapshot).2.1.buckets = [] ∨
          "upper_bound" ∉ dimensions.map Prod.fst) := by
  cases isOpen : s.isClosed with
  | true =>
    rw [recordDistribution_of_isClosed isOpen]
    exact iff_of_false nofun nofun
  | false =>
    by_cases finite : isFinite (tracker.next snapshot).2.1 = true
    · rw [recordDistribution_of_isFinite isOpen finite]
      refine (putAll_writes_eq isOpen _ _ _ _).2.trans ?_
      rw [forall_parts_isSound_iff _ _ _ finite]
      simp only [finite, true_and]
    · rw [recordDistribution_of_not_isFinite isOpen finite]
      exact iff_of_false nofun fun h => finite h.2.1

variable {s tracker snapshot dimensions}

/-- All parts of a distribution that is accepted are written. -/
theorem recordDistribution_of_ok {name : String}
    (ok : (s.recordDistribution name tracker snapshot dimensions).2.2.2 = .ok ()) :
    (∀ w ∈ parts s.defaultSource name (totalKind tracker) (tracker.next snapshot).2.1 dimensions,
      w.draft.IsSound) ∧
    (s.recordDistribution name tracker snapshot dimensions).1 =
      (parts s.defaultSource name (totalKind tracker) (tracker.next snapshot).2.1
        dimensions).foldl after s := by
  obtain ⟨isOpen, finite, dimensioned, apart⟩ := (recordDistribution_ok_iff ..).1 ok
  have sound := (forall_parts_isSound_iff s.defaultSource name (totalKind tracker) finite).2
    ⟨dimensioned, apart⟩
  refine ⟨sound, ?_⟩
  rw [recordDistribution_of_isFinite isOpen finite]
  refine (putAll_writes_eq isOpen _ _ _ _).1.trans ?_
  rw [List.takeWhile_eq_self_iff.2 (by simpa using sound)]

/-- Whatever else stops a distribution is found before anything is written. -/
theorem recordDistribution_of_not_clashes {name : String}
    (failed : (s.recordDistribution name tracker snapshot dimensions).2.2.2 ≠ .ok ())
    (calm : ¬s.Clashes tracker snapshot dimensions) :
    (s.recordDistribution name tracker snapshot dimensions).1 = s := by
  cases isOpen : s.isClosed with
  | true => rw [recordDistribution_of_isClosed isOpen]
  | false =>
    by_cases finite : isFinite (tracker.next snapshot).2.1 = true
    · by_cases dimensioned : AreDimensions dimensions
      · rw [ne_eq, recordDistribution_ok_iff] at failed
        obtain ⟨bucketed, repeated⟩ := not_or.1 fun apart =>
          failed ⟨isOpen, finite, dimensioned, apart⟩
        exact absurd ⟨isOpen, finite, dimensioned, bucketed, not_not.1 repeated⟩ calm
      · rw [recordDistribution_of_isFinite isOpen finite]
        exact putAll_of_not_areDimensions isOpen finite dimensioned name _
    · rw [recordDistribution_of_not_isFinite isOpen finite]

end Cases

/-- **What comes of recording a distribution.**

* It is accepted if and only if the session is open, all numbers are finite, the dimensions are
  such as a point can have and, if there are buckets, their bound has a key of its own; then all
  values are written.
* If it is refused, the session stays as it is unless there are buckets and the key of their
  bound is the only thing that is wrong.
* In that case the count, the sum and the greatest value stay written. -/
theorem recordDistribution_cases (s : Session) (name : String) (tracker : Tracker)
    (snapshot : Snapshot) (dimensions : List (String × String)) :
    let emitted := (tracker.next snapshot).2.1
    let kind := totalKind tracker
    let r := s.recordDistribution name tracker snapshot dimensions
    let answer := r.2.2.2
    (answer = .ok () ↔ s.isClosed = false ∧ isFinite emitted = true ∧
      AreDimensions dimensions ∧
        (emitted.buckets = [] ∨ "upper_bound" ∉ dimensions.map Prod.fst)) ∧
    (answer = .ok () →
      r.1 = (parts s.defaultSource name kind emitted dimensions).foldl after s) ∧
    (answer ≠ .ok () → ¬s.Clashes tracker snapshot dimensions → r.1 = s) ∧
    (s.Clashes tracker snapshot dimensions →
      answer = .error (.invalidPoint
        (.duplicateDimensionKey (name ++ ".bucket") "upper_bound")) ∧
      r.1 = (totals s.defaultSource name kind emitted dimensions).foldl after s) :=
  ⟨recordDistribution_ok_iff .., fun ok => (recordDistribution_of_ok ok).2,
    recordDistribution_of_not_clashes, fun h => recordDistribution_of_clashes h name⟩

/-- **A distribution that is refused when half of it is written.**  Its only dimension has the key
of the bounds of buckets. -/
theorem written_of_clash :
    let s : Session := { defaultSource := "web-1" }
    let snapshot : Snapshot := { count := 1, buckets := [⟨.zero, .zero⟩] }
    let r := s.recordDistribution "latency" .newDelta snapshot [("upper_bound", "1")]
    r.2.2.2 = .error (.invalidPoint (.duplicateDimensionKey "latency.bucket" "upper_bound")) ∧
      s.length = 0 ∧ r.1.length = 3 ∧
      Keyed.get? ⟨"web-1", "latency.count", [("upper_bound", "1")]⟩ r.1.entries =
        some (.counter, .int 1) := by
  decide

end Session
end MetricRelay
