import MetricRelay.Proofs.Metric.Histogram
import MetricRelay.Proofs.Number.Reading
import MetricRelay.Proofs.Sender.Distribution

/-!
# The series of a distribution

A distribution that is accepted brings a series for each of its totals and one for each of its
buckets (`Session.recordDistribution_adds`).  No two buckets share a series, since a bound is
determined by its text (`Session.eq_of_boundText_eq`): the text of a finite bound is read back bit
for bit, and the texts of the infinite ones are no numerals.
-/

namespace MetricRelay

/-! ### Bounds and their texts -/

namespace Binary64

theorem isInfinite_of_not_isFinite {x : Binary64} (number : x.isNaN = false)
    (infinite : x.isFinite = false) : x.isInfinite = true := by
  simp only [isNaN, isFinite, isInfinite, decide_eq_false_iff_not, beq_iff_eq] at *
  omega

theorem eq_infinity_of_isInfinite {x : Binary64} (h : x.isInfinite = true) :
    x = infinity x.isNegative := by
  have bits : x.magnitude = infinityBits := by simpa [isInfinite] using h
  rw [infinity, ← bits, ofMagnitude_magnitude]

end Binary64

namespace Session

theorem boundText_of_isFinite {x : Binary64} (finite : x.isFinite = true) :
    boundText x = x.plainText := by
  simp [boundText, Binary64.isInfinite_of_isFinite finite]

theorem boundText_infinity : ∀ isNegative,
    boundText (.infinity isNegative) = if isNegative then "-inf" else "+Inf" := by
  decide

/-- The text of a finite bound is read back, and that of an infinite one is no numeral. -/
theorem read?_boundText {x : Binary64} (number : x.isNaN = false) :
    (Numeral.read? (boundText x).toList).map (·.toBinary64) =
      if x.isFinite then some x else none := by
  cases finite : x.isFinite with
  | true =>
    rw [boundText_of_isFinite finite, Binary64.read?_plainText finite]
    rfl
  | false =>
    have infinite := Binary64.isInfinite_of_not_isFinite number finite
    rw [Binary64.eq_infinity_of_isInfinite infinite, boundText_infinity]
    cases x.isNegative <;> decide

/-- **A bound is determined by its text.** -/
theorem eq_of_boundText_eq {x y : Binary64} (hx : x.isNaN = false) (hy : y.isNaN = false)
    (same : boundText x = boundText y) : x = y := by
  have read : (if x.isFinite then some x else none) = if y.isFinite then some y else none := by
    rw [← read?_boundText hx, same, read?_boundText hy]
  cases finite : x.isFinite <;> cases finite' : y.isFinite <;>
    rw [finite, finite'] at read
  · have hx := Binary64.eq_infinity_of_isInfinite (Binary64.isInfinite_of_not_isFinite hx finite)
    have hy := Binary64.eq_infinity_of_isInfinite (Binary64.isInfinite_of_not_isFinite hy finite')
    rw [hx, hy, boundText_infinity, boundText_infinity] at same
    have sign : x.isNegative = y.isNegative := by
      revert same
      generalize x.isNegative = a, y.isNegative = b
      revert a b
      decide
    rw [hx, hy, sign]
  · cases read
  · cases read
  · exact Option.some.inj read

/-- What determines the bound of a bucket is different for different bounds. -/
theorem nodup_map_upperBound {α : Type} {f : Binary64 → α}
    (determined : ∀ {x y}, x.isNaN = false → y.isNaN = false → f x = f y → x = y)
    {buckets : List Bucket} (numbers : ∀ b ∈ buckets, b.upperBound.isNaN = false)
    (distinct : (buckets.map (·.upperBound)).Nodup) :
    (buckets.map fun b => f b.upperBound).Nodup := by
  have number : ∀ x ∈ buckets.map (·.upperBound), x.isNaN = false := by simpa using numbers
  have := distinct.map_on fun x hx y hy same => determined (number x hx) (number y hy) same
  rwa [List.map_map] at this

/-! ### Writes to new series -/

section Fresh

variable {s : Session} {ws : List Write}

theorem after_of_fresh {w : Write} (fresh : Keyed.get? w.series s.entries = none) :
    (s.after w).entries = Keyed.put w.series w.entry s.entries := by
  rw [after, fresh]
  rfl

/-- Writes to different series that are all new are added to what is there. -/
theorem perm_foldl_after (distinct : (ws.map Write.series).Nodup)
    (fresh : ∀ w ∈ ws, Keyed.get? w.series s.entries = none) :
    (ws.foldl after s).entries.Perm (ws.map (fun w => (w.series, w.entry)) ++ s.entries) := by
  induction ws generalizing s with
  | nil => exact .refl _
  | cons w ws ih =>
    obtain ⟨apart, distinct⟩ := List.nodup_cons.1 distinct
    obtain ⟨first, later⟩ := List.forall_mem_cons.1 fresh
    have entries_eq := after_of_fresh first
    have still : ∀ v ∈ ws, Keyed.get? v.series (s.after w).entries = none := fun v hv => by
      have other : v.series ≠ w.series := fun same => apart (same ▸ List.mem_map_of_mem hv)
      rw [entries_eq, Keyed.get?_put_of_ne other, later v hv]
    have rest := ih distinct still
    rw [entries_eq] at rest
    exact rest.trans (((Keyed.put_perm first w.entry).append_left _).trans List.perm_middle)

/-- Each of them is found. -/
theorem get?_foldl_after_of_mem (distinct : (ws.map Write.series).Nodup) {w : Write}
    (hw : w ∈ ws) (fresh : Keyed.get? w.series s.entries = none) :
    Keyed.get? w.series (ws.foldl after s).entries = some w.entry := by
  obtain ⟨before, behind, rfl⟩ := List.append_of_mem hw
  rw [List.map_append, List.map_cons, List.nodup_middle, List.nodup_cons, List.mem_append,
    not_or] at distinct
  obtain ⟨⟨notBefore, notBehind⟩, -⟩ := distinct
  have earlier : ∀ v ∈ before, v.series ≠ w.series := fun v hv same =>
    notBefore (same ▸ List.mem_map_of_mem hv)
  have later : ∀ v ∈ behind, v.series ≠ w.series := fun v hv same =>
    notBehind (same ▸ List.mem_map_of_mem hv)
  have first := (get?_foldl_after_of_ne s earlier).trans fresh
  rw [List.foldl_append, List.foldl_cons, get?_foldl_after_of_ne _ later, after_of_fresh first,
    Keyed.get?_put_self]

/-- What writes to different new series come to. -/
theorem foldl_after_adds {added : List (Series × Kind × Value)}
    (added_eq : ws.map (fun w => (w.series, w.entry)) = added)
    (distinct : (added.map Prod.fst).Nodup)
    (fresh : ∀ e ∈ added, Keyed.get? e.1 s.entries = none) :
    (ws.foldl after s).entries.Perm (added ++ s.entries) ∧
      ∀ series,
        (∀ e, (series, e) ∈ added → Keyed.get? series (ws.foldl after s).entries = some e) ∧
        (series ∉ added.map Prod.fst →
          Keyed.get? series (ws.foldl after s).entries = Keyed.get? series s.entries) := by
  subst added_eq
  rw [List.forall_mem_map] at fresh
  have keys_eq : (ws.map fun w => (w.series, w.entry)).map Prod.fst = ws.map Write.series := by
    rw [List.map_map]
    rfl
  rw [keys_eq] at distinct ⊢
  refine ⟨perm_foldl_after distinct fresh, fun series => ⟨fun e he => ?_, fun other => ?_⟩⟩
  · obtain ⟨w, hw, same⟩ := List.mem_map.1 he
    cases same
    exact get?_foldl_after_of_mem distinct hw (fresh w hw)
  · exact get?_foldl_after_of_ne s fun w hw same => other (same ▸ List.mem_map_of_mem hw)

end Fresh

/-! ### What a distribution brings -/

/-- The series of the bucket with a bound. -/
def bucketSeries (source name : String) (dimensions : List (String × String))
    (upperBound : Binary64) : Series :=
  ⟨source, name ++ ".bucket", Keyed.ofList (dimensions ++ [("upper_bound", boundText upperBound)])⟩

/-- The count, the sum and the greatest value of a distribution, and each of its buckets in a
series of its own. -/
def distributionEntries (source name : String) (kind : Kind) (snapshot : Snapshot)
    (dimensions : List (String × String)) : List (Series × Kind × Value) :=
  [(⟨source, name ++ ".count", Keyed.ofList dimensions⟩, kind, countValue snapshot),
    (⟨source, name ++ ".sum", Keyed.ofList dimensions⟩, kind, .float snapshot.total),
    (⟨source, name ++ ".max", Keyed.ofList dimensions⟩, .gauge, .float snapshot.max)] ++
  snapshot.buckets.map fun b =>
    (bucketSeries source name dimensions b.upperBound, kind, .float b.count)

variable {source name : String} {kind : Kind} {dimensions : List (String × String)}

theorem map_parts (snapshot : Snapshot) :
    (parts source name kind snapshot dimensions).map (fun w => (w.series, w.entry)) =
      distributionEntries source name kind snapshot dimensions := by
  rw [parts_eq, List.map_append, List.map_map]
  rfl

theorem length_distributionEntries (snapshot : Snapshot) :
    (distributionEntries source name kind snapshot dimensions).length =
      3 + snapshot.buckets.length := by
  rw [distributionEntries, List.length_append, List.length_map]
  rfl

/-- A bound is determined by the series of its bucket. -/
theorem eq_of_bucketSeries_eq {x y : Binary64} (hx : x.isNaN = false) (hy : y.isNaN = false)
    (same : bucketSeries source name dimensions x = bucketSeries source name dimensions y) :
    x = y := by
  have dimensions_eq := congrArg Series.dimensions same
  simp only [bucketSeries, Keyed.ofList_append_singleton] at dimensions_eq
  have found := congrArg (Keyed.get? "upper_bound") dimensions_eq
  rw [Keyed.get?_put_self, Keyed.get?_put_self] at found
  exact eq_of_boundText_eq hx hy (Option.some.inj found)

theorem nodup_distributionEntries {snapshot : Snapshot}
    (numbers : ∀ b ∈ snapshot.buckets, b.upperBound.isNaN = false)
    (distinct : (snapshot.buckets.map (·.upperBound)).Nodup) :
    ((distributionEntries source name kind snapshot dimensions).map Prod.fst).Nodup := by
  have buckets := nodup_map_upperBound eq_of_bucketSeries_eq numbers distinct
    (f := bucketSeries source name dimensions)
  rw [distributionEntries, List.map_append, List.map_map]
  refine List.Nodup.append (by simp) buckets fun series totals bucket => ?_
  -- the totals are named otherwise
  obtain ⟨b, -, rfl⟩ := List.mem_map.1 bucket
  simp [bucketSeries] at totals

/-- **The series of a distribution that is accepted.**  Let the bounds be different, each of them a
number or infinite (both zeros may be there), and let the session hold nothing of the series
concerned.

* The bounds of the buckets that are written are those of the snapshot.
* There is a series for each of the three totals and one for each bucket, all of them different,
  and the session has them in addition to what it had.
* Each has its own value, and nothing else is touched.
* The texts of the bounds are all different, and each stands among the dimensions of its bucket
  in addition to those that were given.  The text of a finite bound is read back bit for bit. -/
theorem recordDistribution_adds {s : Session} {name : String} {tracker : Tracker}
    {snapshot : Snapshot} {dimensions : List (String × String)}
    (numbers : ∀ b ∈ snapshot.buckets, b.upperBound.isNaN = false)
    (distinct : (snapshot.buckets.map (·.upperBound)).Nodup)
    (fresh : ∀ e ∈ distributionEntries s.defaultSource name (totalKind tracker)
      (tracker.next snapshot).2.1 dimensions, Keyed.get? e.1 s.entries = none)
    (ok : (s.recordDistribution name tracker snapshot dimensions).2.2.2 = .ok ()) :
    let emitted := (tracker.next snapshot).2.1
    let added := distributionEntries s.defaultSource name (totalKind tracker) emitted dimensions
    let after := (s.recordDistribution name tracker snapshot dimensions).1
    emitted.buckets.map (·.upperBound) = snapshot.buckets.map (·.upperBound) ∧
    (added.length = 3 + snapshot.buckets.length ∧ (added.map Prod.fst).Nodup ∧
      after.entries.Perm (added ++ s.entries)) ∧
    (∀ series,
      (∀ e, (series, e) ∈ added → Keyed.get? series after.entries = some e) ∧
      (series ∉ added.map Prod.fst →
        Keyed.get? series after.entries = Keyed.get? series s.entries)) ∧
    (snapshot.buckets.map fun b => boundText b.upperBound).Nodup ∧
    ∀ b ∈ snapshot.buckets,
      (Keyed.ofList (dimensions ++ [("upper_bound", boundText b.upperBound)])).Perm
        (dimensions ++ [("upper_bound", boundText b.upperBound)]) ∧
      (b.upperBound.isFinite = true →
        (Numeral.read? (boundText b.upperBound).toList).map (·.toBinary64) =
          some b.upperBound) := by
  intro emitted added after
  have bounds : emitted.buckets.map (·.upperBound) = snapshot.buckets.map (·.upperBound) :=
    tracker.map_upperBound_next snapshot
  have same_length : emitted.buckets.length = snapshot.buckets.length := by
    simpa using congrArg List.length bounds
  have numbers' : ∀ b ∈ emitted.buckets, b.upperBound.isNaN = false := by
    have number : ∀ x ∈ emitted.buckets.map (·.upperBound), x.isNaN = false := by
      rw [bounds]
      simpa using numbers
    simpa using number
  have keys_distinct : (added.map Prod.fst).Nodup :=
    nodup_distributionEntries numbers' (bounds ▸ distinct)
  obtain ⟨perm, found⟩ := foldl_after_adds (map_parts emitted) keys_distinct fresh
  rw [← (recordDistribution_of_ok ok).2] at perm found
  refine ⟨bounds, ⟨?_, keys_distinct, perm⟩, found,
    nodup_map_upperBound eq_of_boundText_eq numbers distinct, fun b hb => ⟨?_, fun finite => ?_⟩⟩
  · rw [← same_length]
    exact length_distributionEntries emitted
  · obtain ⟨-, -, dimensioned, apart⟩ := (recordDistribution_ok_iff ..).1 ok
    have bucketed : emitted.buckets ≠ [] := by
      rw [← List.length_pos_iff, same_length]
      exact List.length_pos_of_mem hb
    exact Keyed.perm_ofList (areDimensions_append_singleton_iff.2
      ⟨dimensioned, by decide, apart.resolve_left bucketed⟩).nodup
  · rw [read?_boundText (numbers b hb), finite, if_pos rfl]

/-- A distribution over both zeros, the least value above them, the greatest finite one and both
infinities. -/
def extremeSnapshot : Snapshot :=
  { count := 6
    buckets :=
      [⟨.infinity true, .zero⟩, ⟨⟨0x8000000000000000⟩, ⟨0x3FF0000000000000⟩⟩,
        ⟨.zero, ⟨0x4000000000000000⟩⟩, ⟨.infinity false, ⟨0x4018000000000000⟩⟩, ⟨⟨1⟩, .zero⟩,
        ⟨⟨0x7FEFFFFFFFFFFFFF⟩, .zero⟩] }

theorem recordDistribution_adds_extreme :
    let s : Session :=
      { defaultSource := "web-1"
        entries := [(⟨"web-1", "latency.count", [("route", "/b")]⟩, .counter, .int 7)] }
    let tracker : Tracker := .delta { count := 2 }
    let r := s.recordDistribution "latency" tracker extremeSnapshot [("route", "/a")]
    let bucket (text : String) : Series :=
      ⟨"web-1", "latency.bucket", [("route", "/a"), ("upper_bound", text)]⟩
    r.2.2.2 = .ok () ∧ r.1.length = 10 ∧
      Keyed.get? (bucket "-0") r.1.entries = some (.counter, .float ⟨0x3FF0000000000000⟩) ∧
      Keyed.get? (bucket "0") r.1.entries = some (.counter, .float ⟨0x4000000000000000⟩) ∧
      Keyed.get? (bucket "-inf") r.1.entries = some (.counter, .float .zero) ∧
      Keyed.get? (bucket "+Inf") r.1.entries = some (.counter, .float ⟨0x4018000000000000⟩) ∧
      (Numeral.read? (boundText ⟨1⟩).toList).map (·.toBinary64) = some ⟨1⟩ := by
  intro s tracker r bucket
  have ok : r.2.2.2 = .ok () :=
    (recordDistribution_ok_iff ..).2 ⟨rfl, by decide, by decide, .inr (by decide)⟩
  obtain ⟨-, ⟨length_eq, -, perm⟩, found, -, texts⟩ :=
    @recordDistribution_adds s "latency" tracker extremeSnapshot [("route", "/a")] (by decide)
      (by decide) (by decide) ok
  refine ⟨ok, ?_, (found _).1 _ (by decide), (found _).1 _ (by decide), (found _).1 _ (by decide),
    (found _).1 _ (by decide), ?_⟩
  · rw [Session.length, perm.length_eq, List.length_append, length_eq]
    rfl
  · exact (texts ⟨⟨1⟩, .zero⟩ (by decide)).2 (by decide)

end Session
end MetricRelay
