import MetricRelay.Codec
import MetricRelay.Proofs.Codec.Format
import MetricRelay.Proofs.Json.Parser

/-!
# JSON payloads are read back

What `JsonPayload.encode` writes is read as the same points, ordered by kind.  A record names
its parts once, so each part is found under its name (`JsonPayload.draft?_record`), and a payload
names each kind that occurs (`JsonPayload.payload?_payload`).  A finite number is read back bit
for bit and is never taken for an integer, since its numeral keeps a point or an exponent.
-/

namespace MetricRelay

namespace Json

theorem isWellFormed_ofString (s : String) : (ofString s).IsWellFormed := by
  refine .string fun p hp => ?_
  obtain ⟨b, -, rfl⟩ := List.mem_map.1 hp
  trivial

theorem isWellFormed_ofInt (i : ℤ) : (ofInt i).IsWellFormed :=
  .number (Numeral.isWellFormed_ofInt i)

theorem isWellFormed_ofMembers {members : List (String × Json)}
    (h : ∀ m ∈ members, m.2.IsWellFormed) : (ofMembers members).IsWellFormed := by
  refine .object (fun m hm => ?_) fun m hm => ?_
  · obtain ⟨m, -, rfl⟩ := List.mem_map.1 hm
    intro p hp
    obtain ⟨b, -, rfl⟩ := List.mem_map.1 hp
    trivial
  · obtain ⟨m, hm', rfl⟩ := List.mem_map.1 hm
    exact h m hm'

theorem isWellFormed_ofPresent {parts : List (String × Option Json)}
    (h : ∀ part ∈ parts, ∀ j, part.2 = some j → j.IsWellFormed) :
    (ofPresent parts).IsWellFormed := by
  refine isWellFormed_ofMembers fun m hm => ?_
  obtain ⟨part, hp, he⟩ := List.mem_filterMap.1 hm
  obtain ⟨j, hj, rfl⟩ := Option.map_eq_some_iff.1 he
  exact h part hp j hj

end Json

namespace JsonPayload

/-! ### Parts of a record -/

theorem text?_ofString (s : String) : text? (.ofString s) = some s := Json.Text.decode?_ofString s

theorem source?_ofString (s : String) : source? (.ofString s) = some (some s) := by
  have h : source? (.ofString s) = some <$> text? (.ofString s) := rfl
  rw [h, text?_ofString]
  rfl

theorem int64?_ofInt (i : Int64) : int64? (Numeral.ofInt i.toInt) = some i := by
  have integral : (Numeral.ofInt i.toInt).isIntegral = true := rfl
  -- a zero has no sign, so it is not taken for a negative zero
  have unsigned : ¬((Numeral.ofInt i.toInt).isNegative = true ∧ i.toInt = 0) := by
    rintro ⟨hn, hz⟩
    rw [hz] at hn
    cases hn
  have low := i.minValue_le_toInt
  have high := i.toInt_le
  unfold int64?
  rw [Numeral.toInt_ofInt]
  dsimp only
  rw [if_pos ⟨integral, unsigned, low, high⟩, Int64.ofInt_toInt]

theorem int64?_of_not_isIntegral {n : Numeral} (h : n.isIntegral = false) : int64? n = none := by
  unfold int64?
  dsimp only
  rw [if_neg]
  rintro ⟨hi, -⟩
  rw [h] at hi
  cases hi

/-- A finite value is read back, and integers and double-precision numbers stay apart. -/
theorem value?_valueNumeral {v : Value} (finite : v.isFinite = true) :
    value? (.number (valueNumeral v)) = some v := by
  cases v with
  | int i => rw [value?, valueNumeral, int64?_ofInt]
  | float x =>
    have hx : x.isFinite = true := finite
    have hf : (numberLayout.numeral x).isIntegral = false := Layout.isIntegral_numeral rfl x
    rw [value?, valueNumeral, int64?_of_not_isIntegral hf]
    dsimp only
    rw [Layout.toBinary64_numeral _ hx, if_pos hx]

theorem orDefault_dimensionsPart {ds : Dimensions} (ascending : Keyed.Ascending ds) :
    orDefault dimensions? [] (dimensionsPart ds) = some ds := by
  unfold dimensionsPart
  split
  · rename_i h
    rw [List.isEmpty_iff.1 h]
    rfl
  · rw [orDefault, Json.ofMembers, dimensions?, List.map_map]
    rw [mapM_map_eq_pure_map (g := id) fun e _ => ?_]
    · rw [List.map_id]
      exact congrArg some (Keyed.ofList_eq_self ascending)
    · simp only [Function.comp, Json.Text.decode?_ofString, text?_ofString]
      rfl

theorem orDefault_timestampPart (t : Int64) :
    orDefault timestamp? 0 (timestampPart t) = some t := by
  unfold timestampPart
  split
  · rename_i h
    rw [h]
    rfl
  · exact int64?_ofInt t

theorem orDefault_source (source : Option String) :
    orDefault source? none (source.map .ofString) = some source := by
  cases source with
  | none => rfl
  | some s => exact source?_ofString s

/-! ### Objects -/

theorem lookup_present {parts : List (String × Option Json)} (different : (parts.map (·.1)).Nodup)
    (name : String) : (Json.present parts).lookup name = (parts.lookup name).join := by
  induction parts with
  | nil => rfl
  | cons part parts ih =>
    obtain ⟨n, value⟩ := part
    obtain ⟨fresh, different⟩ := List.nodup_cons.1 different
    have hr := ih different
    have hnone : Json.present ((n, none) :: parts) = Json.present parts := rfl
    have hsome (j : Json) : Json.present ((n, some j) :: parts) = (n, j) :: Json.present parts :=
      rfl
    by_cases h : name = n
    · subst h
      -- a part that is left out is not found further behind
      have missing : parts.lookup name = none := by
        rw [List.lookup_eq_none_iff]
        intro part hp
        have : name ≠ part.1 := by
          rintro rfl
          exact fresh (List.mem_map.2 ⟨part, hp, rfl⟩)
        simpa using this
      rw [List.lookup_cons_self]
      cases value with
      | none => rw [hnone, hr, missing]; rfl
      | some j => rw [hsome, List.lookup_cons_self]; rfl
    · have hb : (name == n) = false := by simpa using h
      rw [List.lookup_cons, hb]
      cases value with
      | none => rw [hnone, hr]
      | some j => rw [hsome, List.lookup_cons, hb, hr]

theorem names_present (parts : List (String × Option Json)) :
    ((Json.present parts).map (·.1)).Sublist (parts.map (·.1)) := by
  induction parts with
  | nil => exact .slnil
  | cons part parts ih =>
    obtain ⟨name, value⟩ := part
    cases value with
    | none => exact ih.cons name
    | some j => exact ih.cons_cons name

/-- The members of an object with different known names are found under their names. -/
theorem named?_ofPresent {names : List String} {parts : List (String × Option Json)}
    (known : parts.map (·.1) = names) (different : names.Nodup) :
    ∃ members, named? names (.ofPresent parts) = some members ∧
      ∀ name, members.lookup name = (parts.lookup name).join := by
  refine ⟨Json.present parts, ?_, lookup_present (known ▸ different)⟩
  have hsub : ((Json.present parts).map (·.1)).Sublist names := known ▸ names_present parts
  have hf : (Json.present parts).filter (fun m => names.contains m.1) = Json.present parts :=
    List.filter_eq_self.2 fun m hm => by
      simpa using hsub.subset (List.mem_map_of_mem hm)
  rw [Json.ofPresent, Json.ofMembers, named?, mapM_map_eq_pure_map (g := id) fun m _ => ?_]
  · simp only [List.map_id, Option.pure_def, Option.bind_eq_bind, Option.bind_some, hf,
      if_pos (hsub.nodup different)]
  · simp only [Json.Text.decode?_ofString]
    rfl

/-! ### Records -/

theorem isWellFormed_valueNumeral (v : Value) : (valueNumeral v).IsWellFormed := by
  cases v with
  | int i => exact Numeral.isWellFormed_ofInt _
  | float x => exact numberLayout.isWellFormed_numeral x

theorem isWellFormed_record (p : Point) : (record p).IsWellFormed := by
  refine Json.isWellFormed_ofPresent fun part hp j hj => ?_
  simp only [recordParts, List.mem_cons, List.not_mem_nil, or_false] at hp
  rcases hp with rfl | rfl | rfl | rfl | rfl
  · cases hj
    exact Json.isWellFormed_ofString _
  · cases hj
    exact .number (isWellFormed_valueNumeral _)
  · dsimp only [dimensionsPart] at hj
    split at hj
    · cases hj
    · cases hj
      refine Json.isWellFormed_ofMembers fun e he => ?_
      obtain ⟨e, -, rfl⟩ := List.mem_map.1 he
      exact Json.isWellFormed_ofString _
  · dsimp only [timestampPart] at hj
    split at hj
    · cases hj
    · cases hj
      exact Json.isWellFormed_ofInt _
  · obtain ⟨s, -, rfl⟩ := Option.map_eq_some_iff.1 hj
    exact Json.isWellFormed_ofString _

/-- The record of a valid point with a finite value gives the draft of the point. -/
theorem draft?_record {p : Point} (valid : p.IsValid) (finite : p.value.isFinite = true) :
    draft? p.kind (record p) = some (p.draft false) := by
  have names : (recordParts p).map (·.1) =
      ["metric", "value", "dimensions", "timestamp", "source"] := rfl
  obtain ⟨members, hn, hl⟩ := named?_ofPresent names (by decide)
  have hmetric : members.lookup "metric" = some (.ofString p.name) := hl _
  have hvalue : members.lookup "value" = some (.number (valueNumeral p.value)) := hl _
  have hdimensions : members.lookup "dimensions" = dimensionsPart p.dimensions := hl _
  have htimestamp : members.lookup "timestamp" = timestampPart p.timestampMs := hl _
  have hsource : members.lookup "source" = p.source.map .ofString := hl _
  unfold draft?
  rw [record, hn]
  simp only [Option.bind_eq_bind, Option.bind_some, hmetric, text?_ofString, hvalue,
    value?_valueNumeral finite, hdimensions, orDefault_dimensionsPart valid.ascending, htimestamp,
    orDefault_timestampPart, hsource, orDefault_source, Option.pure_def]
  rfl

/-! ### Payloads -/

theorem isWellFormed_payload (points : List Point) : (payload points).IsWellFormed := by
  refine Json.isWellFormed_ofPresent fun part hp j hj => ?_
  obtain ⟨⟨name, kind⟩, -, rfl⟩ := List.mem_map.1 hp
  dsimp only [kindPart] at hj
  split at hj
  · cases hj
  · cases hj
    refine .array fun item hi => ?_
    obtain ⟨p, -, rfl⟩ := List.mem_map.1 hi
    exact isWellFormed_record p

/-- The points of a kind are read from its list, or from its absence. -/
theorem orDefault_kindPart {points : List Point} (valid : ∀ p ∈ points, p.IsValid)
    (finite : ∀ p ∈ points, p.value.isFinite = true) (kind : Kind) :
    orDefault (drafts? kind) [] (kindPart points kind) =
      some ((points.filter (·.kind = kind)).map (·.draft false)) := by
  have hr : ∀ p ∈ points.filter (·.kind = kind),
      draft? kind (record p) = some (p.draft false) := by
    intro p hp
    obtain ⟨hmem, hk⟩ := List.mem_filter.1 hp
    obtain rfl : p.kind = kind := by simpa using hk
    exact draft?_record (valid p hmem) (finite p hmem)
  unfold kindPart
  split
  · rename_i h
    rw [h]
    rfl
  · exact mapM_map_eq_pure_map hr

/-- The gauges, the counters and the cumulative counters, each in their order. -/
def byKind (points : List Point) : List Point :=
  points.filter (·.kind = .gauge) ++ points.filter (·.kind = .counter) ++
    points.filter (·.kind = .cumulativeCounter)

theorem mem_of_mem_byKind {points : List Point} {p : Point} (hp : p ∈ byKind points) :
    p ∈ points := by
  simp only [byKind, List.mem_append, List.mem_filter] at hp
  rcases hp with (⟨hp, -⟩ | ⟨hp, -⟩) | ⟨hp, -⟩ <;> exact hp

theorem payload?_payload {points : List Point} (valid : ∀ p ∈ points, p.IsValid)
    (finite : ∀ p ∈ points, p.value.isFinite = true) :
    payload? (payload points) = some ((byKind points).map (·.draft false)) := by
  have names : (payloadParts points).map (·.1) = kinds.map (·.1) := rfl
  obtain ⟨members, hn, hl⟩ := named?_ofPresent names (by decide)
  have hgauge : members.lookup "gauge" = kindPart points .gauge := hl _
  have hcounter : members.lookup "counter" = kindPart points .counter := hl _
  have hcumulative : members.lookup "cumulative_counter" = kindPart points .cumulativeCounter :=
    hl _
  unfold payload?
  rw [payload, hn]
  simp only [Option.bind_eq_bind, Option.bind_some, kinds, List.mapM_cons, List.mapM_nil, hgauge,
    hcounter, hcumulative, orDefault_kindPart valid finite, Option.pure_def]
  simp [byKind]

/-- What is written for finite values is read kind by kind. -/
theorem decode_print_payload {points : List Point} (valid : ∀ p ∈ points, p.IsValid)
    (finite : ∀ p ∈ points, p.value.isFinite = true) :
    decode (payload points).print = .ok (byKind points) := by
  have hb : ∀ p ∈ byKind points, DecodeError.ofBuild (p.draft false).build = .ok p := fun p hp =>
    (valid p (mem_of_mem_byKind hp)).ofBuild_draft (.inl (finite p (mem_of_mem_byKind hp)))
  have hm : ((byKind points).map (·.draft false)).mapM (fun d => DecodeError.ofBuild d.build) =
      .ok (byKind points) := by
    refine (mapM_map_eq_pure_map (g := id) fun p hp => ?_).trans ?_
    · exact hb p hp
    · rw [List.map_id]
      rfl
  -- the document gives drafts, and each of them builds its point
  rw [decode, Json.parse?_print (isWellFormed_payload points)]
  simp only [Option.bind_eq_bind, Option.bind_some, payload?_payload valid finite]
  exact hm

theorem encode_of_isFinite {points : List Point}
    (finite : ∀ p ∈ points, p.value.isFinite = true) :
    encode points = .ok (payload points).print := by
  have hf : points.find? (!·.value.isFinite) = none := by
    rw [List.find?_eq_none]
    intro p hp
    simp [finite p hp]
  rw [encode, hf]

/-- The first point whose value is not finite is named. -/
theorem encode_of_not_isFinite {before after : List Point} {p : Point}
    (finite : ∀ p' ∈ before, p'.value.isFinite = true) (infinite : p.value.isFinite = false) :
    encode (before ++ p :: after) = .error (.nonFiniteValue p.name) := by
  have hf : (before ++ p :: after).find? (!·.value.isFinite) = some p := by
    refine List.find?_eq_some_iff_append.2 ⟨by simp [infinite], before, after, rfl, fun p' h' => ?_⟩
    simp [finite p' h']
  rw [encode, hf]

/-- If not all values are finite, there is a first one that is not. -/
theorem exists_first_infinite {points : List Point}
    (infinite : ∃ p ∈ points, p.value.isFinite = false) :
    ∃ before p after, points = before ++ p :: after ∧
      (∀ p' ∈ before, p'.value.isFinite = true) ∧ p.value.isFinite = false := by
  obtain ⟨q, hq, hn⟩ := infinite
  obtain ⟨p, hp⟩ : ∃ p, points.find? (!·.value.isFinite) = some p := by
    rw [← Option.isSome_iff_exists, List.find?_isSome]
    exact ⟨q, hq, by simp [hn]⟩
  obtain ⟨hpn, before, after, rfl, hbefore⟩ := List.find?_eq_some_iff_append.1 hp
  exact ⟨before, p, after, rfl, fun p' h' => by simpa using hbefore p' h', by simpa using hpn⟩

/-- **JSON payloads are read back, kind by kind.**  If all values of valid points are finite,
the points are encoded, and decoding gives the gauges, the counters and the cumulative counters,
each in their order.  Otherwise the first point whose value is not finite is named. -/
theorem json_decode_encode {points : List Point} (valid : ∀ p ∈ points, p.IsValid) :
    ((∀ p ∈ points, p.value.isFinite = true) →
      ∃ bs, Format.encode .json points = .ok bs ∧
        Format.decode .json bs = .ok (points.filter (·.kind = .gauge) ++
          points.filter (·.kind = .counter) ++
          points.filter (·.kind = .cumulativeCounter))) ∧
    ((∃ p ∈ points, p.value.isFinite = false) →
      ∃ before p after, points = before ++ p :: after ∧
        (∀ p' ∈ before, p'.value.isFinite = true) ∧ p.value.isFinite = false ∧
        Format.encode .json points = .error (.nonFiniteValue p.name)) := by
  constructor
  · intro finite
    exact ⟨_, encode_of_isFinite finite, decode_print_payload valid finite⟩
  · intro infinite
    obtain ⟨before, p, after, rfl, finite, hp⟩ := exists_first_infinite infinite
    exact ⟨before, p, after, rfl, finite, hp, encode_of_not_isFinite finite hp⟩

/-- A negative zero comes back before a counter; nothing is written if there is an infinity. -/
theorem json_decode_encode_zero :
    let p := Point.sample .gauge (.float ⟨0x8000000000000000⟩)
    let q := Point.sample .counter (.int (-3))
    let r := { Point.sample .gauge (.float ⟨0x7FF0000000000000⟩) with name := "disk.free" }
    (∃ bs, Format.encode .json [q, p] = .ok bs ∧ Format.decode .json bs = .ok [p, q]) ∧
      Format.encode .json [q, r, p] = .error (.nonFiniteValue "disk.free") := by
  intro p q r
  have valid : ∀ p' ∈ [q, p], p'.IsValid := by
    intro p' hp
    simp only [List.mem_cons, List.not_mem_nil, or_false] at hp
    rcases hp with rfl | rfl
    · exact Point.isValid_sample _ _
    · exact Point.isValid_sample _ _
  refine ⟨(json_decode_encode valid).1 fun p' hp => ?_, rfl⟩
  simp only [List.mem_cons, List.not_mem_nil, or_false] at hp
  rcases hp with rfl | rfl
  · rfl
  · rfl

end JsonPayload
end MetricRelay
