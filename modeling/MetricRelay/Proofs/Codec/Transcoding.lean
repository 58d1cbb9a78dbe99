import MetricRelay.Proofs.Codec.JsonPayload
import MetricRelay.Proofs.Codec.ProtobufPayload
import MetricRelay.Proofs.Metric.Draft

/-!
# Transcoding

Whatever bytes a format accepts, they give points that the other format can carry, up to what it
leaves out: JSON holds no value that is not finite, and lists points kind by kind.  Points that
are read from JSON are just those that writing JSON keeps as they are
(`JsonPayload.exists_decode_eq_ok_iff`), so nothing gets lost on any further way.

Nothing is assumed of the bytes but that they are accepted.  What matters is what a reader lets
pass, so the lemmas on reading say of each draft what it is built with
(`JsonPayload.IsReadAs`), and building does the rest.
-/

namespace MetricRelay

/-! ### What is read from JSON -/

namespace JsonPayload

/-- The draft is of a kind, and its value has to be finite. -/
structure IsReadAs (kind : Kind) (d : Point.Draft) : Prop where
  kind_eq : d.kind = kind
  strict : d.allowsNonFinite = false

theorem isReadAs_of_draft? {kind : Kind} {j : Json} {d : Point.Draft}
    (h : draft? kind j = some d) : IsReadAs kind d := by
  simp only [draft?, Option.bind_eq_bind, Option.bind_eq_some_iff, Option.pure_def,
    Option.some.injEq] at h
  obtain ⟨values, -, name, -, value, -, dimensions, -, timestamp, -, source, -, rfl⟩ := h
  exact ⟨rfl, rfl⟩

theorem isReadAs_of_orDefault {kind : Kind} {listed : Option Json} {ds : List Point.Draft}
    (h : orDefault (drafts? kind) [] listed = some ds) : ∀ d ∈ ds, IsReadAs kind d := by
  intro d hd
  unfold orDefault at h
  split at h
  · cases h
    cases hd
  · unfold drafts? at h
    split at h
    · obtain ⟨item, -, read⟩ := exists_of_mem_mapM_some h hd
      exact isReadAs_of_draft? read
    · cases h

/-- The drafts of a payload come kind by kind. -/
theorem exists_of_payload? {j : Json} {ds : List Point.Draft} (h : payload? j = some ds) :
    ∃ gs cs us, ds = gs ++ cs ++ us ∧ (∀ d ∈ gs, IsReadAs .gauge d) ∧
      (∀ d ∈ cs, IsReadAs .counter d) ∧ ∀ d ∈ us, IsReadAs .cumulativeCounter d := by
  simp only [payload?, kinds, List.mapM_cons, List.mapM_nil, Option.bind_eq_bind,
    Option.bind_eq_some_iff, Option.pure_def, Option.some.injEq] at h
  obtain ⟨values, -, lists, ⟨gs, hg, -, ⟨cs, hc, -, ⟨us, hu, -, rfl, rfl⟩, rfl⟩, rfl⟩, rfl⟩ := h
  exact ⟨gs, cs, us, by simp, isReadAs_of_orDefault hg, isReadAs_of_orDefault hc,
    isReadAs_of_orDefault hu⟩

theorem of_build {kind : Kind} {d : Point.Draft} {p : Point} (read : IsReadAs kind d)
    (built : d.build = .ok p) : p.kind = kind ∧ p.IsValid ∧ p.value.isFinite = true := by
  obtain ⟨-, rfl⟩ := Point.Draft.build_eq_ok_iff.1 built
  exact ⟨read.kind_eq, Point.isValid_of_build built,
    (Point.Draft.isSound_of_build built read.strict).finite⟩

/-- Of points of one kind there are either all of a kind or none. -/
theorem filter_kind {ps : List Point} {kind : Kind} (h : ∀ p ∈ ps, p.kind = kind) (kind' : Kind) :
    ps.filter (·.kind = kind') = if kind = kind' then ps else [] := by
  split
  · rename_i same
    exact List.filter_eq_self.2 fun p hp => by simp [h p hp, same]
  · rename_i different
    exact List.filter_eq_nil_iff.2 fun p hp => by simp [h p hp, different]

/-- Points that come kind by kind stay in their order. -/
theorem byKind_eq_self {gs cs us : List Point} (hg : ∀ p ∈ gs, p.kind = .gauge)
    (hc : ∀ p ∈ cs, p.kind = .counter) (hu : ∀ p ∈ us, p.kind = .cumulativeCounter) :
    byKind (gs ++ cs ++ us) = gs ++ cs ++ us := by
  simp [byKind, filter_kind hg, filter_kind hc, filter_kind hu]

/-- **JSON is read as valid points with finite values, kind by kind.** -/
theorem of_decode {bs : Bytes} {points : List Point} (h : decode bs = .ok points) :
    (∀ p ∈ points, p.IsValid ∧ p.value.isFinite = true) ∧ byKind points = points := by
  unfold decode at h
  split at h
  · cases h
  · rename_i drafts parsed
    obtain ⟨j, -, listed⟩ := Option.bind_eq_some_iff.1 parsed
    obtain ⟨gs, cs, us, rfl, hg, hc, hu⟩ := exists_of_payload? listed
    -- what the drafts of a kind build is of this kind
    have made {kind : Kind} {ds : List Point.Draft} {ps : List Point}
        (hd : ∀ d ∈ ds, IsReadAs kind d)
        (built : ds.mapM (fun d => DecodeError.ofBuild d.build) = .ok ps) :
        ∀ p ∈ ps, p.kind = kind ∧ p.IsValid ∧ p.value.isFinite = true := by
      intro p hp
      obtain ⟨d, hmem, hb⟩ := exists_of_mem_mapM built hp
      exact of_build (hd d hmem) (build_of_ofBuild hb)
    rw [List.mapM_append, List.mapM_append] at h
    obtain ⟨first, h₁₂, h⟩ := exists_of_bind_eq_ok h
    obtain ⟨gs', h₁, h₁₂⟩ := exists_of_bind_eq_ok h₁₂
    obtain ⟨cs', h₂, h₁₂⟩ := exists_of_bind_eq_ok h₁₂
    obtain ⟨us', h₃, h⟩ := exists_of_bind_eq_ok h
    cases h₁₂
    cases h
    have hg' := made hg h₁
    have hc' := made hc h₂
    have hu' := made hu h₃
    refine ⟨fun p hp => ?_, byKind_eq_self (fun p hp => (hg' p hp).1) (fun p hp => (hc' p hp).1)
      fun p hp => (hu' p hp).1⟩
    rcases List.mem_append.1 hp with hp | hp
    · rcases List.mem_append.1 hp with hp | hp
      · exact (hg' p hp).2
      · exact (hc' p hp).2
    · exact (hu' p hp).2

/-- **What can be read from JSON** is what writing JSON keeps as it is. -/
theorem exists_decode_eq_ok_iff {points : List Point} :
    (∃ bs, decode bs = .ok points) ↔
      (∀ p ∈ points, p.IsValid ∧ p.value.isFinite = true) ∧ byKind points = points := by
  constructor
  · rintro ⟨bs, h⟩
    exact of_decode h
  · rintro ⟨sound, ordered⟩
    have read := decode_print_payload (fun p hp => (sound p hp).1) fun p hp => (sound p hp).2
    exact ⟨_, ordered ▸ read⟩

end JsonPayload

/-! ### What is read from protobuf -/

namespace ProtobufPayload

theorem isValid_of_point {r : Record} {p : Point} (h : r.point = .ok p) : p.IsValid := by
  unfold Record.point at h
  dsimp only at h
  split at h
  · cases h
  · cases h
  · exact Point.isValid_of_build (build_of_ofBuild h)

theorem isValid_of_decode {bs : Bytes} {points : List Point} (h : decode bs = .ok points) :
    ∀ p ∈ points, p.IsValid := by
  intro p hp
  unfold decode at h
  split at h
  · cases h
  · obtain ⟨r, -, made⟩ := exists_of_mem_mapM h hp
    exact isValid_of_point made

end ProtobufPayload

/-! ### From format to format -/

/-- A payload that goes through formats, one after the other. -/
def transcodeAll (source : Format) : List Format → Bytes → Except TranscodeError Bytes
  | [], bs => .ok bs
  | target :: rest, bs => transcode source target bs >>= transcodeAll target rest

theorem transcode_of_encode {source target : Format} {bs out : Bytes} {points : List Point}
    (decoded : source.decode bs = .ok points) (encoded : target.encode points = .ok out) :
    transcode source target bs = .ok out := by
  rw [transcode, decoded]
  dsimp only
  rw [encoded]

theorem transcode_of_refused {source target : Format} {bs : Bytes} {points : List Point}
    {e : EncodeError} (decoded : source.decode bs = .ok points)
    (refused : target.encode points = .error e) :
    transcode source target bs = .error (.encoding e) := by
  rw [transcode, decoded]
  dsimp only
  rw [refused]

/-- Either format accepts finite values. -/
theorem Format.exists_encode (f : Format) {points : List Point}
    (finite : ∀ p ∈ points, p.value.isFinite = true) : ∃ bs, f.encode points = .ok bs := by
  cases f with
  | json => exact ⟨_, JsonPayload.encode_of_isFinite finite⟩
  | protobuf => exact ⟨_, rfl⟩

/-- Both formats give the points back as they are. -/
structure AreStable (points : List Point) : Prop where
  sound : ∀ p ∈ points, p.IsValid ∧ p.value.isFinite = true
  ordered : JsonPayload.byKind points = points
  fits : (ProtobufPayload.encode points).length < UInt64.size

namespace AreStable

variable {points : List Point} (h : AreStable points)
include h

theorem exists_encode (f : Format) :
    ∃ bs, f.encode points = .ok bs ∧ f.decode bs = .ok points := by
  have valid : ∀ p ∈ points, p.IsValid := fun p hp => (h.sound p hp).1
  have finite : ∀ p ∈ points, p.value.isFinite = true := fun p hp => (h.sound p hp).2
  cases f with
  | json =>
    have read := JsonPayload.decode_print_payload valid finite
    rw [h.ordered] at read
    exact ⟨_, JsonPayload.encode_of_isFinite finite, read⟩
  | protobuf => exact ⟨_, rfl, ProtobufPayload.decode_encode valid h.fits⟩

/-- Only the last format matters. -/
theorem transcodeAll_eq {source target : Format} {bs out : Bytes}
    (decoded : source.decode bs = .ok points) (encoded : target.encode points = .ok out)
    (targets : List Format) : transcodeAll source (targets ++ [target]) bs = .ok out := by
  induction targets generalizing source bs with
  | nil =>
    change (transcode source target bs >>= transcodeAll target []) = _
    rw [transcode_of_encode decoded encoded]
    rfl
  | cons next rest ih =>
    obtain ⟨between, encoded', decoded'⟩ := h.exists_encode next
    change (transcode source next bs >>= transcodeAll next (rest ++ [target])) = _
    rw [transcode_of_encode decoded encoded']
    exact ih decoded'

end AreStable

/-- **Transcoding is stable, and the two formats agree.**

- Whatever is accepted as JSON, its points are valid and finite and come kind by kind.  Encoded
  as protobuf they are read back as they are, and by way of protobuf the JSON becomes what the
  points are encoded as directly, which stays the same on any further way.  Only the length of
  the protobuf payload has to be one that a machine with 64-bit addresses can hold.
- Whatever is accepted as protobuf, it can be had as JSON if and only if all values are finite,
  and is then read as the same points, kind by kind.  Otherwise the first point whose value is
  not finite is named. -/
theorem transcoding_is_stable :
    (∀ bs points, Format.decode .json bs = .ok points →
      ((∀ p ∈ points, p.IsValid ∧ p.value.isFinite = true) ∧
        JsonPayload.byKind points = points) ∧
      ∃ out j, Format.encode .protobuf points = .ok out ∧ Format.encode .json points = .ok j ∧
        (out.length < UInt64.size → Format.decode .protobuf out = .ok points ∧
          transcodeAll .json [.protobuf, .json] bs = .ok j ∧
          ∀ targets, transcodeAll .json (targets ++ [.json]) j = .ok j)) ∧
    (∀ bs points, Format.decode .protobuf bs = .ok points →
      ((∃ j, transcode .protobuf .json bs = .ok j) ↔
        ∀ p ∈ points, p.value.isFinite = true) ∧
      (∀ j, transcode .protobuf .json bs = .ok j →
        Format.decode .json j = .ok (JsonPayload.byKind points)) ∧
      ((∃ p ∈ points, p.value.isFinite = false) →
        ∃ before p after, points = before ++ p :: after ∧
          (∀ p' ∈ before, p'.value.isFinite = true) ∧ p.value.isFinite = false ∧
          transcode .protobuf .json bs = .error (.encoding (.nonFiniteValue p.name)))) := by
  constructor
  · intro bs points decoded
    obtain ⟨sound, ordered⟩ := JsonPayload.of_decode decoded
    obtain ⟨j, encoded⟩ := Format.exists_encode .json fun p hp => (sound p hp).2
    refine ⟨⟨sound, ordered⟩, _, j, rfl, encoded, fun fits => ?_⟩
    have stable : AreStable points := ⟨sound, ordered, fits⟩
    obtain ⟨j', encoded', again⟩ := stable.exists_encode .json
    obtain rfl : j = j' := Except.ok.inj (encoded.symm.trans encoded')
    exact ⟨ProtobufPayload.decode_encode (fun p hp => (sound p hp).1) fits,
      stable.transcodeAll_eq decoded encoded [.protobuf], stable.transcodeAll_eq again encoded⟩
  · intro bs points decoded
    have valid := ProtobufPayload.isValid_of_decode decoded
    have accepted (finite : ∀ p ∈ points, p.value.isFinite = true) :
        transcode .protobuf .json bs = .ok (JsonPayload.payload points).print :=
      transcode_of_encode decoded (JsonPayload.encode_of_isFinite finite)
    have refused (infinite : ∃ p ∈ points, p.value.isFinite = false) :
        ∃ before p after, points = before ++ p :: after ∧
          (∀ p' ∈ before, p'.value.isFinite = true) ∧ p.value.isFinite = false ∧
          transcode .protobuf .json bs = .error (.encoding (.nonFiniteValue p.name)) := by
      obtain ⟨before, p, after, rfl, finite, hp⟩ := JsonPayload.exists_first_infinite infinite
      exact ⟨before, p, after, rfl, finite, hp,
        transcode_of_refused decoded (JsonPayload.encode_of_not_isFinite finite hp)⟩
    have finite_of_ok (j : Bytes) (hj : transcode .protobuf .json bs = .ok j) :
        ∀ p ∈ points, p.value.isFinite = true := by
      intro p hp
      by_contra infinite
      obtain ⟨before, q, after, -, -, -, failed⟩ := refused ⟨p, hp, by simpa using infinite⟩
      rw [failed] at hj
      cases hj
    refine ⟨⟨fun ⟨j, hj⟩ => finite_of_ok j hj, fun finite => ⟨_, accepted finite⟩⟩,
      fun j hj => ?_, refused⟩
    have finite := finite_of_ok j hj
    obtain rfl : _ = j := Except.ok.inj ((accepted finite).symm.trans hj)
    exact JsonPayload.decode_print_payload valid finite

/-- Members that nobody knows, kinds in another order, a record without names, an integer that is
too large, a negative zero, and a key that is given twice. -/
def foreignJson : Bytes := Utf8.encode <|
  "\x7b\"x\":[1],\"counter\":[[\"c\",9223372036854775808]],\"gauge\":[" ++
  "\x7b\"value\":-0,\"metric\":\"g\",\"dimensions\":\x7b\"k\":\"a\",\"k\":\"b\"\x7d\x7d]\x7d"

def foreignPoints : List Point :=
  [⟨"g", .gauge, .float ⟨0x8000000000000000⟩, none, [("k", "b")], 0⟩,
    ⟨"c", .counter, .float ⟨0x43E0000000000000⟩, none, [], 0⟩]

/-- An infinity can be had as protobuf only. -/
theorem transcoding_is_stable_foreign :
    Format.decode .json foreignJson = .ok foreignPoints ∧
      (∃ j, Format.encode .json foreignPoints = .ok j ∧
        transcodeAll .json [.protobuf, .json] foreignJson = .ok j) ∧
      let bs := ProtobufPayload.encode [Point.sample .gauge (.float ⟨0x7FF0000000000000⟩)]
      ¬∃ j, transcode .protobuf .json bs = .ok j := by
  have decoded : Format.decode .json foreignJson = .ok foreignPoints := by decide +kernel
  obtain ⟨of_json, of_protobuf⟩ := transcoding_is_stable
  obtain ⟨-, out, j, written, encoded, stable⟩ := of_json foreignJson foreignPoints decoded
  obtain rfl : ProtobufPayload.encode foreignPoints = out := Except.ok.inj written
  refine ⟨decoded, ⟨j, encoded, (stable (by decide +kernel)).2.1⟩, ?_⟩
  intro bs carried
  obtain ⟨iff_finite, -⟩ := of_protobuf bs
    [Point.sample .gauge (.float ⟨0x7FF0000000000000⟩)] (by decide +kernel)
  have finite := iff_finite.1 carried _ (List.mem_singleton_self _)
  cases finite

end MetricRelay
