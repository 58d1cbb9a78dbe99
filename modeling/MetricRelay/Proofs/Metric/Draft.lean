import MetricRelay.Proofs.Keyed
import MetricRelay.Proofs.Metric.Point

/-!
# Drafts of points

A draft is sound (`Point.Draft.IsSound`) if it has a name, a value that it may have, and
dimensions with different keys, none of them empty.  The sound drafts are those that building
accepts, and the point has the dimensions in key order (`Point.Draft.build_eq_ok_iff`).  So the
order in which a draft lists its dimensions has no influence on the point.
-/

namespace MetricRelay

/-- No key is empty, and none stands there twice. -/
structure AreDimensions (ds : List (String × String)) : Prop where
  keyed : ∀ e ∈ ds, e.1.isEmpty = false
  nodup : (ds.map Prod.fst).Nodup

instance (ds : List (String × String)) : Decidable (AreDimensions ds) :=
  decidable_of_iff ((∀ e ∈ ds, e.1.isEmpty = false) ∧ (ds.map Prod.fst).Nodup)
    ⟨fun ⟨hk, hn⟩ => ⟨hk, hn⟩, fun ⟨hk, hn⟩ => ⟨hk, hn⟩⟩

theorem AreDimensions.perm {ds ds' : List (String × String)} (h : AreDimensions ds)
    (perm : ds.Perm ds') : AreDimensions ds' :=
  ⟨fun e he => h.keyed e (perm.mem_iff.2 he), (perm.map Prod.fst).nodup_iff.1 h.nodup⟩

theorem areDimensions_append_singleton_iff {ds : List (String × String)} {key value : String} :
    AreDimensions (ds ++ [(key, value)]) ↔
      AreDimensions ds ∧ key.isEmpty = false ∧ key ∉ ds.map Prod.fst := by
  constructor
  · rintro ⟨keyed, nodup⟩
    rw [List.map_append, List.nodup_append] at nodup
    have fresh : key ∉ ds.map Prod.fst := fun h => nodup.2.2 key h key (by simp) rfl
    exact ⟨⟨fun e he => keyed e (List.mem_append_left _ he), nodup.1⟩,
      keyed (key, value) (by simp), fresh⟩
  · rintro ⟨⟨keyed, nodup⟩, named, fresh⟩
    refine ⟨fun e he => ?_, ?_⟩
    · rcases List.mem_append.1 he with he | he
      · exact keyed e he
      · rwa [List.mem_singleton.1 he]
    · rw [List.map_append]
      exact nodup.append (List.nodup_singleton key) (by simpa using fresh)

/-- The point has a name, its dimensions have different keys, none of them empty, and its value is
finite. -/
structure Point.IsSound (p : Point) : Prop where
  named : p.name.isEmpty = false
  dimensioned : AreDimensions p.dimensions
  finite : p.value.isFinite = true

namespace Point.Draft

/-- Dimensions are added to those before as long as their keys are new and not empty. -/
theorem addDimensions_eq_ok_iff {metric : String} {seen rest : List (String × String)}
    {ds : Dimensions} (nodup : (seen.map Prod.fst).Nodup) :
    addDimensions metric (Keyed.ofList seen) rest = .ok ds ↔
      (∀ e ∈ rest, e.1.isEmpty = false) ∧ ((seen ++ rest).map Prod.fst).Nodup ∧
        ds = Keyed.ofList (seen ++ rest) := by
  induction rest generalizing seen with
  | nil =>
    rw [addDimensions, Except.ok.injEq, List.append_nil]
    constructor
    · rintro rfl
      exact ⟨List.forall_mem_nil _, nodup, rfl⟩
    · rintro ⟨-, -, rfl⟩
      rfl
  | cons e rest ih =>
    obtain ⟨key, value⟩ := e
    have found : (Keyed.get? key (Keyed.ofList seen)).isSome = true ↔
        key ∈ seen.map Prod.fst := by
      simp [Option.isSome_iff_exists, Keyed.get?_ofList_eq_some_iff nodup]
    rw [addDimensions, List.forall_mem_cons]
    split_ifs with empty repeated
    · constructor
      · intro accepted
        cases accepted
      · rintro ⟨⟨named, -⟩, -⟩
        rw [empty] at named
        cases named
    · constructor
      · intro accepted
        cases accepted
      · rintro ⟨-, distinct, -⟩
        rw [List.map_append, List.nodup_append] at distinct
        exact absurd rfl (distinct.2.2 key (found.1 repeated) key List.mem_cons_self)
    · have fresh : key ∉ seen.map Prod.fst := fun h => repeated (found.2 h)
      have nodup' : ((seen ++ [(key, value)]).map Prod.fst).Nodup := by
        rw [List.map_append]
        exact nodup.append (List.nodup_singleton key) (by simpa using fresh)
      rw [← Keyed.ofList_append_singleton seen (key, value), ih nodup', List.append_assoc]
      simp [empty]

/-- A point can be built from the draft. -/
structure IsSound (d : Draft) : Prop where
  named : d.name.isEmpty = false
  finite : d.value.isFinite = true ∨ d.allowsNonFinite = true
  dimensioned : AreDimensions d.dimensions

instance (d : Draft) : Decidable d.IsSound :=
  decidable_of_iff (d.name.isEmpty = false ∧
      (d.value.isFinite = true ∨ d.allowsNonFinite = true) ∧ AreDimensions d.dimensions)
    ⟨fun ⟨hn, hf, hd⟩ => ⟨hn, hf, hd⟩, fun ⟨hn, hf, hd⟩ => ⟨hn, hf, hd⟩⟩

/-- The parts of a draft as a point, with the dimensions in key order. -/
def point (d : Draft) : Point :=
  ⟨d.name, d.kind, d.value, d.source, Keyed.ofList d.dimensions, d.timestampMs⟩

theorem addDimensions_nil_eq_ok_iff {metric : String} {rest : List (String × String)}
    {ds : Dimensions} :
    addDimensions metric [] rest = .ok ds ↔ AreDimensions rest ∧ ds = Keyed.ofList rest := by
  rw [show ([] : Dimensions) = Keyed.ofList [] from rfl, addDimensions_eq_ok_iff (by simp)]
  exact ⟨fun ⟨keyed, nodup, h⟩ => ⟨⟨keyed, nodup⟩, h⟩, fun ⟨⟨keyed, nodup⟩, h⟩ =>
    ⟨keyed, nodup, h⟩⟩

/-- **Building accepts the sound drafts.** -/
theorem build_eq_ok_iff {d : Draft} {p : Point} :
    d.build = .ok p ↔ d.IsSound ∧ p = d.point := by
  unfold build
  split_ifs with unnamed infinite
  · refine iff_of_false nofun fun ⟨sound, _⟩ => ?_
    rw [sound.named] at unnamed
    cases unnamed
  · refine iff_of_false nofun fun ⟨sound, _⟩ => ?_
    rcases sound.finite with finite | allowed
    · simp [finite] at infinite
    · simp [allowed] at infinite
  · have finite : d.value.isFinite = true ∨ d.allowsNonFinite = true := by
      cases hf : d.value.isFinite <;> simp [hf] at infinite ⊢
      exact infinite
    cases hd : addDimensions d.name [] d.dimensions with
    | error e =>
      refine iff_of_false nofun fun ⟨sound, _⟩ => ?_
      rw [addDimensions_nil_eq_ok_iff.2 ⟨sound.dimensioned, rfl⟩] at hd
      cases hd
    | ok ds =>
      obtain ⟨dimensioned, rfl⟩ := addDimensions_nil_eq_ok_iff.1 hd
      have sound : d.IsSound := ⟨by simpa using unnamed, finite, dimensioned⟩
      exact ⟨fun h => ⟨sound, (Except.ok.inj h).symm⟩, fun ⟨_, h⟩ => congrArg Except.ok h.symm⟩

theorem IsSound.build {d : Draft} (h : d.IsSound) : d.build = .ok d.point :=
  build_eq_ok_iff.2 ⟨h, rfl⟩

theorem addDimensions_append (metric : String) (ds : Dimensions)
    (rest more : List (String × String)) :
    addDimensions metric ds (rest ++ more) =
      (addDimensions metric ds rest).bind fun ds => addDimensions metric ds more := by
  induction rest generalizing ds with
  | nil => rfl
  | cons e rest ih =>
    obtain ⟨key, value⟩ := e
    rw [List.cons_append, addDimensions, addDimensions]
    split_ifs
    · rfl
    · rfl
    · exact ih _

/-- What is said about a key that cannot be added. -/
def keyError (metric key : String) : PointError :=
  if key.isEmpty then .emptyDimensionKey metric else .duplicateDimensionKey metric key

/-- Behind good dimensions, a key that is empty or stands among them is the fault that is found. -/
theorem addDimensions_eq_error (metric : String) {before : List (String × String)} {key : String}
    (dimensioned : AreDimensions before)
    (fault : key.isEmpty = true ∨ key ∈ before.map Prod.fst) (value : String)
    (after : List (String × String)) :
    addDimensions metric [] (before ++ (key, value) :: after) = .error (keyError metric key) := by
  rw [addDimensions_append, addDimensions_nil_eq_ok_iff.2 ⟨dimensioned, rfl⟩, Except.bind,
    addDimensions, keyError]
  split_ifs with empty repeated
  · rfl
  · rfl
  · obtain ⟨⟨key, v⟩, he, rfl⟩ := List.mem_map.1 (fault.resolve_left empty)
    rw [(Keyed.get?_ofList_eq_some_iff dimensioned.nodup).2 he] at repeated
    exact absurd rfl repeated

/-- A key that is added once more is the fault that is found. -/
theorem build_of_repeated {d : Draft} (named : d.name.isEmpty = false)
    (finite : d.value.isFinite = true) {ds : List (String × String)} {key value : String}
    (dimensions_eq : d.dimensions = ds ++ [(key, value)]) (dimensioned : AreDimensions ds)
    (nonempty : key.isEmpty = false) (repeated : key ∈ ds.map Prod.fst) :
    d.build = .error (.duplicateDimensionKey d.name key) := by
  have refused := addDimensions_eq_error d.name dimensioned (.inr repeated) value []
  rw [← dimensions_eq, keyError, if_neg (by simp [nonempty])] at refused
  simp only [build, named, finite, refused, Bool.not_true, Bool.false_and, Bool.false_eq_true,
    if_false]
  rfl

/-- A point that is built without leave to be infinite has no fault at all. -/
theorem isSound_of_build {d : Draft} {p : Point} (built : d.build = .ok p)
    (strict : d.allowsNonFinite = false) : p.IsSound := by
  obtain ⟨sound, rfl⟩ := build_eq_ok_iff.1 built
  obtain ⟨named, ascending, keyed⟩ := isValid_of_build built
  refine ⟨named, ⟨keyed, ascending.nodup_keys⟩, sound.finite.resolve_right ?_⟩
  rw [strict]
  nofun

theorem exists_error_of_not_isSound {d : Draft} (h : ¬d.IsSound) : ∃ e, d.build = .error e := by
  cases hd : d.build with
  | error e => exact ⟨e, rfl⟩
  | ok p => exact absurd (build_eq_ok_iff.1 hd).1 h

end Point.Draft
end MetricRelay
