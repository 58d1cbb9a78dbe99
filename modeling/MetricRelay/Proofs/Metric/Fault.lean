import Mathlib.Order.Bounds.Basic
import MetricRelay.Proofs.Metric.Draft

/-!
# The fault of a draft

A draft that is not sound may be so in several ways.  Building reports one of them: that there is
no name, or else that the value is not finite, or else what is wrong with the first dimension
whose key is empty or stands further in front already (`Point.Draft.IsFaulty`).  Together with
the sound drafts, which all orders of their dimensions make one point, these are all drafts
(`Point.Draft.build_cases`).
-/

namespace MetricRelay
namespace Point.Draft

/-! ### Faulty dimensions -/

/-- The key at a position is empty, or stands at an earlier position already. -/
def IsFaulty (ds : List (String × String)) (i : Nat) : Prop :=
  ∃ e, ds[i]? = some e ∧ (e.1.isEmpty = true ∨ e.1 ∈ (ds.take i).map Prod.fst)

theorem not_isFaulty {ds : List (String × String)} (dimensioned : AreDimensions ds) (i : Nat) :
    ¬IsFaulty ds i := by
  rintro ⟨e, he, empty | repeated⟩
  · have named := dimensioned.keyed e (List.mem_of_getElem? he)
    rw [empty] at named
    cases named
  · obtain ⟨h, rfl⟩ := List.getElem?_eq_some_iff.1 he
    have distinct := dimensioned.nodup
    rw [← List.take_append_drop i ds, List.drop_eq_getElem_cons h, List.map_append,
      List.nodup_append] at distinct
    exact distinct.2.2 _ repeated _ List.mem_cons_self rfl

/-- Dimensions that a point cannot have are good ones up to a key with a fault. -/
theorem exists_fault {ds : List (String × String)} (h : ¬AreDimensions ds) :
    ∃ before key value after, ds = before ++ (key, value) :: after ∧ AreDimensions before ∧
      (key.isEmpty = true ∨ key ∈ before.map Prod.fst) := by
  induction ds using List.reverseRecOn with
  | nil => exact absurd ⟨nofun, List.nodup_nil⟩ h
  | append_singleton ds e ih =>
    obtain ⟨key, value⟩ := e
    by_cases good : AreDimensions ds
    · refine ⟨ds, key, value, [], rfl, good, ?_⟩
      by_contra fine
      rw [not_or, Bool.not_eq_true] at fine
      exact h (areDimensions_append_singleton_iff.2 ⟨good, fine⟩)
    · obtain ⟨before, key', value', after, rfl, good, fault⟩ := ih good
      exact ⟨before, key', value', after ++ [(key, value)], by simp, good, fault⟩

/-- Behind good dimensions, a fault is the first one. -/
theorem isLeast_isFaulty {before : List (String × String)} {key : String}
    (good : AreDimensions before) (fault : key.isEmpty = true ∨ key ∈ before.map Prod.fst)
    (value : String) (after : List (String × String)) :
    IsLeast {i | IsFaulty (before ++ (key, value) :: after) i} before.length := by
  constructor
  · exact ⟨(key, value), by simp, by simpa using fault⟩
  · rintro i ⟨e, he, wrong⟩
    by_contra below
    have inside : i < before.length := Nat.not_le.1 below
    rw [List.getElem?_append_left inside] at he
    rw [List.take_append_of_le_length inside.le] at wrong
    exact not_isFaulty good i ⟨e, he, wrong⟩

/-! ### What building reports -/

section Build

variable {d : Draft}

theorem build_of_unnamed (unnamed : d.name.isEmpty = true) : d.build = .error .emptyName :=
  if_pos unnamed

theorem build_of_not_finite (named : d.name.isEmpty = false)
    (infinite : ¬(d.value.isFinite = true ∨ d.allowsNonFinite = true)) :
    d.build = .error (.nonFiniteValue d.name) := by
  rw [not_or, Bool.not_eq_true, Bool.not_eq_true] at infinite
  simp [build, named, infinite]

/-- With a name and a value that it may have, a draft is refused for its first faulty key. -/
theorem build_of_not_areDimensions (named : d.name.isEmpty = false)
    (finite : d.value.isFinite = true ∨ d.allowsNonFinite = true)
    (bad : ¬AreDimensions d.dimensions) :
    ∃ i key value, IsLeast {i | IsFaulty d.dimensions i} i ∧
      d.dimensions[i]? = some (key, value) ∧ d.build = .error (keyError d.name key) := by
  obtain ⟨before, key, value, after, eq, good, fault⟩ := exists_fault bad
  have refused := addDimensions_eq_error d.name good fault value after
  rw [← eq] at refused
  have allowed : (!d.value.isFinite && !d.allowsNonFinite) = false := by
    rcases finite with hf | hf <;> simp [hf]
  refine ⟨before.length, key, value, ?_, by simp [eq], ?_⟩
  · rw [eq]
    exact isLeast_isFaulty good fault value after
  · simp only [build, named, allowed, refused, Bool.false_eq_true, if_false]
    rfl

/-- The fault that is reported. -/
theorem build_eq_error_iff {e : PointError} :
    d.build = .error e ↔
      d.name.isEmpty = true ∧ e = .emptyName ∨
      d.name.isEmpty = false ∧ ¬(d.value.isFinite = true ∨ d.allowsNonFinite = true) ∧
        e = .nonFiniteValue d.name ∨
      d.name.isEmpty = false ∧ (d.value.isFinite = true ∨ d.allowsNonFinite = true) ∧
        ∃ i key value, IsLeast {i | IsFaulty d.dimensions i} i ∧
          d.dimensions[i]? = some (key, value) ∧ e = keyError d.name key := by
  cases named : d.name.isEmpty with
  | true =>
    rw [build_of_unnamed named, Except.error.injEq]
    constructor
    · rintro rfl
      exact .inl ⟨rfl, rfl⟩
    · rintro (⟨-, rfl⟩ | ⟨named, -⟩ | ⟨named, -⟩)
      · rfl
      · cases named
      · cases named
  | false =>
    by_cases finite : d.value.isFinite = true ∨ d.allowsNonFinite = true
    · by_cases good : AreDimensions d.dimensions
      · rw [IsSound.build ⟨named, finite, good⟩]
        refine iff_of_false nofun ?_
        rintro (⟨unnamed, -⟩ | ⟨-, infinite, -⟩ | ⟨-, -, i, -, -, ⟨faulty, -⟩, -⟩)
        · cases unnamed
        · exact infinite finite
        · exact not_isFaulty good i faulty
      · obtain ⟨i, key, value, least, he, refused⟩ := build_of_not_areDimensions named finite good
        rw [refused, Except.error.injEq]
        constructor
        · rintro rfl
          exact .inr (.inr ⟨rfl, finite, i, key, value, least, he, rfl⟩)
        · rintro (⟨unnamed, -⟩ | ⟨-, infinite, -⟩ | ⟨-, -, i', key', value', least', he', rfl⟩)
          · cases unnamed
          · exact absurd finite infinite
          · -- there is one first position, so it is the same key
            rw [least'.unique least, he] at he'
            cases he'
            rfl
    · rw [build_of_not_finite named finite, Except.error.injEq]
      constructor
      · rintro rfl
        exact .inr (.inl ⟨rfl, finite, rfl⟩)
      · rintro (⟨unnamed, -⟩ | ⟨-, -, rfl⟩ | ⟨-, allowed, -⟩)
        · cases unnamed
        · rfl
        · exact absurd allowed finite

end Build

/-- **What comes of building a point.**

* A draft is accepted if and only if it has a name, a value that is finite or may be infinite,
  and dimensions with different keys, none of them empty.
* The point has the dimensions in key order, and all else as it is in the draft.
* Another order of the dimensions makes the same point.
* Otherwise it is reported that there is no name, or else that the value is not finite, or else
  what is wrong with the key at the first faulty position. -/
theorem build_cases (d : Draft) :
    let valued : Prop := d.value.isFinite = true ∨ d.allowsNonFinite = true
    ((∃ p, d.build = .ok p) ↔ d.name.isEmpty = false ∧ valued ∧ AreDimensions d.dimensions) ∧
    (∀ p, d.build = .ok p →
      (p.dimensions.Perm d.dimensions ∧ Keyed.Ascending p.dimensions) ∧
      p.name = d.name ∧ p.kind = d.kind ∧ p.value = d.value ∧ p.source = d.source ∧
      p.timestampMs = d.timestampMs) ∧
    (∀ p ds, d.build = .ok p → d.dimensions.Perm ds →
      { d with dimensions := ds }.build = .ok p) ∧
    ∀ e, d.build = .error e ↔
      d.name.isEmpty = true ∧ e = .emptyName ∨
      d.name.isEmpty = false ∧ ¬valued ∧ e = .nonFiniteValue d.name ∨
      d.name.isEmpty = false ∧ valued ∧
        ∃ i key value, IsLeast {i | IsFaulty d.dimensions i} i ∧
          d.dimensions[i]? = some (key, value) ∧
          e = if key.isEmpty then .emptyDimensionKey d.name
            else .duplicateDimensionKey d.name key := by
  intro valued
  refine ⟨⟨?_, ?_⟩, fun p built => ?_, fun p ds built perm => ?_, fun e => build_eq_error_iff⟩
  · rintro ⟨p, built⟩
    obtain ⟨sound, -⟩ := build_eq_ok_iff.1 built
    exact ⟨sound.named, sound.finite, sound.dimensioned⟩
  · rintro ⟨named, finite, dimensioned⟩
    exact ⟨_, IsSound.build ⟨named, finite, dimensioned⟩⟩
  · obtain ⟨sound, rfl⟩ := build_eq_ok_iff.1 built
    exact ⟨⟨Keyed.perm_ofList sound.dimensioned.nodup, Keyed.ascending_ofList _⟩,
      rfl, rfl, rfl, rfl, rfl⟩
  · obtain ⟨sound, rfl⟩ := build_eq_ok_iff.1 built
    refine build_eq_ok_iff.2 ⟨⟨sound.named, sound.finite, sound.dimensioned.perm perm⟩, ?_⟩
    simp only [point, Keyed.ofList_perm perm sound.dimensioned.nodup]

/-- Two orders of good dimensions, and dimensions with a repeated key in front of an empty one. -/
theorem build_cases_sample :
    let good : Draft := {
      name := "cpu", kind := .gauge, value := .float .nan, allowsNonFinite := true
      dimensions := [("b", "1"), ("a", "2")] }
    let faulty : Draft := { good with dimensions := good.dimensions ++ [("b", "3"), ("", "4")] }
    let ordered := [("a", "2"), ("b", "1")]
    good.dimensions.Perm ordered ∧
      (∃ p, good.build = .ok p ∧ { good with dimensions := ordered }.build = .ok p ∧
        p.dimensions.Perm good.dimensions ∧ p.value = .float .nan) ∧
      IsLeast {i | IsFaulty faulty.dimensions i} 2 ∧
      faulty.build = .error (.duplicateDimensionKey "cpu" "b") := by
  intro good faulty ordered
  have perm : good.dimensions.Perm ordered := .swap _ _ _
  have fit : AreDimensions good.dimensions := by decide
  have first : IsLeast {i | IsFaulty faulty.dimensions i} 2 :=
    isLeast_isFaulty fit (.inr (by decide)) "3" [("", "4")]
  obtain ⟨accepted, parts, orders, -⟩ := build_cases good
  obtain ⟨p, built⟩ := accepted.2 ⟨by decide, .inr rfl, fit⟩
  obtain ⟨⟨same, -⟩, -, -, value, -⟩ := parts p built
  exact ⟨perm, ⟨p, built, orders p ordered built perm, same, value⟩, first,
    ((build_cases faulty).2.2.2 _).2
      (.inr (.inr ⟨by decide, .inr rfl, 2, "b", "3", first, rfl, by decide⟩))⟩

end Point.Draft
end MetricRelay
