import MetricRelay.Number.Numeral
import MetricRelay.Proofs.Number.Shortest

/-!
# Numerals are read back

A layout only decides where the point stands: whatever the layout, the numeral of a value stands
for the shortest decimal (`Layout.value_numeral`), so a finite value is read back bit for bit
(`Layout.toBinary64_numeral`).
-/

namespace MetricRelay

/-- There are digits in front of the point, with no needless zero. -/
structure Numeral.IsWellFormed (n : Numeral) : Prop where
  whole : IsPlain n.whole
  fraction : ∀ d ∈ n.fraction, d < 10

namespace IsPlain

/-- More digits may follow, unless there is only a zero. -/
theorem append {ds : List Nat} (h : IsPlain ds) {ds' : List Nat} (digit : ∀ d ∈ ds', d < 10)
    (hz : ds = [0] → ds' = []) : IsPlain (ds ++ ds') := by
  obtain ⟨d, rest, rfl⟩ := List.exists_cons_of_ne_nil h.nonempty
  refine ⟨nofun, fun d' h' => ?_, fun rest' h' => ?_⟩
  · exact (List.mem_append.1 h').elim (h.digit d') (digit d')
  · obtain ⟨rfl, rfl⟩ := List.cons.inj h'
    obtain rfl := h.leading rest rfl
    exact hz rfl

theorem take {ds : List Nat} (h : IsPlain ds) {k : ℕ} (positive : 0 < k) :
    IsPlain (ds.take k) := by
  obtain ⟨d, rest, rfl⟩ := List.exists_cons_of_ne_nil h.nonempty
  obtain ⟨k, rfl⟩ := Nat.exists_eq_add_one.2 positive
  refine ⟨nofun, fun d' h' => h.digit d' (List.mem_of_mem_take h'), fun rest' h' => ?_⟩
  rw [List.take_succ_cons] at h'
  obtain ⟨rfl, rfl⟩ := List.cons.inj h'
  rw [h.leading rest rfl]
  exact List.take_nil

end IsPlain

/-! ### Integers -/

namespace Numeral

theorem isWellFormed_ofInt (i : ℤ) : (ofInt i).IsWellFormed :=
  ⟨isPlain_decimalDigits _, nofun⟩

theorem toInt_ofInt (i : ℤ) : (ofInt i).toInt = i := by
  unfold toInt ofInt
  rw [ofDigits_decimalDigits]
  by_cases h : i < 0
  · rw [if_pos (decide_eq_true h)]
    omega
  · rw [if_neg (by simpa using h)]
    omega

end Numeral

/-! ### Double-precision values -/

namespace Layout

theorem value_positionalNumeral (layout : Layout) (isNegative : Bool) (ds : List Nat)
    (position : ℤ) :
    (layout.positionalNumeral isNegative ds position).decimal.value =
      ofDigits ds * 10 ^ (position - ds.length) := by
  unfold positionalNumeral
  split
  · rename_i h
    have hz : ofDigits ([0] ++ (List.replicate (-position).toNat 0 ++ ds)) = ofDigits ds := by
      rw [ofDigits_append, ofDigits_append, ofDigits_replicate_zero]
      simp [ofDigits]
    have he : (0 : ℤ) - (List.replicate (-position).toNat 0 ++ ds).length =
        position - ds.length := by
      rw [List.length_append, List.length_replicate]
      omega
    simp only [Numeral.decimal, Decimal.value, Option.getD_none, hz, he]
  · split
    · rename_i hp hl
      obtain ⟨k, hk⟩ : ∃ k : ℕ, position = ds.length + k := ⟨(position - ds.length).toNat, by omega⟩
      have hr : position.toNat - ds.length = k := by omega
      have he : position - ds.length = k := by omega
      rw [hr, he, zpow_natCast]
      cases layout.wholeHasPoint
      · simp [Numeral.decimal, Decimal.value, ofDigits_append, ofDigits_replicate_zero]
      · have hz : ofDigits (ds ++ List.replicate k 0 ++ [0]) = ofDigits ds * 10 ^ k * 10 := by
          rw [ofDigits_append, ofDigits_append, ofDigits_replicate_zero, List.length_replicate]
          simp [ofDigits]
        simp only [Numeral.decimal, Decimal.value, if_true, Option.getD_none, hz,
          List.length_singleton]
        push_cast
        rw [zpow_neg_one]
        field_simp
    · rename_i hp hl
      have he : (0 : ℤ) - (ds.drop position.toNat).length = position - ds.length := by
        rw [List.length_drop]
        omega
      simp only [Numeral.decimal, Decimal.value, Option.getD_none, List.take_append_drop, he]

/-- The shortest digits, with the point in its place or behind the first digit. -/
theorem numeral_cases (layout : Layout) (x : Binary64) :
    let d := x.shortest layout.tie
    let ds := decimalDigits d.digits
    let position : ℤ := ds.length + d.exponent
    layout.numeral x = layout.positionalNumeral x.isNegative ds position ∨
      layout.numeral x = ⟨x.isNegative, ds.take 1, ds.drop 1, some (position - 1)⟩ := by
  exact ite_eq_or_eq _ _ _

/-- The numeral of a value stands for the shortest decimal. -/
theorem value_numeral (layout : Layout) (x : Binary64) :
    (layout.numeral x).decimal.value = (x.shortest layout.tie).value := by
  have h := layout.numeral_cases x
  generalize x.shortest layout.tie = d at h ⊢
  have hl := length_decimalDigits_pos d.digits
  have hv (e : ℤ) (he : e = d.exponent) :
      (ofDigits (decimalDigits d.digits) : ℚ) * 10 ^ e = d.value := by
    rw [ofDigits_decimalDigits, he, Decimal.value]
  rcases h with h | h
  · rw [h, value_positionalNumeral]
    exact hv _ (by omega)
  · rw [h, Numeral.decimal, Decimal.value]
    dsimp only
    rw [List.take_append_drop]
    refine hv _ ?_
    rw [List.length_drop, Option.getD_some]
    omega

theorem isNegative_numeral (layout : Layout) (x : Binary64) :
    (layout.numeral x).isNegative = x.isNegative := by
  rcases layout.numeral_cases x with h | h
  · rw [h, positionalNumeral]
    split
    · rfl
    · split <;> rfl
  · rw [h]

/-- **A finite value is read back bit for bit, whatever the layout.** -/
theorem toBinary64_numeral (layout : Layout) {x : Binary64} (finite : x.isFinite = true) :
    (layout.numeral x).toBinary64 = x := by
  have hv := layout.value_numeral x
  rw [Numeral.toBinary64, isNegative_numeral]
  rcases Nat.eq_zero_or_pos x.significand with hm | positive
  · have zero := x.magnitude_eq_zero_iff.2 hm
    refine Decimal.toBinary64_of_zero ?_ zero
    rw [← Decimal.value_eq_zero_iff, hv, Binary64.shortest_of_zero _ zero]
    simp [Decimal.value]
  · refine Decimal.toBinary64_eq finite positive ?_
    rw [hv]
    exact Binary64.isNear_shortest _ positive

/-- A value does not look like an integer if whole numbers keep their point. -/
theorem isIntegral_numeral {layout : Layout} (h : layout.wholeHasPoint = true) (x : Binary64) :
    (layout.numeral x).isIntegral = false := by
  have hl := length_decimalDigits_pos (x.shortest layout.tie).digits
  have pointed (n : Numeral) (hn : n.fraction ≠ []) : n.isIntegral = false := by
    simp [Numeral.isIntegral, hn]
  rcases layout.numeral_cases x with hx | hx
  · rw [hx, positionalNumeral]
    split
    · exact pointed _ (List.append_ne_nil_of_right_ne_nil _ (List.length_pos_iff.1 hl))
    · split
      · exact pointed _ (List.cons_ne_nil 0 [])
      · refine pointed _ (List.length_pos_iff.1 ?_)
        rw [List.length_drop]
        omega
  · rw [hx]
    exact Bool.and_false _

theorem isWellFormed_numeral (layout : Layout) (x : Binary64) :
    (layout.numeral x).IsWellFormed := by
  have hp := isPlain_decimalDigits (x.shortest layout.tie).digits
  have zeros (k : ℕ) : ∀ d ∈ List.replicate k 0, d < 10 := fun d hd => by
    rw [List.eq_of_mem_replicate hd]
    decide
  rcases layout.numeral_cases x with hx | hx
  · rw [hx, positionalNumeral]
    split
    · refine ⟨⟨nofun, by simp, fun rest h => (List.cons.inj h).2.symm⟩, fun d hd => ?_⟩
      exact (List.mem_append.1 hd).elim (zeros _ d) (hp.digit d)
    · split
      · refine ⟨hp.append (zeros _) fun hz => ?_, ?_⟩
        · -- a zero has its point right behind it
          have zero : (x.shortest layout.tie).digits = 0 := by
            rw [← ofDigits_decimalDigits (x.shortest layout.tie).digits, hz]
            rfl
          rw [Binary64.exponent_shortest _ zero, hz]
          rfl
        · dsimp only
          split <;> simp
      · exact ⟨hp.take (by omega), fun d hd => hp.digit d (List.mem_of_mem_drop hd)⟩
  · rw [hx]
    exact ⟨hp.take Nat.one_pos, fun d hd => hp.digit d (List.mem_of_mem_drop hd)⟩

end Layout
end MetricRelay
