import Mathlib.Data.List.TakeWhile
import MetricRelay.Number.Reading
import MetricRelay.Proofs.Number.Numeral

/-!
# Plain texts are read back

A reader of free text finds the sign, the point and the exponent of a numeral where they were
written (`Numeral.read?_text`), because none of them is a digit.  So the plain text of a finite
value is read back bit for bit (`Binary64.read?_plainText`).
-/

namespace MetricRelay

/-! ### Digits -/

theorem digitsInBase?_digitChar : ∀ d < 10, digitsInBase? 10 [Nat.digitChar d] = some [d] := by
  decide

theorem digitsInBase?_digitText {ds : List Nat} (digit : ∀ d ∈ ds, d < 10) :
    digitsInBase? 10 (Numeral.digitText ds) = some ds := by
  induction ds with
  | nil => rfl
  | cons d ds ih =>
    obtain ⟨small, digit⟩ := List.forall_mem_cons.1 digit
    have first := digitsInBase?_digitChar d small
    have later := ih digit
    have split : Numeral.digitText (d :: ds) = [Nat.digitChar d] ++ Numeral.digitText ds := rfl
    unfold digitsInBase? at *
    rw [split, List.mapM_append, first, later]
    rfl

theorem natInBase?_digitText {ds : List Nat} (plain : IsPlain ds) :
    natInBase? 10 (Numeral.digitText ds) = some (ofDigits ds) := by
  rw [natInBase?, digitsInBase?_digitText plain.digit]
  obtain ⟨d, ds, rfl⟩ := List.exists_cons_of_ne_nil plain.nonempty
  rfl

/-- A digit is no sign, no point and no letter of an exponent. -/
theorem digitChar_ne : ∀ d < 10, ∀ c ∈ ['-', '+', '.', 'e', 'E'], Nat.digitChar d ≠ c := by
  have apart : ∀ d < 10, Nat.digitChar d ∉ ['-', '+', '.', 'e', 'E'] := by decide
  rintro d small c hc rfl
  exact apart d small hc

/-! ### Splitting -/

/-- Without a character that satisfies the test there is nothing to split. -/
theorem splitAtFirst_of_forall {test : Char → Bool} {cs : List Char}
    (h : ∀ c ∈ cs, test c = false) : splitAtFirst test cs = (cs, none) := by
  have rest : cs.dropWhile (!test ·) = [] := List.dropWhile_eq_nil_iff.2 (by simpa using h)
  rw [splitAtFirst, rest]

theorem splitAtFirst_append {test : Char → Bool} {cs : List Char}
    (h : ∀ c ∈ cs, test c = false) {c : Char} (hc : test c = true) (rest : List Char) :
    splitAtFirst test (cs ++ c :: rest) = (cs, some rest) := by
  have skipped : ∀ c ∈ cs, (!test c) = true := by simpa using h
  rw [splitAtFirst, List.dropWhile_append_of_pos skipped, List.dropWhile_cons_of_neg (by simp [hc]),
    List.takeWhile_append_of_pos skipped, List.takeWhile_cons_of_neg (by simp [hc]),
    List.append_nil]

theorem splitSign_digitText {ds : List Nat} (plain : IsPlain ds) (isNegative : Bool)
    (rest : List Char) :
    splitSign ((if isNegative then ['-'] else []) ++ (Numeral.digitText ds ++ rest)) =
      (isNegative, Numeral.digitText ds ++ rest) := by
  obtain ⟨d, ds, rfl⟩ := List.exists_cons_of_ne_nil plain.nonempty
  have unsigned := digitChar_ne d (plain.digit d List.mem_cons_self)
  cases isNegative with
  | true => rfl
  | false =>
    have minus := unsigned '-' (by decide)
    have plus := unsigned '+' (by decide)
    simp only [Numeral.digitText, List.map_cons, List.cons_append, Bool.false_eq_true, if_false,
      List.nil_append]
    unfold splitSign
    split
    · rename_i h
      exact absurd (List.cons.inj h).1 minus
    · rename_i h
      exact absurd (List.cons.inj h).1 plus
    · rfl

/-! ### Numerals -/

namespace Numeral

/-- What stands between the sign and the exponent. -/
def mantissaText (n : Numeral) : List Char :=
  digitText n.whole ++ if n.fraction.isEmpty then [] else '.' :: digitText n.fraction

theorem text_eq (n : Numeral) :
    n.text = (if n.isNegative then ['-'] else []) ++
      (digitText n.whole ++
        ((if n.fraction.isEmpty then [] else '.' :: digitText n.fraction) ++
          exponentText n.exponent)) := by
  simp [text]

theorem ne_of_mem_digitText {ds : List Nat} (digit : ∀ d ∈ ds, d < 10) {c : Char}
    (hc : c ∈ digitText ds) : ∀ c' ∈ ['-', '+', '.', 'e', 'E'], c ≠ c' := by
  obtain ⟨d, hd, rfl⟩ := List.mem_map.1 hc
  exact digitChar_ne d (digit d hd)

/-- The point is where the fraction begins. -/
theorem splitAtFirst_mantissaText {n : Numeral} (h : n.IsWellFormed) :
    ∃ fraction, splitAtFirst (· == '.') n.mantissaText = (digitText n.whole, fraction) ∧
      digitsInBase? 10 (fraction.getD []) = some n.fraction := by
  have whole : ∀ c ∈ digitText n.whole, (c == '.') = false := fun c hc => by
    simpa using ne_of_mem_digitText h.whole.digit hc '.' (by decide)
  unfold mantissaText
  cases hf : n.fraction with
  | nil =>
    refine ⟨none, ?_, rfl⟩
    rw [List.isEmpty_nil, if_pos rfl, List.append_nil]
    exact splitAtFirst_of_forall whole
  | cons d ds =>
    refine ⟨some (digitText (d :: ds)), splitAtFirst_append whole rfl _, ?_⟩
    exact digitsInBase?_digitText (hf ▸ h.fraction)

/-- A mantissa has no letter. -/
theorem isLetter_of_mem_mantissaText {n : Numeral} (h : n.IsWellFormed) :
    ∀ c ∈ n.mantissaText, (c == 'e' || c == 'E') = false := by
  have digits {ds : List Nat} (digit : ∀ d ∈ ds, d < 10) :
      ∀ c ∈ digitText ds, (c == 'e' || c == 'E') = false := fun c hc => by
    have apart := ne_of_mem_digitText digit hc
    simp [apart 'e' (by decide), apart 'E' (by decide)]
  intro c hc
  rcases List.mem_append.1 hc with hc | hc
  · exact digits h.whole.digit c hc
  · split_ifs at hc
    · cases hc
    · rcases List.mem_cons.1 hc with rfl | hc
      · rfl
      · exact digits h.fraction c hc

theorem splitSign_exponent (e : ℤ) (cs : List Char) :
    splitSign ((if e < 0 then '-' else '+') :: cs) = (decide (e < 0), cs) := by
  by_cases negative : e < 0
  · rw [if_pos negative, decide_eq_true negative]
    rfl
  · rw [if_neg negative, decide_eq_false negative]
    rfl

/-- **A numeral is read back.** -/
theorem read?_text {n : Numeral} (h : n.IsWellFormed) : read? n.text = some n := by
  have nonempty : n.whole ≠ [] := h.whole.nonempty
  have whole_eq := digitsInBase?_digitText h.whole.digit
  have letters := isLetter_of_mem_mantissaText h
  obtain ⟨fraction, point, fraction_eq⟩ := splitAtFirst_mantissaText h
  have sign := splitSign_digitText h.whole n.isNegative
    ((if n.fraction.isEmpty then [] else '.' :: digitText n.fraction) ++ exponentText n.exponent)
  rw [← text_eq, ← List.append_assoc, ← mantissaText] at sign
  rw [read?, sign]
  cases he : n.exponent with
  | none =>
    rw [exponentText, List.append_nil]
    dsimp only
    rw [splitAtFirst_of_forall letters]
    dsimp only
    rw [point]
    dsimp only
    rw [whole_eq, fraction_eq]
    simp [nonempty, ← he]
  | some e =>
    have signed : (if decide (e < 0) then -(e.natAbs : ℤ) else e.natAbs) = e := by
      by_cases negative : e < 0
      · rw [if_pos (decide_eq_true negative)]
        omega
      · rw [if_neg (by simpa using negative)]
        omega
    rw [exponentText]
    dsimp only
    rw [splitAtFirst_append letters rfl]
    dsimp only
    rw [point]
    dsimp only
    rw [whole_eq, fraction_eq, splitSign_exponent]
    dsimp only
    rw [natInBase?_digitText (isPlain_decimalDigits e.natAbs), ofDigits_decimalDigits]
    simp only [Option.bind_eq_bind, Option.bind_some, signed]
    simp [nonempty, ← he]

end Numeral

/-! ### Plain texts -/

namespace Binary64

theorem isNaN_of_isFinite {x : Binary64} (finite : x.isFinite = true) : x.isNaN = false := by
  simp only [isFinite, isNaN, decide_eq_true_eq, decide_eq_false_iff_not] at *
  omega

theorem isInfinite_of_isFinite {x : Binary64} (finite : x.isFinite = true) :
    x.isInfinite = false := by
  simp only [isFinite, isInfinite, decide_eq_true_eq, beq_eq_false_iff_ne] at *
  omega

theorem plainText_of_isFinite {x : Binary64} (finite : x.isFinite = true) :
    x.plainText.toList = (Layout.plain.numeral x).text := by
  rw [plainText, isNaN_of_isFinite finite, isInfinite_of_isFinite finite, if_neg nofun,
    if_neg nofun, String.toList_ofList]

/-- **The plain text of a finite value is read back bit for bit.** -/
theorem read?_plainText {x : Binary64} (finite : x.isFinite = true) :
    (Numeral.read? x.plainText.toList).map (·.toBinary64) = some x := by
  rw [plainText_of_isFinite finite, Numeral.read?_text (Layout.plain.isWellFormed_numeral x),
    Option.map_some, Layout.plain.toBinary64_numeral finite]

end Binary64
end MetricRelay
