import MetricRelay.Proofs.Json.Parser

/-!
# Documents that are cut off

A reader that has stopped in front of something reads the same if more follows behind that.  Only
a number depends on what follows it at once, so a number is the only document whose reading may
go on if it has used up its input; all others end with a byte of their own (`Json.ReadsOn`).

So an object that is cut off is no document: what was read of it would be read of the whole text as
well, with the missing part left over (`Json.parse?_eq_none_of_cut`).
-/

namespace MetricRelay
namespace Json

/-! ### Blanks and numbers -/

theorem skipBlank_append {b : UInt8} {bs rest : Bytes} (h : skipBlank bs = b :: rest)
    (more : Bytes) : skipBlank (bs ++ more) = b :: (rest ++ more) := by
  have h' : bs.dropWhile isBlankByte = b :: rest := h
  rw [skipBlank, List.dropWhile_append, h']
  rfl

/-- Digits that have stopped in front of something are all digits. -/
theorem digits_append {ds : List Nat} {bs rest : Bytes} (h : digits bs = (ds, rest))
    (stopped : rest ≠ []) (more : Bytes) : digits (bs ++ more) = (ds, rest ++ more) := by
  obtain ⟨rfl, rfl⟩ := Prod.mk.inj h
  have shorter : (bs.takeWhile isDigitByte).length ≠ bs.length := by
    intro all
    have whole : bs.takeWhile isDigitByte = bs := (List.takeWhile_prefix _).eq_of_length all
    have := List.takeWhile_append_dropWhile (p := isDigitByte) (l := bs)
    rw [whole, List.append_right_eq_self] at this
    exact stopped this
  have some_left : (bs.dropWhile isDigitByte).isEmpty = false := by simpa using stopped
  rw [digits, List.takeWhile_append, if_neg shorter, List.dropWhile_append, some_left]
  rfl

/-- A whole part is all digits at the start of the input, without a leading zero. -/
theorem whole?_eq_some_iff {ds : List Nat} {bs rest : Bytes} :
    whole? bs = some (ds, rest) ↔
      digits bs = (ds, rest) ∧ ds ≠ [] ∧ ∀ d tail, ds ≠ 0 :: d :: tail := by
  unfold whole?
  split
  · rename_i found
    rw [found]
    simp only [reduceCtorEq, Prod.mk.injEq, false_iff, not_and]
    rintro ⟨rfl, -⟩ nonempty
    exact absurd rfl nonempty
  · rename_i d tail _ found
    rw [found]
    simp only [reduceCtorEq, Prod.mk.injEq, false_iff, not_and]
    rintro ⟨rfl, -⟩ - single
    exact single d tail rfl
  · rename_i found none zero
    rw [Option.some.injEq]
    refine ⟨fun h => ⟨h, ?_, ?_⟩, fun h => h.1⟩
    · rintro rfl
      exact none rest h
    · rintro d tail rfl
      exact zero d tail rest h

theorem whole?_append {ds : List Nat} {bs rest : Bytes} (h : whole? bs = some (ds, rest))
    (stopped : rest ≠ []) (more : Bytes) : whole? (bs ++ more) = some (ds, rest ++ more) := by
  obtain ⟨found, single⟩ := whole?_eq_some_iff.1 h
  exact whole?_eq_some_iff.2 ⟨digits_append found stopped more, single⟩

theorem fraction?_append {ds : List Nat} {bs rest : Bytes} (h : fraction? bs = some (ds, rest))
    (stopped : rest ≠ []) (more : Bytes) :
    fraction? (bs ++ more) = some (ds, rest ++ more) ∧ bs ≠ [] := by
  cases bs with
  | nil =>
    cases h
    exact absurd rfl stopped
  | cons b bs =>
    refine ⟨?_, nofun⟩
    rw [fraction?] at h
    rw [List.cons_append, fraction?]
    by_cases point : b = ascii '.'
    · rw [if_pos point] at h ⊢
      cases found : digits bs with
      | mk ds' rest' =>
        rw [found] at h
        cases ds' with
        | nil => cases h
        | cons d tail =>
          cases h
          rw [digits_append found stopped]
    · rw [if_neg point] at h ⊢
      cases h
      rfl

/-- The digits of an exponent, from behind its sign on. -/
theorem exponentDigits_append {use : List Nat → Int} {e : Option Int} {bs rest : Bytes}
    (h : (match digits bs with
      | ([], _) => none
      | (ds, rest) => some (some (use ds), rest)) = some (e, rest))
    (stopped : rest ≠ []) (more : Bytes) :
    (match digits (bs ++ more) with
      | ([], _) => none
      | (ds, rest) => some (some (use ds), rest)) = some (e, rest ++ more) := by
  cases found : digits bs with
  | mk ds rest' =>
    rw [found] at h
    cases ds with
    | nil => cases h
    | cons d tail =>
      cases h
      rw [digits_append found stopped]

theorem exponent?_append {e : Option Int} {bs rest : Bytes} (h : exponent? bs = some (e, rest))
    (stopped : rest ≠ []) (more : Bytes) :
    exponent? (bs ++ more) = some (e, rest ++ more) ∧ bs ≠ [] := by
  cases bs with
  | nil =>
    cases h
    exact absurd rfl stopped
  | cons b bs =>
    refine ⟨?_, nofun⟩
    rw [exponent?.eq_def] at h
    rw [List.cons_append, exponent?.eq_def]
    dsimp only at h ⊢
    by_cases letter : b = ascii 'e' ∨ b = ascii 'E'
    · rw [if_pos letter] at h ⊢
      cases bs with
      | nil => cases h
      | cons c bs =>
        rw [List.cons_append]
        dsimp only at h ⊢
        by_cases minus : c = ascii '-'
        · simp only [if_pos minus] at h ⊢
          exact exponentDigits_append h stopped more
        · by_cases plus : c = ascii '+'
          · simp only [if_neg minus, if_pos plus] at h ⊢
            exact exponentDigits_append h stopped more
          · simp only [if_neg minus, if_neg plus] at h ⊢
            exact exponentDigits_append h stopped more
    · rw [if_neg letter] at h ⊢
      cases h
      rfl

/-- The parts of a numeral, from behind its sign on. -/
theorem unsigned_append {isNegative : Bool} {n : Numeral} {bs rest : Bytes}
    (h : (do
      let (whole, bs) ← whole? bs
      let (fraction, bs) ← fraction? bs
      let (exponent, bs) ← exponent? bs
      return (⟨isNegative, whole, fraction, exponent⟩, bs)) = some (n, rest))
    (stopped : rest ≠ []) (more : Bytes) :
    (do
      let (whole, bs) ← whole? (bs ++ more)
      let (fraction, bs) ← fraction? bs
      let (exponent, bs) ← exponent? bs
      return (⟨isNegative, whole, fraction, exponent⟩, bs)) = some (n, rest ++ more) := by
  obtain ⟨⟨whole, bs₁⟩, first, h⟩ := Option.bind_eq_some_iff.1 h
  obtain ⟨⟨fraction, bs₂⟩, second, h⟩ := Option.bind_eq_some_iff.1 h
  obtain ⟨⟨exponent, bs₃⟩, third, given⟩ := Option.bind_eq_some_iff.1 h
  cases given
  -- as something is left behind the last part, something is behind each
  obtain ⟨third, stopped₂⟩ := exponent?_append third stopped more
  obtain ⟨second, stopped₁⟩ := fraction?_append second stopped₂ more
  simp only [whole?_append first stopped₁ more, second, third, Option.bind_eq_bind,
    Option.bind_some, Option.pure_def]

theorem numeral?_append {n : Numeral} {bs rest : Bytes} (h : numeral? bs = some (n, rest))
    (stopped : rest ≠ []) (more : Bytes) : numeral? (bs ++ more) = some (n, rest ++ more) := by
  cases bs with
  | nil => cases h
  | cons b bs =>
    rw [numeral?.eq_def] at h
    rw [List.cons_append, numeral?.eq_def]
    dsimp only at h ⊢
    by_cases minus : b = ascii '-'
    · simp only [if_pos minus] at h ⊢
      exact unsigned_append h stopped more
    · simp only [if_neg minus] at h ⊢
      exact unsigned_append h stopped more

/-! ### Strings and words -/

/-- A string ends with its quote, whatever follows. -/
theorem text?_append {t : Text} {bs rest : Bytes} (h : text? bs = some (t, rest))
    (more : Bytes) : text? (bs ++ more) = some (t, rest ++ more) := by
  have closing (rest : Bytes) : text? (ascii '"' :: rest) = some ([], rest) :=
    text?_pieces (t := []) nofun rest
  fun_induction text? bs generalizing t rest with
  | case1 => cases h
  | case2 =>
    cases h
    exact closing more
  | case3 => cases h
  | case4 e bs =>
    cases h
    exact closing (e :: bs ++ more)
  | case5 => cases h
  | case6 h₁ h₂ h₃ h₄ bs quote control ih =>
    obtain ⟨d₁, hex₁, h⟩ := Option.bind_eq_some_iff.1 h
    obtain ⟨d₂, hex₂, h⟩ := Option.bind_eq_some_iff.1 h
    obtain ⟨d₃, hex₃, h⟩ := Option.bind_eq_some_iff.1 h
    obtain ⟨d₄, hex₄, h⟩ := Option.bind_eq_some_iff.1 h
    obtain ⟨⟨t', rest'⟩, read, given⟩ := Option.bind_eq_some_iff.1 h
    cases given
    simp only [List.cons_append, text?, if_neg quote, if_neg control, if_true, hex₁, hex₂, hex₃,
      hex₄, ih read, Option.bind_eq_bind, Option.bind_some, Option.pure_def]
  | case7 => cases h
  | case8 e bs letter quote control ih =>
    obtain ⟨c, stands, h⟩ := Option.bind_eq_some_iff.1 h
    obtain ⟨⟨t', rest'⟩, read, given⟩ := Option.bind_eq_some_iff.1 h
    cases given
    rw [List.cons_append, List.cons_append, text?_letter letter stands, ih read]
    rfl
  | case9 b e bs quote control escape ih =>
    obtain ⟨⟨t', rest'⟩, read, given⟩ := Option.bind_eq_some_iff.1 h
    cases given
    rw [List.cons_append, text?_plain quote control escape, ih read]
    rfl

theorem dropWord?_append_of_eq_some {word : List Char} {bs rest : Bytes}
    (h : dropWord? word bs = some rest) (more : Bytes) :
    dropWord? word (bs ++ more) = some (rest ++ more) := by
  unfold dropWord? at h
  split at h
  · rename_i starts
    cases h
    obtain ⟨rest, rfl⟩ := List.isPrefixOf_iff_prefix.1 starts
    have length_eq : word.length = (asciiBytes word).length := by simp [asciiBytes]
    rw [List.append_assoc, dropWord?_append, length_eq, List.drop_left]
  · cases h

/-! ### Documents -/

/-- With some fuel, each reader reads the same if there is more fuel and more input.  What follows a
number must have been seen, and inside of a document it always has. -/
structure ReadsOn (fuel : Nat) : Prop where
  value : ∀ {bs : Bytes} {j : Json} {rest : Bytes}, value? fuel bs = some (j, rest) →
    (∀ n, j = .number n → rest ≠ []) → ∀ {fuel' : Nat}, fuel ≤ fuel' → ∀ more,
      value? fuel' (bs ++ more) = some (j, rest ++ more)
  items : ∀ {bs : Bytes} {js : List Json} {rest : Bytes}, items? fuel bs = some (js, rest) →
    ∀ {fuel' : Nat}, fuel ≤ fuel' → ∀ more, items? fuel' (bs ++ more) = some (js, rest ++ more)
  members : ∀ {bs : Bytes} {ms : List (Text × Json)} {rest : Bytes},
    members? fuel bs = some (ms, rest) → ∀ {fuel' : Nat}, fuel ≤ fuel' → ∀ more,
      members? fuel' (bs ++ more) = some (ms, rest ++ more)

theorem readsOn_zero : ReadsOn 0 where
  value h := by rw [value?] at h; cases h
  items h := by rw [items?] at h; cases h
  members h := by rw [members?] at h; cases h

theorem ReadsOn.value_succ {fuel : Nat} (ih : ReadsOn fuel) {bs : Bytes} {j : Json} {rest : Bytes}
    (h : value? (fuel + 1) bs = some (j, rest)) (stopped : ∀ n, j = .number n → rest ≠ [])
    {fuel' : Nat} (enough : fuel + 1 ≤ fuel') (more : Bytes) :
    value? fuel' (bs ++ more) = some (j, rest ++ more) := by
  obtain ⟨fuel', rfl⟩ := Nat.exists_eq_add_one.2 (show 0 < fuel' by omega)
  have left : fuel ≤ fuel' := Nat.le_of_succ_le_succ enough
  rw [value?] at h
  split at h
  · cases h
  rename_i b bs' start
  have word {word : List Char} {j' : Json}
      (h : (j', ·) <$> dropWord? word bs' = some (j, rest)) :
      (j', ·) <$> dropWord? word (bs' ++ more) = some (j, rest ++ more) := by
    obtain ⟨rest', dropped, given⟩ := Option.map_eq_some_iff.1 h
    cases given
    rw [dropWord?_append_of_eq_some dropped]
    rfl
  rw [value?, skipBlank_append start]
  dsimp only
  -- a string, an array, an object, three words and a number
  split_ifs at h ⊢
  · obtain ⟨⟨t, rest'⟩, read, given⟩ := Option.bind_eq_some_iff.1 h
    cases given
    rw [text?_append read]
    rfl
  · split at h
    · cases h
    rename_i c bs₂ first
    rw [skipBlank_append first]
    dsimp only
    split_ifs at h ⊢
    · cases h
      rfl
    · obtain ⟨⟨items, rest'⟩, read, given⟩ := Option.bind_eq_some_iff.1 h
      cases given
      rw [← List.cons_append, ih.items read left]
      rfl
  · split at h
    · cases h
    rename_i c bs₂ first
    rw [skipBlank_append first]
    dsimp only
    split_ifs at h ⊢
    · cases h
      rfl
    · obtain ⟨⟨members, rest'⟩, read, given⟩ := Option.bind_eq_some_iff.1 h
      cases given
      rw [← List.cons_append, ih.members read left]
      rfl
  · exact word h
  · exact word h
  · exact word h
  · obtain ⟨⟨n, rest'⟩, read, given⟩ := Option.bind_eq_some_iff.1 h
    cases given
    rw [← List.cons_append, numeral?_append read (stopped n rfl)]
    rfl

/-- What a reader of a list sees behind a value is something. -/
theorem ne_nil_of_skipBlank {b : UInt8} {bs rest : Bytes} (h : skipBlank bs = b :: rest) :
    bs ≠ [] := by
  rintro rfl
  cases h

theorem ReadsOn.items_succ {fuel : Nat} (ih : ReadsOn fuel) {bs : Bytes} {js : List Json}
    {rest : Bytes} (h : items? (fuel + 1) bs = some (js, rest)) {fuel' : Nat}
    (enough : fuel + 1 ≤ fuel') (more : Bytes) :
    items? fuel' (bs ++ more) = some (js, rest ++ more) := by
  obtain ⟨fuel', rfl⟩ := Nat.exists_eq_add_one.2 (show 0 < fuel' by omega)
  have left : fuel ≤ fuel' := Nat.le_of_succ_le_succ enough
  rw [items?] at h
  obtain ⟨⟨item, behind⟩, read, h⟩ := Option.bind_eq_some_iff.1 h
  dsimp only at h
  split at h
  · cases h
  rename_i c bs' next
  have read_on := ih.value read (fun _ _ => ne_nil_of_skipBlank next) left more
  rw [items?, read_on, Option.bind_eq_bind, Option.bind_some]
  dsimp only
  rw [skipBlank_append next]
  dsimp only
  split_ifs at h ⊢
  · cases h
    rfl
  · obtain ⟨⟨items, rest'⟩, read, given⟩ := Option.bind_eq_some_iff.1 h
    cases given
    rw [ih.items read left]
    rfl

theorem ReadsOn.members_succ {fuel : Nat} (ih : ReadsOn fuel) {bs : Bytes}
    {ms : List (Text × Json)} {rest : Bytes} (h : members? (fuel + 1) bs = some (ms, rest))
    {fuel' : Nat} (enough : fuel + 1 ≤ fuel') (more : Bytes) :
    members? fuel' (bs ++ more) = some (ms, rest ++ more) := by
  obtain ⟨fuel', rfl⟩ := Nat.exists_eq_add_one.2 (show 0 < fuel' by omega)
  have left : fuel ≤ fuel' := Nat.le_of_succ_le_succ enough
  rw [members?] at h
  split at h
  · cases h
  rename_i q bs₁ start
  rw [members?, skipBlank_append start]
  dsimp only
  split_ifs at h ⊢
  obtain ⟨⟨name, behind⟩, read, h⟩ := Option.bind_eq_some_iff.1 h
  rw [text?_append read, Option.bind_eq_bind, Option.bind_some]
  dsimp only at h ⊢
  split at h
  · cases h
  rename_i c bs₂ colon
  rw [skipBlank_append colon]
  dsimp only
  split_ifs at h ⊢
  obtain ⟨⟨value, behind'⟩, read, h⟩ := Option.bind_eq_some_iff.1 h
  dsimp only at h
  split at h
  · cases h
  rename_i d bs₃ next
  have read_on := ih.value read (fun _ _ => ne_nil_of_skipBlank next) left more
  rw [read_on, Option.bind_eq_bind, Option.bind_some]
  dsimp only
  rw [skipBlank_append next]
  dsimp only
  split_ifs at h ⊢
  · cases h
    rfl
  · obtain ⟨⟨members, rest'⟩, read, given⟩ := Option.bind_eq_some_iff.1 h
    cases given
    rw [ih.members read left]
    rfl

theorem readsOn (fuel : Nat) : ReadsOn fuel := by
  induction fuel with
  | zero => exact readsOn_zero
  | succ fuel ih => exact ⟨ih.value_succ, ih.items_succ, ih.members_succ⟩

/-- What starts with a brace is an object. -/
theorem exists_object {fuel : Nat} {bs : Bytes} {j : Json} {rest : Bytes}
    (h : value? fuel (ascii '\x7b' :: bs) = some (j, rest)) : ∃ members, j = .object members := by
  have hq : ascii '\x7b' ≠ ascii '"' := by decide
  have hl : ascii '\x7b' ≠ ascii '[' := by decide
  cases fuel with
  | zero => rw [value?] at h; cases h
  | succ fuel =>
    rw [value?, skipBlank_cons (by decide)] at h
    simp only [if_neg hq, if_neg hl, if_true] at h
    split at h
    · cases h
    · split_ifs at h
      · cases h
        exact ⟨_, rfl⟩
      · obtain ⟨⟨members, rest'⟩, -, given⟩ := Option.bind_eq_some_iff.1 h
        cases given
        exact ⟨_, rfl⟩

/-- **An object that is cut off is no document**, wherever it is cut off. -/
theorem parse?_eq_none_of_cut {members : List (Text × Json)}
    (h : (Json.object members).IsWellFormed) {kept missing : Bytes}
    (cut : kept ++ missing = print (.object members)) (proper : missing ≠ []) :
    parse? kept = none := by
  rw [Option.eq_none_iff_forall_ne_some]
  intro j parsed
  obtain ⟨⟨value, rest⟩, read, -⟩ := Option.bind_eq_some_iff.1 parsed
  have no_number : ∀ n, value = .number n → rest ≠ [] := by
    rintro n rfl
    cases kept with
    | nil => rw [value?] at read; cases read
    | cons b bs =>
      rw [print, List.cons_append, List.cons.injEq] at cut
      rw [cut.1] at read
      obtain ⟨_, object⟩ := exists_object read
      cases object
  -- with fuel for both, what was read of the kept part is read of the whole as well
  let fuel := max (2 * kept.length + 2) (print (.object members)).length
  have first : value? fuel (print (.object members)) = some (value, rest ++ missing) :=
    cut ▸ (readsOn _).value read no_number (Nat.le_max_left _ _) missing
  have whole : value? fuel (print (.object members)) = some (.object members, []) := by
    have := h.isReadBack.read fuel [] (Nat.le_max_right _ _) endsNumeral_nil
    rwa [List.append_nil] at this
  rw [whole] at first
  exact proper (List.append_eq_nil_iff.1 (Prod.mk.inj (Option.some.inj first)).2.symm).2

end Json
end MetricRelay
