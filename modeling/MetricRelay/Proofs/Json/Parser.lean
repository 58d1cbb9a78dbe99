import MetricRelay.Json.Parser
import MetricRelay.Proofs.Number.Numeral

/-!
# Documents are read back

Each reader takes back what was written and leaves what follows: digits, numerals
(`Json.numeral?_text`), strings (`Json.text?_print`) and so whole documents
(`Json.parse?_print`).  Nothing but a numeral depends on what follows it, and what follows a
value inside a document is a comma or a closing bracket (`Json.EndsNumeral`).

The fuel of the readers counts bytes, so a document is read with the length of its text.
-/

namespace MetricRelay
namespace Json

/-! ### Digits -/

/-- No digit follows. -/
def EndsDigits (rest : Bytes) : Prop := ∀ b ∈ rest.head?, isDigitByte b = false

/-- Nothing follows that could be part of a numeral. -/
structure EndsNumeral (rest : Bytes) : Prop where
  digit : EndsDigits rest
  point : ∀ b ∈ rest.head?, b ≠ ascii '.'
  letter : ∀ b ∈ rest.head?, ¬(b = ascii 'e' ∨ b = ascii 'E')

theorem endsNumeral_nil : EndsNumeral [] := ⟨nofun, nofun, nofun⟩

theorem isDigitByte_digitChar : ∀ d < 10, isDigitByte (ascii (Nat.digitChar d)) = true := by
  decide

theorem toNat_digitChar : ∀ d < 10, (ascii (Nat.digitChar d)).toNat - 48 = d := by
  decide

theorem digits_digitText {ds : List Nat} (digit : ∀ d ∈ ds, d < 10) {rest : Bytes}
    (ends : EndsDigits rest) :
    digits (asciiBytes (Numeral.digitText ds) ++ rest) = (ds, rest) := by
  induction ds with
  | nil =>
    cases rest with
    | nil => rfl
    | cons b rest =>
      have hb : isDigitByte b = false := ends b rfl
      simp [digits, asciiBytes, Numeral.digitText, hb]
  | cons d ds ih =>
    have hd := digit d List.mem_cons_self
    have hr := ih fun d' h' => digit d' (List.mem_cons_of_mem d h')
    simp only [digits, asciiBytes, Numeral.digitText, Prod.mk.injEq] at hr
    simp only [digits, asciiBytes, Numeral.digitText, List.map_cons, List.cons_append,
      List.takeWhile_cons, List.dropWhile_cons, isDigitByte_digitChar d hd, if_true,
      toNat_digitChar d hd, hr]

/-! ### Numerals -/

theorem whole?_digitText {ds : List Nat} (plain : IsPlain ds) {rest : Bytes}
    (ends : EndsDigits rest) :
    whole? (asciiBytes (Numeral.digitText ds) ++ rest) = some (ds, rest) := by
  rw [whole?, digits_digitText plain.digit ends]
  split
  · rename_i h
    exact absurd (Prod.mk.inj h).1 plain.nonempty
  · rename_i d tail _ h
    have := plain.leading _ (Prod.mk.inj h).1
    cases this
  · rfl

theorem fraction?_digitText {ds : List Nat} (digit : ∀ d ∈ ds, d < 10) {rest : Bytes}
    (ends : EndsDigits rest) (point : ∀ b ∈ rest.head?, b ≠ ascii '.') :
    fraction? (asciiBytes (if ds.isEmpty then [] else '.' :: Numeral.digitText ds) ++ rest) =
      some (ds, rest) := by
  cases ds with
  | nil =>
    cases rest with
    | nil => rfl
    | cons b rest =>
      have hb := point b rfl
      simp [fraction?, asciiBytes, hb]
  | cons d ds =>
    have hd := digits_digitText digit ends
    have hb : asciiBytes (if (d :: ds).isEmpty then [] else '.' :: Numeral.digitText (d :: ds)) =
        ascii '.' :: asciiBytes (Numeral.digitText (d :: ds)) := rfl
    rw [hb, List.cons_append, fraction?, if_pos rfl, hd]

theorem exponent?_exponentText (e : Option ℤ) {rest : Bytes} (ends : EndsNumeral rest) :
    exponent? (asciiBytes (Numeral.exponentText e) ++ rest) = some (e, rest) := by
  cases e with
  | none =>
    cases rest with
    | nil => rfl
    | cons b rest =>
      have hb := ends.letter b rfl
      simp [exponent?, asciiBytes, Numeral.exponentText, hb]
  | some e =>
    -- the sign is written in both cases, and digits follow it
    have plain := isPlain_decimalDigits e.natAbs
    have hd := digits_digitText plain.digit ends.digit
    obtain ⟨d, ds, hn⟩ := List.exists_cons_of_ne_nil plain.nonempty
    have ho : ofDigits (d :: ds) = e.natAbs := by rw [← hn, ofDigits_decimalDigits]
    rw [hn] at hd
    by_cases h : e < 0
    · have hb : asciiBytes (Numeral.exponentText (some e)) =
          ascii 'e' :: ascii '-' :: asciiBytes (Numeral.digitText (d :: ds)) := by
        simp [Numeral.exponentText, h, hn, asciiBytes]
      rw [hb, List.cons_append, List.cons_append, exponent?, if_pos (.inl rfl)]
      simp only [if_true, hd, ho]
      congr 3
      omega
    · have hb : asciiBytes (Numeral.exponentText (some e)) =
          ascii 'e' :: ascii '+' :: asciiBytes (Numeral.digitText (d :: ds)) := by
        simp [Numeral.exponentText, h, hn, asciiBytes]
      have hs : ascii '+' ≠ ascii '-' := by decide
      rw [hb, List.cons_append, List.cons_append, exponent?, if_pos (.inl rfl)]
      simp only [if_neg hs, if_true, hd, ho]
      congr 3
      simp only [Bool.false_eq_true, if_false]
      omega

theorem endsDigits_cons {b : UInt8} (h : isDigitByte b = false) (rest : Bytes) :
    EndsDigits (b :: rest) := fun b' hb => by
  obtain rfl := Option.some_inj.1 hb
  exact h

/-- An exponent does not continue digits. -/
theorem ends_exponentText (e : Option ℤ) {rest : Bytes} (ends : EndsNumeral rest) :
    EndsDigits (asciiBytes (Numeral.exponentText e) ++ rest) ∧
      ∀ b ∈ (asciiBytes (Numeral.exponentText e) ++ rest).head?, b ≠ ascii '.' := by
  cases e with
  | none => exact ⟨ends.digit, ends.point⟩
  | some e =>
    refine ⟨endsDigits_cons (by decide) _, fun b hb => ?_⟩
    obtain rfl := Option.some_inj.1 hb
    decide

/-- A fraction does not continue digits. -/
theorem ends_fractionText (ds : List Nat) {rest : Bytes} (ends : EndsDigits rest) :
    EndsDigits (asciiBytes (if ds.isEmpty then [] else '.' :: Numeral.digitText ds) ++ rest) := by
  split
  · exact ends
  · exact endsDigits_cons (by decide) _

/-- A numeral starts with a sign or with a digit. -/
theorem exists_text {n : Numeral} (h : n.IsWellFormed) :
    ∃ b bs, asciiBytes n.text = b :: bs ∧
      (b = ascii '-' ∨ ∃ d < 10, b = ascii (Nat.digitChar d)) := by
  obtain ⟨d, ds, hw⟩ := List.exists_cons_of_ne_nil h.whole.nonempty
  have hd : d < 10 := h.whole.digit d (by rw [hw]; exact List.mem_cons_self)
  unfold Numeral.text
  rw [hw]
  cases n.isNegative
  · exact ⟨_, _, rfl, .inr ⟨d, hd, rfl⟩⟩
  · exact ⟨_, _, rfl, .inl rfl⟩

/-- A numeral is read back if nothing follows that could be part of it. -/
theorem numeral?_text {n : Numeral} (h : n.IsWellFormed) {rest : Bytes}
    (ends : EndsNumeral rest) : numeral? (asciiBytes n.text ++ rest) = some (n, rest) := by
  obtain ⟨isNegative, whole, fraction, exponent⟩ := n
  obtain ⟨hw, hf⟩ := h
  -- the parts, each of which is read up to the first byte of the next one
  let tail := asciiBytes (Numeral.exponentText exponent) ++ rest
  let middle := asciiBytes (if fraction.isEmpty then [] else '.' :: Numeral.digitText fraction)
  have ht := ends_exponentText exponent ends
  have h1 : whole? (asciiBytes (Numeral.digitText whole) ++ (middle ++ tail)) =
      some (whole, middle ++ tail) := whole?_digitText hw (ends_fractionText fraction ht.1)
  have h2 : fraction? (middle ++ tail) = some (fraction, tail) :=
    fraction?_digitText hf ht.1 ht.2
  have h3 : exponent? tail = some (exponent, rest) := exponent?_exponentText exponent ends
  have cut : asciiBytes (Numeral.text ⟨isNegative, whole, fraction, exponent⟩) ++ rest =
      asciiBytes (if isNegative then ['-'] else []) ++
        (asciiBytes (Numeral.digitText whole) ++ (middle ++ tail)) := by
    simp [Numeral.text, asciiBytes, middle, tail]
  -- a numeral without a sign does not start with one
  have first : ∃ b bs, asciiBytes (Numeral.digitText whole) ++ (middle ++ tail) = b :: bs ∧
      b ≠ ascii '-' := by
    obtain ⟨d, ds, hd⟩ := List.exists_cons_of_ne_nil hw.nonempty
    have hs : ∀ d < 10, ascii (Nat.digitChar d) ≠ ascii '-' := by decide
    have hd10 : d < 10 := hw.digit d (by rw [hd]; exact List.mem_cons_self)
    obtain rfl : whole = d :: ds := hd
    exact ⟨_, _, rfl, hs d hd10⟩
  obtain ⟨b, bs, hb, hs⟩ := first
  rw [hb] at cut h1
  have none : asciiBytes [] ++ (b :: bs) = b :: bs := rfl
  have minus : asciiBytes ['-'] ++ (b :: bs) = ascii '-' :: b :: bs := rfl
  rw [cut]
  cases isNegative
  · simp only [Bool.false_eq_true, if_false, none, numeral?, if_neg hs, h1, h2, h3,
      Option.bind_eq_bind, Option.bind_some, Option.pure_def]
  · simp only [if_true, minus, numeral?, h1, h2, h3, Option.bind_eq_bind, Option.bind_some,
      Option.pure_def]

/-! ### Strings -/

/-- A unit has four hexadecimal digits and is no ASCII character. -/
def Piece.IsWellFormed : Piece → Prop
  | .byte _ => True
  | .unit n => 0x80 ≤ n ∧ n < 0x10000

theorem hexValue?_hexDigit (n : ℕ) : hexValue? (hexDigit n) = some (n % 16) := by
  have : ∀ d < 16, hexValue? (ascii (Nat.digitChar d)) = some d := by decide
  exact this (n % 16) (Nat.mod_lt n (by decide))

theorem text?_escapedUnit {n : ℕ} (h : n < 0x10000) (rest : Bytes) :
    text? (escapedUnit n ++ rest) = (fun (t, rest) => (unitPiece n :: t, rest)) <$> text? rest := by
  have hn : 4096 * (n / 4096 % 16) + 256 * (n / 256 % 16) + 16 * (n / 16 % 16) + n % 16 = n := by
    omega
  have hq : ascii '\\' ≠ ascii '"' := by decide
  have hc : ¬ascii '\\' < 0x20 := by decide
  simp only [escapedUnit, List.cons_append, List.nil_append, text?, if_neg hq, if_neg hc, if_true,
    hexValue?_hexDigit, Option.bind_eq_bind, Option.bind_some, hn]
  cases text? rest <;> rfl

theorem text?_letter {e c : UInt8} (he : e ≠ ascii 'u') (hc : letterEscape? e = some c)
    (rest : Bytes) :
    text? (ascii '\\' :: e :: rest) = (fun (t, rest) => (.byte c :: t, rest)) <$> text? rest := by
  have hq : ascii '\\' ≠ ascii '"' := by decide
  have hl : ¬ascii '\\' < 0x20 := by decide
  rw [text?.eq_def]
  simp only [if_neg hq, if_neg hl, if_true, if_neg he, hc, Option.bind_eq_bind, Option.bind_some]
  cases text? rest <;> rfl

theorem text?_plain {b : UInt8} (hq : b ≠ ascii '"') (hc : ¬b < 0x20) (hs : b ≠ ascii '\\')
    (rest : Bytes) :
    text? (b :: rest) = (fun (t, rest) => (.byte b :: t, rest)) <$> text? rest := by
  cases rest with
  | nil => simp only [text?, if_neg hq, Option.map_eq_map, Option.map_none]
  | cons e rest =>
    rw [text?.eq_def]
    simp only [if_neg hq, if_neg hc, if_neg hs]
    cases text? (e :: rest) <;> rfl

/-- A piece is read back, whatever follows. -/
theorem text?_piece {p : Piece} (h : p.IsWellFormed) (rest : Bytes) :
    text? (p.print ++ rest) = (fun (t, rest) => (p :: t, rest)) <$> text? rest := by
  cases p with
  | unit n =>
    have hu : unitPiece n = .unit n := if_neg (Nat.not_lt.2 h.1)
    rw [Piece.print, text?_escapedUnit h.2, hu]
  | byte b =>
    -- seven characters are escaped by a letter of their own
    by_cases hq : b = ascii '"'
    · subst hq
      exact text?_letter (by decide) (by decide) rest
    by_cases hs : b = ascii '\\'
    · subst hs
      exact text?_letter (by decide) (by decide) rest
    by_cases h8 : b = 0x08
    · subst h8
      exact text?_letter (by decide) (by decide) rest
    by_cases hC : b = 0x0C
    · subst hC
      exact text?_letter (by decide) (by decide) rest
    by_cases hA : b = 0x0A
    · subst hA
      exact text?_letter (by decide) (by decide) rest
    by_cases hD : b = 0x0D
    · subst hD
      exact text?_letter (by decide) (by decide) rest
    by_cases h9 : b = 0x09
    · subst h9
      exact text?_letter (by decide) (by decide) rest
    rw [Piece.print, if_neg hq, if_neg hs, if_neg h8, if_neg hC, if_neg hA, if_neg hD, if_neg h9]
    -- the other control characters are escaped as units
    by_cases hc : b < 0x20
    · have hn : b.toNat < 0x20 := hc
      have hu : unitPiece b.toNat = .byte b := by
        rw [unitPiece, if_pos (by omega)]
        simp
      rw [if_pos hc, text?_escapedUnit (by omega), hu]
    · rw [if_neg hc]
      exact text?_plain hq hc hs rest

theorem text?_pieces {t : Text} (h : ∀ p ∈ t, p.IsWellFormed) (rest : Bytes) :
    text? (t.flatMap Piece.print ++ ascii '"' :: rest) = some (t, rest) := by
  induction t with
  | nil =>
    cases rest with
    | nil => rfl
    | cons e rest =>
      rw [List.flatMap_nil, List.nil_append, text?.eq_def]
      simp only [if_true]
  | cons p t ih =>
    rw [List.flatMap_cons, List.append_assoc, text?_piece (h p List.mem_cons_self),
      ih fun p' h' => h p' (List.mem_cons_of_mem p h')]
    rfl

/-! ### Documents -/

/-- A document whose numerals and strings can be written. -/
inductive IsWellFormed : Json → Prop
  | null : IsWellFormed .null
  | bool (b : Bool) : IsWellFormed (.bool b)
  | number {n : Numeral} (numeral : n.IsWellFormed) : IsWellFormed (.number n)
  | string {t : Text} (pieces : ∀ p ∈ t, p.IsWellFormed) : IsWellFormed (.string t)
  | array {items : List Json} (each : ∀ item ∈ items, IsWellFormed item) :
    IsWellFormed (.array items)
  | object {members : List (Text × Json)} (names : ∀ m ∈ members, ∀ p ∈ m.1, p.IsWellFormed)
    (values : ∀ m ∈ members, IsWellFormed m.2) : IsWellFormed (.object members)

/-- With enough fuel the document is read from its text, which cannot be taken for the end of an
array. -/
structure IsReadBack (j : Json) : Prop where
  starts : ∃ b bs, print j = b :: bs ∧ isBlankByte b = false ∧ b ≠ ascii ']'
  read : ∀ (fuel : ℕ) (rest : Bytes), (print j).length ≤ fuel → EndsNumeral rest →
    value? fuel (print j ++ rest) = some (j, rest)

theorem skipBlank_cons {b : UInt8} (h : isBlankByte b = false) (rest : Bytes) :
    skipBlank (b :: rest) = b :: rest := by
  rw [skipBlank, List.dropWhile_cons, if_neg (by rw [h]; exact Bool.false_ne_true)]

theorem endsNumeral_cons {b : UInt8}
    (h : isDigitByte b = false ∧ b ≠ ascii '.' ∧ ¬(b = ascii 'e' ∨ b = ascii 'E'))
    (rest : Bytes) : EndsNumeral (b :: rest) := by
  refine ⟨endsDigits_cons h.1 rest, fun b' hb => ?_, fun b' hb => ?_⟩
  · obtain rfl := Option.some_inj.1 hb
    exact h.2.1
  · obtain rfl := Option.some_inj.1 hb
    exact h.2.2

theorem isReadBack_number {n : Numeral} (h : n.IsWellFormed) : IsReadBack (.number n) := by
  obtain ⟨b, bs, hb, hs⟩ := exists_text h
  -- so it cannot be taken for another kind of value
  let IsOther (b : UInt8) : Prop := isBlankByte b = false ∧ b ≠ ascii ']' ∧ b ≠ ascii '"' ∧
    b ≠ ascii '[' ∧ b ≠ ascii '\x7b' ∧ b ≠ ascii 'n' ∧ b ≠ ascii 't' ∧ b ≠ ascii 'f'
  have other : IsOther b := by
    have digit : ∀ d < 10, IsOther (ascii (Nat.digitChar d)) := by decide
    rcases hs with rfl | ⟨d, hd, rfl⟩
    · decide
    · exact digit d hd
  obtain ⟨blank, closing, h1, h2, h3, h4, h5, h6⟩ := other
  refine ⟨⟨b, bs, by rw [print, hb], blank, closing⟩, fun fuel rest enough ends => ?_⟩
  have hr := numeral?_text h ends
  rw [print] at enough ⊢
  rw [hb] at enough hr ⊢
  have hf : 0 < fuel := by
    rw [List.length_cons] at enough
    omega
  obtain ⟨fuel, rfl⟩ := Nat.exists_eq_add_one.2 hf
  rw [List.cons_append] at hr ⊢
  rw [value?, skipBlank_cons blank]
  simp only [if_neg h1, if_neg h2, if_neg h3, if_neg h4, if_neg h5, if_neg h6, hr,
    Option.bind_eq_bind, Option.bind_some, Option.pure_def]

theorem isReadBack_string {t : Text} (h : ∀ p ∈ t, p.IsWellFormed) : IsReadBack (.string t) := by
  refine ⟨⟨ascii '"', _, rfl, by decide, by decide⟩, fun fuel rest enough ends => ?_⟩
  have hr := text?_pieces h rest
  have hb : print (.string t) ++ rest =
      ascii '"' :: (t.flatMap Piece.print ++ ascii '"' :: rest) := by
    simp [print, Text.print]
  have hf : 0 < fuel := by
    simp only [print, Text.print, List.length_append, List.length_cons] at enough
    omega
  obtain ⟨fuel, rfl⟩ := Nat.exists_eq_add_one.2 hf
  rw [hb, value?, skipBlank_cons (by decide)]
  simp only [if_true, hr, Option.bind_eq_bind, Option.bind_some, Option.pure_def]

/-- Items that are read back one by one are read back as a list. -/
theorem items?_printItems {items : List Json} (h : ∀ item ∈ items, IsReadBack item)
    (nonempty : items ≠ []) (fuel : ℕ) (rest : Bytes)
    (enough : (printItems items).length ≤ fuel) :
    items? fuel (printItems items ++ rest) = some (items, rest) := by
  induction items generalizing fuel with
  | nil => exact absurd rfl nonempty
  | cons item items ih =>
    have hi := h item List.mem_cons_self
    -- the fuel for the list is that of its first item and of the others
    cases items with
    | nil =>
      have hb : printItems [item] ++ rest = print item ++ ascii ']' :: rest := by
        simp [printItems]
      have hl : (print item).length < fuel := by
        simp only [printItems, List.length_append, List.length_cons] at enough
        omega
      obtain ⟨fuel, rfl⟩ := Nat.exists_eq_add_one.2 (show 0 < fuel by omega)
      have hr := hi.read fuel (ascii ']' :: rest) (by omega) (endsNumeral_cons (by decide) rest)
      rw [hb, items?, hr]
      simp only [Option.bind_eq_bind, Option.bind_some, skipBlank_cons (b := ascii ']') (by decide),
        if_true]
    | cons item' items =>
      have hb : printItems (item :: item' :: items) ++ rest =
          print item ++ ascii ',' :: (printItems (item' :: items) ++ rest) := by
        simp [printItems]
      have hl : (print item).length + (printItems (item' :: items)).length < fuel := by
        rw [printItems, List.length_append, List.length_cons] at enough
        · omega
        · nofun
      obtain ⟨fuel, rfl⟩ := Nat.exists_eq_add_one.2 (show 0 < fuel by omega)
      have hr := hi.read fuel (ascii ',' :: (printItems (item' :: items) ++ rest)) (by omega)
        (endsNumeral_cons (by decide) _)
      have hs := ih (fun i hm => h i (List.mem_cons_of_mem item hm)) nofun fuel (by omega)
      have hc : ascii ',' ≠ ascii ']' := by decide
      rw [hb, items?, hr]
      simp only [Option.bind_eq_bind, Option.bind_some, skipBlank_cons (b := ascii ',') (by decide),
        if_neg hc, if_true, hs, Option.pure_def]

/-- Members whose values are read back one by one are read back as a list. -/
theorem members?_printMembers {members : List (Text × Json)}
    (names : ∀ m ∈ members, ∀ p ∈ m.1, p.IsWellFormed)
    (values : ∀ m ∈ members, IsReadBack m.2) (nonempty : members ≠ []) (fuel : ℕ) (rest : Bytes)
    (enough : (printMembers members).length ≤ fuel) :
    members? fuel (printMembers members ++ rest) = some (members, rest) := by
  induction members generalizing fuel with
  | nil => exact absurd rfl nonempty
  | cons m members ih =>
    obtain ⟨name, value⟩ := m
    have hn (rest : Bytes) := text?_pieces (names (name, value) List.mem_cons_self) rest
    have hv : IsReadBack value := values (name, value) List.mem_cons_self
    cases members with
    | nil =>
      have hb : printMembers [(name, value)] ++ rest = ascii '"' ::
          (name.flatMap Piece.print ++ ascii '"' ::
            (ascii ':' :: (print value ++ ascii '\x7d' :: rest))) := by
        simp [printMembers, Text.print]
      have hl : (print value).length < fuel := by
        simp only [printMembers, Text.print, List.length_append, List.length_cons] at enough
        omega
      obtain ⟨fuel, rfl⟩ := Nat.exists_eq_add_one.2 (show 0 < fuel by omega)
      have hr := hv.read fuel (ascii '\x7d' :: rest) (by omega) (endsNumeral_cons (by decide) rest)
      rw [hb, members?, skipBlank_cons (by decide)]
      simp only [if_true, hn, Option.bind_eq_bind, Option.bind_some,
        skipBlank_cons (b := ascii ':') (by decide), hr,
        skipBlank_cons (b := ascii '\x7d') (by decide)]
    | cons m' members =>
      -- the name needs no fuel, so what it has left over is spent on the value
      have hb : printMembers ((name, value) :: m' :: members) ++ rest = ascii '"' ::
          (name.flatMap Piece.print ++ ascii '"' ::
            (ascii ':' :: (print value ++
              ascii ',' :: (printMembers (m' :: members) ++ rest)))) := by
        simp [printMembers, Text.print]
      have hl : (print value).length + (printMembers (m' :: members)).length < fuel := by
        rw [printMembers] at enough
        · simp only [Text.print, List.length_append, List.length_cons] at enough
          omega
        · nofun
      obtain ⟨fuel, rfl⟩ := Nat.exists_eq_add_one.2 (show 0 < fuel by omega)
      have hr := hv.read fuel (ascii ',' :: (printMembers (m' :: members) ++ rest)) (by omega)
        (endsNumeral_cons (by decide) _)
      have hs := ih (fun m hm => names m (List.mem_cons_of_mem _ hm))
        (fun m hm => values m (List.mem_cons_of_mem _ hm)) nofun fuel (by omega)
      have hc : ascii ',' ≠ ascii '\x7d' := by decide
      rw [hb, members?, skipBlank_cons (by decide)]
      simp only [if_true, hn, Option.bind_eq_bind, Option.bind_some,
        skipBlank_cons (b := ascii ':') (by decide), hr,
        skipBlank_cons (b := ascii ',') (by decide), if_neg hc, hs, Option.pure_def]

theorem isReadBack_array {items : List Json} (h : ∀ item ∈ items, IsReadBack item) :
    IsReadBack (.array items) := by
  refine ⟨⟨ascii '[', _, rfl, by decide, by decide⟩, fun fuel rest enough ends => ?_⟩
  have hq : ascii '[' ≠ ascii '"' := by decide
  rw [print, List.length_cons] at enough
  obtain ⟨fuel, rfl⟩ := Nat.exists_eq_add_one.2 (show 0 < fuel by omega)
  rw [print, List.cons_append, value?, skipBlank_cons (by decide)]
  simp only [if_neg hq, if_true]
  cases items with
  | nil =>
    have hb : printItems [] ++ rest = ascii ']' :: rest := rfl
    rw [hb, skipBlank_cons (by decide)]
    simp only [if_true]
  | cons item items =>
    -- the first item cannot be taken for the end of the array
    have hr := items?_printItems h nofun fuel rest (by omega)
    obtain ⟨b, bs, hb, blank, closing⟩ := (h item List.mem_cons_self).starts
    obtain ⟨bs, hb⟩ : ∃ bs', printItems (item :: items) ++ rest = b :: bs' := by
      cases items with
      | nil => exact ⟨_, by rw [printItems, hb]; rfl⟩
      | cons item' items =>
        refine ⟨bs ++ ascii ',' :: printItems (item' :: items) ++ rest, ?_⟩
        rw [printItems, hb]
        · simp
        · nofun
    rw [hb] at hr ⊢
    rw [skipBlank_cons blank]
    simp only [if_neg closing, hr, Option.bind_eq_bind, Option.bind_some, Option.pure_def]

theorem isReadBack_object {members : List (Text × Json)}
    (names : ∀ m ∈ members, ∀ p ∈ m.1, p.IsWellFormed)
    (values : ∀ m ∈ members, IsReadBack m.2) : IsReadBack (.object members) := by
  refine ⟨⟨ascii '\x7b', _, rfl, by decide, by decide⟩, fun fuel rest enough ends => ?_⟩
  have hq : ascii '\x7b' ≠ ascii '"' := by decide
  have hl : ascii '\x7b' ≠ ascii '[' := by decide
  rw [print, List.length_cons] at enough
  obtain ⟨fuel, rfl⟩ := Nat.exists_eq_add_one.2 (show 0 < fuel by omega)
  rw [print, List.cons_append, value?, skipBlank_cons (by decide)]
  simp only [if_neg hq, if_neg hl, if_true]
  cases members with
  | nil =>
    have hb : printMembers [] ++ rest = ascii '\x7d' :: rest := rfl
    rw [hb, skipBlank_cons (by decide)]
    simp only [if_true]
  | cons m members =>
    have hr := members?_printMembers names values nofun fuel rest (by omega)
    have hc : ascii '"' ≠ ascii '\x7d' := by decide
    obtain ⟨bs, hb⟩ : ∃ bs', printMembers (m :: members) ++ rest = ascii '"' :: bs' := by
      cases members with
      | nil => exact ⟨_, rfl⟩
      | cons => exact ⟨_, rfl⟩
    rw [hb] at hr ⊢
    rw [skipBlank_cons (by decide)]
    simp only [if_neg hc, hr, Option.bind_eq_bind, Option.bind_some, Option.pure_def]

theorem dropWord?_append (word : List Char) (rest : Bytes) :
    dropWord? word (asciiBytes word ++ rest) = some rest := by
  simp [dropWord?, asciiBytes]

/-- A word is told from others by its first letter. -/
theorem isReadBack_word {j : Json} {letter : Char} {word : List Char}
    (hj : print j = ascii letter :: asciiBytes word)
    (blank : isBlankByte (ascii letter) = false) (closing : ascii letter ≠ ascii ']')
    (hv : ∀ fuel bs, value? (fuel + 1) (ascii letter :: bs) = (j, ·) <$> dropWord? word bs) :
    IsReadBack j := by
  refine ⟨⟨_, _, hj, blank, closing⟩, fun fuel rest enough ends => ?_⟩
  rw [hj, List.length_cons] at enough
  obtain ⟨fuel, rfl⟩ := Nat.exists_eq_add_one.2 (show 0 < fuel by omega)
  rw [hj, List.cons_append, hv, dropWord?_append]
  rfl

theorem IsWellFormed.isReadBack {j : Json} (h : j.IsWellFormed) : IsReadBack j := by
  induction h with
  | null =>
    refine isReadBack_word rfl (by decide) (by decide) fun fuel bs => ?_
    rw [value?, skipBlank_cons (by decide)]
    rfl
  | bool b =>
    cases b with
    | true =>
      refine isReadBack_word rfl (by decide) (by decide) fun fuel bs => ?_
      rw [value?, skipBlank_cons (by decide)]
      rfl
    | false =>
      refine isReadBack_word rfl (by decide) (by decide) fun fuel bs => ?_
      rw [value?, skipBlank_cons (by decide)]
      rfl
  | number numeral => exact isReadBack_number numeral
  | string pieces => exact isReadBack_string pieces
  | array each ih => exact isReadBack_array ih
  | object names values ih => exact isReadBack_object names ih

/-- **A document is read back from its text.** -/
theorem parse?_print {j : Json} (h : j.IsWellFormed) : parse? (print j) = some j := by
  have hr := h.isReadBack.read (2 * (print j).length + 2) [] (by omega) endsNumeral_nil
  rw [List.append_nil] at hr
  rw [parse?, hr]
  rfl

end Json
end MetricRelay
