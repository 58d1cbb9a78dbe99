import Mathlib.Tactic.ByContra
import Mathlib.Tactic.SplitIfs
import MetricRelay.Proofs.Config.Required
import MetricRelay.Sender.Options

/-!
# Reading options

Endpoints and retry options require nothing, since all of their fields have defaults.  The
options of a sender have one field that is required.  It is kept apart from the others while they
are read (`SenderOptions.set_of_ne`), and is reported as missing exactly for a table that does not
give it, but would be read if it did (`SenderOptions.decode_eq_missing_iff`).

Options that were read may still not be usable (`SenderOptions.IsValid`).
-/

namespace MetricRelay

open Decoder

theorem Endpoint.requiresNothing_decode : RequiresNothing Endpoint.decode := by
  refine requiresNothing_fields (fun field c e => ?_) _ _ _
  split
  · exact (requiresNothing_text c).bind fun _ => lacksNothing_ok _
  · exact (requiresNothing_text c).bind fun _ => lacksNothing_ok _
  · exact (IsScalar.unsigned16.requiresNothing c).bind fun _ => lacksNothing_ok _

theorem RetryOptions.requiresNothing_decode : RequiresNothing RetryOptions.decode := by
  refine requiresNothing_fields (fun field c o => ?_) _ _ _
  split
  · exact (IsScalar.unsigned32.requiresNothing c).bind fun _ => lacksNothing_ok _
  · exact (requiresNothing_choice _ _ c).bind fun _ => lacksNothing_ok _
  · exact (IsScalar.unsigned64.requiresNothing c).bind fun _ => lacksNothing_ok _
  · exact (IsScalar.unsigned64.requiresNothing c).bind fun _ => lacksNothing_ok _

namespace SenderOptions

/-! ### The fields -/

/-- The field that has no default. -/
def requiredField : String := "default_source_name"

theorem lacksNothing_set (field : String) (c : Config) (p : Option String × SenderOptions) :
    LacksNothing (set field c p) := by
  obtain ⟨source, o⟩ := p
  simp only [set]
  split
  all_goals refine LacksNothing.bind ?_ fun _ => lacksNothing_ok _
  · exact requiresNothing_text c
  · exact Endpoint.requiresNothing_decode c
  · exact requiresNothing_text c
  · exact IsScalar.size.requiresNothing c
  · exact IsScalar.size.requiresNothing c
  · exact IsScalar.unsigned64.requiresNothing c
  · exact IsScalar.unsigned64.requiresNothing c
  · exact requiresNothing_choice _ _ c
  · exact requiresNothing_choice _ _ c
  · exact requiresNothing_bool c
  · exact IsScalar.unsigned64.requiresNothing c
  · exact requiresNothing_choice _ _ c
  · exact IsScalar.size.requiresNothing c
  · exact RetryOptions.requiresNothing_decode c

/-- The other fields are read in the same way whatever the source is, and leave it alone. -/
theorem set_of_ne {field : String} (other : field ≠ requiredField) (c : Config)
    (source : Option String) (o : SenderOptions) :
    set field c (source, o) = (fun p => (source, p.2)) <$> set field c (none, o) := by
  simp only [set]
  split
  · exact absurd rfl other
  all_goals
    symm
    exact map_bind _ _ _

/-- What reading a field makes of the source. -/
theorem fst_eq_none_of_set {field : String} {c : Config} {p p' : Option String × SenderOptions}
    (h : set field c p = .ok p') :
    p'.1 = none ↔ p.1 = none ∧ field ≠ requiredField := by
  obtain ⟨source, o⟩ := p
  by_cases own : field = requiredField
  · subst own
    obtain ⟨s, -, made⟩ := exists_of_bind_eq_ok h
    cases made
    simp
  · rw [set_of_ne own] at h
    obtain ⟨p, -, made⟩ := exists_of_map_eq_ok h
    subst made
    simp [own]

/-! ### The required field -/

/-- The entries of a table that are fields. -/
def givenFields (entries : List (String × Config)) : List (String × String × Config) :=
  entries.filterMap fun (name, c) => if fieldNames.contains name then some (name, name, c) else none

/-- The reading of a given field, with errors seen from outside. -/
def readField (p : Option String × SenderOptions) (given : String × String × Config) :
    Except FieldError (Option String × SenderOptions) :=
  under given.1 (set given.2.1 given.2.2 p)

/-- The reading of given fields. -/
def readFields (given : List (String × String × Config)) (p : Option String × SenderOptions) :
    Except FieldError (Option String × SenderOptions) :=
  given.foldlM readField p

theorem decode_table (entries : List (String × Config)) :
    decode (.table entries) =
      readFields (givenFields entries) (none, { defaultSource := "" }) >>= fun p =>
        match p.1 with
        | some source => .ok { p.2 with defaultSource := source }
        | none => .error (.missing requiredField) := by
  unfold decode
  rw [show Decoder.fields "SenderConfiguration" fieldNames _ set (.table entries) =
    readFields (givenFields entries) (none, { defaultSource := "" }) from rfl]
  cases readFields (givenFields entries) (none, { defaultSource := "" }) with
  | error e => rfl
  | ok p =>
    obtain ⟨source, o⟩ := p
    cases source <;> rfl

variable {given : List (String × String × Config)} {p p' : Option String × SenderOptions}

theorem fst_eq_none_of_readField {g : String × String × Config} (h : readField p g = .ok p') :
    p'.1 = none ↔ p.1 = none ∧ g.2.1 ≠ requiredField := by
  refine fst_eq_none_of_set (c := g.2.2) ?_
  unfold readField at h
  cases read : set g.2.1 g.2.2 p with
  | ok q =>
    rw [read] at h
    exact h
  | error e =>
    rw [read] at h
    cases h

theorem fst_eq_none_of_readFields (h : readFields given p = .ok p') :
    p'.1 = none ↔ p.1 = none ∧ ∀ g ∈ given, g.2.1 ≠ requiredField := by
  induction given generalizing p with
  | nil =>
    cases h
    simp
  | cons g given ih =>
    rw [readFields, List.foldlM_cons] at h
    obtain ⟨q, first, later⟩ := exists_of_bind_eq_ok h
    rw [ih later, fst_eq_none_of_readField first, List.forall_mem_cons, and_assoc]

/-- Without the required field among them, fields are read in the same way whatever the source
is. -/
theorem readFields_of_ne (others : ∀ g ∈ given, g.2.1 ≠ requiredField) (source : Option String)
    (o : SenderOptions) :
    readFields given (source, o) = (fun p => (source, p.2)) <$> readFields given (none, o) := by
  induction given generalizing o with
  | nil => rfl
  | cons g given ih =>
    obtain ⟨own, others⟩ := List.forall_mem_cons.1 others
    rw [readFields, readFields, List.foldlM_cons, List.foldlM_cons, readField, readField,
      set_of_ne own]
    cases read : set g.2.1 g.2.2 (none, o) with
    | error e => rfl
    | ok p =>
      obtain ⟨left, o'⟩ := p
      obtain rfl : left = none := (fst_eq_none_of_set read).2 ⟨rfl, own⟩
      exact ih others o'

theorem lacksNothing_readFields (given : List (String × String × Config))
    (p : Option String × SenderOptions) : LacksNothing (readFields given p) := by
  unfold readFields
  exact lacksNothing_foldlM (fun p g => (lacksNothing_set g.2.1 g.2.2 p).under g.1) given p

/-- Only a table can lack a field. -/
theorem lacksNothing_decode {c : Config} (no_table : ∀ entries, c ≠ .table entries) :
    LacksNothing (decode c) := by
  cases c with
  | table entries => exact absurd rfl (no_table entries)
  | list items =>
    refine (requiresNothing_fields lacksNothing_set _ _ _ _).bind fun p => ?_
    obtain ⟨source, o⟩ := p
    cases source with
    | none => exact lacksNothing_rejected
    | some source => exact lacksNothing_ok _
  | _ => exact nofun

theorem ne_of_mem_givenFields {entries : List (String × Config)} :
    (∀ g ∈ givenFields entries, g.2.1 ≠ requiredField) ↔ ∀ e ∈ entries, e.1 ≠ requiredField := by
  constructor
  · rintro others ⟨name, c⟩ he rfl
    exact others (requiredField, requiredField, c) (List.mem_filterMap.2 ⟨_, he, rfl⟩) rfl
  · intro others g hg
    obtain ⟨⟨name, c⟩, he, given⟩ := List.mem_filterMap.1 hg
    dsimp only at given
    split_ifs at given
    cases given
    exact others _ he

/-- **When options lack a field**: a table does not give the required field, and is read as soon
as any text is given for it. -/
theorem decode_eq_missing_iff {c : Config} {field : String} :
    decode c = .error (.missing field) ↔
      field = requiredField ∧ ∃ entries, c = .table entries ∧
        (∀ e ∈ entries, e.1 ≠ requiredField) ∧
        ∀ source, ∃ o, decode (.table ((requiredField, .text source) :: entries)) = .ok o := by
  -- with the field in front, the others are read as they are without it
  have given_text (source : String) (entries : List (String × Config)) :
      readFields (givenFields ((requiredField, .text source) :: entries))
          (none, { defaultSource := "" }) =
        readFields (givenFields entries) (some source, { defaultSource := "" }) := rfl
  constructor
  · intro lacking
    by_cases no_table : ∀ entries, c ≠ .table entries
    · exact absurd lacking (lacksNothing_decode no_table field)
    · obtain ⟨entries, rfl⟩ := not_forall_not.1 no_table
      rw [decode_table] at lacking
      cases read : readFields (givenFields entries) (none, { defaultSource := "" }) with
      | error e =>
        rw [read] at lacking
        cases lacking
        exact absurd read (lacksNothing_readFields _ _ field)
      | ok p =>
        obtain ⟨source, o⟩ := p
        rw [read] at lacking
        cases source with
        | some source => cases lacking
        | none =>
          cases lacking
          have others := ((fst_eq_none_of_readFields read).1 rfl).2
          refine ⟨rfl, entries, rfl, ne_of_mem_givenFields.1 others, fun source => ?_⟩
          rw [decode_table, given_text, readFields_of_ne others, read]
          exact ⟨_, rfl⟩
  · rintro ⟨rfl, entries, rfl, others, readable⟩
    have others := ne_of_mem_givenFields.2 others
    obtain ⟨o, readable⟩ := readable ""
    rw [decode_table, given_text, readFields_of_ne others] at readable
    rw [decode_table]
    cases read : readFields (givenFields entries) (none, { defaultSource := "" }) with
    | error e =>
      rw [read] at readable
      cases readable
    | ok p =>
      obtain ⟨source, o⟩ := p
      obtain rfl : source = none := (fst_eq_none_of_readFields read).2 ⟨rfl, others⟩
      rfl

/-! ### Validity -/

/-- The options are usable by themselves. -/
structure IsValid (o : SenderOptions) : Prop where
  named : (trimBlank o.defaultSource.toList).isEmpty = false
  batched : 0 < o.maxBatchSize.toNat
  buffered : o.maxBatchSize.toNat ≤ o.maxBufferSize.toNat
  paced : 0 < o.flushIntervalMs.toNat

theorem fault?_eq_none_iff {o : SenderOptions} : o.fault? = none ↔ o.IsValid := by
  have positive (n : UInt64) : n ≠ 0 ↔ 0 < n.toNat := by
    rw [Nat.pos_iff_ne_zero, ne_eq, ne_eq, ← UInt64.toNat_inj]
    rfl
  unfold fault?
  constructor
  · intro sound
    split_ifs at sound with unnamed unbuffered unbatched unfit unpaced
    exact ⟨by simpa using unnamed, (positive _).1 unbatched,
      by simpa [UInt64.lt_iff_toNat_lt] using unfit, (positive _).1 unpaced⟩
  · rintro ⟨named, batched, buffered, paced⟩
    have unfit : ¬o.maxBufferSize < o.maxBatchSize := by
      rw [UInt64.lt_iff_toNat_lt]
      omega
    rw [if_neg (by simp [named]), if_neg ((positive _).2 (by omega)),
      if_neg ((positive _).2 batched), if_neg unfit, if_neg ((positive _).2 paced)]

end SenderOptions
end MetricRelay
