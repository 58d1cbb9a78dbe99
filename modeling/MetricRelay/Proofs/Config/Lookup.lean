import MetricRelay.Proofs.Config.Layers
import MetricRelay.Proofs.Config.Paths
import MetricRelay.Proofs.Sender.Options

/-!
# Optional look-ups

An optional look-up answers with the value that is read, with an error, or with nothing.  Nothing
is the answer if there is no value at the path of the key.  It is also the answer if there is a
value in which a field is missing, since a missing field and a missing value come back as the
same error (`Layers.tryGet_eq_none_iff`).  So nothing means that there is no value only for types
that require no field (`Layers.optional_lookup`), which the options of a sender do
(`Layers.nothing_of_missing_field`).
-/

namespace MetricRelay
namespace Settings

variable {α : Type} {s : Settings} {read : Decoder α} {key : String}

/-- What is at the path of a key, if the layers can be merged. -/
def Holds (s : Settings) (key : String) (c : Option Config) : Prop :=
  ∃ root, s.root = .ok root ∧ root.at? (Config.pathOfKey key) = c

theorem tryGet_of_absent (read : Decoder α) (h : s.Holds key none) :
    s.tryGet read key = .ok none := by
  obtain ⟨root, merged, absent⟩ := h
  rw [tryGet, Layers.get_of_missing read merged absent]

theorem tryGet_of_ok {c : Config} {a : α} (h : s.Holds key (some c)) (ok : read c = .ok a) :
    s.tryGet read key = .ok (some a) := by
  obtain ⟨root, merged, found⟩ := h
  rw [tryGet, Layers.get_of_at? read merged found, ok]
  rfl

/-- A field that is missing in a value is reported like a value that is missing. -/
theorem tryGet_of_missing {c : Config} {field : String} (h : s.Holds key (some c))
    (missing : read c = .error (.missing field)) : s.tryGet read key = .ok none := by
  obtain ⟨root, merged, found⟩ := h
  rw [tryGet, Layers.get_of_at? read merged found, missing]
  rfl

theorem tryGet_of_error {c : Config} {e : FieldError} (h : s.Holds key (some c))
    (error : read c = .error e) (other : ∀ field, e ≠ .missing field) :
    s.tryGet read key = .error (s.explain key e) := by
  obtain ⟨root, merged, found⟩ := h
  rw [tryGet, Layers.get_of_at? read merged found, error]
  cases e with
  | missing field => exact absurd rfl (other field)
  | mismatch path expected given => rfl
  | rejected => rfl

end Settings

namespace Layers

variable {α : Type} (l : Layers) (read : Decoder α) (key : String)

/-- There is an error if some layer is no table. -/
theorem holds_or_error :
    (∃ c, l.merged.Holds key c) ∨ ∃ e, l.merged.tryGet read key = .error e := by
  cases merged : l.merged.root with
  | ok root => exact .inl ⟨_, root, merged, rfl⟩
  | error e =>
    obtain ⟨c, no_table⟩ : ∃ c, e = .mismatch [] "map" (Decoder.described c) := by
      rw [root_merged] at merged
      split at merged
      · rename_i c found
        cases merged
        exact ⟨c, rfl⟩
      · cases merged
    refine .inr ⟨.invalidFieldType "" "map" (Decoder.described c), ?_⟩
    rw [Settings.tryGet, Settings.get, merged, no_table]
    rfl

/-- The ways in which an optional look-up ends. -/
theorem tryGet_cases :
    (l.merged.Holds key none ∧ l.merged.tryGet read key = .ok none) ∨
    (∃ c a, l.merged.Holds key (some c) ∧ read c = .ok a ∧
      l.merged.tryGet read key = .ok (some a)) ∨
    (∃ c field, l.merged.Holds key (some c) ∧ read c = .error (.missing field) ∧
      l.merged.tryGet read key = .ok none) ∨
    ∃ e, l.merged.tryGet read key = .error e := by
  rcases l.holds_or_error read key with ⟨c | c, h⟩ | error
  · exact .inl ⟨h, Settings.tryGet_of_absent read h⟩
  · cases result : read c with
    | ok a => exact .inr (.inl ⟨c, a, h, result, Settings.tryGet_of_ok h result⟩)
    | error e =>
      cases e with
      | missing field =>
        exact .inr (.inr (.inl ⟨c, field, h, result, Settings.tryGet_of_missing h result⟩))
      | mismatch path expected given =>
        exact .inr (.inr (.inr ⟨_, Settings.tryGet_of_error h result nofun⟩))
      | rejected => exact .inr (.inr (.inr ⟨_, Settings.tryGet_of_error h result nofun⟩))
  · exact .inr (.inr (.inr error))

theorem tryGet_eq_some_iff {a : α} :
    l.merged.tryGet read key = .ok (some a) ↔
      ∃ c, l.merged.Holds key (some c) ∧ read c = .ok a := by
  constructor
  · intro answer
    rcases l.tryGet_cases read key with
      ⟨-, none⟩ | ⟨c, b, h, ok, some⟩ | ⟨c, field, -, -, none⟩ | ⟨e, error⟩
    · cases none.symm.trans answer
    · cases some.symm.trans answer
      exact ⟨c, h, ok⟩
    · cases none.symm.trans answer
    · cases error.symm.trans answer
  · rintro ⟨c, h, ok⟩
    exact Settings.tryGet_of_ok h ok

/-- **When an optional look-up has nothing to answer.** -/
theorem tryGet_eq_none_iff :
    l.merged.tryGet read key = .ok none ↔
      l.merged.Holds key none ∨
        ∃ c field, l.merged.Holds key (some c) ∧ read c = .error (.missing field) := by
  constructor
  · intro answer
    rcases l.tryGet_cases read key with
      ⟨h, -⟩ | ⟨c, b, -, -, some⟩ | ⟨c, field, h, missing, -⟩ | ⟨e, error⟩
    · exact .inl h
    · cases some.symm.trans answer
    · exact .inr ⟨c, field, h, missing⟩
    · cases error.symm.trans answer
  · rintro (h | ⟨c, field, h, missing⟩)
    · exact Settings.tryGet_of_absent read h
    · exact Settings.tryGet_of_missing h missing

/-- A type that requires no field leaves no other reason to answer nothing than that there is no
value. -/
theorem tryGet_eq_none_iff_of_requiresNothing (complete : read.RequiresNothing) :
    l.merged.tryGet read key = .ok none ↔ l.merged.Holds key none := by
  rw [tryGet_eq_none_iff]
  constructor
  · rintro (h | ⟨c, field, -, missing⟩)
    · exact h
    · exact absurd missing (complete c field)
  · exact .inl

/-- The options of a sender require a field. -/
theorem tryGet_options_eq_none_iff :
    l.merged.tryGet SenderOptions.decode key = .ok none ↔
      l.merged.Holds key none ∨
        ∃ entries, l.merged.Holds key (some (.table entries)) ∧
          (∀ e ∈ entries, e.1 ≠ SenderOptions.requiredField) ∧
          ∀ source, ∃ o, SenderOptions.decode
            (.table ((SenderOptions.requiredField, .text source) :: entries)) = .ok o := by
  rw [tryGet_eq_none_iff]
  refine or_congr_right ?_
  constructor
  · rintro ⟨c, field, h, missing⟩
    obtain ⟨-, entries, rfl, lacking⟩ := SenderOptions.decode_eq_missing_iff.1 missing
    exact ⟨entries, h, lacking⟩
  · rintro ⟨entries, h, lacking⟩
    exact ⟨_, _, h, SenderOptions.decode_eq_missing_iff.2 ⟨rfl, entries, rfl, lacking⟩⟩

/-- **What an optional look-up answers**, whatever the layers, the type and the key are:

- A value is the answer if and only if there is a value at the path and this is its reading.
- Nothing is the answer if there is no value at the path, and also if a field is missing in the
  value that is there.
- For a type that requires no field, as all built-in types, there is no value then.
- The options of a sender are missing as well if a table is there that lacks only the field they
  require.
- The path has the names of the key, as long as none of them is empty. -/
theorem optional_lookup (l : Layers) {α : Type} (read : Decoder α) (key : String) :
    (∀ a, l.merged.tryGet read key = .ok (some a) ↔
      ∃ c, l.merged.Holds key (some c) ∧ read c = .ok a) ∧
    (l.merged.tryGet read key = .ok none ↔
      l.merged.Holds key none ∨
        ∃ c field, l.merged.Holds key (some c) ∧ read c = .error (.missing field)) ∧
    (read.IsScalar → read.RequiresNothing) ∧
    (read.RequiresNothing →
      (l.merged.tryGet read key = .ok none ↔ l.merged.Holds key none)) ∧
    (l.merged.tryGet SenderOptions.decode key = .ok none ↔
      l.merged.Holds key none ∨
        ∃ entries, l.merged.Holds key (some (.table entries)) ∧
          (∀ e ∈ entries, e.1 ≠ SenderOptions.requiredField) ∧
          ∀ source, ∃ o, SenderOptions.decode
            (.table ((SenderOptions.requiredField, .text source) :: entries)) = .ok o) ∧
    ("" ∉ Config.namesOfKey key → Config.pathOfKey key = Config.namesOfKey key) :=
  ⟨fun _ => l.tryGet_eq_some_iff read key, l.tryGet_eq_none_iff read key,
    Decoder.IsScalar.requiresNothing, l.tryGet_eq_none_iff_of_requiresNothing read key,
    l.tryGet_options_eq_none_iff key, Config.pathOfKey_eq_namesOfKey⟩

/-! ### A file without a required field -/

/-- A number, and a table for options that gives none of them. -/
def lackingCalls : List Call :=
  [.json "settings.json" (some (Utf8.encode "\x7b\"a\":1,\"sender\":\x7b\x7d\x7d"))]

theorem optional_lookup_sample :
    ∃ l, load lackingCalls = .ok l ∧
      l.merged.tryGet Decoder.unsigned64 "b" = .ok none ∧
      l.merged.tryGet SenderOptions.decode "b" = .ok none ∧
      Config.pathOfKey "sender.retry" = ["sender", "retry"] := by
  obtain ⟨l, loaded⟩ : ∃ l, load lackingCalls = .ok l := ⟨_, rfl⟩
  have absent : l.merged.Holds "b" none := by
    cases loaded
    exact ⟨_, rfl, rfl⟩
  obtain ⟨-, -, complete, scalar, -, -⟩ := l.optional_lookup Decoder.unsigned64 "b"
  obtain ⟨-, -, -, -, options, -⟩ := l.optional_lookup Decoder.unsigned64 "b"
  obtain ⟨-, -, -, -, -, named⟩ := l.optional_lookup Decoder.unsigned64 "sender.retry"
  refine ⟨l, loaded, (scalar (complete .unsigned64)).2 absent, options.2 (.inl absent), ?_⟩
  rw [named (by decide +kernel)]
  rfl

/-- There is a value, and the answer is nothing.  Behind a number an empty name is followed, and
the answer is that number. -/
theorem nothing_of_missing_field :
    ∃ l root, load lackingCalls = .ok l ∧ l.merged.root = .ok root ∧
      root.at? (Config.namesOfKey "sender") = some (.table []) ∧
      l.merged.tryGet SenderOptions.decode "sender" = .ok none ∧
      root.at? (Config.namesOfKey "a..b") = none ∧
      root.at? ((Config.namesOfKey "a..b").filter (· ≠ "")) = none ∧
      l.merged.tryGet Decoder.unsigned64 "a..b" = .ok (some 1) :=
  ⟨_, _, rfl, rfl, rfl, rfl, rfl, rfl, rfl⟩

end Layers
end MetricRelay
