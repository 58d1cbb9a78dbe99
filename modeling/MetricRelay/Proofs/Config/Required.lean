import Mathlib.Tactic.SplitIfs
import MetricRelay.Config.Decoder
import MetricRelay.Proofs.Traversal

/-!
# Fields that have to be given

A reading lacks nothing (`Decoder.LacksNothing`) if it does not end with a missing field; it may
fail in other ways.  Every step of a reading has to lack nothing for the whole to do so.  Single
values have no fields (`Decoder.IsScalar.requiresNothing`), and a structure requires nothing if
the values of its fields do not: fields that are not given keep their defaults
(`Decoder.requiresNothing_fields`).
-/

namespace MetricRelay
namespace Decoder

variable {α β : Type}

/-- No field is reported as missing. -/
def LacksNothing (r : Except FieldError α) : Prop := ∀ field, r ≠ .error (.missing field)

/-- Whatever is read, no field is reported as missing. -/
def RequiresNothing (read : Decoder α) : Prop := ∀ c, LacksNothing (read c)

/-! ### Steps of a reading -/

theorem lacksNothing_ok (a : α) : LacksNothing (.ok a) := nofun

theorem lacksNothing_rejected : LacksNothing (.error .rejected : Except FieldError α) := nofun

theorem lacksNothing_mismatch (expected : String) (c : Config) :
    LacksNothing (mismatch expected c : Except FieldError α) := nofun

theorem LacksNothing.bind {x : Except FieldError α} {f : α → Except FieldError β}
    (first : LacksNothing x) (later : ∀ a, LacksNothing (f a)) : LacksNothing (x >>= f) := by
  cases x with
  | ok a => exact later a
  | error e =>
    rintro field ⟨⟩
    exact first field rfl

theorem LacksNothing.map {x : Except FieldError α} (h : LacksNothing x) (f : α → β) :
    LacksNothing (x.map f) := by
  cases x with
  | ok a => exact lacksNothing_ok (f a)
  | error e =>
    rintro field ⟨⟩
    exact h field rfl

theorem LacksNothing.under {x : Except FieldError α} (h : LacksNothing x) (name : String) :
    LacksNothing (Decoder.under name x) := by
  cases x with
  | ok a => exact lacksNothing_ok a
  | error e =>
    cases e with
    | missing field => exact absurd rfl (h field)
    | mismatch path expected found => exact nofun
    | rejected => exact nofun

theorem lacksNothing_foldlM {step : β → α → Except FieldError β}
    (h : ∀ b a, LacksNothing (step b a)) (l : List α) (start : β) :
    LacksNothing (l.foldlM step start) := by
  induction l generalizing start with
  | nil => exact lacksNothing_ok start
  | cons a l ih =>
    rw [List.foldlM_cons]
    exact (h start a).bind ih

/-! ### Single values -/

/-- The decoder reads a single value of a built-in type. -/
inductive IsScalar : {α : Type} → Decoder α → Prop
  | text : IsScalar text
  | bool : IsScalar bool
  | unsigned16 : IsScalar unsigned16
  | unsigned32 : IsScalar unsigned32
  | unsigned64 : IsScalar unsigned64
  | size : IsScalar size
  | signed64 : IsScalar signed64
  | float : IsScalar float

theorem requiresNothing_text : RequiresNothing text := by
  intro c
  unfold text
  split
  · exact lacksNothing_ok _
  · exact lacksNothing_ok _
  · exact lacksNothing_mismatch _ _

theorem requiresNothing_bool : RequiresNothing bool := by
  intro c
  unfold bool
  split
  · exact lacksNothing_ok _
  · exact lacksNothing_mismatch _ _

theorem requiresNothing_integer (name : String) (least greatest : Int) :
    RequiresNothing (integer name least greatest) := by
  intro c
  unfold integer
  split
  · split_ifs
    · exact lacksNothing_ok _
    · exact lacksNothing_rejected
  · exact lacksNothing_mismatch _ _

theorem requiresNothing_float : RequiresNothing float := by
  intro c
  unfold float
  split
  · exact lacksNothing_ok _
  · split
    · exact lacksNothing_ok _
    · exact lacksNothing_mismatch _ _

/-- **A single value has no fields that could be missing.** -/
theorem IsScalar.requiresNothing {read : Decoder α} (h : read.IsScalar) :
    RequiresNothing read := by
  cases h with
  | text => exact requiresNothing_text
  | bool => exact requiresNothing_bool
  | unsigned16 => exact fun c => (requiresNothing_integer _ _ _ c).map _
  | unsigned32 => exact fun c => (requiresNothing_integer _ _ _ c).map _
  | unsigned64 => exact fun c => (requiresNothing_integer _ _ _ c).map _
  | size => exact fun c => (requiresNothing_integer _ _ _ c).map _
  | signed64 => exact fun c => (requiresNothing_integer _ _ _ c).map _
  | float => exact requiresNothing_float

theorem requiresNothing_choice (name : String) (choices : List (String × α)) :
    RequiresNothing (choice name choices) := by
  intro c
  unfold choice
  split
  · split
    · exact lacksNothing_ok _
    · exact lacksNothing_rejected
  · exact lacksNothing_mismatch _ _
  · split
    · exact lacksNothing_rejected
    · exact lacksNothing_ok _
    · exact (lacksNothing_mismatch _ _).under _
  · exact lacksNothing_mismatch _ _

/-! ### Structures -/

theorem requiresNothing_fields {set : String → Config → α → Except FieldError α}
    (h : ∀ field c a, LacksNothing (set field c a)) (name : String) (names : List String)
    (start : α) : RequiresNothing (fields name names start set) := by
  intro c
  unfold fields
  split
  · exact lacksNothing_mismatch _ _
  · exact lacksNothing_foldlM (fun a given => (h _ _ a).under _) _ _

end Decoder
end MetricRelay
