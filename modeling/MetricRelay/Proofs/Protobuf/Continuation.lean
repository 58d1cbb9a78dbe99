import MetricRelay.Proofs.Protobuf.Wire

/-!
# Reading on

A reader of `Wire` that succeeds has read a first part of the input by itself: it reads the same
from this part, whatever follows, and leaves what follows.  So what is read of a field does not
depend on what comes behind it (`Wire.exists_field?`), and a message that another one follows is
read first, all of it and nothing else (`Wire.fields?_append`).

The lemmas of `Wire` about writers are of the same form, but here nothing is asked of the input:
numbers may be longer than they need to be, and groups may hold anything that can be skipped.
-/

namespace MetricRelay
namespace Wire

/-! ### Integers -/

theorem exists_varintWithin? {more n : Nat} {bs rest : Bytes}
    (h : varintWithin? more bs = some (n, rest)) :
    ∃ used, bs = used ++ rest ∧
      ∀ tail, varintWithin? more (used ++ tail) = some (n, tail) := by
  induction more generalizing n bs with
  | zero => cases h
  | succ more ih =>
    cases bs with
    | nil => cases h
    | cons b bs =>
      rw [varintWithin?] at h
      split at h
      · rename_i last
        cases h
        exact ⟨[b], rfl, fun tail => by rw [List.singleton_append, varintWithin?, if_pos last]⟩
      · rename_i more_follow
        obtain ⟨⟨m, rest'⟩, read, given⟩ := Option.bind_eq_some_iff.1 h
        cases given
        obtain ⟨used, rfl, again⟩ := ih read
        refine ⟨b :: used, rfl, fun tail => ?_⟩
        rw [List.cons_append, varintWithin?, if_neg more_follow, again]
        rfl

theorem exists_varint? {n : UInt64} {bs rest : Bytes} (h : varint? bs = some (n, rest)) :
    ∃ used, bs = used ++ rest ∧ ∀ tail, varint? (used ++ tail) = some (n, tail) := by
  obtain ⟨⟨m, rest'⟩, read, given⟩ := Option.bind_eq_some_iff.1 h
  dsimp only at given
  split at given
  · rename_i small
    cases given
    obtain ⟨used, rfl, again⟩ := exists_varintWithin? read
    refine ⟨used, rfl, fun tail => ?_⟩
    rw [varint?, again, Option.bind_eq_bind, Option.bind_some]
    exact if_pos small
  · cases given

theorem eq_append_of_take? {count : Nat} {bs taken rest : Bytes}
    (h : take? count bs = some (taken, rest)) :
    bs = taken ++ rest ∧ ∀ tail, take? count (taken ++ tail) = some (taken, tail) := by
  unfold take? at h
  split at h
  · rename_i enough
    cases h
    exact ⟨(List.take_append_drop count bs).symm,
      take?_append (by rw [List.length_take, Nat.min_eq_left enough])⟩
  · cases h

/-! ### Fields -/

theorem exists_key? {number : Nat} {form : Form} {bs rest : Bytes}
    (h : key? bs = some (number, form, rest)) :
    ∃ used, used ≠ [] ∧ bs = used ++ rest ∧
      ∀ tail, key? (used ++ tail) = some (number, form, tail) := by
  obtain ⟨⟨k, rest'⟩, read, given⟩ := Option.bind_eq_some_iff.1 h
  dsimp only at given
  split at given
  · rename_i inRange
    obtain ⟨form', of_code, given⟩ := Option.bind_eq_some_iff.1 given
    cases given
    obtain ⟨used, rfl, again⟩ := exists_varint? read
    refine ⟨used, ?_, rfl, fun tail => ?_⟩
    · rintro rfl
      cases again []
    · rw [key?, again, Option.bind_eq_bind, Option.bind_some]
      dsimp only
      rw [if_pos inRange, of_code]
      rfl
  · cases given

theorem exists_payload? {form : Form} {payload : Payload} {bs rest : Bytes}
    (h : payload? form bs = some (payload, rest)) :
    ∃ used, bs = used ++ rest ∧ ∀ tail, payload? form (used ++ tail) = some (payload, tail) := by
  cases form with
  | varint =>
    obtain ⟨⟨n, rest'⟩, read, given⟩ := Option.bind_eq_some_iff.1 h
    cases given
    obtain ⟨used, rfl, again⟩ := exists_varint? read
    exact ⟨used, rfl, fun tail => by rw [payload?, again]; rfl⟩
  | fixed64 =>
    obtain ⟨⟨taken, rest'⟩, read, given⟩ := Option.bind_eq_some_iff.1 h
    cases given
    obtain ⟨rfl, again⟩ := eq_append_of_take? read
    exact ⟨taken, rfl, fun tail => by rw [payload?, again]; rfl⟩
  | fixed32 =>
    obtain ⟨⟨taken, rest'⟩, read, given⟩ := Option.bind_eq_some_iff.1 h
    cases given
    obtain ⟨rfl, again⟩ := eq_append_of_take? read
    exact ⟨taken, rfl, fun tail => by rw [payload?, again]; rfl⟩
  | bytes =>
    obtain ⟨⟨n, rest'⟩, read, given⟩ := Option.bind_eq_some_iff.1 h
    obtain ⟨⟨taken, rest''⟩, content, given⟩ := Option.bind_eq_some_iff.1 given
    cases given
    obtain ⟨used, rfl, again⟩ := exists_varint? read
    obtain ⟨rfl, content_again⟩ := eq_append_of_take? content
    refine ⟨used ++ taken, (List.append_assoc _ _ _).symm, fun tail => ?_⟩
    rw [payload?, List.append_assoc, again, Option.bind_eq_bind, Option.bind_some]
    dsimp only
    rw [content_again]
    rfl
  | groupStart => cases h
  | groupEnd => cases h

/-- What is skipped holds fuel enough for being skipped: every key takes a byte at least. -/
theorem exists_skipGroups? {limit fuel : Nat} {groups : List Nat} {bs rest : Bytes}
    (h : skipGroups? limit fuel groups bs = some rest) :
    ∃ used, bs = used ++ rest ∧ ∀ tail fuel', used.length ≤ fuel' →
      skipGroups? limit fuel' groups (used ++ tail) = some tail := by
  induction fuel generalizing groups bs with
  | zero =>
    cases groups with
    | nil =>
      cases h
      exact ⟨[], rfl, fun tail fuel' _ => by rw [skipGroups?]; rfl⟩
    | cons g outer => cases h
  | succ fuel ih =>
    cases groups with
    | nil =>
      cases h
      exact ⟨[], rfl, fun tail fuel' _ => by rw [skipGroups?]; rfl⟩
    | cons g outer =>
      rw [skipGroups?] at h
      obtain ⟨⟨number, form, bs'⟩, read, onward⟩ := Option.bind_eq_some_iff.1 h
      obtain ⟨head, nonempty, rfl, again⟩ := exists_key? read
      have longer : 0 < head.length := List.length_pos_iff.2 nonempty
      -- behind the key, the rest of the groups is skipped with the fuel that is left
      have step {used : Bytes} (result : ∀ tail fuel', used.length ≤ fuel' →
            skipGroups? limit (fuel' + 1) (g :: outer) (head ++ (used ++ tail)) = some tail) :
          ∀ tail fuel', (head ++ used).length ≤ fuel' →
            skipGroups? limit fuel' (g :: outer) (head ++ used ++ tail) = some tail := by
        intro tail fuel' enough
        rw [List.length_append] at enough
        obtain ⟨fuel', rfl⟩ := Nat.exists_eq_add_one.2 (show 0 < fuel' by omega)
        rw [List.append_assoc]
        exact result tail fuel' (by omega)
      dsimp only at onward
      split_ifs at onward with ends same deep starts
      · obtain ⟨used, rfl, skip⟩ := ih onward
        refine ⟨head ++ used, (List.append_assoc _ _ _).symm, step fun tail fuel' enough => ?_⟩
        rw [skipGroups?, again, Option.bind_eq_bind, Option.bind_some]
        dsimp only
        rw [if_pos ends, if_pos same]
        exact skip tail fuel' enough
      · obtain ⟨used, rfl, skip⟩ := ih onward
        refine ⟨head ++ used, (List.append_assoc _ _ _).symm, step fun tail fuel' enough => ?_⟩
        rw [skipGroups?, again, Option.bind_eq_bind, Option.bind_some]
        dsimp only
        rw [if_neg ends, if_neg deep, if_pos starts]
        exact skip tail fuel' enough
      · obtain ⟨⟨payload, bs''⟩, value, further⟩ := Option.bind_eq_some_iff.1 onward
        obtain ⟨body, rfl, value_again⟩ := exists_payload? value
        obtain ⟨used, rfl, skip⟩ := ih further
        refine ⟨head ++ (body ++ used), by simp only [List.append_assoc],
          step fun tail fuel' enough => ?_⟩
        rw [skipGroups?, again, Option.bind_eq_bind, Option.bind_some]
        dsimp only
        rw [if_neg ends, if_neg deep, if_neg starts, List.append_assoc, value_again]
        refine skip tail fuel' ?_
        rw [List.length_append] at enough
        omega

/-- A field is read in the same way whatever follows. -/
theorem exists_field? {limit : Nat} {f : Field} {bs rest : Bytes}
    (h : field? limit bs = some (f, rest)) :
    ∃ used, used ≠ [] ∧ bs = used ++ rest ∧
      ∀ tail, field? limit (used ++ tail) = some (f, tail) := by
  obtain ⟨⟨number, form, bs'⟩, read, onward⟩ := Option.bind_eq_some_iff.1 h
  obtain ⟨head, nonempty, rfl, again⟩ := exists_key? read
  dsimp only at onward
  split at onward
  · rename_i starts
    obtain ⟨bs'', skipped, given⟩ := Option.bind_eq_some_iff.1 onward
    cases given
    obtain ⟨used, rfl, skip⟩ := exists_skipGroups? skipped
    refine ⟨head ++ used, by simp [nonempty], (List.append_assoc _ _ _).symm, fun tail => ?_⟩
    have enough : used.length ≤ (used ++ tail).length := by simp
    rw [field?, List.append_assoc, again, Option.bind_eq_bind, Option.bind_some]
    dsimp only
    rw [if_pos starts, skip tail _ enough]
    rfl
  · rename_i plain
    obtain ⟨⟨payload, bs''⟩, value, given⟩ := Option.bind_eq_some_iff.1 onward
    cases given
    obtain ⟨used, rfl, value_again⟩ := exists_payload? value
    refine ⟨head ++ used, by simp [nonempty], (List.append_assoc _ _ _).symm, fun tail => ?_⟩
    rw [field?, List.append_assoc, again, Option.bind_eq_bind, Option.bind_some]
    dsimp only
    rw [if_neg plain, value_again]
    rfl

/-! ### Messages -/

theorem length_lt_of_field? {limit : Nat} {f : Field} {bs rest : Bytes}
    (h : field? limit bs = some (f, rest)) : rest.length < bs.length := by
  obtain ⟨used, nonempty, rfl, -⟩ := exists_field? h
  have := List.length_pos_iff.2 nonempty
  rw [List.length_append]
  omega

/-- As many fields as there are bytes are enough. -/
theorem fieldsWithin?_eq {limit fuel : Nat} {bs : Bytes} (enough : bs.length ≤ fuel) :
    fieldsWithin? limit fuel bs = fields? limit bs := by
  induction fuel using Nat.strongRecOn generalizing bs with
  | ind fuel ih =>
    cases bs with
    | nil => rw [fields?, fieldsWithin?, fieldsWithin?]
    | cons b bs =>
      rw [List.length_cons] at enough
      obtain ⟨fuel, rfl⟩ := Nat.exists_eq_add_one.2 (show 0 < fuel by omega)
      rw [fields?, List.length_cons, fieldsWithin?, fieldsWithin?]
      cases read : field? limit (b :: bs) with
      | none => rfl
      | some result =>
        obtain ⟨f, rest⟩ := result
        have shorter := length_lt_of_field? read
        rw [List.length_cons] at shorter
        simp only [Option.bind_eq_bind, Option.bind_some]
        rw [ih fuel (Nat.lt_succ_self _) (by omega)]
        obtain rfl | fewer := Nat.eq_or_lt_of_le (show bs.length ≤ fuel by omega)
        · rw [ih _ (Nat.lt_succ_self _) (by omega)]
        · rw [ih bs.length (by omega) (by omega)]

theorem fields?_nil (limit : Nat) : fields? limit [] = some [] := by
  rw [fields?, fieldsWithin?]

/-- A message that is not empty is a field and the message behind it. -/
theorem fields?_of_ne_nil {limit : Nat} {bs : Bytes} (nonempty : bs ≠ []) :
    fields? limit bs = do
      let (f, rest) ← field? limit bs
      let fs ← fields? limit rest
      return f :: fs := by
  obtain ⟨b, bs, rfl⟩ := List.exists_cons_of_ne_nil nonempty
  rw [fields?, List.length_cons, fieldsWithin?]
  cases read : field? limit (b :: bs) with
  | none => rfl
  | some result =>
    have shorter := length_lt_of_field? read
    rw [List.length_cons] at shorter
    simp only [Option.bind_eq_bind, Option.bind_some]
    rw [fieldsWithin?_eq (by omega)]

/-- **A message is read first, whatever follows it.** -/
theorem fields?_append {limit : Nat} {x : Bytes} {fs : List Field} (h : fields? limit x = some fs)
    (y : Bytes) : fields? limit (x ++ y) = (fs ++ ·) <$> fields? limit y := by
  by_cases empty : x = []
  · rw [empty, fields?_nil] at h
    cases h
    rw [empty, List.nil_append]
    simp
  · rw [fields?_of_ne_nil empty] at h
    obtain ⟨⟨f, rest⟩, read, onward⟩ := Option.bind_eq_some_iff.1 h
    obtain ⟨fs', behind, given⟩ := Option.bind_eq_some_iff.1 onward
    cases given
    have shorter : rest.length < x.length := length_lt_of_field? read
    obtain ⟨used, nonempty, rfl, again⟩ := exists_field? read
    rw [List.append_assoc, fields?_of_ne_nil (by simp [nonempty]), again,
      Option.bind_eq_bind, Option.bind_some]
    dsimp only
    rw [fields?_append behind y]
    cases fields? limit y <;> rfl
termination_by x.length

end Wire
end MetricRelay
