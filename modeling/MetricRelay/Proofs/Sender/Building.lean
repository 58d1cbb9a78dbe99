import MetricRelay.Proofs.Sender.Options
import MetricRelay.Sender.Basic

/-!
# Building a sender

A sender is built from valid options (`SenderOptions.IsValid`), a provider of tokens and
connections that can be had, and its buffer is as large as the options say
(`SenderBuilder.build_eq_ok_iff`).  Valid options always ask for some capacity.  They may ask for
more than a buffer can have, however, and then there is no sender, though nothing is wrong with
the options by themselves (`SenderBuilder.builds_iff_bufferable`,
`SenderBuilder.unbufferable_of_oversized`).
-/

namespace MetricRelay

namespace SenderBuilder

/-- The sender as it is built: not started, with nothing in its buffer. -/
def fresh (b : SenderBuilder) (tokens : TokenProvider) : Sender where
  setup := b.setup tokens
  buffer :=
    { capacity := b.options.maxBufferSize.toNat, policy := b.options.overflowPolicy }

variable {b : SenderBuilder} {tokens : TokenProvider}

/-- All that may still be missing is a buffer of the size that is asked for. -/
theorem build_eq_of_isValid (valid : b.options.IsValid) (authenticated : b.tokens = some tokens)
    (connected : b.connects = true → b.canConnect = true) :
    b.build = if b.options.maxBufferSize.toNat ≤ Buffer.maxCapacity then .ok (b.fresh tokens)
      else .error .unbufferable := by
  have possible : ¬(b.connects && !b.canConnect) = true := by
    simpa using connected
  have nonempty : 0 < b.options.maxBufferSize.toNat :=
    Nat.lt_of_lt_of_le valid.batched valid.buffered
  rw [build, SenderOptions.fault?_eq_none_iff.2 valid, authenticated]
  dsimp only
  rw [if_neg possible, Buffer.create?]
  split_ifs with room bounded bounded
  · rfl
  · exact absurd room.2 bounded
  · exact absurd ⟨nonempty, bounded⟩ room
  · rfl

/-- **What it takes to build a sender**, and which one it is. -/
theorem build_eq_ok_iff {s : Sender} :
    b.build = .ok s ↔ ∃ tokens, b.options.IsValid ∧ b.tokens = some tokens ∧
      (b.connects = true → b.canConnect = true) ∧
      b.options.maxBufferSize.toNat ≤ Buffer.maxCapacity ∧ s = b.fresh tokens := by
  constructor
  · intro built
    cases fault : b.options.fault? with
    | some reason =>
      rw [build, fault] at built
      cases built
    | none =>
      have valid := SenderOptions.fault?_eq_none_iff.1 fault
      cases authenticated : b.tokens with
      | none =>
        rw [build, fault, authenticated] at built
        cases built
      | some tokens =>
        have connected : b.connects = true → b.canConnect = true := by
          intro connects
          by_contra impossible
          rw [build, fault, authenticated] at built
          simp only [connects, impossible, Bool.not_false, Bool.and_self, if_true] at built
          cases built
        rw [build_eq_of_isValid valid authenticated connected] at built
        split_ifs at built with bounded
        cases built
        exact ⟨tokens, valid, rfl, connected, bounded, rfl⟩
  · rintro ⟨tokens, valid, authenticated, connected, bounded, rfl⟩
    rw [build_eq_of_isValid valid authenticated connected, if_pos bounded]

/-- **Valid options build a sender if and only if a buffer can be so large.**  Whatever else the
options say, the sender then has a buffer of this very capacity and is ready to be started; and
otherwise the size of the buffer is what makes building fail. -/
theorem builds_iff_bufferable (valid : b.options.fault? = none)
    (authenticated : b.tokens = some tokens) (inMemory : b.connects = false) :
    ((∃ s, b.build = .ok s) ↔ b.options.maxBufferSize.toNat ≤ Buffer.maxCapacity) ∧
    (∀ s, b.build = .ok s →
      s.buffer.capacity = b.options.maxBufferSize.toNat ∧
      s.buffer.policy = b.options.overflowPolicy ∧ s.buffer.contents = [] ∧
      s.buffer.isClosed = false ∧ s.setup = b.setup tokens ∧ s.lifecycle = .idle) ∧
    ((¬∃ s, b.build = .ok s) → b.build = .error .unbufferable) := by
  have build_eq := build_eq_of_isValid (SenderOptions.fault?_eq_none_iff.1 valid) authenticated
    (by simp [inMemory])
  by_cases bounded : b.options.maxBufferSize.toNat ≤ Buffer.maxCapacity
  · rw [if_pos bounded] at build_eq
    rw [build_eq]
    refine ⟨iff_of_true ⟨_, rfl⟩ bounded, ?_, fun unbuilt => absurd ⟨_, rfl⟩ unbuilt⟩
    rintro s ⟨⟩
    exact ⟨rfl, rfl, rfl, rfl, rfl, rfl⟩
  · rw [if_neg bounded] at build_eq
    rw [build_eq]
    refine ⟨iff_of_false ?_ bounded, ?_, fun _ => rfl⟩
    · rintro ⟨s, ⟨⟩⟩
    · rintro s ⟨⟩

/-! ### The largest buffer and a larger one -/

/-- A builder that asks for a buffer of some size, and else for little. -/
def withBufferSize (size : UInt64) : SenderBuilder where
  options := { defaultSource := "web-1", maxBufferSize := size }
  tokens := some (.fixed "secret")
  gzip _ := .error "not available"

theorem builds_iff_bufferable_largest :
    let b := withBufferSize 2305843009213693951
    b.options.fault? = none ∧ b.tokens = some (.fixed "secret") ∧ b.connects = false ∧
      ∃ s, b.build = .ok s ∧ s.buffer.capacity = 2305843009213693951 := by
  intro b
  have valid : b.options.fault? = none := by decide +kernel
  obtain ⟨builds, built, -⟩ := builds_iff_bufferable (b := b) valid rfl rfl
  obtain ⟨s, hs⟩ := builds.2 (by decide +kernel)
  have size_eq : b.options.maxBufferSize.toNat = 2305843009213693951 := by decide +kernel
  exact ⟨valid, rfl, rfl, s, hs, (built s hs).1.trans size_eq⟩

/-- Valid options of which no sender can be built. -/
theorem unbufferable_of_oversized :
    let b := withBufferSize 2305843009213693952
    b.options.fault? = none ∧ b.tokens = some (.fixed "secret") ∧ b.connects = false ∧
      b.build = .error .unbufferable :=
  ⟨by decide +kernel, rfl, rfl, by rfl⟩

end SenderBuilder
end MetricRelay
