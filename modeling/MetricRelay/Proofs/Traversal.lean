import Mathlib.Control.Basic

/-!
# Going through lists

A reader goes through a list in some monad, and may refuse an item.  `Yield` says what a
computation may give and how that of two steps comes about, so that what comes of a list is traced
back to its items once for all monads.
-/

namespace MetricRelay

/-- Items that were written one by one are read back one by one. -/
theorem mapM_map_eq_pure_map {m : Type → Type} [Monad m] [LawfulMonad m] {α β γ : Type}
    {write : α → β} {read : β → m γ} {g : α → γ} {l : List α}
    (h : ∀ a ∈ l, read (write a) = pure (g a)) : (l.map write).mapM read = pure (l.map g) := by
  induction l with
  | nil => rfl
  | cons a l ih =>
    rw [List.map_cons, List.mapM_cons, h a List.mem_cons_self,
      ih fun a' h' => h a' (List.mem_cons_of_mem a h')]
    simp

/-! ### What comes of a list -/

/-- What the computations of a monad may give. -/
structure Yield (m : Type → Type) [Monad m] where
  gives : ∀ {α : Type}, m α → α → Prop
  eq_of_pure : ∀ {α : Type} {a b : α}, gives (pure a) b → a = b
  exists_of_bind : ∀ {α β : Type} {x : m α} {f : α → m β} {b : β},
    gives (x >>= f) b → ∃ a, gives x a ∧ gives (f a) b

namespace Yield

variable {m : Type → Type} [Monad m] [LawfulMonad m] (o : Yield m) {α β : Type} {l : List α}
  {bs : List β} {b : β}

/-- What comes of a list comes of its items. -/
theorem exists_of_mem_mapM {read : α → m β} (h : o.gives (l.mapM read) bs) (hb : b ∈ bs) :
    ∃ a ∈ l, o.gives (read a) b := by
  induction l generalizing bs with
  | nil =>
    obtain rfl := o.eq_of_pure h
    cases hb
  | cons a l ih =>
    rw [List.mapM_cons] at h
    obtain ⟨b', first, h⟩ := o.exists_of_bind h
    obtain ⟨bs', later, h⟩ := o.exists_of_bind h
    obtain rfl := o.eq_of_pure h
    rcases List.mem_cons.1 hb with rfl | hb
    · exact ⟨a, List.mem_cons_self, first⟩
    · obtain ⟨a', ha, read_eq⟩ := ih later hb
      exact ⟨a', List.mem_cons_of_mem a ha, read_eq⟩

/-- Items may be left out. -/
theorem exists_of_mem_filterMapM {read : α → m (Option β)} (h : o.gives (l.filterMapM read) bs)
    (hb : b ∈ bs) : ∃ a ∈ l, o.gives (read a) (some b) := by
  induction l generalizing bs with
  | nil =>
    obtain rfl := o.eq_of_pure h
    cases hb
  | cons a l ih =>
    rw [List.filterMapM_cons] at h
    obtain ⟨kept, first, h⟩ := o.exists_of_bind h
    cases kept with
    | none =>
      obtain ⟨a', ha, read_eq⟩ := ih h hb
      exact ⟨a', List.mem_cons_of_mem a ha, read_eq⟩
    | some b' =>
      obtain ⟨bs', later, h⟩ := o.exists_of_bind h
      obtain rfl := o.eq_of_pure h
      rcases List.mem_cons.1 hb with rfl | hb
      · exact ⟨a, List.mem_cons_self, first⟩
      · obtain ⟨a', ha, read_eq⟩ := ih later hb
        exact ⟨a', List.mem_cons_of_mem a ha, read_eq⟩

end Yield

/-! ### Results and faults -/

/-- What two steps come to, the first one has led to. -/
theorem exists_of_bind_eq_ok {ε α β : Type} {x : Except ε α} {f : α → Except ε β} {b : β}
    (h : (x >>= f) = .ok b) : ∃ a, x = .ok a ∧ f a = .ok b := by
  cases x with
  | error e => cases h
  | ok a => exact ⟨a, rfl, h⟩

theorem exists_of_map_eq_ok {ε α β : Type} {x : Except ε α} {f : α → β} {b : β}
    (h : x.map f = .ok b) : ∃ a, x = .ok a ∧ f a = b := by
  cases x with
  | error e => cases h
  | ok a => exact ⟨a, rfl, Except.ok.inj h⟩

def Yield.ofExcept (ε : Type) : Yield (Except ε) where
  gives x a := x = .ok a
  eq_of_pure := Except.ok.inj
  exists_of_bind := exists_of_bind_eq_ok

theorem exists_of_mem_mapM {ε α β : Type} {read : α → Except ε β} {l : List α} {bs : List β}
    (h : l.mapM read = .ok bs) {b : β} (hb : b ∈ bs) : ∃ a ∈ l, read a = .ok b :=
  (Yield.ofExcept ε).exists_of_mem_mapM h hb

/-- If an item cannot be read, the fault of one of them is what comes of the list. -/
theorem exists_mapM_eq_error {ε α β : Type} {read : α → Except ε β} {l : List α}
    (h : ∃ a ∈ l, ∃ e, read a = .error e) :
    ∃ a ∈ l, ∃ e, read a = .error e ∧ l.mapM read = .error e := by
  induction l with
  | nil => obtain ⟨a, ha, -⟩ := h; cases ha
  | cons a l ih =>
    rw [List.mapM_cons]
    cases first : read a with
    | error e => exact ⟨a, List.mem_cons_self, e, first, rfl⟩
    | ok b =>
      have later : ∃ a ∈ l, ∃ e, read a = .error e := by
        obtain ⟨a', ha', e, he⟩ := h
        rcases List.mem_cons.1 ha' with rfl | ha'
        · rw [first] at he; cases he
        · exact ⟨a', ha', e, he⟩
      obtain ⟨a', ha', e, he, eq⟩ := ih later
      refine ⟨a', List.mem_cons_of_mem a ha', e, he, ?_⟩
      rw [eq]
      rfl

/-- What every step keeps holds in the end. -/
theorem of_foldlM {ε α β : Type} {P : β → Prop} {step : β → α → Except ε β} {l : List α}
    {b b' : β} (start : P b) (keeps : ∀ b a b', P b → step b a = .ok b' → P b')
    (h : l.foldlM step b = .ok b') : P b' := by
  induction l generalizing b with
  | nil =>
    cases h
    exact start
  | cons a l ih =>
    rw [List.foldlM_cons] at h
    obtain ⟨b₁, first, h⟩ := exists_of_bind_eq_ok h
    exact ih (keeps b a b₁ start first) h

/-! ### Results or none -/

def Yield.ofOption : Yield Option where
  gives x a := x = some a
  eq_of_pure := Option.some.inj
  exists_of_bind := Option.bind_eq_some_iff.1

theorem exists_of_mem_mapM_some {α β : Type} {read : α → Option β} {l : List α} {bs : List β}
    (h : l.mapM read = some bs) {b : β} (hb : b ∈ bs) : ∃ a ∈ l, read a = some b :=
  Yield.ofOption.exists_of_mem_mapM h hb

section State

variable {σ α β : Type} {s t : σ}

/-- What two steps come to, the first one has led to. -/
theorem exists_of_bind_run {x : StateT σ Option α} {f : α → StateT σ Option β} {b : β}
    (h : (x >>= f) s = some (b, t)) : ∃ a r, x s = some (a, r) ∧ f a r = some (b, t) := by
  obtain ⟨⟨a, r⟩, first, h⟩ := Option.bind_eq_some_iff.1 h
  exact ⟨a, r, first, h⟩

theorem eq_of_lift_run {x : Option α} {a : α}
    (h : (liftM x : StateT σ Option α) s = some (a, t)) : x = some a := by
  cases x with
  | none => cases h
  | some a' =>
    cases h
    rfl

/-- Computations with a state, from any state on. -/
def Yield.ofState (σ : Type) : Yield (StateT σ Option) where
  gives x a := ∃ s t, x s = some (a, t)
  eq_of_pure := by
    rintro α a b ⟨s, t, h⟩
    cases h
    rfl
  exists_of_bind := by
    rintro α β x f b ⟨s, t, h⟩
    obtain ⟨a, r, first, h⟩ := exists_of_bind_run h
    exact ⟨a, ⟨s, r, first⟩, r, t, h⟩

end State

end MetricRelay
