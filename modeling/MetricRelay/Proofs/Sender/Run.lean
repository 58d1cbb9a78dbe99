import MetricRelay.Proofs.Codec.Format
import MetricRelay.Proofs.Metric.Draft
import MetricRelay.Proofs.Sender.Building
import MetricRelay.Proofs.Sender.Ledger

/-!
# Runs

A property of the ledger and the events so far that every change keeps holds after every run
(`Sender.run_induction`).  A station is its sender with sessions around it: each operation on a
station is one step of the sender or none, so that every run of a station is a run of its sender
(`Station.exists_run`), in which no points are offered but sound ones
(`Station.exists_run_causes`).
-/

namespace MetricRelay

namespace Sender

/-- The ledger of a sender that was just built. -/
def Ledger.fresh (u : Setup) : Ledger where
  setup := u
  lifecycle := .idle
  hasWorker := false
  queue := []
  isClosed := false
  flight := none
  stats := {}

theorem ledger_of_build {b : SenderBuilder} {s : Sender} (h : b.build = .ok s) :
    s.ledger = .fresh s.setup := by
  obtain ⟨tokens, -, -, -, -, rfl⟩ := SenderBuilder.build_eq_ok_iff.1 h
  rfl

/-- **What every change keeps holds after every run.** -/
theorem run_induction {P : Ledger → List Event → Prop} {A : Action → Prop}
    (keeps : ∀ {l a es es' l'}, P l es → A a → Ledger.Step l a es' l' → P l' (es ++ es'))
    (s : Sender) (es : List Event) (h : P s.ledger es) (actions : List Action)
    (ha : ∀ a ∈ actions, A a) :
    P (s.run actions).1.ledger (es ++ (s.run actions).2) := by
  induction actions generalizing s es with
  | nil => simpa [run] using h
  | cons a rest ih =>
    have hs := keeps h (ha a List.mem_cons_self) (s.step_ledger a)
    have := ih _ _ hs fun a' h' => ha a' (List.mem_cons_of_mem a h')
    simpa [run] using this

theorem run_append (s : Sender) (before after : List Action) :
    s.run (before ++ after) =
      (((s.run before).1.run after).1, (s.run before).2 ++ ((s.run before).1.run after).2) := by
  induction before generalizing s with
  | nil => rfl
  | cons a rest ih => simp [run, ih]

end Sender

namespace Station

open Sender (Action)

/-- The reply shows the outcome of actions of a sender. -/
structure Reply.Shows (r : Reply) (s : Sender) (actions : List Action) : Prop where
  sender_eq : r.station.sender = (s.run actions).1
  events_eq : r.events = (s.run actions).2

theorem shows_step {r : Reply} {s : Sender} {a : Action} (hs : r.station.sender = (s.step a).1)
    (he : r.events = (s.step a).2) : r.Shows s [a] :=
  ⟨hs, by simp [Sender.run, he]⟩

theorem shows_offer (s : Station) (points : List Point) (inRuntime : Bool) :
    (s.offer points inRuntime).Shows s.sender [.submit points inRuntime] :=
  shows_step rfl rfl

/-- What an operation may do to the sender: it makes its move, or it offers sound points. -/
inductive Operation.Causes (op : Operation) : Action → Prop
  | move {m : Sender.Move} (moves : op = .move m) : op.Causes (.move m)
  | submit {points : List Point} {inRuntime : Bool} (sound : ∀ p ∈ points, p.IsSound) :
    op.Causes (.submit points inRuntime)

/-- A session gives sound points, whatever it holds. -/
theorem isSound_of_close {session : Session} {now : Int64} {points : List Point}
    (given : (session.close now).2 = .ok points) : ∀ p ∈ points, p.IsSound := by
  intro p hp
  unfold Session.close at given
  split at given
  · cases given
    cases hp
  · dsimp only at given
    split at given
    · rename_i built
      cases given
      obtain ⟨e, -, point_eq⟩ := exists_of_mem_mapM built hp
      exact Point.Draft.isSound_of_build point_eq rfl
    · cases given

theorem shows_closeSession (s : Station) (name : String) (now : Int64) (inRuntime : Bool)
    (op : Operation) :
    ∃ actions, (s.closeSession name now inRuntime).Shows s.sender actions ∧
      ∀ a ∈ actions, op.Causes a := by
  unfold closeSession
  rcases hc : (s.session name).close now with ⟨session, e | points⟩
  · exact ⟨[], ⟨rfl, rfl⟩, nofun⟩
  · refine ⟨_, shows_offer (s.keep name session) points inRuntime, fun a ha => ?_⟩
    obtain rfl := List.mem_singleton.1 ha
    exact .submit (isSound_of_close (congrArg Prod.snd hc))

/-- An operation shows one step of the sender at most, and only one that it may cause. -/
theorem shows_perform (s : Station) (op : Operation) :
    ∃ actions, (s.perform op).Shows s.sender actions ∧ ∀ a ∈ actions, op.Causes a := by
  cases op with
  | record draft inRuntime =>
    simp only [perform, record]
    split
    · exact ⟨[], ⟨rfl, rfl⟩, nofun⟩
    · rename_i point built
      refine ⟨_, shows_offer s [point] inRuntime, fun a ha => ?_⟩
      obtain rfl := List.mem_singleton.1 ha
      refine .submit fun p hp => ?_
      obtain rfl := List.mem_singleton.1 hp
      exact Point.Draft.isSound_of_build built rfl
  | openSession session now =>
    obtain ⟨actions, ⟨hs, he⟩, hc⟩ :=
      s.shows_closeSession session now false (.openSession session now)
    exact ⟨actions, ⟨hs, he⟩, hc⟩
  | write session source name kind value dimensions =>
    simp only [perform, write]
    split <;> exact ⟨[], ⟨rfl, rfl⟩, nofun⟩
  | distribution session tracker fresh name snapshot dimensions =>
    exact ⟨[], ⟨rfl, rfl⟩, nofun⟩
  | closeSession session now inRuntime => exact s.shows_closeSession session now inRuntime _
  | dropSession session now =>
    obtain ⟨actions, ⟨hs, he⟩, hc⟩ :=
      s.shows_closeSession session now false (.dropSession session now)
    exact ⟨actions, ⟨hs, he⟩, hc⟩
  | move m =>
    refine ⟨[.move m], shows_step rfl rfl, fun a ha => ?_⟩
    obtain rfl := List.mem_singleton.1 ha
    exact .move rfl

/-- **Every run of a station is a run of its sender**, in which each action is caused by an
operation. -/
theorem exists_run_causes (s : Station) (ops : List Operation) :
    ∃ actions : List Action, (s.run ops).1.sender = (s.sender.run actions).1 ∧
      (s.run ops).2 = (s.sender.run actions).2 ∧ ∀ a ∈ actions, ∃ op ∈ ops, op.Causes a := by
  induction ops generalizing s with
  | nil => exact ⟨[], rfl, rfl, nofun⟩
  | cons op rest ih =>
    obtain ⟨first, ⟨hs, he⟩, hc⟩ := s.shows_perform op
    obtain ⟨later, hs', he', hc'⟩ := ih (s.perform op).station
    rw [hs] at hs' he'
    refine ⟨first ++ later, ?_, ?_, fun a ha => ?_⟩
    · rw [Sender.run_append]
      exact hs'
    · rw [Sender.run_append, ← he, ← he']
      rfl
    · rcases List.mem_append.1 ha with ha | ha
      · exact ⟨op, List.mem_cons_self, hc a ha⟩
      · obtain ⟨op', h', caused⟩ := hc' a ha
        exact ⟨op', List.mem_cons_of_mem op h', caused⟩

/-- The moves in a run are the moves that it consists of. -/
theorem exists_run (s : Station) (ops : List Operation) :
    ∃ actions : List Action, (s.run ops).1.sender = (s.sender.run actions).1 ∧
      (s.run ops).2 = (s.sender.run actions).2 ∧
      ∀ m, .move m ∈ actions → .move m ∈ ops := by
  obtain ⟨actions, hs, he, hc⟩ := s.exists_run_causes ops
  refine ⟨actions, hs, he, fun m hm => ?_⟩
  obtain ⟨op, ho, caused⟩ := hc _ hm
  cases caused with
  | move moves => exact moves ▸ ho

theorem run_append (s : Station) (before after : List Operation) :
    s.run (before ++ after) =
      (((s.run before).1.run after).1, (s.run before).2 ++ ((s.run before).1.run after).2) := by
  induction before generalizing s with
  | nil => rfl
  | cons op rest ih => simp [run, ih]

end Station

namespace Sender

/-- The sender after operations on it and on its sessions. -/
def after (s : Sender) (ops : List Station.Operation) : Sender :=
  (Station.run { sender := s } ops).1.sender

/-- What is seen of operations on a sender and on its sessions. -/
def history (s : Sender) (ops : List Station.Operation) : List Event :=
  (Station.run { sender := s } ops).2

/-- What every change keeps holds after any operations on a sender that was just built.  The
worker breaks down only if that is one of the operations. -/
theorem after_induction {P : Ledger → List Event → Prop} {b : SenderBuilder} {s : Sender}
    (built : b.build = .ok s) (ops : List Station.Operation) (fresh : P (.fresh s.setup) [])
    (keeps : ∀ {l a es es' l'}, P l es → (a = .move .breakdown → .move .breakdown ∈ ops) →
      Ledger.Step l a es' l' → P l' (es ++ es')) :
    P (s.after ops).ledger (s.history ops) := by
  obtain ⟨actions, hs, he, hb⟩ := Station.exists_run { sender := s } ops
  rw [after, history, hs, he, ← List.nil_append (Sender.run _ _).2]
  rw [← ledger_of_build built] at fresh
  refine run_induction (P := P) keeps s [] fresh actions fun a ha h => hb _ ?_
  rwa [h] at ha

/-! ### A run -/

/-- Makes a sender with room for three points and batches of two, which does not compress. -/
def sampleBuilder : SenderBuilder where
  options :=
    { defaultSource := "web-1", maxBufferSize := 3, maxBatchSize := 2, compresses := false }
  tokens := some (.fixed "secret")
  gzip _ := .error "not available"

/-- Three points are recorded.  The first batch is acknowledged, and the second one is cut off. -/
def sampleOps : List Station.Operation :=
  let point (i : Int64) : Station.Operation :=
    .record { name := "cpu", kind := .gauge, value := .int i, timestampMs := 1 } false
  [point 1, point 2, point 3, .move (.start (.ok ())), .move .wake, .move .flush,
    .move (.next (.ok "secret")), .move (.hear acknowledged), .move .stop,
    .move (.next (.ok "secret")), .move .deadline]

end Sender
end MetricRelay
