import MetricRelay.Proofs.Codec.Transcoding
import MetricRelay.Proofs.Sender.Reports

/-!
# Recorded points are encoded

Whatever is recorded, only sound points come to be buffered (`Station.exists_run_causes`), and
what is taken, thrown away or left was buffered before (`Sender.Ledger.Step.queue_append`).  So
all points that a sender ever holds are sound, and neither format has a reason to refuse a batch
of them.  A report blames the encoder only for a batch that was refused
(`Sender.Ledger.Step.exists_refused`), and so there is none.
-/

namespace MetricRelay

/-- All points are sound. -/
def AreSound (points : List Point) : Prop := ∀ p ∈ points, p.IsSound

theorem areSound_append_iff {ps qs : List Point} :
    AreSound (ps ++ qs) ↔ AreSound ps ∧ AreSound qs :=
  List.forall_mem_append

/-- Sound points are encoded in either format. -/
theorem AreSound.exists_encode {points : List Point} (h : AreSound points) (f : Format) :
    ∃ bs, f.encoder.encode points = .ok bs :=
  f.exists_encode fun p hp => (h p hp).finite

namespace Sender

/-- If points are offered, they are sound. -/
def Action.IsSound (a : Action) : Prop :=
  ∀ points inRuntime, a = .submit points inRuntime → AreSound points

end Sender

theorem Station.Operation.Causes.isSound {op : Station.Operation} {a : Sender.Action}
    (h : op.Causes a) : a.IsSound := by
  intro points inRuntime offered
  cases h with
  | move => cases offered
  | submit sound =>
    cases offered
    exact sound

namespace Sender
namespace Ledger

variable {l l' : Ledger} {a : Action} {es es' : List Event}

/-- What is accepted was offered. -/
theorem Step.accepted (h : Step l a es l') :
    acceptedPoints es = [] ∨ ∃ inRuntime, a = .submit (acceptedPoints es) inRuntime := by
  cases h with
  | accept points inRuntime => exact .inr ⟨inRuntime, by simp [acceptedPoints]⟩
  | discard => exact .inl (by simp)
  | collapse => exact .inl (by simp)
  | writeOff => exact .inl (by simp)
  | _ => exact .inl rfl

/-- A batch in flight was taken, just now or before. -/
theorem Step.inFlight_cases (h : Step l a es l') :
    l'.inFlight = [] ∨ l'.inFlight = l.inFlight ∨ l'.inFlight ∈ takenBatches es := by
  cases h with
  | start => exact .inl rfl
  | dispatch => exact .inr (.inr (List.mem_singleton_self _))
  | retry f outcome wait manned flying => exact .inr (.inl (inFlight_of_flight flying).symm)
  | resume f wait manned flying => exact .inr (.inl (inFlight_of_flight flying).symm)
  | acknowledge => exact .inl rfl
  | drop => exact .inl rfl
  | discard => exact .inl rfl
  | collapse => exact .inl rfl
  | _ => exact .inr (.inl rfl)

/-- If a report blames the encoder, then the encoder has refused a batch. -/
theorem Step.exists_refused (h : Step l a es l') {r : Report} (hr : r ∈ reports es)
    (blamed : r.kind = .encode) :
    ∃ batch, (batch = l.inFlight ∨ batch ∈ takenBatches es) ∧
      ∃ e, l.setup.encoder.encode batch = .error e := by
  -- losses are no fault of the encoder
  have silent {n : Nat} {report : Nat → Report} {quiet : List Event}
      (hq : reports quiet = []) (kind_eq : (report n).kind = .shutdownDataLoss)
      (told : r ∈ reports (quiet ++ lossEvents n report)) : False := by
    rw [reports_append_lossEvents n hq] at told
    split at told
    · cases told
    · obtain rfl := List.mem_singleton.1 told
      rw [kind_eq] at blamed
      cases blamed
  cases h with
  | refuse a batch rest report manned free front nonempty bounded told =>
    obtain rfl := List.mem_singleton.1 hr
    exact ⟨batch, .inr (List.mem_singleton_self _), told.refused blamed⟩
  | drop f outcome report manned flying awaited refused told =>
    obtain rfl := List.mem_singleton.1 hr
    exact ⟨f.batch, .inl (inFlight_of_flight flying).symm, told.refused blamed⟩
  | discard => exact (silent l.reports_farewell rfl hr).elim
  | collapse => exact (silent l.reports_farewell rfl hr).elim
  | writeOff => exact (silent reports_nil rfl hr).elim
  | _ => cases hr

/-! ### Runs -/

/-- All points are sound, wherever they are and were, and nothing was said against the
encoder. -/
structure Encodes (f : Format) (l : Ledger) (es : List Event) : Prop where
  encoder_eq : l.setup.encoder = f.encoder
  accepted : AreSound (acceptedPoints es)
  queued : AreSound l.queue
  flying : AreSound l.inFlight
  taken : ∀ batch ∈ takenBatches es, AreSound batch
  unblamed : ∀ r ∈ reports es, r.kind ≠ .encode

theorem encodes_fresh {f : Format} {u : Setup} (encoder_eq : u.encoder = f.encoder) :
    (fresh u).Encodes f [] where
  encoder_eq := encoder_eq
  accepted := nofun
  queued := nofun
  flying := nofun
  taken := nofun
  unblamed := nofun

theorem Step.encodes {f : Format} (h : Step l a es' l') (sound : a.IsSound)
    (he : l.Encodes f es) : l'.Encodes f (es ++ es') := by
  have accepted : AreSound (acceptedPoints es') := by
    rcases h.accepted with none_accepted | ⟨inRuntime, offered⟩
    · rw [none_accepted]
      nofun
    · exact sound _ inRuntime offered
  -- what leaves the queue or stays in it was in the queue, or it was accepted just now
  have moved : AreSound ((takenBatches es').flatten ++ (discardedPoints es' ++ l'.queue)) := by
    rw [← h.queue_append]
    exact areSound_append_iff.2 ⟨he.queued, accepted⟩
  obtain ⟨taken_sound, left_sound⟩ := areSound_append_iff.1 moved
  have taken : ∀ batch ∈ takenBatches es', AreSound batch := fun batch hb p hp =>
    taken_sound p (List.mem_flatten_of_mem hb hp)
  refine ⟨h.setup_eq ▸ he.encoder_eq, ?_, (areSound_append_iff.1 left_sound).2, ?_, ?_, ?_⟩
  · rw [acceptedPoints_append]
    exact areSound_append_iff.2 ⟨he.accepted, accepted⟩
  · rcases h.inFlight_cases with free | same | drawn
    · rw [free]
      nofun
    · exact same ▸ he.flying
    · exact taken _ drawn
  · rw [takenBatches_append]
    exact List.forall_mem_append.2 ⟨he.taken, taken⟩
  · rw [reports_append]
    refine List.forall_mem_append.2 ⟨he.unblamed, fun r hr blamed => ?_⟩
    obtain ⟨batch, origin, e, refused⟩ := h.exists_refused hr blamed
    have batch_sound : AreSound batch := by
      rcases origin with rfl | hb
      · exact he.flying
      · exact taken batch hb
    obtain ⟨bs, encoded⟩ := batch_sound.exists_encode f
    rw [he.encoder_eq, encoded] at refused
    cases refused

end Ledger

theorem encodes_after {b : SenderBuilder} {s : Sender} (built : b.build = .ok s) {f : Format}
    (encoder_eq : s.setup.encoder = f.encoder) (ops : List Station.Operation) :
    (s.after ops).ledger.Encodes f (s.history ops) := by
  obtain ⟨actions, hs, he, caused⟩ := Station.exists_run_causes { sender := s } ops
  have sound : ∀ a ∈ actions, a.IsSound := fun a ha => by
    obtain ⟨op, -, causes⟩ := caused a ha
    exact causes.isSound
  have fresh := Ledger.encodes_fresh encoder_eq
  rw [← ledger_of_build built] at fresh
  rw [after, history, hs, he]
  exact run_induction (fun encodes sound h => h.encodes sound encodes) s [] fresh actions sound

/-- **Recorded points are encoded.**  After any operations on a sender that was built and encodes
in one of the formats, whatever was recorded:

- All points that were ever buffered or taken, or are in flight, have a name, different dimension
  keys, none of them empty, and a finite value.
- All batches that were taken are encoded.
- Handlers are told of no report that blames the encoder. -/
theorem recorded_points_encoded {b : SenderBuilder} {s : Sender} (built : b.build = .ok s)
    {f : Format} (encoder_eq : s.setup.encoder = f.encoder) (ops : List Station.Operation)
    (handlers : List Handler) :
    let t := s.after ops
    let es := s.history ops
    (∀ p ∈ acceptedPoints es ++ (takenBatches es).flatten ++ t.buffer.contents ++ t.inFlight,
      p.IsSound) ∧
    (∀ batch ∈ takenBatches es, ∃ bs, t.setup.encoder.encode batch = .ok bs) ∧
    ∃ rs, inform handlers es = handlers.map (·.after rs) ∧ ∀ r ∈ rs, r.kind ≠ .encode := by
  intro t es
  have encodes : t.ledger.Encodes f es := encodes_after built encoder_eq ops
  refine ⟨?_, fun batch hb => ?_, _, inform_eq handlers es, encodes.unblamed⟩
  · have taken : AreSound (takenBatches es).flatten := fun p hp => by
      obtain ⟨batch, hb, hp⟩ := List.mem_flatten.1 hp
      exact encodes.taken batch hb p hp
    have flying : AreSound t.inFlight := inFlight_ledger t ▸ encodes.flying
    exact areSound_append_iff.2 ⟨areSound_append_iff.2 ⟨areSound_append_iff.2
      ⟨encodes.accepted, taken⟩, encodes.queued⟩, flying⟩
  · obtain ⟨bs, encoded⟩ := (encodes.taken batch hb).exists_encode f
    exact ⟨bs, encodes.encoder_eq ▸ encoded⟩

/-- No number and an infinity are recorded, and a counter grows beyond all bounds in a session.
Then a point is recorded and sent. -/
def boundlessOps : List Station.Operation :=
  let point (value : Value) : Station.Operation :=
    .record { name := "cpu", kind := .gauge, value } false
  let count : Station.Operation :=
    .write "session" none "hits" .counter (.float ⟨0x7FEFFFFFFFFFFFFF⟩) []
  [point (.float ⟨0x7FF8000000000000⟩), point (.float ⟨0xFFF0000000000000⟩), count, count,
    .closeSession "session" 1 false, point (.int 1), .move (.start (.ok ())), .move .wake,
    .move .flush, .move (.next (.ok "secret")), .move (.hear acknowledged)]

theorem recorded_points_encoded_boundless :
    ∃ s, (sampleBuilder.withFormat .json).build = .ok s ∧
      s.setup.encoder = Format.json.encoder ∧
      let es := s.history boundlessOps
      (acceptedPoints es).map (·.value) = [.int 1] ∧
      (∀ p ∈ (takenBatches es).flatten, p.IsSound) ∧
      (takenBatches es).length = 1 ∧
      ∃ rs, inform [Tally.handler] es = [Tally.handler.after rs] ∧ ∀ r ∈ rs, r.kind ≠ .encode := by
  obtain ⟨sound, -, told⟩ :=
    recorded_points_encoded (b := sampleBuilder.withFormat .json) rfl (f := .json) rfl boundlessOps
      [Tally.handler]
  refine ⟨_, rfl, rfl, by decide, fun p hp => sound p ?_, by decide, told⟩
  exact List.mem_append_left _ (List.mem_append_left _ (List.mem_append_right _ hp))

end Sender
end MetricRelay
