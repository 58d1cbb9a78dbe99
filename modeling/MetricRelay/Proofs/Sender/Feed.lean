import Mathlib.Algebra.Order.BigOperators.Group.List
import Mathlib.Algebra.Ring.Int.Defs
import MetricRelay.Proofs.Sender.Growth

/-!
# Histograms that are recorded through a tracker

A histogram is recorded through one tracker under one name and with one list of dimensions, in
whatever sessions, among everything else that happens to the station.  What its count has grown
by since the last snapshot is added to a session, stays there until the session is closed, and is
committed then.  So nothing gets lost and nothing is counted twice: what is committed and what
the sessions still hold come to what the count has grown by so far.

One operation conserves this balance (`Feed.Conserves`, `Feed.Holds.conserves_perform`), and so
does a run (`Feed.Holds.run`).  With the sum of the changes of a count the committed increments
come to the last counts of the runs in which it does not go down (`Feed.committed_counts`).
-/

namespace MetricRelay

/-- What the sessions of a station hold of a series. -/
def Station.held (series : Series) (s : Station) : Int :=
  (s.sessions.map (·.2.amount series)).sum

/-! ### A histogram that is recorded -/

/-- A histogram that is recorded through a tracker, under one name and with one list of
dimensions. -/
structure Feed where
  tracker : String
  metric : String
  dimensions : List (String × String)

namespace Feed

open Station (Operation)
open Session (Recording)

/-- The series of the count. -/
def series (f : Feed) (source : String) : Series :=
  ⟨source, f.metric ++ ".count", Keyed.ofList f.dimensions⟩

/-- The count that an operation records through the tracker. -/
def count? (f : Feed) : Operation → Option Nat
  | .distribution _ tracker _ _ snapshot _ =>
    if tracker = f.tracker then some snapshot.count.toNat else none
  | _ => none

/-- The counts that are recorded through the tracker, one after the other. -/
def counts (f : Feed) (ops : List Operation) : List Nat := ops.filterMap f.count?

/-- What may happen to a station while the histogram is recorded: whatever goes through the
tracker belongs to the histogram and is accepted, nothing else is written to the series of the
count, and every session that is closed is committed. -/
def Admits (f : Feed) (s : Station) : Operation → Prop
  | .record draft _ =>
    ∀ p, s.pointOf draft = .ok p → ¬p.IsOf (f.series s.newSession.defaultSource)
  | .write session source metric kind value dimensions =>
    (s.session session).isClosed = false →
      ∀ w ∈ (Recording.single source metric kind value dimensions).successes
        s.newSession.defaultSource, w.series ≠ f.series s.newSession.defaultSource
  | .distribution session tracker fresh metric snapshot dimensions =>
    let current := (Keyed.get? tracker s.trackers).getD fresh
    if tracker = f.tracker then
      metric = f.metric ∧ dimensions = f.dimensions ∧
        (Keyed.get? tracker s.trackers = none → fresh = .newDelta) ∧
        ((s.session session).recordDistribution metric current snapshot
          dimensions).2.2.2 = .ok ()
    else
      (s.session session).isClosed = false →
        ∀ w ∈ (Recording.distribution metric current snapshot dimensions).successes
          s.newSession.defaultSource, w.series ≠ f.series s.newSession.defaultSource
  | .closeSession session now inRuntime =>
    (s.closeSession session now inRuntime).answer = some (.ok ())
  | .openSession session now | .dropSession session now =>
    (s.closeSession session now false).answer = some (.ok ())
  | .move _ => True

instance (f : Feed) (s : Station) : (op : Operation) → Decidable (f.Admits s op)
  | .record draft _ =>
    match built : s.pointOf draft with
    | .ok p => decidable_of_iff (¬p.IsOf (f.series s.newSession.defaultSource))
        ⟨fun h q hq => Except.ok.inj (built.symm.trans hq) ▸ h, fun h => h p built⟩
    | .error _ => .isTrue fun _ hq => nomatch built.symm.trans hq
  | .openSession _ _ | .dropSession _ _ | .closeSession _ _ _ => inferInstanceAs (Decidable (_ = _))
  | .write _ _ _ _ _ _ => by
    dsimp only [Admits]
    infer_instance
  | .distribution _ _ _ _ _ _ => by
    dsimp only [Admits]
    infer_instance
  | .move _ => .isTrue trivial

/-- What happens to a station is admitted throughout. -/
def Throughout (f : Feed) (s : Station) : List Operation → Prop
  | [] => True
  | op :: rest => f.Admits s op ∧ f.Throughout (s.perform op).station rest

instance decidableThroughout (f : Feed) :
    (s : Station) → (ops : List Operation) → Decidable (f.Throughout s ops)
  | _, [] => .isTrue trivial
  | _, _ :: rest => @instDecidableAnd _ _ _ (f.decidableThroughout _ rest)

/-- The tracker has seen a last count; it has seen nothing if it is not there yet. -/
def Tracked (f : Feed) (trackers : List (String × Tracker)) (last : Nat) : Prop :=
  (Keyed.get? f.tracker trackers = none ∧ last = 0) ∨
    ∃ baseline, Keyed.get? f.tracker trackers = some (.delta baseline) ∧
      baseline.count.toNat = last

/-- What holds of a station while the histogram is recorded, after a last count: every session
holds growth of the series or nothing. -/
structure Holds (f : Feed) (s : Station) (last : Nat) : Prop where
  ascending : Keyed.Ascending s.sessions
  carries : ∀ e ∈ s.sessions, e.2.Carries (f.series s.newSession.defaultSource)
  tracked : f.Tracked s.trackers last

variable {f : Feed} {s : Station} {last : Nat}

section Holds

variable (h : f.Holds s last)
include h

theorem Holds.session (name : String) :
    (s.session name).Carries (f.series s.newSession.defaultSource) := by
  unfold Station.session
  cases found : Keyed.get? name s.sessions with
  | none => exact Session.carries_of_empty rfl rfl
  | some session => exact h.carries (name, session) (h.ascending.get?_eq_some_iff.1 found)

theorem Holds.congr {t : Station} (setup : t.sender.setup = s.sender.setup)
    (sessions : t.sessions = s.sessions) (trackers : t.trackers = s.trackers) :
    f.Holds t last where
  ascending := sessions ▸ h.ascending
  carries := by
    rw [sessions, Station.newSession_congr setup]
    exact h.carries
  tracked := trackers ▸ h.tracked

theorem Holds.keep (name : String) {session : Session}
    (carries : session.Carries (f.series s.newSession.defaultSource)) :
    f.Holds (s.keep name session) last where
  ascending := h.ascending.put name session
  carries e he := by
    rcases Keyed.mem_put he with rfl | he
    · exact carries
    · exact h.carries e he
  tracked := h.tracked

theorem Holds.forget (name : String) : f.Holds (s.forget name) last where
  ascending := h.ascending.filter _
  carries e he := h.carries e (List.mem_filter.1 he).1
  tracked := h.tracked

theorem Holds.held_nonneg : 0 ≤ s.held (f.series s.newSession.defaultSource) := by
  refine List.sum_nonneg fun x hx => ?_
  obtain ⟨e, he, rfl⟩ := List.mem_map.1 hx
  exact (h.carries e he).amount_nonneg

/-- What a session held before goes, and what it holds now is added. -/
theorem Holds.held_keep (name : String) (session : Session) :
    let series := f.series s.newSession.defaultSource
    (s.keep name session).held series + (s.session name).amount series =
      s.held series + session.amount series := by
  intro series
  have sum := Keyed.sum_put h.ascending (Session.amount series) name session
  have replaced : (Keyed.get? name s.sessions).elim 0 (Session.amount series) =
      (s.session name).amount series := by
    unfold Station.session
    cases Keyed.get? name s.sessions with
    | none => exact (Session.amount_of_empty rfl).symm
    | some session => rfl
  rwa [replaced] at sum

theorem Holds.amount_le (name : String) :
    (s.session name).amount (f.series s.newSession.defaultSource) ≤
      s.held (f.series s.newSession.defaultSource) := by
  -- without the session the others still hold something or nothing
  have others : 0 ≤ (s.keep name s.newSession).held (f.series s.newSession.defaultSource) :=
    (h.keep name (Session.carries_of_empty rfl rfl)).held_nonneg
  have sum := h.held_keep name s.newSession
  have empty : s.newSession.amount (f.series s.newSession.defaultSource) = 0 :=
    Session.amount_of_empty rfl
  dsimp only at sum
  omega

end Holds

/-! ### What operations do to the count -/

/-- What the sessions held of the count, and by how much it has grown, is held afterwards or
committed. -/
structure Conserves (f : Feed) (s : Station) (last : Nat) (growth : Int) (r : Station.Reply) :
    Prop where
  holds : f.Holds r.station last
  setup_eq : r.station.sender.setup = s.sender.setup
  grown : ∀ p ∈ Sender.committed (f.series s.newSession.defaultSource) r.events,
    IsGrowth p.kind p.value
  balance : Sender.committedAmount (f.series s.newSession.defaultSource) r.events +
    r.station.held (f.series s.newSession.defaultSource) =
      s.held (f.series s.newSession.defaultSource) + growth

/-- Whatever leaves sessions and trackers alone and accepts no point of the series. -/
theorem Holds.conserves_of_sessions_eq (h : f.Holds s last) {r : Station.Reply}
    (setup : r.station.sender.setup = s.sender.setup)
    (sessions : r.station.sessions = s.sessions) (trackers : r.station.trackers = s.trackers)
    (other : ∀ p ∈ Sender.acceptedPoints r.events,
      ¬p.IsOf (f.series s.newSession.defaultSource)) : f.Conserves s last 0 r := by
  have none : Sender.committed (f.series s.newSession.defaultSource) r.events = [] := by
    rw [Sender.committed, List.filter_eq_nil_iff]
    simpa using other
  refine ⟨h.congr setup sessions trackers, setup, fun p hp => ?_, ?_⟩
  · rw [none] at hp
    cases hp
  · rw [Sender.committedAmount, none, Station.held, sessions]
    exact (Int.zero_add _).trans (Int.add_zero _).symm

theorem Holds.conserves_refuse (h : f.Holds s last) (e : SenderError) :
    f.Conserves s last 0 (s.refuse e) :=
  h.conserves_of_sessions_eq rfl rfl rfl fun _ hp => absurd hp List.not_mem_nil

/-- What is recorded in a session is held afterwards. -/
theorem Holds.conserves_keep (h : f.Holds s last) {name : String} {session : Session}
    {growth : Int} (carries : session.Carries (f.series s.newSession.defaultSource))
    (amount_eq : session.amount (f.series s.newSession.defaultSource) =
      (s.session name).amount (f.series s.newSession.defaultSource) + growth)
    {trackers : List (String × Tracker)} {last' : Nat} (tracked : f.Tracked trackers last')
    (answer : Option (Except SenderError Unit)) :
    f.Conserves s last' growth
      { answer, station := { s.keep name session with trackers } } where
  holds := ⟨(h.keep name carries).ascending, (h.keep name carries).carries, tracked⟩
  setup_eq := rfl
  grown := nofun
  balance := by
    have sum := h.held_keep name session
    have silent : Sender.committedAmount (f.series s.newSession.defaultSource) [] = 0 := rfl
    have same : Station.held (f.series s.newSession.defaultSource)
        { s.keep name session with trackers } =
      (s.keep name session).held (f.series s.newSession.defaultSource) := rfl
    refine (congrArg₂ (· + ·) silent same).trans ?_
    dsimp only at sum ⊢
    omega

/-- What a session holds is committed when it is closed. -/
theorem Holds.conserves_closeSession (h : f.Holds s last) {name : String} {now : Int64}
    {inRuntime : Bool} (ok : (s.closeSession name now inRuntime).answer = some (.ok ())) :
    f.Conserves s last 0 (s.closeSession name now inRuntime) := by
  obtain ⟨sender, setup, station_eq⟩ := s.station_closeSession name now inRuntime
  have before := h.session name
  obtain ⟨carries, nothing⟩ := before.close now
  obtain ⟨grown, amount_eq⟩ :=
    before.committed (Station.acceptedPoints_closeSession before.sound ok)
  have sum := h.held_keep name ((s.session name).close now).1
  refine ⟨?_, by rw [station_eq]; exact setup, grown, ?_⟩
  · rw [station_eq]
    exact (h.keep name carries).congr setup rfl rfl
  · have held_eq (series : Series) : (s.closeSession name now inRuntime).station.held series =
        (s.keep name ((s.session name).close now).1).held series := by
      rw [station_eq]
      rfl
    rw [amount_eq, held_eq]
    dsimp only at sum
    omega

theorem Holds.conserves_dropSession (h : f.Holds s last) {name : String} {now : Int64}
    (ok : (s.closeSession name now false).answer = some (.ok ())) :
    f.Conserves s last 0 (s.dropSession name now) := by
  obtain ⟨holds, setup, grown, balance⟩ := h.conserves_closeSession ok
  refine ⟨holds.forget name, setup, grown, ?_⟩
  -- what is forgotten is a closed session, and nothing is left in it
  have forgotten (series : Series) :
      ((s.closeSession name now false).station.forget name).held series =
        (s.closeSession name now false).station.held series := by
    refine Keyed.sum_filter (· != name) fun e he same => ?_
    obtain rfl : e.1 = name := by simpa using same
    have found := holds.ascending.get?_eq_some_iff.2 he
    have closed := Station.session_closeSession s e.1 e.1 now false
    rw [if_pos rfl, Station.session, found, Option.getD_some] at closed
    rw [closed]
    exact Session.amount_of_empty (Session.entries_close (h.session e.1).sound now)
  rw [← balance, Station.dropSession]
  dsimp only
  rw [forgotten]

theorem Holds.conserves_openSession (h : f.Holds s last) {name : String} {now : Int64}
    (ok : (s.closeSession name now false).answer = some (.ok ())) :
    f.Conserves s last 0 (s.openSession name now) := by
  obtain ⟨holds, setup, grown, balance⟩ := h.conserves_dropSession ok
  have same := Station.newSession_congr setup
  have carries : s.newSession.Carries
      (f.series (s.dropSession name now).station.newSession.defaultSource) :=
    Session.carries_of_empty rfl (by rw [same]; rfl)
  refine ⟨holds.keep name carries, setup, grown, ?_⟩
  have sum := holds.held_keep name s.newSession
  rw [Station.session_dropSession, if_pos rfl, same] at sum
  have unchanged := add_right_cancel sum
  rw [← balance, Station.openSession]
  dsimp only
  rw [unchanged]

/-- A write that is admitted belongs to another series, or it is refused. -/
theorem Holds.conserves_write (h : f.Holds s last) {name : String} {source : Option String}
    {metric : String} {kind : Kind} {value : Value} {dimensions : List (String × String)}
    (admitted : f.Admits s (.write name source metric kind value dimensions)) :
    f.Conserves s last 0 (s.write name source metric kind value dimensions) := by
  obtain ⟨carries, amount_eq⟩ := (h.session name).record admitted
  unfold Station.write
  unfold Session.record at carries amount_eq
  dsimp only at carries amount_eq ⊢
  cases hp : (s.session name).put (source.getD (s.session name).defaultSource) metric kind value
    dimensions with
  | error e => exact h.conserves_refuse e
  | ok session =>
    rw [hp] at carries amount_eq
    exact h.conserves_keep carries (amount_eq.trans (Int.add_zero _).symm) h.tracked _

/-- A distribution through another tracker. -/
theorem Holds.conserves_other (h : f.Holds s last) {name tracker : String} {fresh : Tracker}
    {metric : String} {snapshot : Snapshot} {dimensions : List (String × String)}
    (other : tracker ≠ f.tracker)
    (admitted : f.Admits s (.distribution name tracker fresh metric snapshot dimensions)) :
    f.Conserves s last 0 (s.distribution name tracker fresh metric snapshot dimensions) := by
  rw [Admits, if_neg other] at admitted
  obtain ⟨carries, amount_eq⟩ := (h.session name).record admitted
  refine h.conserves_keep carries (amount_eq.trans (Int.add_zero _).symm) ?_ _
  rw [Tracked, Keyed.get?_put_of_ne (Ne.symm other)]
  exact h.tracked

/-- **A distribution of the histogram adds the change of the count.** -/
theorem Holds.conserves_own (h : f.Holds s last) {name tracker : String} {fresh : Tracker}
    {metric : String} {snapshot : Snapshot} {dimensions : List (String × String)}
    (own : tracker = f.tracker)
    (admitted : f.Admits s (.distribution name tracker fresh metric snapshot dimensions))
    (bounded : s.held (f.series s.newSession.defaultSource) +
      Tracker.change last snapshot.count.toNat < 2 ^ 63) :
    f.Conserves s snapshot.count.toNat (Tracker.change last snapshot.count.toNat)
      (s.distribution name tracker fresh metric snapshot dimensions) := by
  rw [Admits, if_pos own] at admitted
  obtain ⟨rfl, rfl, new, ok⟩ := admitted
  subst own
  -- the tracker has seen the last count, or it starts with none
  obtain ⟨baseline, current, rfl⟩ : ∃ baseline : Snapshot,
      (Keyed.get? f.tracker s.trackers).getD fresh = .delta baseline ∧
        baseline.count.toNat = last := by
    rcases h.tracked with ⟨absent, rfl⟩ | ⟨baseline, found, seen⟩
    · exact ⟨{}, by rw [absent, new absent]; rfl, rfl⟩
    · exact ⟨baseline, by rw [found]; rfl, seen⟩
  rw [current] at ok
  have before := h.session name
  have room := h.amount_le name
  obtain ⟨carries, amount_eq⟩ := before.distribution rfl rfl ok (by omega)
  have isOpen := ((Session.recordDistribution_ok_iff ..).1 ok).1
  unfold Station.distribution
  dsimp only
  rw [current, Session.tracker_recordDistribution isOpen]
  refine h.conserves_keep carries amount_eq (.inr ⟨snapshot, ?_, rfl⟩) _
  exact Keyed.get?_put_self ..

/-! ### What runs do to the count -/

/-- By how much an operation makes the count grow. -/
def growth (f : Feed) (last : Nat) (op : Operation) : Int :=
  (f.count? op).elim 0 fun count => Tracker.change last count

/-- **Every operation that is admitted conserves the count.** -/
theorem Holds.conserves_perform (h : f.Holds s last) {op : Operation} (admitted : f.Admits s op)
    (bounded : s.held (f.series s.newSession.defaultSource) + f.growth last op < 2 ^ 63) :
    f.Conserves s ((f.count? op).getD last) (f.growth last op) (s.perform op) := by
  cases op with
  | record draft inRuntime =>
    rw [Station.perform, Station.record]
    cases built : s.pointOf draft with
    | error e => exact h.conserves_refuse _
    | ok p =>
      refine h.conserves_of_sessions_eq ?_ rfl rfl fun q hq => ?_
      · exact (s.sender.step_ledger (.submit [p] inRuntime)).setup_eq
      · obtain rfl := List.mem_singleton.1 (Sender.mem_of_mem_acceptedPoints_submit hq)
        exact admitted q built
  | openSession name now => exact h.conserves_openSession admitted
  | write name source metric kind value dimensions => exact h.conserves_write admitted
  | distribution name tracker fresh metric snapshot dimensions =>
    rw [growth, count?] at bounded ⊢
    split_ifs at bounded ⊢ with own
    · exact h.conserves_own own admitted bounded
    · exact h.conserves_other own admitted
  | closeSession name now inRuntime => exact h.conserves_closeSession admitted
  | dropSession name now => exact h.conserves_dropSession admitted
  | move m =>
    refine h.conserves_of_sessions_eq (s.setup_perform (.move m)) rfl rfl fun p hp => ?_
    have accepted : Sender.acceptedPoints (s.perform (.move m)).events = [] :=
      s.sender.acceptedPoints_move m
    rw [accepted] at hp
    cases hp

theorem counts_cons (f : Feed) (op : Operation) (rest : List Operation) (last : Nat) :
    (Tracker.changes last (f.counts (op :: rest)) : Int) =
      f.growth last op + Tracker.changes ((f.count? op).getD last) (f.counts rest) := by
  unfold counts growth
  cases hc : f.count? op with
  | none => simp [hc]
  | some count => simp [hc, Tracker.changes]

theorem committedAmount_nonneg {series : Series} {es : List Sender.Event}
    (grown : ∀ p ∈ Sender.committed series es, IsGrowth p.kind p.value) :
    0 ≤ Sender.committedAmount series es := by
  refine List.sum_nonneg fun x hx => ?_
  obtain ⟨p, hp, rfl⟩ := List.mem_map.1 hx
  exact (grown p hp).amount_nonneg

/-- **What the count has grown by is held or committed.** -/
theorem Holds.run (h : f.Holds s last) {ops : List Operation} (admitted : f.Throughout s ops)
    (bounded : s.held (f.series s.newSession.defaultSource) +
      Tracker.changes last (f.counts ops) < 2 ^ 63) :
    (∃ last', f.Holds (s.run ops).1 last') ∧
    (∀ p ∈ Sender.committed (f.series s.newSession.defaultSource) (s.run ops).2,
      IsGrowth p.kind p.value) ∧
    Sender.committedAmount (f.series s.newSession.defaultSource) (s.run ops).2 +
      (s.run ops).1.held (f.series s.newSession.defaultSource) =
        s.held (f.series s.newSession.defaultSource) +
          Tracker.changes last (f.counts ops) := by
  induction ops generalizing s last with
  | nil =>
    refine ⟨⟨last, h⟩, nofun, ?_⟩
    simp [Station.run, counts, Tracker.changes, Sender.committedAmount, Sender.committed,
      Sender.acceptedPoints]
  | cons op rest ih =>
    obtain ⟨first, later⟩ := admitted
    rw [counts_cons] at bounded ⊢
    obtain ⟨holds, setup, grown, balance⟩ := h.conserves_perform first (by omega)
    have nonneg := committedAmount_nonneg grown
    -- what is committed by now is held no more, so there is room for the rest
    have same := Station.newSession_congr setup
    rw [← same] at balance grown bounded nonneg ⊢
    obtain ⟨holds', grown', balance'⟩ := ih holds later (by omega)
    have events_eq : (s.run (op :: rest)).2 =
      (s.perform op).events ++ ((s.perform op).station.run rest).2 := rfl
    refine ⟨holds', ?_, ?_⟩
    · rw [events_eq, Sender.committed_append]
      exact List.forall_mem_append.2 ⟨grown, grown'⟩
    · rw [events_eq, Sender.committedAmount_append, ← Int.add_assoc, ← balance, Int.add_assoc,
        Int.add_assoc, ← balance']
      rfl

/-- Nothing is held when all sessions are closed. -/
theorem Holds.held_eq_zero (h : f.Holds s last) (closed : ∀ e ∈ s.sessions, e.2.isClosed = true) :
    s.held (f.series s.newSession.defaultSource) = 0 := by
  refine List.sum_eq_zero fun x hx => ?_
  obtain ⟨e, he, rfl⟩ := List.mem_map.1 hx
  exact Session.amount_of_empty ((h.carries e he).sound.emptied (closed e he))

/-- **Counts through a delta tracker telescope.**  While a histogram is recorded through a new
tracker, in whatever sessions,

* each point of its count that is committed is an integer increment of a counter;
* all of these increments, and what the sessions still hold, come to the last counts of the
  longest runs of snapshots in which the count does not go down;
* so do the increments alone once all sessions are closed, which is the last count if the count
  never went down;
* the tracker never reports a difference that has wrapped around. -/
theorem committed_counts (s : Sender) (f : Feed) (ops : List Operation)
    (admitted : f.Throughout { sender := s } ops)
    (bounded : Tracker.runTotal (f.counts ops) < 2 ^ 63) :
    let series := f.series s.setup.options.defaultSource
    let r := Station.run { sender := s } ops
    let total := Tracker.runTotal (f.counts ops)
    (∀ p ∈ Sender.committed series r.2, p.kind = .counter ∧ ∃ i, p.value = .int i) ∧
    Sender.committedAmount series r.2 + r.1.held series = total ∧
    ((∀ e ∈ r.1.sessions, e.2.isClosed = true) → Sender.committedAmount series r.2 = total) ∧
    ((f.counts ops).IsChain (· ≤ ·) → total = (f.counts ops).getLastD 0) ∧
    ∀ baseline snapshot : Snapshot, baseline.count ≤ snapshot.count →
      (Tracker.since baseline snapshot).1.count.toNat + baseline.count.toNat =
        snapshot.count.toNat := by
  intro series r total
  have start : f.Holds { sender := s } 0 := ⟨List.Pairwise.nil, nofun, .inl ⟨rfl, rfl⟩⟩
  have empty : Station.held series { sender := s } = 0 := rfl
  obtain ⟨⟨last, holds⟩, grown, balance⟩ := start.run admitted (by
    rw [Tracker.changes_zero]
    change Station.held series { sender := s } + _ < _
    omega)
  rw [Tracker.changes_zero] at balance
  change Sender.committedAmount series r.2 + r.1.held series =
    Station.held series { sender := s } + total at balance
  rw [empty, Int.zero_add] at balance
  have same : f.series r.1.newSession.defaultSource = series := by
    rw [Station.newSession_congr (Station.setup_run { sender := s } ops)]
    rfl
  refine ⟨fun p hp => ?_, balance, fun closed => ?_, Tracker.runTotal_of_isChain,
    fun baseline snapshot grows => ?_⟩
  · obtain ⟨counter, i, value_eq, -⟩ := grown p hp
    exact ⟨counter, i, value_eq⟩
  · have nothing := holds.held_eq_zero closed
    rw [same] at nothing
    rwa [nothing, Int.add_zero] at balance
  · rw [Tracker.toNat_count_since, Tracker.change,
      if_neg (Nat.not_lt.2 (UInt64.le_iff_toNat_le.1 grows))]
    exact Nat.sub_add_cancel (UInt64.le_iff_toNat_le.1 grows)

/-- The time that requests for a page take. -/
def sample : Feed := { tracker := "t", metric := "latency", dimensions := [("path", "/")] }

/-- Snapshots in two sessions, with another layout of buckets and a count that goes down, and a
gauge with the name of the count. -/
def sampleOps : List Operation :=
  let snapshot (session : String) (count : UInt64) (buckets : List Bucket) : Operation :=
    .distribution session "t" .newDelta "latency" { count, buckets } [("path", "/")]
  [.openSession "a" 0, snapshot "a" 3 [], snapshot "a" 5 [⟨.zero, .zero⟩],
    .closeSession "a" 1 false, .openSession "b" 2, snapshot "b" 2 [⟨.zero, .zero⟩],
    .write "b" none "latency.count" .gauge (.int 7) [], snapshot "b" 6 [],
    .closeSession "b" 3 false]

/-- Makes a sender with room for all points. -/
def sampleBuilder : SenderBuilder :=
  { Sender.sampleBuilder with options := { defaultSource := "web-1", compresses := false } }

theorem committed_counts_sample :
    ∃ sender, sampleBuilder.build = .ok sender ∧
      sample.Throughout { sender } sampleOps ∧
      Tracker.runTotal (sample.counts sampleOps) < 2 ^ 63 ∧
      sample.counts sampleOps = [3, 5, 2, 6] ∧
      Sender.committedAmount (sample.series "web-1")
        (Station.run { sender } sampleOps).2 = 11 := by
  have small : Tracker.runTotal (sample.counts sampleOps) < 2 ^ 63 := by decide
  have total : (Tracker.runTotal (sample.counts sampleOps) : Int) = 11 := by decide
  obtain ⟨sender, built⟩ : ∃ sender, sampleBuilder.build = .ok sender := ⟨_, rfl⟩
  have admitted : sample.Throughout { sender } sampleOps := by
    cases built
    decide
  have closed : ∀ e ∈ (Station.run { sender } sampleOps).1.sessions, e.2.isClosed = true := by
    cases built
    decide
  have source_eq : sender.setup.options.defaultSource = "web-1" := by
    cases built
    rfl
  have committed := (committed_counts sender sample sampleOps admitted small).2.2.1 closed
  rw [source_eq, total] at committed
  exact ⟨sender, built, admitted, small, by decide, committed⟩

end Feed
end MetricRelay
