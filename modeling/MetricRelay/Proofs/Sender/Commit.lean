import MetricRelay.Proofs.Sender.Aggregation

/-!
# What becomes of the points of a session

Every value that is written to a session is finite, and so is a sum of integers.  A sum of
double-precision increments need not be (`Session.exists_float_of_not_isFinite`), and then closing
finds a point that is not valid: none of the points reaches the sender, and none is counted.  In
all other cases a session is committed or refused as a whole (`Station.closeSession_cases`).
-/

namespace MetricRelay
namespace Session

/-- Integers add up to an integer. -/
theorem exists_foldl_accumulate_eq_int {vs : List Value} (ints : ∀ v ∈ vs, ∃ j, v = .int j)
    (i : Int64) : ∃ j, vs.foldl Value.accumulate (.int i) = .int j := by
  induction vs generalizing i with
  | nil => exact ⟨i, rfl⟩
  | cons v vs ih =>
    obtain ⟨j, rfl⟩ := ints v List.mem_cons_self
    exact ih (fun v' hv => ints v' (List.mem_cons_of_mem _ hv)) (saturatingAdd i j)

/-- **Finite values come to one that is not finite only as increments of a counter, and not all of
them are integers.** -/
theorem exists_float_of_not_isFinite {ws : List (Kind × Value)}
    (finite : ∀ e ∈ ws, e.2.isFinite = true) {kind : Kind} {value : Value}
    (h : settled ws = some (kind, value)) (infinite : value.isFinite = false) :
    kind = .counter ∧ ∃ x, (.counter, .float x) ∈ ws := by
  unfold settled at h
  -- what stands at the end of the writes are increments
  have increment {v : Value}
      (hv : v ∈ (ws.rtakeWhile (·.1 = .counter)).map Prod.snd) : (.counter, v) ∈ ws := by
    obtain ⟨⟨kind, v⟩, he, rfl⟩ := List.mem_map.1 hv
    obtain rfl : kind = .counter := by simpa using List.mem_rtakeWhile_imp he
    exact (List.rtakeWhile_suffix _ _).subset he
  cases hr : (ws.rtakeWhile (·.1 = .counter)).map Prod.snd with
  | nil =>
    rw [hr] at h
    have := finite _ (List.mem_of_getLast? h)
    rw [infinite] at this
    cases this
  | cons v vs =>
    rw [hr] at h increment
    obtain ⟨rfl, rfl⟩ := Prod.mk.inj (Option.some.inj h)
    refine ⟨rfl, ?_⟩
    by_contra integral
    have ints : ∀ v' ∈ v :: vs, ∃ i, v' = .int i := by
      intro v' hv
      cases v' with
      | int i => exact ⟨i, rfl⟩
      | float x => exact absurd ⟨x, increment hv⟩ integral
    obtain ⟨i, rfl⟩ := ints v List.mem_cons_self
    obtain ⟨j, hj⟩ := exists_foldl_accumulate_eq_int
      (fun v' hv => ints v' (List.mem_cons_of_mem _ hv)) i
    rw [hj] at infinite
    cases infinite

end Session

namespace Station

open Session (Write settled pointAt)

/-- A value of a session that is not finite is the sum of a counter with an increment that is no
integer. -/
theorem exists_float_of_not_isFinite (s : Station) {name : String} (opened : Int64)
    {ops : List Operation} (kept : ∀ op ∈ ops, op.handled ≠ some name) :
    let st := (s.perform (.openSession name opened)).station
    ∀ e ∈ ((st.run ops).1.session name).entries, e.2.2.isFinite = false → e.2.1 = .counter ∧
      ∃ w ∈ st.written name ops, w.series = e.1 ∧ w.kind = .counter ∧ ∃ x, w.value = .float x := by
  intro st e he infinite
  have held : Keyed.get? e.1 ((st.run ops).1.session name).entries = some e.2 :=
    (isSound_session s opened kept).ascending.get?_eq_some_iff.2 he
  rw [session_eq_foldl s opened kept, Session.get?_foldl_after rfl] at held
  have finite : ∀ v ∈ ((st.written name ops).filter (·.series = e.1)).map Write.entry,
      v.2.isFinite = true := by
    intro v hv
    obtain ⟨w, hw, rfl⟩ := List.mem_map.1 hv
    have sound := isSound_of_mem_written (List.mem_filter.1 hw).1
    exact sound.finite.resolve_right nofun
  obtain ⟨counter, x, hx⟩ := Session.exists_float_of_not_isFinite finite held infinite
  obtain ⟨w, hw, entry_eq⟩ := List.mem_map.1 hx
  obtain ⟨kind_eq, value_eq⟩ := Prod.mk.inj entry_eq
  obtain ⟨hw, series_eq⟩ := List.mem_filter.1 hw
  exact ⟨counter, w, hw, by simpa using series_eq, kind_eq, x, value_eq⟩

/-- **What comes of closing a session.**  However it was recorded, nothing is left in it, and

* it fails with an invalid point if and only if the sum of a counter is not finite, one of whose
  increments was no integer, and then the sender does not notice;
* otherwise all of its points are accepted and counted, or all of them are refused and counted,
  or the caller has to wait. -/
theorem closeSession_cases (s : Station) (name : String) (opened : Int64) (ops : List Operation)
    (kept : ∀ op ∈ ops, op.handled ≠ some name) (now : Int64) (inRuntime : Bool) :
    let st := (s.perform (.openSession name opened)).station
    let t := (st.run ops).1
    let session := t.session name
    let points := session.entries.map (pointAt now)
    let r := t.perform (.closeSession name now inRuntime)
    (r.station.session name).entries = [] ∧
    ((∃ e, r.answer = some (.error (.invalidPoint e))) ↔
      ∃ e ∈ session.entries, e.2.2.isFinite = false) ∧
    (∀ e ∈ session.entries, e.2.2.isFinite = false → e.2.1 = .counter ∧
      ∃ w ∈ st.written name ops, w.series = e.1 ∧ w.kind = .counter ∧ ∃ x, w.value = .float x) ∧
    match r.answer with
    | some (.ok ()) =>
      r.station.sender.stats = t.sender.stats.accept session.length ∧
        r.station.sender.buffer.contents = t.sender.buffer.contents ++ points ∧
        Sender.acceptedPoints r.events = points
    | some (.error (.invalidPoint _)) => r.station.sender = t.sender ∧ r.events = []
    | some (.error e) =>
      (e = .stopped ∨ ∃ cause, e = .enqueue session.length cause) ∧
        r.station.sender =
          { t.sender with stats := t.sender.stats.reject session.length } ∧ r.events = []
    | none =>
      t.sender.buffer.enqueueAll points inRuntime = .waiting ∧ r.station.sender = t.sender ∧
        r.events = [] := by
  intro st t session points r
  have isOpen : session.isClosed = false := isOpen_session s opened kept
  have sound : session.IsSound := isSound_session s opened kept
  have emptied : (r.station.session name).entries = [] := by
    have closing := session_closeSession t name name now inRuntime
    rw [if_pos rfl] at closing
    rw [show r.station.session name = _ from closing]
    exact Session.entries_close sound now
  refine ⟨emptied, ?_⟩
  by_cases infinite : ∃ e ∈ session.entries, e.2.2.isFinite = false
  · obtain ⟨e, he, -, close_eq⟩ := Session.close_of_not_isFinite sound isOpen infinite now
    have refused : r = (t.keep name session.closed).refuse
        (.invalidPoint (.nonFiniteValue e.1.name)) := by
      simp only [r, perform, closeSession, close_eq, session]
    rw [refused]
    exact ⟨⟨fun _ => infinite, fun _ => ⟨_, rfl⟩⟩, exists_float_of_not_isFinite s opened kept,
      rfl, rfl⟩
  · have finite : ∀ e ∈ session.entries, e.2.2.isFinite = true := by simpa using infinite
    have offered : r = (t.keep name session.closed).offer points inRuntime :=
      closeSession_of_isFinite sound isOpen finite now inRuntime
    have cases := t.sender.submit_cases points inRuntime
    have length_eq : points.length = session.length := List.length_map _
    rw [length_eq] at cases
    rw [offered]
    simp only [offer, keep]
    generalize t.sender.submission points inRuntime = answer at cases ⊢
    refine ⟨iff_of_false ?_ infinite, exists_float_of_not_isFinite s opened kept, ?_⟩
    · rintro ⟨e, rfl⟩
      obtain ⟨stopped | ⟨cause, refused⟩, -⟩ := cases
      · cases stopped
      · cases refused
    · rcases answer with _ | e | ok
      · obtain ⟨waiting, unchanged⟩ := cases
        rw [unchanged]
        exact ⟨waiting, rfl, rfl⟩
      · obtain ⟨reason, refused⟩ := cases
        rw [refused]
        rcases reason with rfl | ⟨cause, rfl⟩
        · exact ⟨.inl rfl, rfl, rfl⟩
        · exact ⟨.inr ⟨cause, rfl⟩, rfl, rfl⟩
      · exact cases

theorem closeSession_cases_sample :
    ∃ sender, Sender.sampleBuilder.build = .ok sender ∧
      (∀ op ∈ sampleWrites, op.handled ≠ some "a") ∧
      let st := ((Station.mk sender [] []).perform (.openSession "a" 0)).station
      let t := (st.run sampleWrites).1
      let r := t.perform (.closeSession "a" 5 false)
      (r.station.session "a").entries = [] ∧ ∀ e, r.answer ≠ some (.error (.invalidPoint e)) := by
  have kept : ∀ op ∈ sampleWrites, op.handled ≠ some "a" := by
    simp [sampleWrites, Operation.handled]
  have closing (sender : Sender) :=
    closeSession_cases (Station.mk sender [] []) "a" 0 sampleWrites kept 5 false
  refine ⟨_, rfl, kept, (closing _).1, fun e invalid => ?_⟩
  have infinite := (closing _).2.1.1 ⟨e, invalid⟩
  revert infinite
  decide

/-- A gauge, and two increments of a counter whose sum is not finite. -/
def sampleOverflow : List Operation :=
  let greatest : Value := .float ⟨0x7fefffffffffffff⟩
  [.write "a" none "cpu" .gauge (.int 1) [],
    .write "a" none "bytes" .counter greatest [], .write "a" none "bytes" .counter greatest []]

/-- **Accepted recordings that cannot be committed.**  Each increment is accepted and the sum is
refused, and the gauge vanishes with it although nothing is wrong with it.  Neither of the two
points is counted. -/
theorem vanished_of_overflow :
    ∃ sender, Sender.sampleBuilder.build = .ok sender ∧
      let st := ((Station.mk sender [] []).perform (.openSession "a" 0)).station
      let t := (st.run sampleOverflow).1
      let r := t.perform (.closeSession "a" 5 false)
      st.answers sampleOverflow = [some (.ok ()), some (.ok ()), some (.ok ())] ∧
        (t.session "a").length = 2 ∧
        r.answer = some (.error (.invalidPoint (.nonFiniteValue "bytes"))) ∧
        (r.station.session "a").length = 0 ∧ r.events.length = 0 ∧
        r.station.sender.stats = { enqueued := 0, rejected := 0 } :=
  ⟨_, rfl, by decide, by decide, by decide, by decide, by decide, by decide⟩

end Station
end MetricRelay
