import MetricRelay.Proofs.Sender.Closing

/-!
# Submissions

Points come to a sender as units.  A point that is recorded is a unit by itself, and what a
session holds is one unit when the session ends.  A unit is accepted or refused as a whole, and
the answer says which of the two it is (`Sender.Settles`).  A caller that has to wait submits its
unit again, so a wait is a submission that comes to nothing.

Nothing but a submission counts points as accepted or as rejected (`Sender.answered_move`), so
that both counts together tell how many points were submitted (`Sender.answered_run`).
-/

namespace MetricRelay

namespace Sender

/-! ### One submission -/

/-- What the sender is after a submission of points with the given answer: it has accepted all of
them or refused all of them, and has counted them, or it is as it was while the caller waits. -/
def Settles (s : Sender) (points : List Point) (answer : Option (Except SenderError Unit))
    (s' : Sender) : Prop :=
  match answer with
  | some (.ok ()) =>
    s'.buffer.contents = s.buffer.contents ++ points ∧ s'.stats = s.stats.accept points.length
  | some (.error e) =>
    (e = .stopped ∨ ∃ cause, e = .enqueue points.length cause) ∧
      s'.buffer = s.buffer ∧ s'.stats = s.stats.reject points.length
  | none => s' = s

theorem settles_submit (s : Sender) (points : List Point) (inRuntime : Bool) :
    s.Settles points (s.submission points inRuntime) (s.submit points inRuntime).1 := by
  have cases := s.submit_cases points inRuntime
  dsimp only at cases
  generalize s.submission points inRuntime = answer at cases ⊢
  rcases answer with _ | e | ok
  · exact congrArg Prod.fst cases.2
  · obtain ⟨reason, refused⟩ := cases
    rw [refused]
    exact ⟨reason, rfl, rfl⟩
  · obtain ⟨stats_eq, contents_eq, -⟩ := cases
    exact ⟨contents_eq, stats_eq⟩

/-! ### All submissions of a run -/

/-- The units whose submission returns in a run, one after the other. -/
def answeredUnits (s : Sender) : List Action → List (List Point)
  | [] => []
  | .submit points inRuntime :: rest =>
    (if (s.submission points inRuntime).isSome then [points] else []) ++
      (s.submit points inRuntime).1.answeredUnits rest
  | .move m :: rest => (s.move m).1.answeredUnits rest

/-- No move of the sender counts points as accepted or as rejected. -/
theorem answered_move (s : Sender) (m : Move) :
    (s.move m).1.stats.enqueued = s.stats.enqueued ∧
      (s.move m).1.stats.rejected = s.stats.rejected := by
  -- a batch changes the counts of what is sent or dropped, also if it is given up at once
  have take (b : Buffer) (w : Worker) (batch : List Point) (token : Except NoToken String) :
      let r := ({ s with buffer := b } : Sender).send w batch token
      r.1.stats.enqueued = s.stats.enqueued ∧ r.1.stats.rejected = s.stats.rejected := by
    rcases send_cases { s with buffer := b } w batch token with ⟨report, -, h⟩ | ⟨request, h⟩
    · rw [h]
      exact ⟨rfl, rfl⟩
    · rw [h]
      exact ⟨rfl, rfl⟩
  cases m with
  | start thread =>
    simp only [move, start]
    repeat' split
    all_goals exact ⟨rfl, rfl⟩
  | stop =>
    rcases s with ⟨_, _, _ | _ | _ | _, _ | _, _⟩ <;> exact ⟨rfl, rfl⟩
  | wake =>
    simp only [move, wake]
    split <;> exact ⟨rfl, rfl⟩
  | flush =>
    simp only [move, flush]
    repeat' split
    all_goals exact ⟨rfl, rfl⟩
  | notice =>
    simp only [move, notice]
    split <;> exact ⟨rfl, rfl⟩
  | next token =>
    simp only [move, next]
    split
    · split
      · exact ⟨rfl, rfl⟩
      · exact take _ _ _ token
    · split
      · exact ⟨rfl, rfl⟩
      · exact take _ _ _ token
    · exact ⟨rfl, rfl⟩
  | hear outcome =>
    simp only [move, hear]
    repeat' split
    all_goals exact ⟨rfl, rfl⟩
  | resume =>
    simp only [move, resume]
    repeat' split
    all_goals exact ⟨rfl, rfl⟩
  | deadline =>
    simp only [move, deadline]
    split <;> exact ⟨rfl, rfl⟩
  | breakdown =>
    simp only [move, breakdown]
    repeat' split
    all_goals exact ⟨rfl, rfl⟩

/-- A submission that returns counts its points once. -/
theorem answered_submit (s : Sender) (points : List Point) (inRuntime : Bool) :
    let s' := (s.submit points inRuntime).1
    s'.stats.enqueued + s'.stats.rejected = s.stats.enqueued + s.stats.rejected +
      if (s.submission points inRuntime).isSome then points.length else 0 := by
  intro s'
  have settles : s.Settles points (s.submission points inRuntime) s' :=
    s.settles_submit points inRuntime
  generalize s.submission points inRuntime = answer at settles ⊢
  rcases answer with _ | e | ok
  · rw [show s' = s from settles]
    rfl
  · rw [settles.2.2]
    simp only [Stats.reject, Option.isSome_some, if_true]
    omega
  · rw [settles.2]
    simp only [Stats.accept, Option.isSome_some, if_true]
    omega

theorem answered_run (s : Sender) (actions : List Action) :
    (s.run actions).1.stats.enqueued + (s.run actions).1.stats.rejected =
      s.stats.enqueued + s.stats.rejected + (s.answeredUnits actions).flatten.length := by
  induction actions generalizing s with
  | nil => rfl
  | cons a rest ih =>
    have step_eq : (s.run (a :: rest)).1 = ((s.step a).1.run rest).1 := rfl
    rw [step_eq, ih]
    cases a with
    | submit points inRuntime =>
      have first := s.answered_submit points inRuntime
      simp only [step, answeredUnits]
      split_ifs at first ⊢
      · simp only [List.cons_append, List.nil_append, List.flatten_cons, List.length_append]
        omega
      · simp only [List.nil_append]
        omega
    | move m =>
      obtain ⟨enqueued_eq, rejected_eq⟩ := s.answered_move m
      simp only [step, answeredUnits]
      omega

end Sender

namespace Station

open Sender (Action)

/-! ### Submissions of callers -/

/-- What the sender has to do with a list of points, if it is one. -/
def offering? {ε : Type} (inRuntime : Bool) : Except ε (List Point) → Option Action
  | .ok points => some (.submit points inRuntime)
  | .error _ => none

/-- What an operation has the sender do.  A session that ends submits what it holds. -/
def action? (s : Station) : Operation → Option Action
  | .record draft inRuntime => offering? inRuntime ((s.pointOf draft).map ([·]))
  | .closeSession name now inRuntime => offering? inRuntime ((s.session name).close now).2
  | .openSession name now | .dropSession name now => offering? false ((s.session name).close now).2
  | .write .. | .distribution .. => none
  | .move m => some (.move m)

/-- What operations have the sender do, one after the other. -/
def actions (s : Station) : List Operation → List Action
  | [] => []
  | op :: rest => (s.action? op).toList ++ (s.perform op).station.actions rest

theorem sender_closeSession (s : Station) (name : String) (now : Int64) (inRuntime : Bool) :
    (s.closeSession name now inRuntime).station.sender =
      (s.sender.run (offering? inRuntime ((s.session name).close now).2).toList).1 := by
  unfold closeSession
  rcases (s.session name).close now with ⟨session, e | points⟩ <;> rfl

theorem sender_perform (s : Station) (op : Operation) :
    (s.perform op).station.sender = (s.sender.run (s.action? op).toList).1 := by
  cases op with
  | record draft inRuntime =>
    simp only [perform, record, action?]
    cases s.pointOf draft <;> rfl
  | openSession name now => exact s.sender_closeSession name now false
  | write name source metric kind value dimensions =>
    simp only [perform, write]
    split <;> rfl
  | distribution name tracker fresh metric snapshot dimensions => rfl
  | closeSession name now inRuntime => exact s.sender_closeSession name now inRuntime
  | dropSession name now => exact s.sender_closeSession name now false
  | move m => rfl

theorem sender_run (s : Station) (ops : List Operation) :
    (s.run ops).1.sender = (s.sender.run (s.actions ops)).1 := by
  induction ops generalizing s with
  | nil => rfl
  | cons op rest ih =>
    rw [actions, Sender.run_append, ← sender_perform]
    exact ih _

end Station

namespace Sender

/-- **Submission is atomic and exactly accounted.**  Whatever has happened to a sender that was
built:

* what a unit of points comes to can be told from the answer to its submission.  Either all of its
  points stand behind what was buffered, and as many more points count as enqueued; or the answer
  is that the sender is stopped or that these many points were not enqueued, nothing else is
  buffered than before, and as many more points count as rejected; or the caller waits, and nothing
  has happened.  No other count changes;
* a point that is recorded is such a unit, unless it is not valid: then it is refused for that, and
  nothing changes.  The points of a session that is closed are such a unit, and a session that is
  dropped is closed;
* the points that count as enqueued or as rejected are those of the submissions that have returned,
  also if they are made by calls on the sender and on its sessions. -/
theorem submission_is_atomic {b : SenderBuilder} {s : Sender} (built : b.build = .ok s)
    (actions : List Action) :
    let t := (s.run actions).1
    (∀ points inRuntime,
      t.Settles points (t.submission points inRuntime) (t.submit points inRuntime).1) ∧
    (∀ st : Station, st.sender = t →
      (∀ draft inRuntime,
        let r := st.perform (.record draft inRuntime)
        match st.pointOf draft with
        | .ok p => t.Settles [p] r.answer r.station.sender
        | .error e => r = st.refuse (.invalidPoint e)) ∧
      (∀ name now inRuntime points, ((st.session name).close now).2 = .ok points →
        let r := st.perform (.closeSession name now inRuntime)
        t.Settles points r.answer r.station.sender) ∧
      ∀ name now,
        (st.perform (.dropSession name now)).station.sender =
          (st.perform (.closeSession name now false)).station.sender) ∧
    t.stats.enqueued + t.stats.rejected = (s.answeredUnits actions).flatten.length ∧
    ∀ ops,
      let u := s.after ops
      u.stats.enqueued + u.stats.rejected =
        (s.answeredUnits (Station.actions { sender := s } ops)).flatten.length := by
  intro t
  have fresh : s.stats = {} := congrArg Ledger.stats (ledger_of_build built)
  have counted (actions : List Action) :
      (s.run actions).1.stats.enqueued + (s.run actions).1.stats.rejected =
        (s.answeredUnits actions).flatten.length := by
    rw [answered_run, fresh]
    exact Nat.zero_add _
  refine ⟨t.settles_submit, ?_, counted actions, fun ops => ?_⟩
  · clear_value t
    rintro st rfl
    refine ⟨fun draft inRuntime => ?_, fun name now inRuntime points given => ?_, fun _ _ => rfl⟩
    · simp only [Station.perform, Station.record]
      cases hp : st.pointOf draft with
      | error e => rfl
      | ok p => exact st.sender.settles_submit [p] inRuntime
    · simp only [Station.perform, Station.closeSession]
      rw [given]
      exact st.sender.settles_submit points inRuntime
  · rw [after, Station.sender_run]
    exact counted _

/-- Three points fill the buffer, two of them as a unit, and one more finds room only once the
worker has looked at the first.  One point has no name, and the last one comes too late.  The
session takes the place of an empty one, which ends without a point. -/
def sampleSubmissions : List Station.Operation :=
  let point (name : String) : Station.Operation :=
    .record { name, kind := .gauge, value := .int 1, timestampMs := 1 } false
  [point "cpu", point "", .openSession "a" 0, .write "a" none "disk" .gauge (.int 2) [],
    .write "a" none "load" .counter (.int 3) [], .closeSession "a" 5 false, point "net",
    .move (.start (.ok ())), .move .wake, point "net", .move .stop, point "net"]

theorem submission_is_atomic_sample :
    ∃ s, sampleBuilder.build = .ok s ∧
      let u := s.after sampleSubmissions
      let units := s.answeredUnits (Station.actions { sender := s } sampleSubmissions)
      u.buffer.length = 4 ∧ u.stats.enqueued = 4 ∧ u.stats.rejected = 2 ∧
        units.map (·.length) = [1, 0, 2, 1, 1, 1] ∧
        u.stats.enqueued + u.stats.rejected = units.flatten.length :=
  ⟨_, rfl, by decide, by decide, by decide, by decide,
    (submission_is_atomic (b := sampleBuilder) rfl []).2.2.2 sampleSubmissions⟩

end Sender
end MetricRelay
