import MetricRelay.Proofs.Sender.Sessions

/-!
# What a session holds and submits

From its opening to its closing a session is a fold of the writes to it that succeed
(`Station.session_eq_foldl`), whatever else happens to the station in between.  So what it holds
of a series is what the successful writes to this series come to: the last value, or the sum of
the increments since the series was last a gauge.  Closing submits one point for each series, and
from then on the session has no effect any more (`Station.session_aggregates`).
-/

namespace MetricRelay
namespace Station

open Session (Write settled pointAt)

/-- The writes to a session that succeed, one after the other. -/
def written (s : Station) (name : String) (ops : List Operation) : List Write :=
  (s.recordings name ops).flatMap (·.successes s.sender.setup.options.defaultSource)

theorem isSound_of_mem_written {s : Station} {name : String} {ops : List Operation} {w : Write}
    (h : w ∈ s.written name ops) : w.draft.IsSound := by
  obtain ⟨r, -, hw⟩ := List.mem_flatMap.1 h
  exact Session.Recording.isSound_of_mem hw

/-- A session that was just opened is new. -/
theorem session_opened (s : Station) (name : String) (now : Int64) :
    (s.perform (.openSession name now)).station.session name = s.newSession :=
  (session_openSession s name name now).trans (if_pos rfl)

section Opened

variable (s : Station) {name : String} (opened : Int64) {ops : List Operation}
  (kept : ∀ op ∈ ops, op.handled ≠ some name)
include kept

/-- An open session holds its successful writes. -/
theorem session_eq_foldl :
    let st := (s.perform (.openSession name opened)).station
    (st.run ops).1.session name = (st.written name ops).foldl Session.after s.newSession := by
  intro st
  have source : s.newSession.defaultSource = st.sender.setup.options.defaultSource :=
    congrArg (·.options.defaultSource) (s.setup_perform (.openSession name opened)).symm
  rw [session_run _ kept, session_opened, Session.recordAll_eq rfl, source]
  rfl

theorem isOpen_session :
    let st := (s.perform (.openSession name opened)).station
    ((st.run ops).1.session name).isClosed = false := by
  intro st
  rw [session_eq_foldl s opened kept]
  exact (Session.foldl_after _ _).1

theorem isSound_session :
    let st := (s.perform (.openSession name opened)).station
    ((st.run ops).1.session name).IsSound := by
  intro st
  rw [session_eq_foldl s opened kept]
  exact (Session.isSound_of_empty rfl).foldl_after rfl fun w hw => isSound_of_mem_written hw

end Opened

/-- **A session aggregates the values of its series.**  Whatever is done to a station from the
opening of a session on, apart from closing it:

* the session holds its series in order, and of each what the successful writes to it come to;
* a write succeeds if and only if it makes a point, and otherwise changes nothing;
* the order in which a write lists its dimensions does not matter;
* closing submits one point for each series, in order and with one time, if all values are
  finite;
* after that, until another session takes its place, closing is accepted and has no effect, and
  recording is refused. -/
theorem session_aggregates (s : Station) (name : String) (opened : Int64)
    (ops : List Operation) (kept : ∀ op ∈ ops, op.handled ≠ some name) :
    let st := (s.perform (.openSession name opened)).station
    let t := (st.run ops).1
    let session := t.session name
    (Keyed.Ascending session.entries ∧
      ∀ series, Keyed.get? series session.entries =
        settled (((st.written name ops).filter (·.series = series)).map Write.entry)) ∧
    (∀ source metric kind value dimensions,
      let w : Write :=
        ⟨source.getD s.sender.setup.options.defaultSource, metric, kind, value, dimensions⟩
      let r := t.perform (.write name source metric kind value dimensions)
      (w.draft.IsSound → r.answer = some (.ok ())) ∧
      (¬w.draft.IsSound → ∃ e, w.draft.build = .error e ∧ r = t.refuse (.invalidPoint e)) ∧
      ∀ dimensions', w.draft.IsSound → dimensions.Perm dimensions' →
        { w with dimensions := dimensions' }.draft.IsSound ∧
          { w with dimensions := dimensions' }.series = w.series) ∧
    ∀ now inRuntime,
      let r := t.perform (.closeSession name now inRuntime)
      ((∀ e ∈ session.entries, e.2.2.isFinite = true) →
        let points := session.entries.map (pointAt now)
        r.answer = t.sender.submission points inRuntime ∧
          (r.station.sender, r.events) = t.sender.submit points inRuntime) ∧
      ∀ later, (∀ op ∈ later, op.ended ≠ some name) →
        let u := (r.station.run later).1
        (∀ now' inRuntime', let r' := u.perform (.closeSession name now' inRuntime')
          r'.answer = some (.ok ()) ∧ r'.station.sender = u.sender ∧ r'.events = []) ∧
        ∀ op, (u.recording? name op).isSome → let r' := u.perform op
          r'.answer = some (.error .sessionClosed) ∧ r'.station.sender = u.sender ∧
            r'.events = [] ∧ r'.station.session name = u.session name := by
  intro st t session
  have isOpen : session.isClosed = false := isOpen_session s opened kept
  have sound : session.IsSound := isSound_session s opened kept
  have session_eq : session = (st.written name ops).foldl Session.after s.newSession :=
    session_eq_foldl s opened kept
  have source_eq : session.defaultSource = s.sender.setup.options.defaultSource := by
    rw [session_eq]
    exact (Session.foldl_after _ _).2
  refine ⟨⟨sound.ascending, fun series => ?_⟩, ?_, fun now inRuntime => ⟨?_, ?_⟩⟩
  · rw [session_eq]
    exact Session.get?_foldl_after rfl _ _
  · intro source metric kind value dimensions w r
    have cases := write_cases isOpen source metric kind value dimensions
    rw [source_eq] at cases
    refine ⟨fun hw => ?_, fun hw => ?_, fun dimensions' hw perm => ⟨?_, ?_⟩⟩
    · rcases cases with ⟨-, hr⟩ | ⟨hw', -⟩
      · rw [show r = _ from hr]
      · exact absurd hw hw'
    · rcases cases with ⟨hw', -⟩ | ⟨-, refused⟩
      · exact absurd hw' hw
      · exact refused
    · exact ⟨hw.named, hw.finite, hw.dimensioned.perm perm⟩
    · exact congrArg (Series.mk _ _) (Keyed.ofList_perm perm hw.dimensioned.nodup).symm
  · intro finite points
    rw [perform, closeSession_of_isFinite sound isOpen finite]
    exact ⟨rfl, rfl⟩
  · intro later ended u
    have closing := isClosed_closeSession t name now inRuntime
    have same : u.session name = (t.closeSession name now inRuntime).station.session name :=
      session_run_of_isClosed closing ended
    have closed : (u.session name).isClosed = true := by rwa [same]
    refine ⟨fun now' inRuntime' => ?_, fun op recorded => ?_⟩
    · rw [perform, closeSession_of_isClosed closed]
      exact ⟨rfl, rfl, rfl⟩
    · obtain ⟨answer, events, sender, same⟩ := perform_of_isClosed closed recorded
      exact ⟨answer, sender, events, same⟩

/-- A counter that is a gauge for a while, another one whose dimensions are listed in two orders,
a write without a name, and one to another session. -/
def sampleWrites : List Operation :=
  let hits (i : Int64) (dimensions : List (String × String)) : Operation :=
    .write "a" none "hits" .counter (.int i) dimensions
  [hits 1 [], .write "a" none "hits" .gauge (.int 9) [], hits 2 [("x", "1"), ("y", "2")],
    hits 3 [], hits 4 [], hits 5 [("y", "2"), ("x", "1")],
    .write "a" none "" .gauge (.int 0) [], .write "b" none "hits" .counter (.int 6) []]

theorem session_aggregates_sample :
    ∃ sender, Sender.sampleBuilder.build = .ok sender ∧
      (∀ op ∈ sampleWrites, op.handled ≠ some "a") ∧
      let st := ((Station.mk sender [] []).perform (.openSession "a" 0)).station
      let t := (st.run sampleWrites).1
      let dimensions := [("x", "1"), ("y", "2")]
      Keyed.get? ⟨"web-1", "hits", []⟩ (t.session "a").entries = some (.counter, .int 7) ∧
        Keyed.get? ⟨"web-1", "hits", dimensions⟩ (t.session "a").entries =
          some (.counter, .int 7) ∧
        Sender.acceptedPoints (t.perform (.closeSession "a" 5 false)).events =
          [⟨"hits", .counter, .int 7, some "web-1", [], 5⟩,
            ⟨"hits", .counter, .int 7, some "web-1", dimensions, 5⟩] := by
  have kept : ∀ op ∈ sampleWrites, op.handled ≠ some "a" := by
    simp [sampleWrites, Operation.handled]
  have held (sender : Sender) :=
    (session_aggregates (Station.mk sender [] []) "a" 0 sampleWrites kept).1.2
  exact ⟨_, rfl, kept, (held _ _).trans (by decide), (held _ _).trans (by decide), by decide⟩

end Station
end MetricRelay
