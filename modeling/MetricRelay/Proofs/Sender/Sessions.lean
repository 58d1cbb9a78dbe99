import MetricRelay.Proofs.Sender.Closing

/-!
# The sessions of a station

An operation opens, closes or drops one session (`Station.Operation.handled`), or it records
something in one, or it leaves the sessions alone.  So between its opening and its closing a
session has seen the recordings that were made in it and nothing else
(`Station.session_run`), and a closed session stays as it is until another one takes its place
(`Station.session_run_of_isClosed`).

A write to an open session is accepted or refused as a whole (`Station.write_cases`), and closing
an open session with finite values is one submission of its points
(`Station.closeSession_of_isFinite`).
-/

namespace MetricRelay
namespace Station

open Session (Recording)

/-! ### Operations and sessions -/

/-- The session that an operation opens, closes or drops. -/
def Operation.handled : Operation → Option String
  | .openSession name _ | .closeSession name _ _ | .dropSession name _ => some name
  | _ => none

/-- The session that an operation ends so that its name is free again. -/
def Operation.ended : Operation → Option String
  | .openSession name _ | .dropSession name _ => some name
  | _ => none

/-- What an operation records in a session, with the tracker as it is at that moment. -/
def recording? (s : Station) (name : String) : Operation → Option Recording
  | .write session source metric kind value dimensions =>
    if session = name then some (.single source metric kind value dimensions) else none
  | .distribution session tracker fresh metric snapshot dimensions =>
    if session = name then
      some (.distribution metric ((Keyed.get? tracker s.trackers).getD fresh) snapshot dimensions)
    else none
  | _ => none

/-- What operations record in a session, one after the other. -/
def recordings (s : Station) (name : String) : List Operation → List Recording
  | [] => []
  | op :: rest => (s.recording? name op).toList ++ (s.perform op).station.recordings name rest

/-- The answers to operations, one after the other. -/
def answers (s : Station) : List Operation → List (Option (Except SenderError Unit))
  | [] => []
  | op :: rest => (s.perform op).answer :: (s.perform op).station.answers rest

/-! ### Finding a session -/

variable (s : Station) (name : String)

theorem setup_perform (op : Operation) :
    (s.perform op).station.sender.setup = s.sender.setup := by
  obtain ⟨actions, ⟨hs, -⟩, -⟩ := s.shows_perform op
  rw [hs]
  exact Sender.run_induction (P := fun l _ => l.setup = s.sender.setup) (A := fun _ => True)
    (fun h _ step => step.setup_eq.trans h) s.sender [] rfl actions fun _ _ => trivial

theorem setup_run (ops : List Operation) : (s.run ops).1.sender.setup = s.sender.setup := by
  induction ops generalizing s with
  | nil => rfl
  | cons op rest ih => exact (ih (s.perform op).station).trans (s.setup_perform op)

/-- A new session looks the same as long as the sender does. -/
theorem newSession_congr {s t : Station} (h : t.sender.setup = s.sender.setup) :
    t.newSession = s.newSession := by
  rw [newSession, newSession, h]

theorem session_congr {s t : Station} (setup : t.sender.setup = s.sender.setup)
    (found : Keyed.get? name t.sessions = Keyed.get? name s.sessions) :
    t.session name = s.session name := by
  rw [session, session, found, newSession_congr setup]

theorem session_keep (other : String) (session : Session) :
    (s.keep other session).session name = if name = other then session else s.session name := by
  rw [Station.session, keep, Keyed.get?_put]
  split_ifs <;> rfl

theorem session_forget (other : String) :
    (s.forget other).session name = if name = other then s.newSession else s.session name := by
  rw [session, forget]
  dsimp only
  rw [Keyed.get?_filter (· != other)]
  split_ifs <;> simp_all [session] <;> rfl

/-! ### What operations do to a session -/

/-- An offer of points concerns the sender only. -/
theorem session_offer (points : List Point) (inRuntime : Bool) :
    (s.offer points inRuntime).station.session name = s.session name := by
  refine session_congr name ?_ rfl
  exact (s.sender.step_ledger (.submit points inRuntime)).setup_eq

/-- Closing takes the session's points to the sender, and the rest of the station stays. -/
theorem station_closeSession (other : String) (now : Int64) (inRuntime : Bool) :
    ∃ sender : Sender, sender.setup = s.sender.setup ∧
      (s.closeSession other now inRuntime).station =
        { s.keep other ((s.session other).close now).1 with sender } := by
  refine ⟨_, s.setup_perform (.closeSession other now inRuntime), ?_⟩
  simp only [perform, closeSession]
  rcases (s.session other).close now with ⟨session, e | points⟩ <;> rfl

theorem session_closeSession (other : String) (now : Int64) (inRuntime : Bool) :
    (s.closeSession other now inRuntime).station.session name =
      if name = other then ((s.session name).close now).1 else s.session name := by
  obtain ⟨sender, setup, station_eq⟩ := s.station_closeSession other now inRuntime
  have kept : (s.closeSession other now inRuntime).station.session name =
      (s.keep other ((s.session other).close now).1).session name := by
    rw [station_eq]
    exact session_congr name setup rfl
  rw [kept, session_keep]
  split_ifs with h
  · rw [h]
  · rfl

theorem session_dropSession (other : String) (now : Int64) :
    (s.dropSession other now).station.session name =
      if name = other then s.newSession else s.session name := by
  rw [dropSession]
  dsimp only
  rw [session_forget, session_closeSession]
  split_ifs
  · exact newSession_congr (s.setup_perform (.closeSession other now false))
  · rfl

theorem session_openSession (other : String) (now : Int64) :
    (s.openSession other now).station.session name =
      if name = other then s.newSession else s.session name := by
  rw [openSession]
  dsimp only
  rw [session_keep, session_dropSession]
  split_ifs <;> rfl

theorem session_write (other : String) (source : Option String) (metric : String) (kind : Kind)
    (value : Value) (dimensions : List (String × String)) :
    (s.write other source metric kind value dimensions).station.session name =
      if name = other then
        ((s.session name).record (.single source metric kind value dimensions)).1
      else s.session name := by
  unfold write Session.record
  dsimp only
  cases hp : (s.session other).put (source.getD (s.session other).defaultSource) metric kind value
    dimensions with
  | error e =>
    split_ifs with h
    · rw [h, hp]
      rfl
    · rfl
  | ok session =>
    refine (session_keep s name other session).trans ?_
    split_ifs with h
    · rw [h, hp]
    · rfl

theorem session_distribution (other tracker : String) (fresh : Tracker) (metric : String)
    (snapshot : Snapshot) (dimensions : List (String × String)) :
    (s.distribution other tracker fresh metric snapshot dimensions).station.session name =
      if name = other then
        ((s.session name).record (.distribution metric
          ((Keyed.get? tracker s.trackers).getD fresh) snapshot dimensions)).1
      else s.session name := by
  refine (session_keep s name other _).trans ?_
  by_cases h : name = other
  · rw [if_pos h, if_pos h, h]
    rfl
  · rw [if_neg h, if_neg h]

variable {s name}

/-- An operation that does not handle a session does to it what it records there. -/
theorem session_perform {op : Operation} (kept : op.handled ≠ some name) :
    (s.perform op).station.session name =
      (s.session name).recordAll (s.recording? name op).toList := by
  cases op with
  | record draft inRuntime =>
    simp only [perform, record]
    split
    · rfl
    · exact session_offer s name _ _
  | openSession other now =>
    exact (session_openSession s name other now).trans (if_neg fun h => kept (congrArg some h.symm))
  | write other source metric kind value dimensions =>
    rw [perform, session_write, recording?]
    by_cases h : name = other
    · rw [if_pos h, if_pos h.symm]
      rfl
    · rw [if_neg h, if_neg (Ne.symm h)]
      rfl
  | distribution other tracker fresh metric snapshot dimensions =>
    rw [perform, session_distribution, recording?]
    by_cases h : name = other
    · rw [if_pos h, if_pos h.symm]
      rfl
    · rw [if_neg h, if_neg (Ne.symm h)]
      rfl
  | closeSession other now inRuntime =>
    exact (session_closeSession s name other now inRuntime).trans
      (if_neg fun h => kept (congrArg some h.symm))
  | dropSession other now =>
    exact (session_dropSession s name other now).trans (if_neg fun h => kept (congrArg some h.symm))
  | move m => exact session_congr name (s.setup_perform (.move m)) rfl

/-- **Between its opening and its closing a session sees what is recorded in it.** -/
theorem session_run (s : Station) {ops : List Operation}
    (kept : ∀ op ∈ ops, op.handled ≠ some name) :
    (s.run ops).1.session name = (s.session name).recordAll (s.recordings name ops) := by
  induction ops generalizing s with
  | nil => rfl
  | cons op rest ih =>
    rw [recordings, Session.recordAll_append, ← session_perform (kept op List.mem_cons_self)]
    exact ih _ fun op' h' => kept op' (List.mem_cons_of_mem op h')

/-- A write is accepted if it makes a point, and otherwise nothing comes of it. -/
theorem write_cases {s : Station} {name : String} (isOpen : (s.session name).isClosed = false)
    (source : Option String) (metric : String) (kind : Kind) (value : Value)
    (dimensions : List (String × String)) :
    let w : Session.Write :=
      ⟨source.getD (s.session name).defaultSource, metric, kind, value, dimensions⟩
    let r := s.perform (.write name source metric kind value dimensions)
    (w.draft.IsSound ∧ r = { station := s.keep name ((s.session name).after w) }) ∨
      (¬w.draft.IsSound ∧ ∃ e, w.draft.build = .error e ∧ r = s.refuse (.invalidPoint e)) := by
  intro w r
  by_cases sound : w.draft.IsSound
  · have put_eq : (s.session name).put (source.getD (s.session name).defaultSource) metric kind
      value dimensions = .ok ((s.session name).after w) := Session.put_of_isSound isOpen sound
    refine .inl ⟨sound, ?_⟩
    simp only [r, perform, write, put_eq]
  · obtain ⟨e, built, put_eq⟩ := Session.put_of_not_isSound isOpen sound
    have put_eq : (s.session name).put (source.getD (s.session name).defaultSource) metric kind
      value dimensions = .error (.invalidPoint e) := put_eq
    refine .inr ⟨sound, e, built, ?_⟩
    simp only [r, perform, write, put_eq]

/-! ### Closing and closed sessions -/

/-- Closing a session whose values are all finite offers its points to the sender. -/
theorem closeSession_of_isFinite {s : Station} {name : String}
    (sound : (s.session name).IsSound) (isOpen : (s.session name).isClosed = false)
    (finite : ∀ e ∈ (s.session name).entries, e.2.2.isFinite = true) (now : Int64)
    (inRuntime : Bool) :
    s.closeSession name now inRuntime =
      (s.keep name (s.session name).closed).offer
        ((s.session name).entries.map (Session.pointAt now)) inRuntime := by
  rw [closeSession, Session.close_of_isFinite sound isOpen finite]

theorem isClosed_closeSession (s : Station) (name : String) (now : Int64) (inRuntime : Bool) :
    ((s.closeSession name now inRuntime).station.session name).isClosed = true := by
  rw [session_closeSession, if_pos rfl, Session.close]
  split_ifs with h
  · exact h
  · rfl

/-- Only another session of the same name takes the place of a closed one. -/
theorem session_perform_of_isClosed {op : Operation} (closed : (s.session name).isClosed = true)
    (kept : op.ended ≠ some name) : (s.perform op).station.session name = s.session name := by
  by_cases handled : op.handled = some name
  · cases op with
    | closeSession other now inRuntime =>
      refine (session_closeSession s name other now inRuntime).trans ?_
      rw [Session.close_of_isClosed closed, ite_self]
    | _ => exact absurd handled kept
  · rw [session_perform handled, Session.recordAll_of_isClosed closed]

theorem session_run_of_isClosed {s : Station} (closed : (s.session name).isClosed = true)
    {ops : List Operation} (kept : ∀ op ∈ ops, op.ended ≠ some name) :
    (s.run ops).1.session name = s.session name := by
  induction ops generalizing s with
  | nil => rfl
  | cons op rest ih =>
    have same := session_perform_of_isClosed closed (kept op List.mem_cons_self)
    refine Eq.trans ?_ same
    exact ih (by rwa [same]) fun op' h' => kept op' (List.mem_cons_of_mem op h')

/-- Closing a closed session is accepted, and nothing comes of it. -/
theorem closeSession_of_isClosed (closed : (s.session name).isClosed = true) (now : Int64)
    (inRuntime : Bool) :
    s.closeSession name now inRuntime = { station := s.keep name (s.session name) } := by
  rw [closeSession, Session.close_of_isClosed closed]
  rfl

/-- A closed session refuses whatever is recorded in it. -/
theorem perform_of_isClosed {op : Operation} (closed : (s.session name).isClosed = true)
    (recorded : (s.recording? name op).isSome) :
    let r := s.perform op
    r.answer = some (.error .sessionClosed) ∧ r.events = [] ∧ r.station.sender = s.sender ∧
      r.station.session name = s.session name := by
  cases op with
  | write other source metric kind value dimensions =>
    obtain rfl : other = name := by
      by_contra h
      simp [recording?, h] at recorded
    have refused : s.perform (.write other source metric kind value dimensions) =
        s.refuse .sessionClosed := by
      rw [perform, write, Session.put_of_isClosed closed]
    rw [refused]
    exact ⟨rfl, rfl, rfl, rfl⟩
  | distribution other tracker fresh metric snapshot dimensions =>
    obtain rfl : other = name := by
      by_contra h
      simp [recording?, h] at recorded
    refine ⟨?_, rfl, rfl, session_perform_of_isClosed closed ?_⟩
    · rw [perform, distribution, Session.recordDistribution_of_isClosed closed]
    · intro ended
      cases ended
  | _ => cases recorded

end Station
end MetricRelay
