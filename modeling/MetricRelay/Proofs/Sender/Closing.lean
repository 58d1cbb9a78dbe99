import MetricRelay.Proofs.Sender.Dispatch
import MetricRelay.Proofs.Sender.Recording
import MetricRelay.Proofs.Traversal

/-!
# Closing a session

Every series of a session was given to a draft that made a point, and it makes one again when
the session is closed, at least if its value is finite by then (`Session.pointOf_eq_ok`).  So
closing gives all points of the session if all values are finite (`Session.close_of_isFinite`),
and none if one of them is not (`Session.close_of_not_isFinite`).

What a station does with the points is what its sender does with one submission
(`Sender.submit_cases`).
-/

namespace MetricRelay

namespace Session

/-- The point of an entry, at a time. -/
def pointAt (now : Int64) (e : Series × Kind × Value) : Point :=
  ⟨e.1.name, e.2.1, e.2.2, some e.1.source, e.1.dimensions, now⟩

/-- What writes and closing keep: the series stand in order, each of them makes a point, and
nothing is left when the session is closed. -/
structure IsSound (s : Session) : Prop where
  ascending : Keyed.Ascending s.entries
  valid : ∀ e ∈ s.entries, ∀ now, (pointAt now e).IsValid
  emptied : s.isClosed = true → s.entries = []

theorem isSound_of_empty {s : Session} (empty : s.entries = []) : s.IsSound where
  ascending := empty ▸ List.Pairwise.nil
  valid e he := by rw [empty] at he; cases he
  emptied _ := empty

/-- The series of a sound write makes points of any kind and value. -/
theorem Write.isValid_pointAt {w : Write} (sound : w.draft.IsSound) (kind : Kind) (value : Value)
    (now : Int64) : (pointAt now (w.series, kind, value)).IsValid := by
  obtain ⟨named, ascending, keyed⟩ := Point.isValid_of_build sound.build
  exact ⟨named, ascending, keyed⟩

theorem IsSound.after {s : Session} (h : s.IsSound) (isOpen : s.isClosed = false) {w : Write}
    (sound : w.draft.IsSound) : (s.after w).IsSound where
  ascending := h.ascending.put _ _
  valid e he now := by
    rcases Keyed.mem_put he with rfl | he
    · exact Write.isValid_pointAt sound _ _ now
    · exact h.valid e he now
  emptied closed := by
    rw [isClosed_after, isOpen] at closed
    cases closed

theorem IsSound.foldl_after {s : Session} (h : s.IsSound) (isOpen : s.isClosed = false)
    {ws : List Write} (sound : ∀ w ∈ ws, w.draft.IsSound) :
    (ws.foldl Session.after s).IsSound := by
  induction ws generalizing s with
  | nil => exact h
  | cons w ws ih =>
    exact ih (h.after isOpen (sound w List.mem_cons_self)) isOpen fun w' hw' =>
      sound w' (List.mem_cons_of_mem w hw')

/-- Whatever is recorded, a session stays sound. -/
theorem IsSound.record {s : Session} (h : s.IsSound) (r : Recording) : (s.record r).1.IsSound := by
  cases isOpen : s.isClosed with
  | true => rwa [record_of_isClosed isOpen]
  | false =>
    rw [record_fst isOpen]
    exact h.foldl_after isOpen fun w hw => Recording.isSound_of_mem hw

/-! ### The points of a session -/

/-- The session with nothing in it and nothing to come. -/
def closed (s : Session) : Session := { s with entries := [], isClosed := true }

theorem close_of_isClosed {s : Session} (closed : s.isClosed = true) (now : Int64) :
    s.close now = (s, .ok []) :=
  if_pos closed

section Closing

variable {s : Session} (h : s.IsSound)
include h

/-- Nothing is left of what a session held. -/
theorem entries_close (now : Int64) : (s.close now).1.entries = [] := by
  rw [close]
  split_ifs with closed
  · exact h.emptied closed
  · rfl

theorem pointOf_eq_ok {e : Series × Kind × Value} (he : e ∈ s.entries)
    (finite : e.2.2.isFinite = true) (now : Int64) : pointOf now e = .ok (pointAt now e) :=
  (h.valid e he now).build_draft (.inl finite)

theorem pointOf_eq_error {e : Series × Kind × Value} (he : e ∈ s.entries)
    (infinite : e.2.2.isFinite = false) (now : Int64) :
    pointOf now e = .error (.nonFiniteValue e.1.name) := by
  have named : e.1.name.isEmpty = false := (h.valid e he now).named
  simp [pointOf, Point.Draft.build, named, infinite]

theorem mapM_pointOf_of_isFinite (finite : ∀ e ∈ s.entries, e.2.2.isFinite = true) (now : Int64) :
    s.entries.mapM (pointOf now) = .ok (s.entries.map (pointAt now)) := by
  have read : ∀ e ∈ s.entries, pointOf now (id e) = pure (pointAt now e) :=
    fun e he => pointOf_eq_ok h he (finite e he) now
  have := mapM_map_eq_pure_map read
  rwa [List.map_id] at this

/-- The fault that is found is a value that is not finite. -/
theorem mapM_pointOf_of_not_isFinite (infinite : ∃ e ∈ s.entries, e.2.2.isFinite = false)
    (now : Int64) :
    ∃ e ∈ s.entries, e.2.2.isFinite = false ∧
      s.entries.mapM (pointOf now) = .error (.nonFiniteValue e.1.name) := by
  obtain ⟨e, he, infinite⟩ := infinite
  obtain ⟨e', he', fault, found, eq⟩ :=
    exists_mapM_eq_error ⟨e, he, _, pointOf_eq_error h he infinite now⟩
  have infinite' : e'.2.2.isFinite = false := by
    by_contra finite
    rw [pointOf_eq_ok h he' (by simpa using finite)] at found
    cases found
  rw [pointOf_eq_error h he' infinite'] at found
  cases found
  exact ⟨e', he', infinite', eq⟩

/-- A session that gives its points if all values are finite. -/
theorem close_of_isFinite (isOpen : s.isClosed = false)
    (finite : ∀ e ∈ s.entries, e.2.2.isFinite = true) (now : Int64) :
    s.close now = (s.closed, .ok (s.entries.map (pointAt now))) := by
  rw [close, if_neg (by simp [isOpen]), mapM_pointOf_of_isFinite h finite]
  rfl

/-- One value that is not finite is enough for no points at all. -/
theorem close_of_not_isFinite (isOpen : s.isClosed = false)
    (infinite : ∃ e ∈ s.entries, e.2.2.isFinite = false) (now : Int64) :
    ∃ e ∈ s.entries, e.2.2.isFinite = false ∧
      s.close now = (s.closed, .error (.invalidPoint (.nonFiniteValue e.1.name))) := by
  obtain ⟨e, he, infinite, eq⟩ := mapM_pointOf_of_not_isFinite h infinite now
  refine ⟨e, he, infinite, ?_⟩
  rw [close, if_neg (by simp [isOpen]), eq]
  rfl

end Closing

end Session

namespace Sender

/-- **What a sender makes of points.**  They are all accepted and counted, or they are all refused
and counted, or the caller has to wait. -/
theorem submit_cases (s : Sender) (points : List Point) (inRuntime : Bool) :
    let r := s.submit points inRuntime
    match s.submission points inRuntime with
    | some (.ok ()) =>
      r.1.stats = s.stats.accept points.length ∧
        r.1.buffer.contents = s.buffer.contents ++ points ∧ acceptedPoints r.2 = points
    | some (.error e) =>
      (e = .stopped ∨ ∃ cause, e = .enqueue points.length cause) ∧
        r = ({ s with stats := s.stats.reject points.length }, [])
    | none => s.buffer.enqueueAll points inRuntime = .waiting ∧ r = (s, []) := by
  unfold submission submit
  by_cases empty : points.isEmpty = true
  · obtain rfl := List.isEmpty_iff.1 empty
    exact ⟨rfl, (List.append_nil _).symm, rfl⟩
  · simp only [if_neg empty]
    by_cases stopped : s.lifecycle = .stopped
    · rw [if_pos stopped]
      exact ⟨.inl rfl, if_pos stopped⟩
    · simp only [if_neg stopped]
      cases hb : s.buffer.enqueueAll points inRuntime with
      | accepted buffer =>
        exact ⟨rfl, Buffer.contents_of_enqueueAll hb, by simp [acceptedPoints]⟩
      | refused e => exact ⟨.inr ⟨e, rfl⟩, rfl⟩
      | waiting => exact ⟨rfl, rfl⟩

/-- Only points that are offered are accepted. -/
theorem mem_of_mem_acceptedPoints_submit {s : Sender} {points : List Point} {inRuntime : Bool}
    {p : Point} (hp : p ∈ acceptedPoints (s.submit points inRuntime).2) : p ∈ points := by
  have cases := s.submit_cases points inRuntime
  generalize s.submission points inRuntime = answer at cases
  rcases answer with _ | e | ok
  · rw [cases.2] at hp
    cases hp
  · rw [cases.2] at hp
    cases hp
  · rwa [cases.2.2] at hp

end Sender
end MetricRelay
