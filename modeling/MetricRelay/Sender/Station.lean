import MetricRelay.Sender.Session
import MetricRelay.Sender.Step

/-!
# A sender with its sessions

A station is a sender together with the sessions that are open on it and the trackers of the
histograms that are recorded in them.  `Station.perform` carries out one `Operation`: a point is
recorded, a session is opened, written to or closed, or the sender makes a move of its own.

Points reach the sender one at a time or through a session that is closed; both ways end in one
submission (`Station.offer`).  A point that is not valid is refused before the sender sees it,
and no value that is not finite is valid here.
-/

namespace MetricRelay

/-- A sender with its sessions and trackers, under the names that the caller gave them. -/
structure Station where
  sender : Sender
  sessions : List (String × Session) := []
  trackers : List (String × Tracker) := []

namespace Station

/-- What callers and the world do to a station. -/
inductive Operation where
  | record (draft : Point.Draft) (inRuntime : Bool)
  /-- Opens a session in place of the one that had the name. -/
  | openSession (session : String) (now : Int64)
  /-- Writes a value, for the default source if no source is given. -/
  | write (session : String) (source : Option String) (name : String) (kind : Kind)
      (value : Value) (dimensions : List (String × String))
  /-- Records a snapshot through a tracker, which starts as `fresh` when it is first used. -/
  | distribution (session tracker : String) (fresh : Tracker) (name : String)
      (snapshot : Snapshot) (dimensions : List (String × String))
  | closeSession (session : String) (now : Int64) (inRuntime : Bool)
  /-- Closes a session and forgets it, whatever comes of it. -/
  | dropSession (session : String) (now : Int64)
  | move (m : Sender.Move)

/-- What an operation comes to: its answer, which is missing while the caller has to wait or if the
call does not return, the station after it, and the events. -/
structure Reply where
  answer : Option (Except SenderError Unit) := some (.ok ())
  station : Station
  events : List Sender.Event := []

/-- The operation was refused and has changed nothing. -/
def refuse (s : Station) (e : SenderError) : Reply := { answer := some (.error e), station := s }

/-- Submits points to the sender. -/
def offer (s : Station) (points : List Point) (inRuntime : Bool) : Reply :=
  let (sender, events) := s.sender.submit points inRuntime
  ⟨s.sender.submission points inRuntime, { s with sender }, events⟩

/-- The point that a draft makes with the default source. -/
def pointOf (s : Station) (d : Point.Draft) : Except PointError Point :=
  { d with source := some s.sender.setup.options.defaultSource, allowsNonFinite := false }.build

def record (s : Station) (d : Point.Draft) (inRuntime : Bool) : Reply :=
  match s.pointOf d with
  | .error e => s.refuse (.invalidPoint e)
  | .ok point => s.offer [point] inRuntime

/-- An empty session for the sender. -/
def newSession (s : Station) : Session :=
  { defaultSource := s.sender.setup.options.defaultSource }

def session (s : Station) (name : String) : Session :=
  (Keyed.get? name s.sessions).getD s.newSession

def keep (s : Station) (name : String) (session : Session) : Station :=
  { s with sessions := Keyed.put name session s.sessions }

def closeSession (s : Station) (name : String) (now : Int64) (inRuntime : Bool) : Reply :=
  let (session, points) := (s.session name).close now
  let closed := s.keep name session
  match points with
  | .error e => closed.refuse e
  | .ok points => closed.offer points inRuntime

/-- The station without a session. -/
def forget (s : Station) (name : String) : Station :=
  { s with sessions := s.sessions.filter (·.1 != name) }

def dropSession (s : Station) (name : String) (now : Int64) : Reply :=
  let r := s.closeSession name now false
  { answer := some (.ok ()), station := r.station.forget name, events := r.events }

def openSession (s : Station) (name : String) (now : Int64) : Reply :=
  let r := s.dropSession name now
  { r with station := r.station.keep name s.newSession }

def write (s : Station) (name : String) (source : Option String) (metric : String) (kind : Kind)
    (value : Value) (dimensions : List (String × String)) : Reply :=
  let session := s.session name
  match session.put (source.getD session.defaultSource) metric kind value dimensions with
  | .error e => s.refuse e
  | .ok session => { station := s.keep name session }

def distribution (s : Station) (name tracker : String) (fresh : Tracker) (metric : String)
    (snapshot : Snapshot) (dimensions : List (String × String)) : Reply :=
  let current := (Keyed.get? tracker s.trackers).getD fresh
  let (session, next, _, answer) :=
    (s.session name).recordDistribution metric current snapshot dimensions
  { answer := some answer
    station := { s.keep name session with trackers := Keyed.put tracker next s.trackers } }

/-- The sender makes a move.  Only a request to start can be refused. -/
def move (s : Station) (m : Sender.Move) : Reply :=
  let (sender, events) := s.sender.move m
  let answer := match m with
    | .start thread => s.sender.startable thread
    | _ => some (.ok ())
  ⟨answer, { s with sender }, events⟩

/-- Carries out an operation. -/
def perform (s : Station) : Operation → Reply
  | .record draft inRuntime => s.record draft inRuntime
  | .openSession session now => s.openSession session now
  | .write session source name kind value dimensions =>
    s.write session source name kind value dimensions
  | .distribution session tracker fresh name snapshot dimensions =>
    s.distribution session tracker fresh name snapshot dimensions
  | .closeSession session now inRuntime => s.closeSession session now inRuntime
  | .dropSession session now => s.dropSession session now
  | .move m => s.move m

/-- The station after a sequence of operations, and all events. -/
def run (s : Station) : List Operation → Station × List Sender.Event
  | [] => (s, [])
  | op :: rest =>
    let r := s.perform op
    let (s, more) := r.station.run rest
    (s, r.events ++ more)

end Station

end MetricRelay
