import MetricRelay.Codec.Format
import MetricRelay.Delivery.Client
import MetricRelay.Diagnostic
import MetricRelay.ErrorChain
import MetricRelay.Sender.Token

/-!
# Reports of points that were not sent

Points that a sender gives up are reported to every handler, with the number of points and the
cause.  A `Handler` may do with reports what it wants.  Two handlers come with the library: one
that writes the report down (`Report.note`) and one that counts (`Tally`).
-/

namespace MetricRelay

/-- At what stage points were given up. -/
inductive ReportKind where
  | authToken
  | encode
  | datapointSend
  | shutdownDataLoss
deriving DecidableEq, Repr

namespace ReportKind

def text : ReportKind → String
  | .authToken => "auth_token"
  | .encode => "encode"
  | .datapointSend => "datapoint_send"
  | .shutdownDataLoss => "shutdown_data_loss"

def all : List ReportKind := [.authToken, .encode, .datapointSend, .shutdownDataLoss]

end ReportKind

/-- A report of points that were given up. -/
structure Report where
  kind : ReportKind
  message : String
  points : Nat
  cause : Option ErrorChain := none
deriving DecidableEq, Repr

namespace Report

/-- The whole report in one line. -/
def text (r : Report) : String :=
  s!"{r.message} ({r.points} point(s), kind: {r.kind.text})" ++
    match r.cause with
    | none => ""
    | some cause => ": " ++ cause.fullText

/-- The report as a record; the loss of points at the end is a warning. -/
def note (r : Report) : Diagnostic :=
  match r.kind with
  | .shutdownDataLoss => ⟨.warn, r.text, [("points", toString r.points)]⟩
  | kind => ⟨.error, r.text, [("kind", kind.text), ("points", toString r.points)]⟩

/-- There was no token for a batch. -/
def ofToken (e : NoToken) (points : Nat) : Report :=
  ⟨.authToken, e.message, points, some { root := e.message }⟩

/-- A batch could not be encoded. -/
def ofEncode (e : EncodeError) (points : Nat) : Report :=
  ⟨.encode, "Failed to encode batch.", points, some { root := e.message }⟩

/-- A batch could not be delivered. -/
def ofDelivery (e : DeliveryError) (points : Nat) : Report :=
  let chain : ErrorChain := match e.cause? with
    | none => { root := e.message }
    | some cause => { contexts := [e.message], root := cause }
  ⟨.datapointSend, e.message, points, some chain⟩

/-- Points were left when the time for stopping was up. -/
def ofDeadline (points : Nat) : Report :=
  { kind := .shutdownDataLoss
    message := "Points were not sent before the shutdown deadline.", points }

/-- Points were left by a worker that broke down. -/
def ofBreakdown (points : Nat) : Report :=
  { kind := .shutdownDataLoss, message := "Sender stopped before points were sent.", points }

end Report

/-! ### Handlers -/

/-- Somebody who is told of reports: what it has made of them so far, and what it makes of one
more. -/
structure Handler where
  State : Type
  state : State
  handle : State → Report → State

namespace Handler

/-- The handler after it was told of a report. -/
def told (h : Handler) (r : Report) : Handler := { h with state := h.handle h.state r }

/-- A report goes to one handler after the other. -/
def tellAll (hs : List Handler) (r : Report) : List Handler := hs.map (·.told r)

end Handler

/-- Counts of reports.  They have no greatest number, where counters of 64 bits would start again
from zero. -/
structure Tally where
  total : Nat := 0
  authToken : Nat := 0
  encode : Nat := 0
  datapointSend : Nat := 0
  shutdownDataLoss : Nat := 0
deriving DecidableEq, Repr

namespace Tally

/-- The count of a kind. -/
def count (t : Tally) : ReportKind → Nat
  | .authToken => t.authToken
  | .encode => t.encode
  | .datapointSend => t.datapointSend
  | .shutdownDataLoss => t.shutdownDataLoss

/-- The tally after one more report. -/
def add (t : Tally) (r : Report) : Tally :=
  let t := { t with total := t.total + 1 }
  match r.kind with
  | .authToken => { t with authToken := t.authToken + 1 }
  | .encode => { t with encode := t.encode + 1 }
  | .datapointSend => { t with datapointSend := t.datapointSend + 1 }
  | .shutdownDataLoss => { t with shutdownDataLoss := t.shutdownDataLoss + 1 }

/-- The tally of a list of reports. -/
def ofReports (rs : List Report) : Tally := rs.foldl add {}

/-- The handler that counts. -/
def handler : Handler := ⟨Tally, {}, add⟩

end Tally

end MetricRelay
