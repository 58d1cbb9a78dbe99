import Mathlib.Logic.Relation
import MetricRelay.Proofs.Sender.Run
import MetricRelay.Sender.Rehearsal

/-!
# A rehearsal is a run

A rehearsal touches its station through `Rehearsal.perform` only.  So each of its functions leads to
the station and the events of a run of some operations (`Rehearsal.Follows`), and the sender of a
rehearsal is one after operations on the sender that it began with
(`Rehearsal.exists_after`).  What holds after all operations holds of rehearsals.
-/

namespace MetricRelay
namespace Rehearsal

variable {r r' r'' : Rehearsal}

/-- The second rehearsal comes from the first one by a run of its station. -/
def Follows (r r' : Rehearsal) : Prop :=
  ∃ ops, r'.station = (r.station.run ops).1 ∧ r'.events = r.events ++ (r.station.run ops).2

theorem Follows.refl (r : Rehearsal) : r.Follows r := ⟨[], rfl, (List.append_nil _).symm⟩

theorem Follows.trans (first : r.Follows r') (second : r'.Follows r'') : r.Follows r'' := by
  obtain ⟨ops, station_eq, events_eq⟩ := first
  obtain ⟨more, station_eq', events_eq'⟩ := second
  refine ⟨ops ++ more, ?_, ?_⟩
  · rw [station_eq', station_eq, Station.run_append]
  · rw [events_eq', events_eq, station_eq, Station.run_append, List.append_assoc]

theorem follows_perform (r : Rehearsal) (op : Station.Operation) :
    r.Follows (r.perform op).2 :=
  ⟨[op], rfl, by simp [perform, Station.run]⟩

theorem follows_move (r : Rehearsal) (m : Sender.Move) : r.Follows (r.move m) :=
  r.follows_perform (.move m)

/-! ### The worker -/

theorem follows_react (r : Rehearsal) : r.Follows r.react := by
  unfold react
  split
  · exact r.follows_move _
  · exact follows_move { r with script := _ } _
  · exact .refl r
  · exact follows_move { r with script := _ } _

theorem follows_finishFlight (limit : Option Nat) (fuel elapsed : Nat) (r : Rehearsal) :
    r.Follows (finishFlight limit fuel elapsed r).1 := by
  induction fuel generalizing elapsed r with
  | zero => exact .refl r
  | succ fuel ih =>
    unfold finishFlight
    split
    · exact .refl r
    · split
      · dsimp only
        split
        · exact (r.follows_move _).trans (ih _ _)
        · exact .refl r
      · split
        · exact .refl r
        · exact r.follows_react.trans (ih _ _)

theorem follows_nextBatch (r : Rehearsal) : r.Follows r.nextBatch := by
  have moved := r.follows_move (.next (r.sender.setup.tokens r.batches))
  unfold nextBatch
  dsimp only
  split <;> exact moved

theorem follows_work (limit : Option Nat) (fuel elapsed : Nat) (r : Rehearsal) :
    r.Follows (work limit fuel elapsed r) := by
  induction fuel generalizing elapsed r with
  | zero => exact .refl r
  | succ fuel ih =>
    have finished := follows_finishFlight limit (2 * Client.countable) elapsed r
    unfold work
    split
    · rename_i r' h
      rw [h] at finished
      exact finished.trans (r'.follows_move _)
    · rename_i r' elapsed' h
      rw [h] at finished
      refine finished.trans ?_
      split
      · exact (r'.follows_move _).trans (ih _ _)
      · exact .refl r'
      · exact r'.follows_nextBatch.trans (ih _ _)
      · exact .refl r'

/-! ### Calls -/

theorem follows_call (r : Rehearsal) (op : Station.Operation) : r.Follows (r.call op).2 :=
  (r.follows_perform op).trans (follows_move _ _)

theorem follows_flushNow (r : Rehearsal) : r.Follows r.flushNow :=
  ((r.follows_move _).trans (follows_move _ _)).trans (follows_work _ _ _ _)

theorem follows_stop (r : Rehearsal) (timeout : Duration) : r.Follows (r.stop timeout) :=
  (r.follows_move _).trans (follows_work _ _ _ _)

theorem follows_finish (r : Rehearsal) (now : Int64) : r.Follows (r.finish now) := by
  refine .trans ?_ (follows_stop _ _)
  generalize r.station.sessions.map (·.1) = sessions
  induction sessions generalizing r with
  | nil => exact .refl r
  | cons session rest ih => exact (r.follows_call _).trans (ih _)

/-- A call leads from one rehearsal to the next. -/
inductive Leads (r : Rehearsal) : Rehearsal → Prop
  | call (op : Station.Operation) : Leads r (r.call op).2
  | flushNow : Leads r r.flushNow
  | stop (timeout : Duration) : Leads r (r.stop timeout)
  | finish (now : Int64) : Leads r (r.finish now)

theorem Leads.follows (h : r.Leads r') : r.Follows r' := by
  cases h with
  | call op => exact r.follows_call op
  | flushNow => exact r.follows_flushNow
  | stop timeout => exact r.follows_stop timeout
  | finish now => exact r.follows_finish now

/-- **Every rehearsal is a run.**  Whatever calls a rehearsal consists of, its sender and its events
are those after some operations. -/
theorem exists_after {sender : Sender} {script : List Reaction}
    (h : Relation.ReflTransGen Leads { station := { sender }, script } r) :
    ∃ ops, r.sender = sender.after ops ∧ r.events = sender.history ops := by
  have follows : Follows { station := { sender }, script } r := by
    induction h with
    | refl => exact .refl _
    | tail _ last ih => exact ih.trans last.follows
  obtain ⟨ops, station_eq, events_eq⟩ := follows
  exact ⟨ops, congrArg Station.sender station_eq, events_eq.trans (List.nil_append _)⟩

end Rehearsal
end MetricRelay
