import Mathlib.Data.List.DropRight
import MetricRelay.Proofs.Metric.Draft
import MetricRelay.Sender.Session

/-!
# Recordings in a session

Whatever is recorded in a session comes down to writes of single values, each of them to one
series.  A write succeeds if it makes a point, and a recording of several values goes on up to
the first write that does not succeed (`Session.record_fst`).

What a session holds of a series depends on the successful writes to this series alone
(`Session.get?_foldl_after`): `Session.settled` says what they come to.
-/

namespace MetricRelay

/-! ### The order of series -/

/-- How dimensions are ordered: by key, then by value. -/
abbrev compareDimension (d e : String × String) : Ordering :=
  (compare d.1 e.1).then (compare d.2 e.2)

instance : Std.TransCmp compareDimension :=
  inferInstanceAs (Std.TransCmp (compareLex (compareOn Prod.fst) (compareOn Prod.snd)))

instance : Std.LawfulEqCmp compareDimension where
  eq_of_compare h := by
    obtain ⟨hk, hv⟩ := Ordering.then_eq_eq.1 h
    exact Prod.ext (Std.LawfulEqCmp.eq_of_compare hk) (Std.LawfulEqCmp.eq_of_compare hv)

namespace Series

/-- How series are ordered by their dimensions alone. -/
abbrev compareDimensions (a b : Series) : Ordering :=
  List.compareLex compareDimension a.dimensions b.dimensions

instance : Std.TransCmp compareDimensions where
  eq_swap {a b} := @Std.OrientedCmp.eq_swap _ (List.compareLex compareDimension) _
    a.dimensions b.dimensions
  isLE_trans {a b c} := @Std.TransCmp.isLE_trans _ (List.compareLex compareDimension) _
    a.dimensions b.dimensions c.dimensions

instance : Std.TransOrd Series :=
  inferInstanceAs (Std.TransCmp
    (compareLex (compareLex (compareOn Series.source) (compareOn Series.name)) compareDimensions))

instance : Std.LawfulEqOrd Series where
  eq_of_compare {a b} h := by
    obtain ⟨h, hd⟩ := Ordering.then_eq_eq.1 h
    obtain ⟨hs, hn⟩ := Ordering.then_eq_eq.1 h
    have hs : a.source = b.source := Std.LawfulEqCmp.eq_of_compare hs
    have hn : a.name = b.name := Std.LawfulEqCmp.eq_of_compare hn
    have hd : a.dimensions = b.dimensions :=
      @Std.LawfulEqCmp.eq_of_compare _ (List.compareLex compareDimension) _ _ _ hd
    cases a
    cases b
    simp_all only

end Series

namespace Session

/-! ### Writes -/

/-- A value that is written to a series. -/
structure Write where
  source : String
  name : String
  kind : Kind
  value : Value
  dimensions : List (String × String)

namespace Write

/-- A part of a distribution as a write for a source. -/
def ofPart (source : String) : String × Kind × Value × List (String × String) → Write
  | (name, kind, value, dimensions) => ⟨source, name, kind, value, dimensions⟩

/-- What has to make a point. -/
def draft (w : Write) : Point.Draft :=
  { name := w.name, kind := w.kind, value := w.value, source := some w.source
    dimensions := w.dimensions }

/-- The series that is written to, whatever the order in which its dimensions are given. -/
def series (w : Write) : Series := ⟨w.source, w.name, Keyed.ofList w.dimensions⟩

/-- What the write brings to its series. -/
def entry (w : Write) : Kind × Value := (w.kind, w.value)

end Write

/-- The session after a write that succeeds. -/
def after (s : Session) (w : Write) : Session :=
  { s with
    entries := Keyed.put w.series (w.kind, merge (Keyed.get? w.series s.entries) w.kind w.value)
      s.entries }

@[simp] theorem isClosed_after (s : Session) (w : Write) : (s.after w).isClosed = s.isClosed :=
  rfl

@[simp] theorem defaultSource_after (s : Session) (w : Write) :
    (s.after w).defaultSource = s.defaultSource := rfl

/-- Any number of writes leaves a session open, for the same source. -/
theorem foldl_after (s : Session) (ws : List Write) :
    (ws.foldl after s).isClosed = s.isClosed ∧
      (ws.foldl after s).defaultSource = s.defaultSource := by
  induction ws generalizing s with
  | nil => exact ⟨rfl, rfl⟩
  | cons w ws ih => exact ih (s.after w)

/-- What is held of a series after one more write to it. -/
def hold (held : Option (Kind × Value)) (e : Kind × Value) : Option (Kind × Value) :=
  some (e.1, merge held e.1 e.2)

/-- Of the writes, those to a series are all that matters to what is held of it. -/
theorem get?_foldl_after_eq_foldl (s : Session) (ws : List Write) (series : Series) :
    Keyed.get? series (ws.foldl after s).entries =
      ((ws.filter (·.series = series)).map Write.entry).foldl hold
        (Keyed.get? series s.entries) := by
  induction ws generalizing s with
  | nil => rfl
  | cons w ws ih =>
    rw [List.foldl_cons, ih (s.after w), after, Keyed.get?_put]
    by_cases hw : w.series = series
    · subst hw
      rw [if_pos rfl, List.filter_cons_of_pos (by simp)]
      rfl
    · rw [if_neg (Ne.symm hw), List.filter_cons_of_neg (by simpa using hw)]

/-- Writes to other series. -/
theorem get?_foldl_after_of_ne (s : Session) {ws : List Write} {series : Series}
    (other : ∀ w ∈ ws, w.series ≠ series) :
    Keyed.get? series (ws.foldl after s).entries = Keyed.get? series s.entries := by
  have own : ws.filter (·.series = series) = [] :=
    List.filter_eq_nil_iff.2 fun w hw => by simpa using other w hw
  rw [get?_foldl_after_eq_foldl, own]
  rfl

theorem put_of_isClosed {s : Session} (closed : s.isClosed = true) (source name : String)
    (kind : Kind) (value : Value) (dimensions : List (String × String)) :
    s.put source name kind value dimensions = .error .sessionClosed :=
  if_pos closed

section Open

variable {s : Session} (isOpen : s.isClosed = false)
include isOpen

theorem put_of_isSound {w : Write} (sound : w.draft.IsSound) :
    s.put w.source w.name w.kind w.value w.dimensions = .ok (s.after w) := by
  have built : w.draft.build = .ok w.draft.point := sound.build
  rw [put, if_neg (by simp [isOpen])]
  dsimp only
  rw [show ({ name := w.name, kind := w.kind, value := w.value, source := some w.source
              dimensions := w.dimensions } : Point.Draft).build = _ from built]
  rfl

theorem put_of_not_isSound {w : Write} (unsound : ¬w.draft.IsSound) :
    ∃ e, w.draft.build = .error e ∧
      s.put w.source w.name w.kind w.value w.dimensions = .error (.invalidPoint e) := by
  obtain ⟨e, he⟩ := Point.Draft.exists_error_of_not_isSound unsound
  refine ⟨e, he, ?_⟩
  rw [put, if_neg (by simp [isOpen])]
  dsimp only
  rw [show ({ name := w.name, kind := w.kind, value := w.value, source := some w.source
              dimensions := w.dimensions } : Point.Draft).build = _ from he]

end Open

/-! ### Recordings -/

/-- What is recorded in a session. -/
inductive Recording where
  /-- A value, for the default source if no source is given. -/
  | single (source : Option String) (name : String) (kind : Kind) (value : Value)
      (dimensions : List (String × String))
  /-- A snapshot, through the tracker as it is found. -/
  | distribution (name : String) (tracker : Tracker) (snapshot : Snapshot)
      (dimensions : List (String × String))

/-- The session after a recording, and the answer. -/
def record (s : Session) : Recording → Session × Except SenderError Unit
  | .single source name kind value dimensions =>
    match s.put (source.getD s.defaultSource) name kind value dimensions with
    | .error e => (s, .error e)
    | .ok s => (s, .ok ())
  | .distribution name tracker snapshot dimensions =>
    let r := s.recordDistribution name tracker snapshot dimensions
    (r.1, r.2.2.2)

/-- The session after a list of recordings. -/
def recordAll (s : Session) (rs : List Recording) : Session :=
  rs.foldl (fun s r => (s.record r).1) s

theorem recordAll_append (s : Session) (rs rs' : List Recording) :
    s.recordAll (rs ++ rs') = (s.recordAll rs).recordAll rs' :=
  List.foldl_append

/-- The kind of the running totals that a tracker reports. -/
def totalKind (tracker : Tracker) : Kind :=
  if tracker.isDelta then .counter else .cumulativeCounter

/-- What a snapshot writes, for a source. -/
def parts (source name : String) (kind : Kind) (snapshot : Snapshot)
    (dimensions : List (String × String)) : List Write :=
  (writes name kind snapshot dimensions).map (.ofPart source)

/-- The writes that a recording consists of. -/
def Recording.attempts (source : String) : Recording → List Write
  | .single other name kind value dimensions =>
    [⟨other.getD source, name, kind, value, dimensions⟩]
  | .distribution name tracker snapshot dimensions =>
    let emitted := (tracker.next snapshot).2.1
    if isFinite emitted then parts source name (totalKind tracker) emitted dimensions else []

/-- The writes of a recording that succeed: all in front of the first one that does not. -/
def Recording.successes (source : String) (r : Recording) : List Write :=
  (r.attempts source).takeWhile fun w => w.draft.IsSound

theorem Recording.isSound_of_mem {source : String} {r : Recording} {w : Write}
    (h : w ∈ r.successes source) : w.draft.IsSound := by
  simpa using List.mem_takeWhile_imp h

/-! ### What a recording does -/

section Distribution

variable {s : Session} {tracker : Tracker} {snapshot : Snapshot}

theorem recordDistribution_of_isClosed (closed : s.isClosed = true) (name : String)
    (dimensions : List (String × String)) :
    s.recordDistribution name tracker snapshot dimensions =
      (s, tracker, [], .error .sessionClosed) :=
  if_pos closed

theorem recordDistribution_of_isFinite (isOpen : s.isClosed = false)
    (finite : isFinite (tracker.next snapshot).2.1 = true) (name : String)
    (dimensions : List (String × String)) :
    s.recordDistribution name tracker snapshot dimensions =
      let r := s.putAll (writes name (totalKind tracker) (tracker.next snapshot).2.1 dimensions)
      (r.1, (tracker.next snapshot).1, (tracker.next snapshot).2.2, r.2) := by
  rw [recordDistribution, if_neg (by simp [isOpen])]
  dsimp only
  rw [if_pos finite]
  rfl

theorem recordDistribution_of_not_isFinite (isOpen : s.isClosed = false)
    (infinite : ¬isFinite (tracker.next snapshot).2.1 = true) (name : String)
    (dimensions : List (String × String)) :
    s.recordDistribution name tracker snapshot dimensions =
      (s, (tracker.next snapshot).1, (tracker.next snapshot).2.2,
        .error (.invalidPoint (.nonFiniteValue name))) := by
  rw [recordDistribution, if_neg (by simp [isOpen])]
  dsimp only
  rw [if_neg infinite]

/-- The tracker has seen a snapshot even if it is refused. -/
theorem tracker_recordDistribution (isOpen : s.isClosed = false) (name : String)
    (dimensions : List (String × String)) :
    (s.recordDistribution name tracker snapshot dimensions).2.1 = (tracker.next snapshot).1 := by
  by_cases finite : isFinite (tracker.next snapshot).2.1 = true
  · rw [recordDistribution_of_isFinite isOpen finite]
  · rw [recordDistribution_of_not_isFinite isOpen finite]

end Distribution

theorem record_of_isClosed {s : Session} (closed : s.isClosed = true) (r : Recording) :
    s.record r = (s, .error .sessionClosed) := by
  cases r with
  | single source name kind value dimensions => simp only [record, put_of_isClosed closed]
  | distribution name tracker snapshot dimensions =>
    rw [record, recordDistribution_of_isClosed closed]

theorem recordAll_of_isClosed {s : Session} (closed : s.isClosed = true) (rs : List Recording) :
    s.recordAll rs = s := by
  induction rs with
  | nil => rfl
  | cons r rs ih => rwa [recordAll, List.foldl_cons, record_of_isClosed closed]

section PutAll

variable {s : Session} (isOpen : s.isClosed = false)
  {p : String × Kind × Value × List (String × String)}
  {ps : List (String × Kind × Value × List (String × String))}
include isOpen

theorem putAll_cons_of_isSound (sound : (Write.ofPart s.defaultSource p).draft.IsSound) :
    s.putAll (p :: ps) = (s.after (.ofPart s.defaultSource p)).putAll ps := by
  obtain ⟨name, kind, value, dimensions⟩ := p
  have put_eq := put_of_isSound isOpen sound
  rw [putAll, show s.put s.defaultSource name kind value dimensions = _ from put_eq]

theorem putAll_cons_of_not_isSound (unsound : ¬(Write.ofPart s.defaultSource p).draft.IsSound)
    (ps : List (String × Kind × Value × List (String × String))) :
    ∃ e, (Write.ofPart s.defaultSource p).draft.build = .error e ∧
      s.putAll (p :: ps) = (s, .error (.invalidPoint e)) := by
  obtain ⟨name, kind, value, dimensions⟩ := p
  obtain ⟨e, fault, put_eq⟩ := put_of_not_isSound isOpen unsound
  refine ⟨e, fault, ?_⟩
  rw [putAll, show s.put s.defaultSource name kind value dimensions = _ from put_eq]

/-- Writes are carried out up to the first one that does not make a point. -/
theorem putAll_eq :
    let ws : List Write := ps.map (.ofPart s.defaultSource)
    (s.putAll ps).1 = (ws.takeWhile fun w => w.draft.IsSound).foldl after s ∧
      ((s.putAll ps).2 = .ok () ↔ ∀ w ∈ ws, w.draft.IsSound) := by
  induction ps generalizing s with
  | nil => simp [putAll]
  | cons p ps ih =>
    dsimp only
    rw [List.map_cons, List.forall_mem_cons]
    by_cases sound : (Write.ofPart s.defaultSource p).draft.IsSound
    · obtain ⟨session_eq, ok_iff⟩ := @ih (s.after (.ofPart s.defaultSource p)) isOpen
      rw [putAll_cons_of_isSound isOpen sound, List.takeWhile_cons_of_pos (by simpa using sound)]
      exact ⟨session_eq, ok_iff.trans (and_iff_right sound).symm⟩
    · obtain ⟨e, -, eq⟩ := putAll_cons_of_not_isSound isOpen sound ps
      rw [eq, List.takeWhile_cons_of_neg (by simpa using sound)]
      exact ⟨rfl, iff_of_false nofun fun h => sound h.1⟩

/-- The fault of the first write that does not make a point is the answer. -/
theorem putAll_snd_eq_error {before later : List Write} {w : Write} {e : PointError}
    (ps_eq : ps.map (.ofPart s.defaultSource) = before ++ w :: later)
    (sound : ∀ v ∈ before, v.draft.IsSound) (fault : w.draft.build = .error e) :
    (s.putAll ps).2 = .error (.invalidPoint e) := by
  induction before generalizing s ps with
  | nil =>
    obtain ⟨p, ps, rfl, rfl, -⟩ := List.map_eq_cons_iff.1 ps_eq
    have unsound : ¬(Write.ofPart s.defaultSource p).draft.IsSound := fun sound => by
      rw [sound.build] at fault
      cases fault
    obtain ⟨e', fault', eq⟩ := putAll_cons_of_not_isSound isOpen unsound ps
    obtain rfl : e' = e := Except.error.inj (fault'.symm.trans fault)
    rw [eq]
  | cons v before ih =>
    obtain ⟨p, ps, rfl, rfl, rest_eq⟩ := List.map_eq_cons_iff.1 ps_eq
    rw [putAll_cons_of_isSound isOpen (sound _ List.mem_cons_self)]
    exact @ih (s.after _) isOpen ps rest_eq fun v' h' => sound v' (List.mem_cons_of_mem _ h')

end PutAll

/-- **A recording in an open session carries out its writes that succeed.** -/
theorem record_fst {s : Session} (isOpen : s.isClosed = false) (r : Recording) :
    (s.record r).1 = (r.successes s.defaultSource).foldl after s := by
  cases r with
  | single source name kind value dimensions =>
    let w : Write := ⟨source.getD s.defaultSource, name, kind, value, dimensions⟩
    have attempts_eq : (Recording.single source name kind value dimensions).attempts
      s.defaultSource = [w] := rfl
    rw [record, Recording.successes, attempts_eq]
    by_cases sound : w.draft.IsSound
    · rw [show s.put w.source name kind value dimensions = _ from put_of_isSound isOpen sound,
        List.takeWhile_cons_of_pos (by simpa using sound)]
      rfl
    · obtain ⟨e, -, put_eq⟩ := put_of_not_isSound isOpen sound
      rw [show s.put w.source name kind value dimensions = _ from put_eq,
        List.takeWhile_cons_of_neg (by simpa using sound)]
      rfl
  | distribution name tracker snapshot dimensions =>
    rw [record, Recording.successes, Recording.attempts]
    dsimp only
    split_ifs with finite
    · rw [recordDistribution_of_isFinite isOpen finite]
      exact (putAll_eq isOpen).1
    · rw [recordDistribution_of_not_isFinite isOpen finite]
      rfl

theorem recordAll_eq {s : Session} (isOpen : s.isClosed = false) (rs : List Recording) :
    s.recordAll rs = (rs.flatMap (·.successes s.defaultSource)).foldl after s := by
  induction rs generalizing s with
  | nil => rfl
  | cons r rs ih =>
    have first := record_fst isOpen r
    obtain ⟨isOpen', source_eq⟩ := s.foldl_after (r.successes s.defaultSource)
    rw [← first] at isOpen' source_eq
    rw [recordAll, List.foldl_cons, ← recordAll, ih (isOpen'.trans isOpen), source_eq, first,
      List.flatMap_cons, List.foldl_append]

/-! ### What writes come to -/

/-- What the writes to one series come to: the sum of the increments of a counter that stand at
the end, or else the last write. -/
def settled (ws : List (Kind × Value)) : Option (Kind × Value) :=
  match (ws.rtakeWhile (·.1 = .counter)).map Prod.snd with
  | [] => ws.getLast?
  | v :: vs => some (.counter, vs.foldl Value.accumulate v)

/-- One more write is merged with what the writes before come to. -/
theorem settled_append_singleton (ws : List (Kind × Value)) (kind : Kind) (value : Value) :
    settled (ws ++ [(kind, value)]) = some (kind, merge (settled ws) kind value) := by
  cases kind with
  | gauge => simp [settled, merge, List.rtakeWhile_concat_neg]
  | cumulativeCounter => simp [settled, merge, List.rtakeWhile_concat_neg]
  | counter =>
    rw [settled, List.rtakeWhile_concat_pos _ _ _ (by simp), List.map_append]
    cases hr : (ws.rtakeWhile (·.1 = .counter)).map Prod.snd with
    | cons v vs => simp [settled, hr, merge]
    | nil =>
      -- no increment stands at the end, so there is no sum to add to
      have fresh : merge (settled ws) .counter value = value := by
        rw [settled, hr]
        rcases List.eq_nil_or_concat' ws with rfl | ⟨before, ⟨kind, last⟩, rfl⟩
        · rfl
        · have apart : kind ≠ .counter := by
            simpa using List.rtakeWhile_eq_nil_iff.1 (List.map_eq_nil_iff.1 hr)
          rw [List.getLast?_concat]
          cases kind <;> first | rfl | exact absurd rfl apart
      rw [fresh]
      rfl

theorem foldl_hold_eq_settled (ws : List (Kind × Value)) : ws.foldl hold none = settled ws := by
  induction ws using List.reverseRecOn with
  | nil => rfl
  | append_singleton ws e ih =>
    rw [List.foldl_append, ih]
    exact (settled_append_singleton _ _ _).symm

theorem get?_foldl_after {s : Session} (empty : s.entries = []) (ws : List Write)
    (series : Series) :
    Keyed.get? series (ws.foldl after s).entries =
      settled ((ws.filter (·.series = series)).map Write.entry) := by
  rw [get?_foldl_after_eq_foldl, empty]
  exact foldl_hold_eq_settled _

end Session
end MetricRelay
