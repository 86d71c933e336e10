import PosixBridge.Proofs.Course

/-!
# A named guard is a snapshot for its whole life

A slot is shared by all threads and by all scopes, and it is not restored when a scope is left.
So whatever a run does, a slot has one of two conditions, `Guard.free` and `Guard.held`, and the
events on the slot move it between them and answer by them: `Guard.Step` are the six ways this
can go. Errno comes in twice, as the number that a capture takes and as the number that a drop
brings back; what a thread's errno was just before an event is read off the trace
(`Trace.moments`).

> `named_guards_faithful`: the events on a slot, in their order, are a path of this automaton
> from `free` to the condition in which the run leaves the slot, one event for each step on the
> slot that is performed.

Of a part of a run it says that the path leads from the slot's condition at its start to that at
its end (`Guard.Follows`), which is a relation that passes from the steps to the runs. All events
that are not on the slot, and all frames, are idle in it.
-/

namespace PosixBridge

open Procedure

/-- The slot that a report is about, if it is about one. -/
def Report.slot? : Report → Option String
  | .capture slot _ | .saved slot _ | .drop slot _ => some slot
  | _ => none

/-- Whether an event is on the slot. -/
def Moment.concerns (m : Moment) (slot : String) : Bool := m.event.report.slot? == some slot

/-- The slot that a simple step is about, if it is about one. -/
def Action.slot? {γ : Type} : Action γ → Option String
  | .capture slot | .saved slot | .drop slot => some slot
  | .set _ | .stub _ | .log _ | .panic => none

/-- Whether a stage is a step on the slot. -/
def Stage.concerns : Stage → String → Bool
  | .acted a, slot => a.slot? == some slot
  | .entered _, _ | .hosted _, _ | .left _, _ | .ended _, _ | .uncaught, _ => false

/-- The moments of the events on a slot. -/
def Trace.momentsOn (slot : String) (errno : Int32) (trace : Trace) : List Moment :=
  (trace.moments errno).filter (·.concerns slot)

/-- A step reports on the slot that it is about. -/
theorem Action.slot?_reported (a : Action Call) (s : State) :
    (a.reported s).slot? = a.slot? := by
  cases a <;> rfl

/-- The two conditions of a slot. -/
inductive Guard
  | free
  | held (value : Int32)

namespace Guard

/-- The condition of a slot in a state. -/
def ofState (slot : String) (s : State) : Guard :=
  match s.slots.get? slot with
  | none => .free
  | some value => .held value

/-- What an event on a slot says in each condition, what becomes of the running thread's errno,
and in which condition the slot is then. -/
inductive Step (slot : String) : Guard → Moment → Guard → Prop
  | capture (errno : Int32) :
    Step slot .free ⟨errno, .capture slot (some errno), errno⟩ (.held errno)
  | occupied (value errno : Int32) :
    Step slot (.held value) ⟨errno, .capture slot none, errno⟩ (.held value)
  | saved (value errno : Int32) :
    Step slot (.held value) ⟨errno, .saved slot (some value), errno⟩ (.held value)
  | savedEmpty (errno : Int32) : Step slot .free ⟨errno, .saved slot none, errno⟩ .free
  | drop (value errno : Int32) :
    Step slot (.held value) ⟨errno, .drop slot (some value), value⟩ .free
  | dropEmpty (errno : Int32) : Step slot .free ⟨errno, .drop slot none, errno⟩ .free

/-- A sequence of events that the automaton allows, from one condition to another. -/
inductive Path (slot : String) : Guard → List Moment → Guard → Prop
  | nil (g : Guard) : Path slot g [] g
  | cons {g g' g'' : Guard} {m : Moment} {rest : List Moment} (hstep : Step slot g m g')
      (hrest : Path slot g' rest g'') : Path slot g (m :: rest) g''

/-- A part of a run from `s` to `t` moves the slot as its events on the slot say, and has one
such event for each of its steps on the slot. -/
structure Follows (slot : String) (s : State) (moments : List Moment) (stages : List Stage)
    (t : State) : Prop where
  path : Path slot (ofState slot s) (moments.filter (·.concerns slot)) (ofState slot t)
  shows : List.Forall₂ (fun m stage => stage.ShownAs (.reported m.event.report))
    (moments.filter (·.concerns slot)) (stages.filter (·.concerns slot))

variable {slot : String} {s t u : State}

theorem Path.append {g g' g'' : Guard} {xs ys : List Moment} (hx : Path slot g xs g')
    (hy : Path slot g' ys g'') : Path slot g (xs ++ ys) g'' := by
  induction hx with
  | nil => exact hy
  | cons hstep _ ih => exact .cons hstep (ih hy)

theorem ofState_congr (h : t.slots.get? slot = s.slots.get? slot) :
    ofState slot t = ofState slot s := by
  unfold ofState
  rw [h]

/-! ## Single events -/

/-- Where there is no event and no step on the slot, and the slot is left alone. -/
theorem follows_idle {moments : List Moment} {stages : List Stage}
    (hmoments : moments.filter (·.concerns slot) = [])
    (hstages : stages.filter (·.concerns slot) = [])
    (hslot : t.slots.get? slot = s.slots.get? slot) : Follows slot s moments stages t := by
  refine ⟨?_, ?_⟩
  · rw [hmoments, ofState_congr hslot]
    exact .nil _
  · rw [hmoments, hstages]
    exact .nil

theorem Follows.append {xs ys : List Moment} {as bs : List Stage} (hx : Follows slot s xs as t)
    (hy : Follows slot t ys bs u) : Follows slot s (xs ++ ys) (as ++ bs) u := by
  refine ⟨?_, ?_⟩
  · rw [List.filter_append]
    exact hx.path.append hy.path
  · rw [List.filter_append, List.filter_append]
    exact List.rel_append hx.shows hy.shows

/-- A step on a slot moves the slot. -/
theorem step_action {a : Action Call} (ha : a.slot? = some slot) (s : State) :
    Step slot (ofState slot s) ⟨s.errno, a.reported s, (a.after s).errno⟩
      (ofState slot (a.after s)) := by
  cases a with
  | capture name =>
    obtain rfl : name = slot := Option.some.inj ha
    cases hs : s.slots.get? name with
    | none => simpa [ofState, Action.reported, Action.after, hs] using .capture s.errno
    | some value => simpa [ofState, Action.reported, Action.after, hs] using .occupied value s.errno
  | saved name =>
    obtain rfl : name = slot := Option.some.inj ha
    cases hs : s.slots.get? name with
    | none => simpa [ofState, Action.reported, Action.after, hs] using .savedEmpty s.errno
    | some value => simpa [ofState, Action.reported, Action.after, hs] using .saved value s.errno
  | drop name =>
    obtain rfl : name = slot := Option.some.inj ha
    cases hs : s.slots.get? name with
    | none => simpa [ofState, Action.reported, Action.after, hs] using .dropEmpty s.errno
    | some value => simpa [ofState, Action.reported, Action.after, hs] using .drop value s.errno
  | set | stub | log | panic => exact absurd ha (by simp [Action.slot?])

/-- A step on another slot, or on none, leaves the slot alone. -/
theorem get?_after {a : Action Call} (ha : a.slot? ≠ some slot) (s : State) :
    (a.after s).slots.get? slot = s.slots.get? slot := by
  cases a with
  | set | saved | stub | log | panic => rfl
  | capture name =>
    have hne : slot ≠ name := fun heq => ha (congrArg some heq.symm)
    cases hs : s.slots.get? name with
    | none =>
      rw [Action.after_capture_of_free hs]
      exact Slots.get?_insert_of_ne _ _ hne
    | some held => rw [Action.after_capture_of_held hs]
  | drop name =>
    have hne : slot ≠ name := fun heq => ha (congrArg some heq.symm)
    cases hs : s.slots.get? name with
    | none => rw [Action.after_drop_of_free hs]
    | some held =>
      rw [Action.after_drop_of_held hs]
      exact Slots.get?_erase_of_ne _ hne

/-- A simple step moves the slot if it is on it, and is idle otherwise. -/
theorem follows_action (a : Action Call) (s : State) :
    Follows slot s [⟨s.errno, a.reported s, (a.after s).errno⟩] [.acted a] (a.after s) := by
  let moment : Moment := ⟨s.errno, a.reported s, (a.after s).errno⟩
  by_cases ha : a.slot? = some slot
  · have hmoments : [moment].filter (·.concerns slot) = [moment] := by
      simp [moment, Moment.concerns, a.slot?_reported, ha]
    have hstages : [Stage.acted a].filter (·.concerns slot) = [.acted a] := by
      simp [Stage.concerns, ha]
    refine ⟨?_, ?_⟩
    · rw [hmoments]
      exact .cons (step_action ha s) (.nil _)
    · rw [hmoments, hstages]
      exact .cons ⟨s, rfl⟩ .nil
  · refine follows_idle ?_ ?_ (get?_after ha s)
    · simp [Moment.concerns, a.slot?_reported, ha]
    · simp [Stage.concerns, ha]

/-- Neither a scope nor a thread takes its slots with it when it is left, and no report of
theirs is on a slot. -/
theorem composesEvents_follows : Program.ComposesEvents (Follows slot) where
  nil _ := follows_idle rfl rfl rfl
  append hx hy := hx.append hy
  entered _ hslots := follows_idle rfl rfl (congrArg (·.get? slot) hslots)
  left _ hslots := follows_idle rfl rfl (congrArg (·.get? slot) hslots)
  hosted _ _ := follows_idle rfl rfl rfl
  ended head _ _ _ := follows_idle (by cases head <;> rfl) rfl rfl
  uncaught _ := follows_idle rfl rfl rfl

/-- A whole run moves the slot as its events on the slot say. -/
theorem follows_execute (p : Program) :
    Follows slot .initial ((p.execute .native).trace.moments 0) p.wholeCourse
      (p.execute .native).state :=
  Program.moments_rel composesEvents_follows follows_action p

end Guard

/-- **A named guard is a faithful snapshot.** In a native run, the events on a slot are a path of
the automaton of its two conditions: it starts free, a capture takes the capturing thread's errno
of that moment, each answer until the drop is this number, and the drop makes it the errno of the
thread that drops. There is exactly one such event for each step on the slot that the run
performs. A step that finds the slot in the wrong condition says so and changes nothing, not in
any thread's errno, in another slot or in the log settings. -/
theorem named_guards_faithful (p : Program) (slot : String) :
    let run := p.execute .native
    Guard.Path slot .free (run.trace.momentsOn slot 0) (Guard.ofState slot run.state) ∧
    (run.trace.moments 0).map (·.event) = p.events .native ∧
    List.Forall₂ (fun m stage => stage.ShownAs (.reported m.event.report))
      (run.trace.momentsOn slot 0) (p.wholeCourse.filter (·.concerns slot)) ∧
    (∀ s : State, s.slots.get? slot = none →
      ((Action.saved slot).perform s).state = s ∧ ((Action.drop slot).perform s).state = s) ∧
    ∀ (s : State) value, s.slots.get? slot = some value →
      ((Action.capture slot).perform s).state = s ∧ ((Action.saved slot).perform s).state = s := by
  refine ⟨(Guard.follows_execute p).path, Trace.moments_event 0 _,
    (Guard.follows_execute p).shows, ?_, ?_⟩
  · intro s hs
    rw [Action.perform_apply, Action.perform_apply]
    exact ⟨rfl, Action.after_drop_of_free hs⟩
  · intro s value hs
    rw [Action.perform_apply, Action.perform_apply]
    exact ⟨Action.after_capture_of_held hs, rfl⟩

end PosixBridge
