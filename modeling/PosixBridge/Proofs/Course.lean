import Mathlib.Data.List.Forall2
import PosixBridge.Proofs.Steps

/-!
# The course of a run

A program has no branches. Which of its steps are performed, and which scopes and threads are
entered and left around them, is the same in every run and can be read off the text with no
state in hand: `Program.course` lists these stages, up to the panic that ends the program.

> `Program.shows_execute`: the marks of a native run are those of its course, one for one.

So a rule about runs can be read off the steps that have been performed, without trusting the
marks that a run makes of itself. This is how errno and the log settings are told below.

Facts about whole runs are proved along the course. A relation between a part of a run and its
stages that `Composes` holds of every part, once it holds of the simple steps
(`Program.perform_rel`); this is the one induction for the relations that pass through scopes
whichever way these are left. The course is in step with the trace throughout, so a relation
may look at either or at both.

`Trace.moments` tells with each event the errno that its thread had just before.
-/

namespace PosixBridge

open Procedure

/-- What happens at one point of a native run, by the text of the program. -/
inductive Stage
  /-- A simple step is performed. -/
  | acted (action : Action Call)
  /-- A step with a body enters its scope or starts its thread. -/
  | entered (frame : Frame)
  /-- The host is called, within the scope of a forwarded operation. -/
  | hosted (call : HostedCall)
  /-- The scope is left or the thread ends, normally or by a panic. -/
  | left (frame : Frame)
  /-- A step with a body has ended, and no panic passes through it. -/
  | ended (head : Scope HostedCall)
  /-- A panic has ended the program. -/
  | uncaught

/-- Whether a point of a run is what the stage makes of some state. -/
def Stage.ShownAs : Stage → Point → Prop
  | .acted a, point => ∃ s, point = .reported (a.reported s)
  | .entered frame, point => point = .entered frame
  | .hosted c, point => point = .reported (.host c.op c.args)
  | .left frame, point => point = .left frame
  | .ended head, point => ∃ s t ended, point = .reported (head.reported s t ended)
  | .uncaught, point => point = .reported .uncaught

/-- Whether a mark is the mark of a stage. -/
def Mark.Shows (m : Mark) (stage : Stage) : Prop := stage.ShownAs m.point

namespace Scope

/-- The stages before the body: what keeps errno enters a scope, and a thread is started. -/
def before : Scope HostedCall → List Stage
  | .call .. | .guard => [.entered .keeping]
  | .posix c => [.entered .keeping, .hosted c]
  | .recover => []
  | .thread => [.entered .thread]

/-- The stages when the body is left, whichever way that happens. -/
def behind : Scope HostedCall → List Stage
  | .call .. | .guard | .posix _ => [.left .keeping]
  | .recover => []
  | .thread => [.left .thread]

end Scope

namespace Program

/-- The stages of a native run of the program, up to a panic that ends it. -/
def course : Program → List Stage
  | .done => []
  | .step action rest => .acted action :: if action.panics then [] else course rest
  | .scope head body rest =>
    head.before ++ (course body ++ (head.behind ++
      if !head.recovers && mayPanic body then [] else .ended head :: course rest))

/-- The stages of a run that begins and ends with the program. -/
def wholeCourse (p : Program) : List Stage :=
  course p ++ if mayPanic p then [.uncaught] else []

/-! ## Relations along the course -/

/-- A relation between the start of a part of a run, its trace, its stages and its end that
passes from parts to the whole: nothing done has it, and one part after another; a scope has it
around a body, whichever way it is left; and so have the reports of a scope that ends and of a
panic that nobody stops. -/
structure Composes (R : State → Trace → List Stage → State → Prop) : Prop where
  nil : ∀ s, R s [] [] s
  append : ∀ {s t u xs ys as bs}, R s xs as t → R t ys bs u → R s (xs ++ ys) (as ++ bs) u
  scope : ∀ (head : Scope HostedCall) {s t trace stages}, R (head.inner s) trace stages t →
    R s (head.opening s ++ (trace ++ head.closing s t))
      (head.before ++ (stages ++ head.behind)) (head.after s t)
  ended : ∀ (head : Scope HostedCall) s t ended,
    R (head.after s t) [⟨.reported (head.reported s t ended), (head.after s t).errno⟩]
      [.ended head] (head.after s t)
  uncaught : ∀ s, R s [⟨.reported .uncaught, s.errno⟩] [.uncaught] s

section
variable {R : State → Trace → List Stage → State → Prop}

/-- A relation that composes is true of all runs of a program, if it is of its simple steps. -/
theorem perform_rel (hR : Composes R) (p : Program)
    (hstep : ∀ a ∈ p.actions, ∀ s,
      R s [⟨.reported (a.reported s), (a.after s).errno⟩] [.acted a] (a.after s)) (s : State) :
    R s (perform .native p s).trace p.course (perform .native p s).state := by
  induction p generalizing s with
  | done => exact hR.nil s
  | step a rest ih =>
    have hfirst := hstep a (List.mem_cons_self ..) s
    rw [course]
    cases ha : a.panics with
    | true =>
      rw [perform_step_of_panics ha, if_pos rfl]
      exact hfirst
    | false =>
      rw [perform_step ha, if_neg Bool.false_ne_true]
      exact hR.append hfirst (ih (fun b hb => hstep b (List.mem_cons_of_mem _ hb)) _)
  | scope head body rest ihb ihr =>
    have hbody := ihb (fun b hb => hstep b (List.mem_append_left _ hb)) (head.inner s)
    have hended := scope_outcome head (mayPanic body)
    rw [← perform_outcome body (head.inner s)] at hended
    rcases hb : perform .native body (head.inner s) with ⟨trace, t, ended⟩
    rw [hb] at hbody hended
    have hleft := hR.scope head hbody
    rw [course]
    cases hm : !head.recovers && mayPanic body with
    | true =>
      -- The panic that the text shows is the one that leaves the scope.
      rw [hm, if_pos rfl] at hended
      rw [perform_scope_of_panicked hb hended, if_pos rfl, List.append_nil]
      exact hleft
    | false =>
      rw [hm, if_neg Bool.false_ne_true] at hended
      rw [perform_scope hb hended, Scope.ending, hended, if_neg Bool.false_ne_true]
      have hrest := ihr (fun b hb => hstep b (List.mem_append_right _ hb)) (head.after s t)
      have hwhole := hR.append hleft (hR.append (hR.ended head s t ended) hrest)
      -- The same marks and stages, bracketed from the left.
      simpa only [List.append_assoc, List.singleton_append] using hwhole

/-- The same of a run from the initial state to the end of the program. -/
theorem execute_rel (hR : Composes R) (p : Program)
    (hstep : ∀ a ∈ p.actions, ∀ s,
      R s [⟨.reported (a.reported s), (a.after s).errno⟩] [.acted a] (a.after s)) :
    R .initial (p.execute .native).trace p.wholeCourse (p.execute .native).state := by
  have hrun := perform_rel hR p hstep .initial
  have hended := perform_outcome p .initial
  rw [execute_apply, wholeCourse]
  dsimp only
  cases hm : mayPanic p with
  | true =>
    rw [hm, if_pos rfl] at hended
    rw [hended]
    exact hR.append hrun (hR.uncaught _)
  | false =>
    rw [hm, if_neg Bool.false_ne_true] at hended
    rw [hended]
    exact hR.append hrun (hR.nil _)

end

/-- Slots and log settings are changed by simple steps, and by these only: what can be read off
them stays the same in a run if the simple steps keep it. -/
theorem perform_shared_eq {β : Type} (f : Slots → LogSettings → β) {p : Program}
    (hp : ∀ a ∈ p.actions, ∀ s, f (a.after s).slots (a.after s).log = f s.slots s.log)
    (s : State) :
    f (perform .native p s).state.slots (perform .native p s).state.log = f s.slots s.log := by
  have hkept : Composes fun s _ _ t => f t.slots t.log = f s.slots s.log := by
    refine ⟨fun _ => rfl, fun hst htu => htu.trans hst, ?_, fun _ _ _ _ => rfl, fun _ => rfl⟩
    intro head s t _ _ ht
    cases head with
    | call | guard | posix | recover => exact ht
    | thread =>
      show f t.join.slots t.join.log = _
      rw [t.slots_join, t.log_join]
      exact ht
  exact perform_rel hkept p hp s

/-! ## The trace of a run shows its course -/

/-- The marks before a body are those of the stages before it. -/
theorem shows_opening (head : Scope HostedCall) (s : State) :
    List.Forall₂ Mark.Shows (head.opening s) head.before := by
  cases head with
  | call | guard | thread => exact .cons rfl .nil
  | posix => exact .cons rfl (.cons rfl .nil)
  | recover => exact .nil

theorem shows_closing (head : Scope HostedCall) (s t : State) :
    List.Forall₂ Mark.Shows (head.closing s t) head.behind := by
  cases head with
  | call | guard | posix | thread => exact .cons rfl .nil
  | recover => exact .nil

/-- Each mark is that of its stage, and neither list is longer than the other. -/
theorem composes_shows : Composes fun _ trace stages _ => List.Forall₂ Mark.Shows trace stages where
  nil _ := .nil
  append hx hy := List.rel_append hx hy
  scope head s t _ _ hbody :=
    List.rel_append (shows_opening head s) (List.rel_append hbody (shows_closing head s t))
  ended _ s t ended := .cons ⟨s, t, ended, rfl⟩ .nil
  uncaught _ := .cons rfl .nil

/-- The marks of a native run are those of its course, one for one. -/
theorem shows_execute (p : Program) :
    List.Forall₂ Mark.Shows (p.execute .native).trace p.wholeCourse :=
  execute_rel composes_shows p fun _ _ s => .cons ⟨s, rfl⟩ .nil

end Program

/-! ## Events with the errno before them -/

/-- An event with the errno that the running thread had just before it. -/
structure Moment where
  before : Int32
  event : Event

namespace Trace

/-- The events of a trace, each with the errno before it, where the trace begins with `errno`. -/
def moments (errno : Int32) : Trace → List Moment
  | [] => []
  | m :: rest => (m.event?.map (Moment.mk errno)).toList ++ moments m.errno rest

/-- The running thread's errno at the end of a trace that begins with `errno`. -/
def lastErrno (errno : Int32) (trace : Trace) : Int32 := trace.foldl (fun _ m => m.errno) errno

/-- Without the errno before them, the moments are the events. -/
theorem moments_event (errno : Int32) (trace : Trace) :
    (trace.moments errno).map (·.event) = trace.events := by
  induction trace generalizing errno with
  | nil => rfl
  | cons m rest ih =>
    show _ = List.filterMap Mark.event? (m :: rest)
    rw [moments, List.map_append, ih, List.filterMap_cons]
    cases m.event? with
    | none => rfl
    | some e => rfl

theorem lastErrno_append (errno : Int32) (xs ys : Trace) :
    lastErrno errno (xs ++ ys) = lastErrno (lastErrno errno xs) ys := List.foldl_append

/-- The second part of a trace begins with the errno at the end of the first. -/
theorem moments_append (errno : Int32) (xs ys : Trace) :
    moments errno (xs ++ ys) = moments errno xs ++ moments (lastErrno errno xs) ys := by
  induction xs generalizing errno with
  | nil => rfl
  | cons m xs ih => rw [List.cons_append, moments, moments, ih, List.append_assoc]; rfl

end Trace

namespace Program

/-- A relation that composes, between moments and stages. The frames show in no event, and
what they change is errno and the waiting threads only. -/
structure ComposesEvents (S : State → List Moment → List Stage → State → Prop) : Prop where
  nil : ∀ s, S s [] [] s
  append : ∀ {s t u xs ys as bs}, S s xs as t → S t ys bs u → S s (xs ++ ys) (as ++ bs) u
  entered : ∀ {s t : State} frame, t.slots = s.slots → S s [] [.entered frame] t
  left : ∀ {s t : State} frame, t.slots = s.slots → S s [] [.left frame] t
  hosted : ∀ (c : HostedCall) (s : State),
    S s [⟨s.errno, ⟨.host c.op c.args, s.errno⟩⟩] [.hosted c] s
  ended : ∀ (head : Scope HostedCall) s t ended,
    S (head.after s t) [⟨(head.after s t).errno, ⟨head.reported s t ended, (head.after s t).errno⟩⟩]
      [.ended head] (head.after s t)
  uncaught : ∀ s : State, S s [⟨s.errno, ⟨.uncaught, s.errno⟩⟩] [.uncaught] s

section
variable {S : State → List Moment → List Stage → State → Prop} {s t u : State}
  {xs ys : Trace} {as bs : List Stage}

/-- The relation of the moments of a trace. The errno before an event is that of the state
before it, because a trace ends with the errno of the state that it leads to. -/
structure OnMoments (S : State → List Moment → List Stage → State → Prop) (s : State)
    (trace : Trace) (stages : List Stage) (t : State) : Prop where
  related : S s (trace.moments s.errno) stages t
  errno_eq : trace.lastErrno s.errno = t.errno

/-- Parts that meet are related in one, because the errno of their meeting is the same. -/
theorem ComposesEvents.onMoments_append (hS : ComposesEvents S) (hx : OnMoments S s xs as t)
    (hy : OnMoments S t ys bs u) : OnMoments S s (xs ++ ys) (as ++ bs) u := by
  refine ⟨?_, ?_⟩
  · rw [Trace.moments_append, hx.errno_eq]
    exact hS.append hx.related hy.related
  · rw [Trace.lastErrno_append, hx.errno_eq, hy.errno_eq]

/-- The way into a scope or a thread, and the host's call in it. -/
theorem ComposesEvents.onMoments_opening (hS : ComposesEvents S) (head : Scope HostedCall)
    (s : State) : OnMoments S s (head.opening s) head.before (head.inner s) := by
  cases head with
  | call | guard => exact ⟨hS.entered .keeping rfl, rfl⟩
  | posix c => exact ⟨hS.append (hS.entered .keeping rfl) (hS.hosted c s), rfl⟩
  | recover => exact ⟨hS.nil s, rfl⟩
  | thread => exact ⟨hS.entered .thread rfl, rfl⟩

/-- The way out of a scope or a thread, normally or by a panic. -/
theorem ComposesEvents.onMoments_closing (hS : ComposesEvents S) (head : Scope HostedCall)
    (s t : State) : OnMoments S t (head.closing s t) head.behind (head.after s t) := by
  cases head with
  | call | guard | posix => exact ⟨hS.left .keeping rfl, rfl⟩
  | recover => exact ⟨hS.nil t, rfl⟩
  | thread => exact ⟨hS.left .thread t.slots_join, rfl⟩

/-- A relation that composes between moments does so between marks. -/
theorem ComposesEvents.composes (hS : ComposesEvents S) : Composes (OnMoments S) where
  nil s := ⟨hS.nil s, rfl⟩
  append := hS.onMoments_append
  scope head s t _ _ hbody :=
    hS.onMoments_append (hS.onMoments_opening head s)
      (hS.onMoments_append hbody (hS.onMoments_closing head s t))
  ended head s t ended := ⟨hS.ended head s t ended, rfl⟩
  uncaught s := ⟨hS.uncaught s, rfl⟩

/-- A relation between moments and stages is true of all whole runs, if it is of the simple
steps. -/
theorem moments_rel (hS : ComposesEvents S)
    (hstep : ∀ (a : Action Call) (s : State),
      S s [⟨s.errno, ⟨a.reported s, (a.after s).errno⟩⟩] [.acted a] (a.after s))
    (p : Program) :
    S .initial ((p.execute .native).trace.moments 0) p.wholeCourse
      (p.execute .native).state :=
  (execute_rel hS.composes p fun a _ s => ⟨hstep a s, rfl⟩).related

end

/-- What is true of the event of each step is true of all events of a run. -/
theorem forall_moments {Q : Moment → Prop}
    (hstep : ∀ (a : Action Call) (s : State), Q ⟨s.errno, ⟨a.reported s, (a.after s).errno⟩⟩)
    (hhosted : ∀ (c : HostedCall) e, Q ⟨e, ⟨.host c.op c.args, e⟩⟩)
    (hended : ∀ (head : Scope HostedCall) s t ended e, Q ⟨e, ⟨head.reported s t ended, e⟩⟩)
    (huncaught : ∀ e, Q ⟨e, ⟨.uncaught, e⟩⟩) (p : Program) :
    ∀ m ∈ (p.execute .native).trace.moments 0, Q m := by
  have hS : ComposesEvents fun _ moments _ _ => ∀ m ∈ moments, Q m :=
    { nil := fun _ _ hm => absurd hm List.not_mem_nil
      append := fun hx hy m hm => (List.mem_append.mp hm).elim (hx m) (hy m)
      entered := fun _ _ _ hm => absurd hm List.not_mem_nil
      left := fun _ _ _ hm => absurd hm List.not_mem_nil
      hosted := fun c s => List.forall_mem_singleton.mpr (hhosted c s.errno)
      ended := fun head s t ended => List.forall_mem_singleton.mpr (hended head s t ended _)
      uncaught := fun s => List.forall_mem_singleton.mpr (huncaught s.errno) }
  exact moments_rel hS (fun a s => List.forall_mem_singleton.mpr (hstep a s)) p

end Program

end PosixBridge
