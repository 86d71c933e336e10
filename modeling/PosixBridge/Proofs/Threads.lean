import PosixBridge.Proofs.Context

/-!
# Threads keep their errno to themselves

A thread runs while its ancestors wait, and they share the slots and the log settings with it.
Errno they do not share: `Procedure.Local` says of a procedure that the errno of the waiting
threads is nothing to it, that it does the same whatever they are and puts them back untouched.
The primitives are local, so are sequences of local procedures, and a thread around a local
procedure is local too, although it is a waiting thread that it starts from and comes back to.
So every program is local, in either build (`Program.local_perform`).

> `threads_leak_no_errno`: a thread does the same for all errno values of its parent and its
> other ancestors, and at no point of its run is one of them changed.

A guard that another thread has captured is a number in a shared slot, and to drop it is to
write this number to one's own errno.
-/

namespace PosixBridge

open Procedure Bridge

/-- Whether a procedure neither looks at the errno of waiting threads nor changes it. -/
def Procedure.Local {α : Type} (x : Procedure α) : Prop :=
  ∀ s waiting, x { s with waiting } =
    ⟨(x s).trace, { (x s).state with waiting }, (x s).outcome⟩

namespace Procedure

variable {α β : Type}

/-- What is local leaves the waiting threads as they are. -/
theorem Local.waiting_eq {x : Procedure α} (hx : x.Local) (s : State) :
    (x s).state.waiting = s.waiting :=
  congrArg (·.state.waiting) (hx s s.waiting)

theorem local_pure (a : α) : Local (pure a : Procedure α) := fun _ _ => rfl

theorem local_report (r : Report) : (report r).Local := fun _ _ => rfl

theorem local_getErrno : getErrno.Local := fun _ _ => rfl

/-- Local parts in sequence are local. -/
theorem Local.bind {x : Procedure α} {f : α → Procedure β} (hx : x.Local)
    (hf : ∀ a, (f a).Local) : (x >>= f).Local := by
  intro s waiting
  have hfirst := hx s waiting
  rcases hrun : x s with ⟨trace, t, ended⟩
  rw [hrun] at hfirst
  cases ended with
  | panicked => rw [bind_of_panicked hfirst, bind_of_panicked hrun]
  | returned a => rw [bind_of_returned hfirst, bind_of_returned hrun, hf a t waiting]

theorem Local.map {x : Procedure α} (hx : x.Local) (f : α → β) : (f <$> x).Local := by
  rw [map_eq_pure_bind]
  exact hx.bind fun a => local_pure (f a)

theorem Local.catching {body : Procedure Unit} (hbody : body.Local) :
    (Procedure.catching body).Local := by
  intro s waiting
  rw [catching_apply, catching_apply, hbody s waiting]

/-- The parent waits behind the errno of the thread, in front of the other ancestors. -/
theorem Local.onThread {body : Procedure Unit} (hbody : body.Local) :
    (Procedure.onThread body).Local := by
  intro s waiting
  have hinside := hbody s.spawn (s.errno :: waiting)
  have hjoin : (body s.spawn).state.join = _ := State.join_eq (hbody.waiting_eq s.spawn)
  have hspawn : State.spawn { s with waiting } = { s.spawn with waiting := s.errno :: waiting } :=
    rfl
  rw [onThread_apply, onThread_apply, hspawn, hinside]
  dsimp only
  rw [hjoin]
  rfl

end Procedure

namespace Bridge

/-- Keeping errno is local around what is local: it is the running thread's errno. -/
theorem local_keepErrno {α : Type} {body : Procedure α} (hbody : body.Local) :
    (keepErrno body).Local := by
  intro s waiting
  rw [keepErrno_apply, keepErrno_apply, hbody s waiting]

theorem local_call {t : ReturnType} {raw : Procedure t.Word} (hraw : raw.Local) :
    (call t raw).Local :=
  local_keepErrno (hraw.bind fun _ => local_getErrno.bind fun _ => local_pure _)

theorem local_stub (op : Operation) (args : Arguments op.parameters) : (stub op args).Local :=
  fun _ _ => rfl

/-- An exported operation is local around a local host, in either build. -/
theorem local_exported {build : Build} {host : Host} {op : Operation}
    {args : Arguments op.parameters} (hhost : (host op args).Local) :
    (exported build host op args).Local := by
  cases build with
  | native => exact (local_call (hhost.map op.ofHost)).bind fun _ => local_pure _
  | unsupported => exact local_stub op args

end Bridge

/-- A simple step touches the errno of the running thread only. -/
theorem Action.local_perform (a : Action Call) : a.perform.Local := by
  intro s waiting
  rw [perform_apply, perform_apply]
  cases a with
  | set | saved | stub | log | panic => rfl
  | capture slot =>
    cases hs : s.slots.get? slot with
    | none => simp [reported, after, hs]
    | some held => simp [reported, after, hs]
  | drop slot =>
    cases hs : s.slots.get? slot with
    | none => simp [reported, after, hs]
    | some held => simp [reported, after, hs]

/-- A step with a body is local around a local body, a thread included. -/
theorem Scope.local_perform (head : Scope HostedCall) (build : Build) {body : Procedure Unit}
    (hbody : body.Local) : (head.perform build body).Local := by
  cases head with
  | call type raw =>
    exact (local_call (hbody.bind fun _ => local_pure raw)).bind fun _ => local_report _
  | guard =>
    refine local_getErrno.bind fun saved => ?_
    exact (local_keepErrno (hbody.bind fun _ => local_getErrno)).bind fun _ => local_report _
  | posix c =>
    have hhost : (Host.scripted (c.answer.setWidth 64) body c.op c.args).Local :=
      (local_report _).bind fun _ => hbody.bind fun _ => local_pure _
    exact (local_exported hhost).bind fun _ => local_report _
  | recover => exact hbody.catching.bind fun _ => local_report _
  | thread => exact hbody.onThread.bind fun _ => local_report _

namespace Program

/-- No program looks at the errno of a waiting thread or changes it. -/
theorem local_perform (build : Build) (p : Program) : (perform build p).Local := by
  induction p with
  | done => exact local_pure ()
  | step a rest ih => exact a.local_perform.bind fun _ => ih
  | scope head body rest ihb ihr => exact (head.local_perform build ihb).bind fun _ => ihr

/-- What a step on a thread of its own does to the thread that waits for it. -/
theorem perform_thread (build : Build) (body : Program) (s : State) :
    perform build (.scope .thread body .done) s =
      let inside := perform build body s.spawn
      ⟨⟨.entered .thread, 0⟩ :: (inside.trace ++ ⟨.left .thread, s.errno⟩ ::
          (match inside.outcome with
            | .returned _ => [⟨.reported (.thread inside.state.errno), s.errno⟩]
            | .panicked => [])),
        { s with slots := inside.state.slots, log := inside.state.log }, inside.outcome⟩ := by
  have hstep : perform build (.scope .thread body .done) =
      (onThread (perform build body) >>= fun inner => report (.thread inner)) := by
    rw [perform, perform, bind_pure_unit]
    rfl
  have hjoin := State.join_eq ((local_perform build body).waiting_eq s.spawn)
  have hthread := onThread_apply (perform build body) s
  rw [hstep]
  dsimp only at hthread ⊢
  rw [hjoin] at hthread
  cases hended : (perform build body s.spawn).outcome with
  | returned =>
    rw [hended] at hthread
    rw [bind_of_returned hthread, report_apply]
    simp
  | panicked =>
    rw [hended] at hthread
    rw [bind_of_panicked hthread]

end Program

open Program in
/-- At every place that a run reaches, the threads that waited at its start wait still, behind
those that have been started since, and with the same errno. -/
theorem Script.Context.arrival_waiting (place : Program.Context) {s u : State}
    (hu : place.arrival s = some u) : ∃ nearer, u.waiting = nearer ++ s.waiting := by
  induction place generalizing s with
  | before rest =>
    obtain rfl := Option.some.inj hu
    exact ⟨[], rfl⟩
  | afterStep action context ih =>
    have hstep := action.local_perform.waiting_eq s
    rw [arrival] at hu
    rcases hrun : action.perform s with ⟨trace, t, ended⟩
    rw [hrun] at hu hstep
    cases ended with
    | panicked => exact absurd hu (by simp)
    | returned => rw [← hstep]; exact ih hu
  | afterScope head body context ih =>
    have hstep := (head.local_perform .native (local_perform .native body)).waiting_eq s
    rw [arrival] at hu
    rcases hrun : head.perform .native (perform .native body) s with ⟨trace, t, ended⟩
    rw [hrun] at hu hstep
    cases ended with
    | panicked => exact absurd hu (by simp)
    | returned => rw [← hstep]; exact ih hu
  | inside head context rest ih =>
    obtain ⟨nearer, hnearer⟩ := ih hu
    cases head with
    | call | guard | posix | recover => exact ⟨nearer, hnearer⟩
    | thread => exact ⟨nearer ++ [s.errno], by rw [hnearer, List.append_assoc]; rfl⟩

open Program in
/-- **Threads do not leak errno into each other.** Start a thread from two states that agree on
the slots and the log settings, whatever the errno of the parent and of its other ancestors is in
each. In both, the thread reports the same, ends with the same errno, and leaves the same slots
and log settings. Its parent and their ancestors have their errno afterwards, and they have it at
every place that the thread can reach too, so that a guard dropped there, whoever has captured
it, changes the errno of the thread that drops it and no other. -/
theorem threads_leak_no_errno (build : Build) (body : Program) {s s' : State}
    (hslots : s'.slots = s.slots) (hlog : s'.log = s.log) :
    let inside (u : State) := perform build body u.spawn
    let run (u : State) := perform build (.scope .thread body .done) u
    (inside s').trace = (inside s).trace ∧
    (inside s').outcome = (inside s).outcome ∧
    (inside s').state.errno = (inside s).state.errno ∧
    (run s').state.slots = (run s).state.slots ∧ (run s').state.log = (run s).state.log ∧
    (∀ u, (run u).state.errno = u.errno ∧ (run u).state.waiting = u.waiting ∧
      (run u).outcome = (inside u).outcome ∧
      (run u).trace.events = (inside u).trace.events ++
        (match (inside u).outcome with
          | .returned _ => [⟨.thread (inside u).state.errno, u.errno⟩]
          | .panicked => [])) ∧
    ∀ (place : Program.Context) u, place.arrival s.spawn = some u →
      (∃ nearer, u.waiting = nearer ++ s.errno :: s.waiting) ∧
      ∀ slot held, u.slots.get? slot = some held →
        ((Action.drop slot).perform u).state =
          { u with errno := held, slots := u.slots.erase slot } := by
  intro inside run
  have hspawn : s'.spawn = { s.spawn with waiting := s'.errno :: s'.waiting } := by
    rw [State.spawn, State.spawn, hslots, hlog]
  have hinside : inside s' = ⟨(inside s).trace,
      { (inside s).state with waiting := s'.errno :: s'.waiting }, (inside s).outcome⟩ := by
    show perform build body s'.spawn = _
    rw [hspawn]
    exact local_perform build body s.spawn _
  have hrun (u : State) : run u = _ := perform_thread build body u
  refine ⟨by rw [hinside], by rw [hinside], by rw [hinside], ?_, ?_, ?_, ?_⟩
  · rw [hrun, hrun]
    exact congrArg (·.state.slots) hinside
  · rw [hrun, hrun]
    exact congrArg (·.state.log) hinside
  · intro u
    rw [hrun]
    refine ⟨rfl, rfl, rfl, ?_⟩
    rw [Trace.events_entered, Trace.events_append, Trace.events_left]
    refine congrArg (_ ++ ·) ?_
    show Trace.events (match (inside u).outcome with
      | .returned _ => _
      | .panicked => _) = _
    cases (inside u).outcome <;> rfl
  · intro place u hu
    refine ⟨place.arrival_waiting hu, fun slot held hheld => ?_⟩
    rw [Action.perform_apply]
    exact Action.after_drop_of_held hheld

open Program in
/-- A guard captured with errno 5 is dropped on a thread of its own, under a parent with errno 1
that has a parent with errno 2, and under one with errno 9 that has none. -/
theorem threads_leak_no_errno_handed_guard :
    let slots := Slots.empty.insert "guard" 5
    let s : State := ⟨1, [2], slots, .initial⟩
    let s' : State := ⟨9, [], slots, .initial⟩
    let body : Program := .step (.drop "guard") .done
    let run := perform .native (.scope .thread body .done)
    (perform .native body s'.spawn).trace = (perform .native body s.spawn).trace ∧
      (perform .native body s.spawn).state.errno = 5 ∧
      (run s).state.errno = 1 ∧ (run s).state.waiting = [2] ∧
      (run s').state.errno = 9 ∧ (run s').state.waiting = [] := by
  intro slots s s' body run
  have hslots : s'.slots = s.slots := rfl
  have hlog : s'.log = s.log := rfl
  obtain ⟨htrace, -, -, -, -, hkept, -⟩ := threads_leak_no_errno .native body hslots hlog
  exact ⟨htrace, rfl, (hkept s).1, (hkept s).2.1, (hkept s').1, (hkept s').2.1⟩

end PosixBridge
