import PosixBridge.Admission

/-!
# How the steps of a native program run

Every proof about whole runs starts here: a run of a step, from any state, is one
equation, and past these equations neither a step nor a scope is unfolded again.

> `Action.perform_apply`: a simple step leaves one mark, goes to the state `after`, and
> panics if it is the panic.
>
> `Scope.perform_native`: a step with a body leaves its `opening`, the body's own trace,
> its `closing`, and, unless a panic passes through it, one report.

The five kinds of scope differ in these four parts only, so a property of runs needs one
case for the simple steps and one for all the scopes.

`Program.perform_outcome` says that whether a native program panics does not depend on
the state: a program has no branches, so the panic that ends it can be read off the text.
-/

namespace PosixBridge

open Procedure Bridge

/-! ## Events of a trace -/

namespace Trace

@[simp] theorem events_nil : Trace.events [] = [] := rfl

theorem events_append (xs ys : Trace) :
    Trace.events (xs ++ ys) = xs.events ++ ys.events :=
  List.filterMap_append

@[simp] theorem events_reported (r : Report) (e : Int32) (xs : Trace) :
    Trace.events (⟨.reported r, e⟩ :: xs) = ⟨r, e⟩ :: xs.events := rfl

@[simp] theorem events_entered (f : Frame) (e : Int32) (xs : Trace) :
    Trace.events (⟨.entered f, e⟩ :: xs) = xs.events := rfl

@[simp] theorem events_left (f : Frame) (e : Int32) (xs : Trace) :
    Trace.events (⟨.left f, e⟩ :: xs) = xs.events := rfl

end Trace

namespace Outcome

/-- The outcome with another value, if there is a value. -/
def map {α β : Type} (f : α → β) : Outcome α → Outcome β
  | .returned a => .returned (f a)
  | .panicked => .panicked

/-- Whether a run has ended by a panic. -/
def isPanic {α : Type} : Outcome α → Bool
  | .returned _ => false
  | .panicked => true

end Outcome

namespace Procedure

variable {α β : Type}

theorem map_apply {x : Procedure α} {f : α → β} {s t : State} {trace : Trace}
    {ended : Outcome α} (h : x s = ⟨trace, t, ended⟩) :
    (f <$> x) s = ⟨trace, t, ended.map f⟩ := by
  rw [map_eq_pure_bind]
  cases ended with
  | returned a => rw [bind_of_returned h]; simp [pure_apply, Outcome.map]
  | panicked => rw [bind_of_panicked h]; rfl

/-- What a procedure returns is reported behind its trace, if it returns. -/
theorem bind_report_apply {x : Procedure α} {f : α → Report} {s t : State}
    {trace : Trace} {ended : Outcome α} (h : x s = ⟨trace, t, ended⟩) :
    (x >>= fun a => report (f a)) s =
      ⟨trace ++ (match ended with
          | .returned a => [⟨.reported (f a), t.errno⟩]
          | .panicked => []),
        t, ended.map fun _ => ()⟩ := by
  cases ended with
  | returned a => rw [bind_of_returned h, report_apply]; rfl
  | panicked => rw [bind_of_panicked h, List.append_nil]; rfl

theorem andErrno_apply {body : Procedure Unit} {s t : State} {trace : Trace}
    {ended : Outcome Unit} (h : body s = ⟨trace, t, ended⟩) :
    (do body; getErrno) s = ⟨trace, t, ended.map fun _ => t.errno⟩ := by
  cases ended with
  | returned u => rw [bind_of_returned h, getErrno_apply]; simp [Outcome.map]
  | panicked => rw [bind_of_panicked h]; rfl

/-- Catching lets everything happen and returns whether it was a panic. -/
theorem catching_apply (body : Procedure Unit) (s : State) :
    catching body s =
      ⟨(body s).trace, (body s).state, .returned (body s).outcome.isPanic⟩ := by
  rw [catching]
  cases (body s).outcome <;> rfl

/-- A thread starts with errno 0, and its end brings its parent back. -/
theorem onThread_apply (body : Procedure Unit) (s : State) :
    onThread body s =
      let r := body s.spawn
      ⟨⟨.entered .thread, 0⟩ :: (r.trace ++ [⟨.left .thread, r.state.join.errno⟩]),
        r.state.join, r.outcome.map fun _ => r.state.errno⟩ := by
  dsimp only
  rcases hb : body s.spawn with ⟨trace, t, ended⟩
  rw [onThread, bind_of_returned (modifyState_apply _ s), bind_of_returned (mark_apply _ _)]
  simp only [ensuring, andErrno_apply hb]
  rfl

end Procedure

/-! ## The bridge -/

namespace Bridge

variable {α : Type}

/-- Whatever the body does and however it ends, errno comes out as it went in. -/
theorem keepErrno_apply (body : Procedure α) (s : State) :
    keepErrno body s =
      ⟨⟨.entered .keeping, s.errno⟩ :: ((body s).trace ++ [⟨.left .keeping, s.errno⟩]),
        { (body s).state with errno := s.errno }, (body s).outcome⟩ := rfl

/-- A call encodes the errno at the end of its body, and restores that of its start. -/
theorem call_apply (t : ReturnType) (raw : Procedure t.Word) (s : State) :
    call t raw s =
      ⟨⟨.entered .keeping, s.errno⟩ :: ((raw s).trace ++ [⟨.left .keeping, s.errno⟩]),
        { (raw s).state with errno := s.errno },
        (raw s).outcome.map (t.inBand · (raw s).state.errno)⟩ := by
  rcases hr : raw s with ⟨trace, u, ended⟩
  cases ended with
  | returned v =>
    rw [call, keepErrno_apply, bind_of_returned hr]
    simp [bind_of_returned (getErrno_apply u), pure_apply, Outcome.map]
  | panicked =>
    rw [call, keepErrno_apply, bind_of_panicked hr]
    rfl

/-- A call whose host answers: the answer in band, and the caller's errno. -/
theorem call_of_returned {t : ReturnType} {raw : Procedure t.Word} {s u : State}
    {trace : Trace} {r : t.Word} (h : raw s = ⟨trace, u, .returned r⟩) :
    call t raw s =
      ⟨⟨.entered .keeping, s.errno⟩ :: (trace ++ [⟨.left .keeping, s.errno⟩]),
        { u with errno := s.errno }, .returned (t.inBand r u.errno)⟩ := by
  rw [call_apply, h]
  rfl

theorem forward_apply (host : Host) (op : Operation) (args : Arguments op.parameters)
    (s : State) :
    forward host op args s =
      ⟨⟨.entered .keeping, s.errno⟩ ::
          ((host op args s).trace ++ [⟨.left .keeping, s.errno⟩]),
        { (host op args s).state with errno := s.errno },
        (host op args s).outcome.map
          fun r => op.result.inBand (op.ofHost r) (host op args s).state.errno⟩ := by
  rcases hr : host op args s with ⟨trace, u, ended⟩
  rw [forward, call_apply, map_apply hr]
  cases ended <;> rfl

/-- The native build exports the operation performed by the host, which writes nothing. -/
theorem exported_native_apply (host : Host) (op : Operation)
    (args : Arguments op.parameters) (s : State) :
    exported .native host op args s =
      ⟨⟨.entered .keeping, s.errno⟩ ::
          ((host op args s).trace ++ [⟨.left .keeping, s.errno⟩]),
        { (host op args s).state with errno := s.errno },
        (host op args s).outcome.map fun r =>
          ⟨op.result.inBand (op.ofHost r) (host op args s).state.errno, .silent⟩⟩ := by
  have hmap : exported .native host op args = (⟨·, .silent⟩) <$> forward host op args := by
    rw [map_eq_pure_bind]
    rfl
  rw [hmap, map_apply (forward_apply host op args s)]
  cases (host op args s).outcome <;> rfl

end Bridge

/-- A scripted host reports the call before it does anything else. -/
theorem Host.scripted_apply (answer : BitVec 64) {body : Procedure Unit} (op : Operation)
    (args : Arguments op.parameters) {s t : State} {trace : Trace} {ended : Outcome Unit}
    (h : body s = ⟨trace, t, ended⟩) :
    Host.scripted answer body op args s =
      ⟨⟨.reported (.host op args), s.errno⟩ :: trace, t,
        ended.map fun _ => answer.setWidth op.hostResult.width⟩ := by
  have hmap : (do body; return answer.setWidth op.hostResult.width) s =
      ⟨trace, t, ended.map fun _ => answer.setWidth op.hostResult.width⟩ := by
    rw [← map_apply h, map_eq_pure_bind]
  rw [Host.scripted, bind_of_returned (report_apply _ s), hmap]
  rfl

/-! ## Simple steps -/

namespace Action

/-- The state that a simple step leaves. -/
def after (s : State) : Action Call → State
  | .set value => { s with errno := value }
  | .capture slot =>
    match s.slots.get? slot with
    | some _ => s
    | none => { s with slots := s.slots.insert slot s.errno }
  | .drop slot =>
    match s.slots.get? slot with
    | some held => { s with errno := held, slots := s.slots.erase slot }
    | none => s
  | .log settings => { s with log := settings }
  | .saved _ | .stub _ | .panic => s

section
variable {s : State} {slot : String} {held : Int32}

/-- A capture saves errno under a free name. -/
theorem after_capture_of_free (h : s.slots.get? slot = none) :
    after s (.capture slot) = { s with slots := s.slots.insert slot s.errno } := by
  simp only [after, h]

/-- A capture does nothing if the name is in use. -/
theorem after_capture_of_held (h : s.slots.get? slot = some held) :
    after s (.capture slot) = s := by
  simp only [after, h]

/-- A drop does nothing if the name is free. -/
theorem after_drop_of_free (h : s.slots.get? slot = none) : after s (.drop slot) = s := by
  simp only [after, h]

/-- A drop writes the number saved and frees the name. -/
theorem after_drop_of_held (h : s.slots.get? slot = some held) :
    after s (.drop slot) = { s with errno := held, slots := s.slots.erase slot } := by
  simp only [after, h]

end

/-- What a simple step reports. -/
def reported (s : State) : Action Call → Report
  | .set value => .set value
  | .capture slot =>
    .capture slot (match s.slots.get? slot with
      | some _ => none
      | none => some s.errno)
  | .saved slot => .saved slot (s.slots.get? slot)
  | .drop slot => .drop slot (s.slots.get? slot)
  | .stub c =>
    .stub c.op ⟨c.op.result.encode Errno.ENOSYS.code,
      .diagnostic s.log (Diagnostic.message c.op.name)⟩
  | .log settings => .log settings
  | .panic => .panic

/-- How a simple step ends. -/
def outcome {γ : Type} (a : Action γ) : Outcome Unit :=
  if a.panics then .panicked else .returned ()

/-- A simple step leaves one mark, whatever it finds. -/
theorem perform_apply (a : Action Call) (s : State) :
    a.perform s =
      ⟨[⟨.reported (a.reported s), (a.after s).errno⟩], a.after s, a.outcome⟩ := by
  cases a with
  | set value => rfl
  | saved slot => rfl
  | stub c => rfl
  | log settings => rfl
  | panic => rfl
  | capture slot =>
    rw [perform, bind_of_returned (getState_apply s)]
    cases hs : s.slots.get? slot with
    | some held => simp [report_apply, reported, after, outcome, panics, hs]
    | none =>
      simp only [hs, bind_of_returned (modifyState_apply _ s), report_apply, reported,
        after, outcome, panics]
      rfl
  | drop slot =>
    rw [perform, bind_of_returned (getState_apply s)]
    cases hs : s.slots.get? slot with
    | none => simp [report_apply, reported, after, outcome, panics, hs]
    | some held =>
      simp only [hs, bind_of_returned (setErrno_apply held s),
        bind_of_returned (modifyState_apply _ _), report_apply, reported, after, outcome,
        panics]
      rfl

end Action

/-! ## Steps that hold a body -/

namespace Scope

/-- The marks before the body of a native step. -/
def opening (s : State) : Scope HostedCall → Trace
  | .call .. | .guard => [⟨.entered .keeping, s.errno⟩]
  | .posix c => [⟨.entered .keeping, s.errno⟩, ⟨.reported (.host c.op c.args), s.errno⟩]
  | .recover => []
  | .thread => [⟨.entered .thread, 0⟩]

/-- The state in which the body starts. -/
def inner (s : State) : Scope HostedCall → State
  | .thread => s.spawn
  | .call .. | .guard | .posix _ | .recover => s

/-- The state that the step leaves, started in `s`, when its body has left `t`. -/
def after (s t : State) : Scope HostedCall → State
  | .call .. | .guard | .posix _ => { t with errno := s.errno }
  | .recover => t
  | .thread => t.join

/-- The marks when the body is left, whichever way that happens. -/
def closing (s t : State) : Scope HostedCall → Trace
  | .call .. | .guard | .posix _ => [⟨.left .keeping, s.errno⟩]
  | .recover => []
  | .thread => [⟨.left .thread, t.join.errno⟩]

theorem events_closing (head : Scope HostedCall) (s t : State) :
    Trace.events (head.closing s t) = [] := by
  cases head <;> rfl

/-- What the step reports when no panic passes through it. -/
def reported (s t : State) (ended : Outcome Unit) : Scope HostedCall → Report
  | .call type raw => .call type (type.inBand raw t.errno)
  | .guard => .guard s.errno t.errno
  | .posix c => .posix c.op ⟨c.op.result.inBand (c.op.ofHost c.answer) t.errno, .silent⟩
  | .recover => .recover ended.isPanic
  | .thread => .thread t.errno

/-- How the step ends when its body ends so: only a recovery stops a panic. -/
def outcome (ended : Outcome Unit) : Scope HostedCall → Outcome Unit
  | .recover => .returned ()
  | .call .. | .guard | .posix _ | .thread => ended

/-- The report of the step, unless a panic passes through it. -/
def ending (head : Scope HostedCall) (s t : State) (ended : Outcome Unit) : Trace :=
  match head.outcome ended with
  | .returned _ => [⟨.reported (head.reported s t ended), (head.after s t).errno⟩]
  | .panicked => []

/-- Leaving a scope is no event. -/
theorem events_step (head : Scope HostedCall) (s t : State) (trace : Trace)
    (ended : Outcome Unit) :
    Trace.events (head.opening s ++ (trace ++ (head.closing s t ++ head.ending s t ended))) =
      Trace.events (head.opening s) ++
        (trace.events ++ Trace.events (head.ending s t ended)) := by
  rw [Trace.events_append, Trace.events_append, Trace.events_append, events_closing,
    List.nil_append]

/-- A native step around a body: its opening, the body's trace, its closing, its report. -/
theorem perform_native (head : Scope HostedCall) {body : Procedure Unit} {s t : State}
    {trace : Trace} {ended : Outcome Unit} (hb : body (head.inner s) = ⟨trace, t, ended⟩) :
    head.perform .native body s =
      ⟨head.opening s ++ (trace ++ (head.closing s t ++ head.ending s t ended)),
        head.after s t, head.outcome ended⟩ := by
  cases head with
  | call type raw =>
    -- The body's errno is read after its last step, and the word encoded from it.
    rw [inner] at hb
    have hraw : (do body; return raw) s = ⟨trace, t, ended.map fun _ => raw⟩ := by
      rw [← map_apply hb, map_eq_pure_bind]
    have hcall := call_apply type (do body; return raw) s
    rw [hraw] at hcall
    refine (bind_report_apply hcall).trans ?_
    cases ended <;> simp [opening, closing, ending, after, outcome, reported, Outcome.map]
  | guard =>
    rw [inner] at hb
    have hkeep := keepErrno_apply (do body; getErrno) s
    rw [andErrno_apply hb] at hkeep
    refine (bind_of_returned (getErrno_apply s)).trans ?_
    rw [bind_report_apply hkeep]
    cases ended <;> simp [opening, closing, ending, after, outcome, reported, Outcome.map]
  | posix c =>
    -- The host reports its call inside the scope, before the body.
    rw [inner] at hb
    have hhost := Host.scripted_apply (c.answer.setWidth 64) c.op c.args hb
    rw [Host.setWidth_answer] at hhost
    have hposix := exported_native_apply (.scripted (c.answer.setWidth 64) body) c.op c.args s
    rw [hhost] at hposix
    refine (bind_report_apply hposix).trans ?_
    cases ended <;> simp [opening, closing, ending, after, outcome, reported, Outcome.map]
  | recover =>
    -- A recovery leaves no marks, and reports whichever way its body has ended.
    rw [inner] at hb
    have hcatch := catching_apply body s
    rw [hb] at hcatch
    refine (bind_report_apply hcatch).trans ?_
    rfl
  | thread =>
    rw [inner] at hb
    have hthread := onThread_apply body s
    rw [hb] at hthread
    refine (bind_report_apply hthread).trans ?_
    cases ended <;> simp [opening, closing, ending, after, outcome, reported, Outcome.map]

end Scope

/-! ## Programs -/

/-- The simple steps of a script, at any depth. -/
def Script.actions {α σ : Type} : Script α σ → List α
  | done => []
  | step action rest => action :: actions rest
  | scope _ body rest => actions body ++ actions rest

namespace Program

/-- After a step that does not panic, the rest runs from the state it has left. -/
theorem perform_step {a : Action Call} (ha : a.panics = false) (rest : Program)
    (build : Build) (s : State) :
    perform build (.step a rest) s =
      let r := perform build rest (a.after s)
      ⟨⟨.reported (a.reported s), (a.after s).errno⟩ :: r.trace, r.state, r.outcome⟩ := by
  have hstep := a.perform_apply s
  rw [Action.outcome, if_neg (by simp [ha])] at hstep
  rw [perform, bind_of_returned hstep]
  rfl

theorem perform_step_of_panics {a : Action Call} (ha : a.panics = true) (rest : Program)
    (build : Build) (s : State) :
    perform build (.step a rest) s =
      ⟨[⟨.reported (a.reported s), (a.after s).errno⟩], a.after s, .panicked⟩ := by
  have hstep := a.perform_apply s
  rw [Action.outcome, if_pos ha] at hstep
  rw [perform, bind_of_panicked hstep]

section
variable {head : Scope HostedCall} {body : Program} {s t : State} {trace : Trace}
  {ended : Outcome Unit}

/-- After a step with a body that no panic leaves, the rest runs. -/
theorem perform_scope (hb : perform .native body (head.inner s) = ⟨trace, t, ended⟩)
    (h : head.outcome ended = .returned ()) (rest : Program) :
    perform .native (.scope head body rest) s =
      let r := perform .native rest (head.after s t)
      ⟨head.opening s ++ (trace ++ (head.closing s t ++ head.ending s t ended)) ++ r.trace,
        r.state, r.outcome⟩ := by
  have hhead := head.perform_native hb
  rw [h] at hhead
  rw [perform, bind_of_returned hhead]

/-- After a step with a body that a panic leaves, nothing runs. -/
theorem perform_scope_of_panicked
    (hb : perform .native body (head.inner s) = ⟨trace, t, ended⟩)
    (h : head.outcome ended = .panicked) (rest : Program) :
    perform .native (.scope head body rest) s =
      ⟨head.opening s ++ (trace ++ head.closing s t), head.after s t, .panicked⟩ := by
  have hhead := head.perform_native hb
  rw [h, Scope.ending, h, List.append_nil] at hhead
  rw [perform, bind_of_panicked hhead]

end

/-- Whether a panic passes through a step can be read off the step and its body. -/
theorem scope_outcome (head : Scope HostedCall) (m : Bool) :
    head.outcome (if m then .panicked else .returned ()) =
      if !head.recovers && m then .panicked else .returned () := by
  cases head <;> cases m <;> rfl

/-- Whether a native program panics is written in it: no state keeps a panic from running. -/
theorem perform_outcome (p : Program) (s : State) :
    (perform .native p s).outcome = if mayPanic p then .panicked else .returned () := by
  -- The state of the rest is another one, but the text of the rest is all that counts.
  induction p generalizing s with
  | done => rfl
  | step a rest ih =>
    cases ha : a.panics with
    | true => rw [perform_step_of_panics ha, mayPanic, ha]; rfl
    | false => rw [perform_step ha, mayPanic, ha, Bool.false_or]; exact ih _
  | scope head body rest ihb ihr =>
    rcases hb : perform .native body (head.inner s) with ⟨trace, t, ended⟩
    have hended := scope_outcome head (mayPanic body)
    rw [← ihb (head.inner s), hb] at hended
    rw [mayPanic]
    cases hm : !head.recovers && mayPanic body with
    | true =>
      rw [hm, if_pos rfl] at hended
      rw [perform_scope_of_panicked hb hended]
      rfl
    | false =>
      rw [hm, if_neg Bool.false_ne_true] at hended
      rw [perform_scope hb hended, Bool.false_or]
      exact ihr _

/-- A whole run: the program's, and a last report if a panic has ended it. -/
theorem execute_apply (build : Build) (p : Program) :
    p.execute build =
      let r := perform build p .initial
      ⟨r.trace ++ (if r.outcome.isPanic then [⟨.reported .uncaught, r.state.errno⟩] else []),
        r.state, .returned ()⟩ := by
  have hcatch := catching_apply (perform build p) .initial
  rw [execute, performWhole, bind_of_returned hcatch]
  dsimp only
  cases (perform build p .initial).outcome.isPanic <;> rfl

/-- The events of a whole run, with the report of a panic that nobody stops. -/
theorem events_apply (build : Build) (p : Program) :
    p.events build =
      let r := perform build p .initial
      r.trace.events ++ (if r.outcome.isPanic then [⟨.uncaught, r.state.errno⟩] else []) := by
  rw [events, execute_apply]
  dsimp only
  rw [Trace.events_append]
  cases (perform build p .initial).outcome.isPanic <;> rfl

end Program

end PosixBridge
