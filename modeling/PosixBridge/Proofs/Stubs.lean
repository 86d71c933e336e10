import PosixBridge.Proofs.Steps

/-!
# The unsupported build performs stubs

What the unsupported build exports under an operation's name is the stub. Seen from a
program: `Program.stubbed` replaces every forwarded operation by the stub of that operation,
without the host's answer and body, and then the native build does the same as the
unsupported one does with the program itself. Only the reports of the replaced steps are
headed by another word (`Report.asStub`).

> `unsupported_as_stubs`: both runs report the same and end in the same state; and as the
> stub looks at nothing but the operation, programs that are `AlikeButCalls` cannot be told
> apart.

One induction over programs relates the two builds run by run (`perform_unsupported`); the
steps that are not forwarded operations do not ask which build they are in.
-/

namespace PosixBridge

open Procedure Bridge

/-- The forwarded operation, if the step is one. -/
def Scope.exported? {δ : Type} : Scope δ → Option δ
  | .posix c => some c
  | .call .. | .guard | .recover | .thread => none

/-! ## Reports of a stub -/

/-- The report as a stub makes it. -/
def Report.asStub : Report → Report
  | .posix op reply => .stub op reply
  | r => r

/-- The event as a stub makes it. -/
def Event.asStub (e : Event) : Event := { e with report := e.report.asStub }

/-- The mark as a stub makes it. -/
def Mark.asStub (m : Mark) : Mark :=
  match m.point with
  | .reported r => ⟨.reported r.asStub, m.errno⟩
  | .entered _ | .left _ => m

/-- The run with its reports as stubs make them. -/
def Run.asStub {α : Type} (r : Run α) : Run α := { r with trace := r.trace.map Mark.asStub }

theorem Trace.events_map_asStub (trace : Trace) :
    Trace.events (trace.map Mark.asStub) = trace.events.map Event.asStub := by
  induction trace with
  | nil => rfl
  | cons m rest ih =>
    obtain ⟨point, errno⟩ := m
    cases point with
    | reported r => exact congrArg (List.cons _) ih
    | entered frame | left frame => exact ih

namespace Program

/-- The program with the stub of an operation in place of the operation. -/
def stubbed : Program → Program
  | .done => .done
  | .step action rest => .step action (stubbed rest)
  | .scope head body rest =>
    match head.exported? with
    | some call => .step (.stub call.toCall) (stubbed rest)
    | none => .scope head (stubbed body) (stubbed rest)

/-- Programs that differ in the arguments, the host's answers and the bodies of forwarded
operations only. -/
inductive AlikeButCalls : Program → Program → Prop
  | done : AlikeButCalls .done .done
  | step (action : Action Call) {rest rest' : Program} (hrest : AlikeButCalls rest rest') :
      AlikeButCalls (.step action rest) (.step action rest')
  | posix {c c' : HostedCall} (hop : c'.op = c.op) (body body' : Program)
      {rest rest' : Program} (hrest : AlikeButCalls rest rest') :
      AlikeButCalls (.scope (.posix c) body rest) (.scope (.posix c') body' rest')
  | scope (head : Scope HostedCall) {body body' rest rest' : Program}
      (hbody : AlikeButCalls body body') (hrest : AlikeButCalls rest rest') :
      AlikeButCalls (.scope head body rest) (.scope head body' rest')

end Program

/-! ## Steps in the unsupported build -/

namespace Action

/-- A simple step is told the same in both builds. -/
theorem asStub_mark (a : Action Call) (s : State) (errno : Int32) :
    Mark.asStub ⟨.reported (a.reported s), errno⟩ = ⟨.reported (a.reported s), errno⟩ := by
  cases a <;> rfl

end Action

namespace Scope

variable {head : Scope HostedCall}

/-- Only a forwarded operation is exported. -/
theorem eq_posix_of_exported {c : HostedCall} (h : head.exported? = some c) :
    head = .posix c := by
  cases head with
  | posix c' => exact congrArg Scope.posix (Option.some.inj h)
  | call | guard | recover | thread => exact absurd h (by simp [exported?])

/-- Only forwarded operations differ from build to build. -/
theorem perform_of_not_exported (h : head.exported? = none) (build : Build)
    (body : Procedure Unit) : head.perform build body = head.perform .native body := by
  cases head with
  | posix c => exact absurd h (by simp [exported?])
  | call | guard | recover | thread => rfl

/-- A forwarded operation is refused: it neither runs the host's body nor changes anything. -/
theorem perform_unsupported (c : HostedCall) (body : Procedure Unit) (s : State) :
    (Scope.posix c).perform .unsupported body s =
      ⟨[⟨.reported (.posix c.op ⟨c.op.result.encode Errno.ENOSYS.code,
          .diagnostic s.log (Diagnostic.message c.op.name)⟩), s.errno⟩], s, .returned ()⟩ := rfl

/-- The marks before a body are told the same in both builds. -/
theorem asStub_opening (h : head.exported? = none) (s : State) :
    (head.opening s).map Mark.asStub = head.opening s := by
  cases head with
  | posix c => exact absurd h (by simp [exported?])
  | call | guard | recover | thread => rfl

theorem asStub_closing (s t : State) :
    (head.closing s t).map Mark.asStub = head.closing s t := by
  cases head <;> rfl

theorem asStub_ending (h : head.exported? = none) (s t : State) (ended : Outcome Unit) :
    (head.ending s t ended).map Mark.asStub = head.ending s t ended := by
  unfold ending
  cases head.outcome ended with
  | panicked => rfl
  | returned u =>
    cases head with
    | posix c => exact absurd h (by simp [exported?])
    | call | guard | recover | thread => rfl

end Scope

namespace Program

/-- The unsupported build runs a program as the native build runs its stubs. -/
theorem asStub_perform_unsupported (p : Program) (s : State) :
    (perform .unsupported p s).asStub = perform .native (stubbed p) s := by
  induction p generalizing s with
  | done => rfl
  | step a rest ih =>
    rw [stubbed]
    cases ha : a.panics with
    | true =>
      rw [perform_step_of_panics ha, perform_step_of_panics ha, Run.asStub, List.map_singleton,
        a.asStub_mark]
    | false =>
      rw [perform_step ha, perform_step ha, ← ih, Run.asStub, List.map_cons, a.asStub_mark]
      rfl
  | scope head body rest ihb ihr =>
    rw [stubbed]
    cases hhead : head.exported? with
    | some c =>
      -- Both sides refuse the operation, and no body runs on either.
      obtain rfl := Scope.eq_posix_of_exported hhead
      have hposix := Scope.perform_unsupported c (perform .unsupported body) s
      rw [perform_step rfl, perform, bind_of_returned hposix]
      rw [← ihr]
      rfl
    | none =>
      rcases hb : perform .unsupported body (head.inner s) with ⟨trace, t, ended⟩
      have hb' : perform .native (stubbed body) (head.inner s) =
          ⟨trace.map Mark.asStub, t, ended⟩ := by
        rw [← ihb, hb]
        rfl
      have hstep := head.perform_native hb
      rw [← Scope.perform_of_not_exported hhead .unsupported] at hstep
      have hopening := Scope.asStub_opening hhead s
      have hclosing := head.asStub_closing s t
      have hending := Scope.asStub_ending hhead s t ended
      cases hended : head.outcome ended with
      | panicked =>
        rw [hended, Scope.ending, hended] at hstep
        dsimp only
        rw [perform, bind_of_panicked hstep, perform_scope_of_panicked hb' hended]
        simp [Run.asStub, hopening, hclosing]
      | returned u =>
        rw [hended] at hstep
        dsimp only
        rw [perform, bind_of_returned hstep, perform_scope hb' hended, ← ihr]
        simp [Run.asStub, hopening, hclosing, hending]

/-- The same of whole runs, a panic that nobody stops included. -/
theorem asStub_execute_unsupported (p : Program) :
    (p.execute .unsupported).asStub = p.stubbed.execute .native := by
  rw [execute_apply, execute_apply, ← asStub_perform_unsupported]
  dsimp only [Run.asStub]
  rw [List.map_append]
  cases (perform .unsupported p .initial).outcome <;> rfl

/-! ## Which programs may run -/

/-- A stub never panics, whatever the body of the operation would do. -/
theorem mayPanic_of_stubbed (p : Program) (h : mayPanic (stubbed p) = true) :
    mayPanic p = true := by
  induction p with
  | done => exact h
  | step a rest ih =>
    rw [stubbed, mayPanic, Bool.or_eq_true] at h
    rw [mayPanic, Bool.or_eq_true]
    exact h.imp_right ih
  | scope head body rest ihb ihr =>
    rw [stubbed] at h
    rw [mayPanic, Bool.or_eq_true, Bool.and_eq_true]
    cases hhead : head.exported? with
    | some c =>
      rw [hhead] at h
      exact .inr (ihr h)
    | none =>
      rw [hhead] at h
      dsimp only at h
      rw [mayPanic, Bool.or_eq_true, Bool.and_eq_true] at h
      exact h.imp (fun hb => ⟨hb.1, ihb hb.2⟩) ihr

/-- Where no panic leaves a host's code or a thread, none does among stubs. -/
theorem contained_stubbed (p : Program) (h : contained p = true) :
    contained (stubbed p) = true := by
  induction p with
  | done => rfl
  | step a rest ih => exact ih h
  | scope head body rest ihb ihr =>
    rw [contained, Bool.and_eq_true, Bool.and_eq_true] at h
    obtain ⟨⟨hconfined, hbody⟩, hrest⟩ := h
    rw [stubbed]
    cases head.exported? with
    | some c => exact ihr hrest
    | none =>
      dsimp only
      rw [contained, ihb hbody, ihr hrest, Bool.and_true, Bool.and_true]
      cases hpanic : mayPanic (stubbed body) with
      | false => rw [Bool.and_false]; rfl
      | true => rwa [mayPanic_of_stubbed body hpanic] at hconfined

/-- A native build asks only that panics are contained. -/
theorem permit_native_iff {p : Program} : p.permit .native = .ok () ↔ p.contained = true := by
  unfold permit
  cases p.contained <;> simp

theorem contained_of_permit {p : Program} {build : Build} (h : p.permit build = .ok ()) :
    p.contained = true := by
  unfold permit at h
  cases hc : p.contained with
  | true => rfl
  | false => rw [hc] at h; simp at h

/-- A stub looks at nothing but its operation. -/
theorem AlikeButCalls.perform_eq {p q : Program} (h : AlikeButCalls p q) :
    perform .unsupported q = perform .unsupported p := by
  induction h with
  | done => rfl
  | step a _ ih => rw [perform, perform, ih]
  | @posix c c' hop body body' rest rest' _ ih =>
    obtain ⟨⟨op, args⟩, answer⟩ := c
    obtain ⟨⟨op', args'⟩, answer'⟩ := c'
    obtain rfl : op' = op := hop
    rw [perform, perform, ih]
    rfl
  | scope head _ _ ihb ihr => rw [perform, perform, ihb, ihr]

end Program

open Program in
/-- **In the unsupported build an operation is its stub.** Whatever the host is and whatever
its arguments are, an exported operation does what the stub does. So a program runs in the
unsupported build as its `stubbed` form, which may run wherever the program itself may, runs
in the native one: the events are the same up to the name of the replaced steps, and the final
states are the same. Two programs that differ only in the arguments, the host's answers and
the bodies of forwarded operations run alike. -/
theorem unsupported_as_stubs (p : Program) :
    (∀ host op args args', exported .unsupported host op args = Bridge.stub op args') ∧
    (p.permit .unsupported = .ok () → p.stubbed.permit .native = .ok ()) ∧
    (events .unsupported p).map Event.asStub = events .native p.stubbed ∧
    (p.execute .unsupported).state = (p.stubbed.execute .native).state ∧
    ∀ q, AlikeButCalls p q →
      events .unsupported q = events .unsupported p ∧
      (q.execute .unsupported).state = (p.execute .unsupported).state := by
  refine ⟨fun _ _ _ _ => rfl, ?_, ?_, ?_, ?_⟩
  · intro h
    exact permit_native_iff.mpr (contained_stubbed p (contained_of_permit h))
  · rw [events, events, ← asStub_execute_unsupported, ← Trace.events_map_asStub]
    rfl
  · rw [← asStub_execute_unsupported]
    rfl
  · intro q hq
    have hrun : q.execute .unsupported = p.execute .unsupported := by
      rw [execute_apply, execute_apply, hq.perform_eq]
    rw [events, events, hrun]
    exact ⟨rfl, rfl⟩

end PosixBridge
