import Mathlib.Data.List.Forall2
import PosixBridge.Proofs.Steps

/-!
# A panic leaves what an early return leaves

`Program.truncate` cuts a program off at the panic that ends it: the panic and all that
follows it are gone, in the list of the panic and in the lists around it, and the scopes
around it (`Program.panicPath`) stay, with what is left of their bodies. So the truncated
program gets to the place of the panic, and then leaves one scope after the other by
their ends.

> `panic_as_early_return`: under a recovery, both leave the same state. Their events are
> the same up to the panic's, which only the first has, and the ends of the scopes on the
> path, which only the second has.

The reason is that a scope does the same to the state whichever way it is left; only the
report depends on it. One induction over the program, `truncate_run`, adds the scopes of
the path one by one.
-/

namespace PosixBridge

open Procedure

namespace Program

/-- Whether a panic that may leave the body leaves the step with it. -/
def passesPanic (head : Scope HostedCall) (body : Program) : Bool :=
  !head.recovers && mayPanic body

/-- The program cut off at the panic that ends it. -/
def truncate : Program → Program
  | .done => .done
  | .step a rest => if a.panics then .done else .step a (truncate rest)
  | .scope head body rest =>
    if passesPanic head body then .scope head (truncate body) .done
    else .scope head body (truncate rest)

/-- The scopes around the panic that ends the program, the innermost first. -/
def panicPath : Program → List (Scope HostedCall)
  | .done => []
  | .step a rest => if a.panics then [] else panicPath rest
  | .scope head body rest =>
    if passesPanic head body then panicPath body ++ [head] else panicPath rest

end Program

theorem Action.eq_panic {γ : Type} {a : Action γ} (ha : a.panics = true) : a = .panic := by
  cases a with
  | panic => rfl
  | _ => exact absurd ha Bool.false_ne_true

/-- Whether an event is one with which a step of this kind ends. -/
def Scope.Ends (head : Scope HostedCall) (event : Event) : Prop :=
  ∃ s t, event = ⟨head.reported s t (.returned ()), (head.after s t).errno⟩

/-- A step whose body returns returns. -/
theorem Scope.outcome_returned (head : Scope HostedCall) :
    head.outcome (.returned ()) = .returned () := by
  cases head <;> rfl

/-- Two runs that part at a panic: the first panics there, the second goes on to the ends of
the given scopes and returns, and both end in one state. -/
structure PartsAtPanic (path : List (Scope HostedCall)) (first second : Run Unit) : Prop where
  returned : second.outcome = .returned ()
  state_eq : second.state = first.state
  events : ∃ shared errno ends,
    first.trace.events = shared ++ [⟨.panic, errno⟩] ∧
    second.trace.events = shared ++ ends ∧ List.Forall₂ Scope.Ends path ends

namespace PartsAtPanic

variable {path : List (Scope HostedCall)} {first second : Run Unit}

theorem prepend (h : PartsAtPanic path first second) (xs : Trace) :
    PartsAtPanic path ⟨xs ++ first.trace, first.state, first.outcome⟩
      ⟨xs ++ second.trace, second.state, second.outcome⟩ := by
  obtain ⟨shared, errno, ends, hfirst, hsecond, hends⟩ := h.events
  refine ⟨h.returned, h.state_eq, xs.events ++ shared, errno, ends, ?_, ?_, hends⟩
  · rw [Trace.events_append, hfirst, List.append_assoc]
  · rw [Trace.events_append, hsecond, List.append_assoc]

/-- Two such runs of a body make two such runs of the step that holds it: the step leaves
the same state, and only where the body has returned it reports its end. -/
theorem around (head : Scope HostedCall) (s : State) {t : State} {trace trace' : Trace}
    {ended ended' : Outcome Unit}
    (h : PartsAtPanic path ⟨trace, t, ended⟩ ⟨trace', t, .returned ()⟩) :
    PartsAtPanic (path ++ [head])
      ⟨head.opening s ++ (trace ++ head.closing s t), head.after s t, ended'⟩
      ⟨head.opening s ++ (trace' ++ (head.closing s t ++ head.ending s t (.returned ()))),
        head.after s t, .returned ()⟩ := by
  obtain ⟨shared, errno, ends, hfirst, hsecond, hends⟩ := h.events
  have hending : Trace.events (head.ending s t (.returned ())) =
      [⟨head.reported s t (.returned ()), (head.after s t).errno⟩] := by
    rw [Scope.ending, head.outcome_returned]
    rfl
  dsimp only at hfirst hsecond
  refine ⟨rfl, rfl, Trace.events (head.opening s) ++ shared, errno,
    ends ++ [⟨head.reported s t (.returned ()), (head.after s t).errno⟩], ?_, ?_, ?_⟩
  · simp only [Trace.events_append, hfirst, head.events_closing, List.append_nil,
      List.append_assoc]
  · simp only [Trace.events_append, hsecond, head.events_closing, hending, List.nil_append,
      List.append_assoc]
  · exact List.rel_append hends (.cons ⟨s, t, rfl⟩ .nil)

end PartsAtPanic

namespace Program

/-- A program that panics and the truncated program part at the panic. -/
theorem truncate_run (p : Program) (s : State) (hp : mayPanic p = true) :
    PartsAtPanic (panicPath p) (perform .native p s) (perform .native (truncate p) s) := by
  induction p generalizing s with
  | done => exact absurd hp (by decide)
  | step a rest ih =>
    rw [truncate, panicPath]
    cases ha : a.panics with
    | true =>
      obtain rfl := Action.eq_panic ha
      exact ⟨rfl, rfl, [], s.errno, [], rfl, rfl, .nil⟩
    | false =>
      rw [mayPanic, ha, Bool.false_or] at hp
      rw [if_neg Bool.false_ne_true, if_neg Bool.false_ne_true, perform_step ha, perform_step ha]
      exact (ih (a.after s) hp).prepend [⟨.reported (a.reported s), (a.after s).errno⟩]
  | scope head body rest ihb ihr =>
    rw [truncate, panicPath]
    rcases hb : perform .native body (head.inner s) with ⟨trace, t, ended⟩
    have hended := scope_outcome head (mayPanic body)
    rw [← perform_outcome body (head.inner s), hb, ← passesPanic] at hended
    cases hm : passesPanic head body with
    | true =>
      -- The panic leaves the step: the rest is dropped on both sides.
      rw [hm, if_pos rfl] at hended
      have hbody := ihb (head.inner s) ((Bool.and_eq_true ..).mp hm).2
      rcases hb' : perform .native (truncate body) (head.inner s) with ⟨trace', t', ended'⟩
      rw [hb, hb'] at hbody
      obtain rfl : ended' = .returned () := hbody.returned
      obtain rfl : t' = t := hbody.state_eq
      rw [if_pos rfl, if_pos rfl, perform_scope_of_panicked hb hended,
        perform_scope hb' head.outcome_returned]
      show PartsAtPanic _ _ ⟨_ ++ [], _, _⟩
      rw [List.append_nil]
      exact hbody.around head s
    | false =>
      -- The step returns, so the panic of the program is in the rest.
      rw [hm, if_neg Bool.false_ne_true] at hended
      have hm' : (!head.recovers && mayPanic body) = false := hm
      rw [mayPanic, hm', Bool.false_or] at hp
      rw [if_neg Bool.false_ne_true, if_neg Bool.false_ne_true, perform_scope hb hended,
        perform_scope hb hended]
      exact (ihr (head.after s t) hp).prepend _

/-- In a program that may run, a panic on its way passes scopes that restore errno only. -/
theorem panicPath_restores (p : Program) (hc : contained p = true) :
    ∀ head ∈ panicPath p, (∃ type raw, head = .call type raw) ∨ head = .guard := by
  induction p with
  | done => exact fun _ h => absurd h List.not_mem_nil
  | step a rest ih =>
    intro head hhead
    rw [panicPath] at hhead
    cases ha : a.panics with
    | true =>
      rw [ha, if_pos rfl] at hhead
      exact absurd hhead List.not_mem_nil
    | false =>
      rw [ha, if_neg Bool.false_ne_true] at hhead
      exact ih hc head hhead
  | scope top body rest ihb ihr =>
    intro head hhead
    rw [contained, Bool.and_eq_true, Bool.and_eq_true] at hc
    obtain ⟨⟨hconfined, hbody⟩, hrest⟩ := hc
    rw [panicPath] at hhead
    cases hm : passesPanic top body with
    | true =>
      rw [hm, if_pos rfl, List.mem_append, List.mem_singleton] at hhead
      rcases hhead with hin | rfl
      · exact ihb hbody head hin
      · obtain ⟨hrecovers, hpanics⟩ := (Bool.and_eq_true ..).mp hm
        rw [hpanics, Bool.and_true] at hconfined
        cases head with
        | call type raw => exact .inl ⟨type, raw, rfl⟩
        | guard => exact .inr rfl
        | recover => exact absurd hrecovers (by decide)
        | posix c => exact absurd hconfined (by simp [Scope.confines])
        | thread => exact absurd hconfined (by simp [Scope.confines])
    | false =>
      rw [hm, if_neg Bool.false_ne_true] at hhead
      exact ihr hrest head hhead

/-- A recovery is its body with a report behind it, whichever way the body ends. -/
theorem perform_recover (body : Program) (s : State) :
    perform .native (.scope .recover body .done) s =
      let r := perform .native body s
      ⟨r.trace ++ [⟨.reported (.recover r.outcome.isPanic), r.state.errno⟩], r.state,
        .returned ()⟩ := by
  rcases hb : perform .native body s with ⟨trace, t, ended⟩
  have hrun : perform .native (.scope .recover body .done) s = _ := perform_scope hb rfl .done
  rw [hrun]
  simp [Scope.opening, Scope.closing, Scope.ending, Scope.outcome, Scope.reported,
    Scope.after, perform, pure_apply]

end Program

open Program in
/-- Under a recovery, a panic leaves the state that an early return at its place leaves:
errno of every thread, the slots and the log settings. The events agree up to the panic;
then only the panic is in the first list, and only the ends of the scopes on its way,
innermost first, are in the second. A program that may run has only calls and guards on
that way. -/
theorem panic_as_early_return (body : Program) (s : State)
    (h : (perform .native body s).outcome = .panicked) :
    let caught := perform .native (.scope .recover body .done) s
    let early := perform .native (.scope .recover (truncate body) .done) s
    early.state = caught.state ∧
    (∃ shared errno ends,
      caught.trace.events =
        shared ++ [⟨.panic, errno⟩, ⟨.recover true, caught.state.errno⟩] ∧
      early.trace.events = shared ++ ends ++ [⟨.recover false, caught.state.errno⟩] ∧
      List.Forall₂ Scope.Ends (panicPath body) ends) ∧
    (contained body = true →
      ∀ head ∈ panicPath body, (∃ type raw, head = .call type raw) ∨ head = .guard) := by
  intro caught early
  have hp : mayPanic body = true := by
    rw [perform_outcome] at h
    cases hm : mayPanic body with
    | true => rfl
    | false => rw [hm, if_neg Bool.false_ne_true] at h; exact absurd h (by simp)
  have hparts := truncate_run body s hp
  obtain ⟨shared, errno, ends, hfirst, hsecond, hends⟩ := hparts.events
  have hcaught : caught = _ := perform_recover body s
  have hearly : early = _ := perform_recover (truncate body) s
  dsimp only at hcaught hearly
  rw [h] at hcaught
  rw [hparts.returned, hparts.state_eq] at hearly
  rw [hcaught, hearly]
  refine ⟨rfl, ⟨shared, errno, ends, ?_, ?_, hends⟩, panicPath_restores body⟩
  · simp [Trace.events_append, hfirst, Outcome.isPanic]
  · simp [Trace.events_append, hsecond, Outcome.isPanic]

open Program in
/-- Errno 5 is set, and then 7 in a guard that a panic leaves: both ways leave 5. -/
theorem panic_as_early_return_guard :
    let body : Program :=
      .step (.set 5) (.scope .guard (.step (.set 7) (.step .panic (.step (.set 9) .done)))
        (.step (.set 11) .done))
    (perform .native body .initial).outcome = .panicked ∧
      truncate body =
        .step (.set 5) (.scope .guard (.step (.set 7) .done) .done) ∧
      (perform .native (.scope .recover (truncate body) .done) .initial).state =
        (perform .native (.scope .recover body .done) .initial).state ∧
      (perform .native (.scope .recover body .done) .initial).state.errno = 5 := by
  intro body
  have hpanic : (perform .native body .initial).outcome = .panicked :=
    (perform_outcome body .initial).trans rfl
  exact ⟨hpanic, rfl, (panic_as_early_return body .initial hpanic).1, rfl⟩

end PosixBridge
