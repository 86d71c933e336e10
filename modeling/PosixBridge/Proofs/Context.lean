import PosixBridge.Proofs.Steps

/-!
# Programs with a place in them

A `Script.Context` is a script with one place marked in it, in the script itself or at any
depth in its bodies, and `Context.fill` puts steps there. Every place of every program is
that of a context, so a statement over contexts speaks of all of them.

`Context.arrival` is the state in which a run gets to the place, if no panic keeps it from
getting there. What is put at the place matters to the rest of the run by the state and
the outcome it leaves, and by nothing else:

> `Context.fill_differAt`: two programs that leave the same state and outcome at a place
> can replace each other there; the traces differ in the part in which the place runs.
>
> `Context.fill_of_not_reached`: at a place that is not reached all programs are the same.
-/

namespace PosixBridge

open Procedure

namespace Script

variable {α σ : Type}

/-- The steps of one script, and then those of another. -/
def append : Script α σ → Script α σ → Script α σ
  | done, more => more
  | step action rest, more => step action (append rest more)
  | scope head body rest, more => scope head body (append rest more)

/-- A script with a place in it. -/
inductive Context (α σ : Type)
  /-- The place is before the given steps. -/
  | before (rest : Script α σ)
  | afterStep (action : α) (context : Context α σ)
  | afterScope (head : σ) (body : Script α σ) (context : Context α σ)
  /-- The place is in the body of the first step. -/
  | inside (head : σ) (context : Context α σ) (rest : Script α σ)

/-- The script with the given steps put at the place. -/
def Context.fill (steps : Script α σ) : Context α σ → Script α σ
  | before rest => steps.append rest
  | afterStep action context => step action (fill steps context)
  | afterScope head body context => scope head body (fill steps context)
  | inside head context rest => scope head (fill steps context) rest

end Script

/-- Two runs that end alike and whose traces differ in one part. -/
structure DifferAt (block block' : Trace) (first second : Run Unit) : Prop where
  state_eq : second.state = first.state
  outcome_eq : second.outcome = first.outcome
  trace : ∃ past future,
    first.trace = past ++ block ++ future ∧ second.trace = past ++ block' ++ future

namespace DifferAt

variable {block block' : Trace} {first second : Run Unit}

/-- What runs before both runs alike does not count as a difference. -/
theorem prepend (h : DifferAt block block' first second) (xs : Trace) :
    DifferAt block block' ⟨xs ++ first.trace, first.state, first.outcome⟩
      ⟨xs ++ second.trace, second.state, second.outcome⟩ := by
  obtain ⟨past, future, hfirst, hsecond⟩ := h.trace
  refine ⟨h.state_eq, h.outcome_eq, xs ++ past, future, ?_, ?_⟩
  · rw [hfirst]
    simp only [List.append_assoc]
  · rw [hsecond]
    simp only [List.append_assoc]

/-- Runs of two bodies that differ in one part make such runs of the step that holds them:
the step sees of its body the state and the outcome that it leaves. -/
theorem around {body body' : Program} {head : Scope HostedCall} {s : State}
    (h : DifferAt block block' (body.perform .native (head.inner s))
      (body'.perform .native (head.inner s))) (rest : Program) :
    DifferAt block block' (Program.perform .native (.scope head body rest) s)
      (Program.perform .native (.scope head body' rest) s) := by
  rcases hb : body.perform .native (head.inner s) with ⟨trace, t, ended⟩
  rcases hb' : body'.perform .native (head.inner s) with ⟨trace', t', ended'⟩
  rw [hb, hb'] at h
  obtain rfl : t' = t := h.state_eq
  obtain rfl : ended' = ended := h.outcome_eq
  obtain ⟨past, future, hfirst, hsecond⟩ := h.trace
  dsimp only at hfirst hsecond
  cases hended : head.outcome ended' with
  | panicked =>
    rw [Program.perform_scope_of_panicked hb hended, Program.perform_scope_of_panicked hb' hended]
    refine ⟨rfl, rfl, head.opening s ++ past, future ++ head.closing s t', ?_, ?_⟩
    · rw [hfirst]
      simp only [List.append_assoc]
    · rw [hsecond]
      simp only [List.append_assoc]
  | returned u =>
    rw [Program.perform_scope hb hended, Program.perform_scope hb' hended]
    refine ⟨rfl, rfl, head.opening s ++ past,
      future ++ (head.closing s t' ++ head.ending s t' ended') ++
        (rest.perform .native (head.after s t')).trace, ?_, ?_⟩
    · rw [hfirst]
      simp only [List.append_assoc]
    · rw [hsecond]
      simp only [List.append_assoc]

/-- What a whole run adds to the program's depends on the outcome only. -/
theorem execute {p q : Program}
    (h : DifferAt block block' (p.perform .native .initial) (q.perform .native .initial)) :
    DifferAt block block' (p.execute .native) (q.execute .native) := by
  obtain ⟨past, future, hfirst, hsecond⟩ := h.trace
  rw [Program.execute_apply, Program.execute_apply]
  dsimp only
  rw [h.outcome_eq, h.state_eq, hfirst, hsecond]
  exact ⟨rfl, rfl, past, _, List.append_assoc .., List.append_assoc ..⟩

/-- The difference of two traces is one of their events as well. -/
theorem events (h : DifferAt block block' first second) :
    ∃ past future, first.trace.events = past ++ block.events ++ future ∧
      second.trace.events = past ++ block'.events ++ future := by
  obtain ⟨past, future, hfirst, hsecond⟩ := h.trace
  refine ⟨past.events, future.events, ?_, ?_⟩
  · rw [hfirst, Trace.events_append, Trace.events_append]
  · rw [hsecond, Trace.events_append, Trace.events_append]

end DifferAt

namespace Program

/-- A program with one place left open. -/
abbrev Context := Script.Context (Action Call) (Scope HostedCall)

/-- Steps that follow others run after them, unless these panic. -/
theorem perform_append (build : Build) (p q : Program) :
    perform build (p.append q) = (do perform build p; perform build q) := by
  induction p with
  | done => rw [Script.append, perform, pure_bind]
  | step a rest ih => rw [Script.append, perform, perform, ih, bind_assoc]
  | scope head body rest _ ih => rw [Script.append, perform, perform, ih, bind_assoc]

end Program

namespace Script.Context

open Program

/-- The state in which a native run gets to the place, if it gets there. -/
def arrival : Program.Context → State → Option State
  | .before _, s => some s
  | .afterStep action context, s =>
    let r := action.perform s
    match r.outcome with
    | .returned _ => arrival context r.state
    | .panicked => none
  | .afterScope head body context, s =>
    let r := head.perform .native (perform .native body) s
    match r.outcome with
    | .returned _ => arrival context r.state
    | .panicked => none
  | .inside head context _, s => arrival context (head.inner s)

/-- At the place itself: what follows runs in the state and on the outcome that are left. -/
private theorem before_differAt {q q' : Program} {u : State}
    (hstate : (q'.perform .native u).state = (q.perform .native u).state)
    (houtcome : (q'.perform .native u).outcome = (q.perform .native u).outcome)
    (rest : Program) :
    DifferAt (q.perform .native u).trace (q'.perform .native u).trace
      (perform .native (q.append rest) u) (perform .native (q'.append rest) u) := by
  rw [perform_append, perform_append]
  rcases hq : q.perform .native u with ⟨trace, v, ended⟩
  rcases hq' : q'.perform .native u with ⟨trace', v', ended'⟩
  rw [hq, hq'] at hstate houtcome
  obtain rfl : v' = v := hstate
  obtain rfl : ended' = ended := houtcome
  cases ended' with
  | returned a =>
    rw [bind_of_returned hq, bind_of_returned hq']
    exact ⟨rfl, rfl, [], _, rfl, rfl⟩
  | panicked =>
    rw [bind_of_panicked hq, bind_of_panicked hq']
    exact ⟨rfl, rfl, [], [], (List.append_nil _).symm, (List.append_nil _).symm⟩

/-- Programs that leave the same state and outcome at a place can replace each other. -/
theorem fill_differAt (place : Program.Context) {s u : State} (hu : place.arrival s = some u)
    {q q' : Program} (hstate : (q'.perform .native u).state = (q.perform .native u).state)
    (houtcome : (q'.perform .native u).outcome = (q.perform .native u).outcome) :
    DifferAt (q.perform .native u).trace (q'.perform .native u).trace
      (perform .native (place.fill q) s) (perform .native (place.fill q') s) := by
  induction place generalizing s with
  | before rest =>
    obtain rfl : s = u := Option.some.inj hu
    exact before_differAt hstate houtcome rest
  | afterStep action context ih =>
    rw [arrival, action.perform_apply] at hu
    cases ha : action.panics with
    | true => simp [Action.outcome, ha] at hu
    | false =>
      simp only [Action.outcome, ha, Bool.false_eq_true, if_false] at hu
      rw [fill, fill, perform_step ha, perform_step ha]
      exact (ih hu).prepend [⟨.reported (action.reported s), (action.after s).errno⟩]
  | afterScope head body context ih =>
    rcases hb : perform .native body (head.inner s) with ⟨trace, t, ended⟩
    rw [arrival, head.perform_native hb] at hu
    cases hended : head.outcome ended with
    | panicked => simp [hended] at hu
    | returned u =>
      simp only [hended] at hu
      rw [fill, fill, perform_scope hb hended, perform_scope hb hended]
      exact (ih hu).prepend _
  | inside head context rest ih => exact (ih hu).around rest

/-- What is put at a place that a run does not reach makes no difference. -/
theorem fill_of_not_reached (place : Program.Context) {s : State}
    (hs : place.arrival s = none) (q q' : Program) :
    perform .native (place.fill q') s = perform .native (place.fill q) s := by
  induction place generalizing s with
  | before rest => exact absurd hs (Option.some_ne_none s)
  | afterStep action context ih =>
    rw [arrival, action.perform_apply] at hs
    rw [fill, fill]
    cases ha : action.panics with
    | true => rw [perform_step_of_panics ha, perform_step_of_panics ha]
    | false =>
      simp only [Action.outcome, ha, Bool.false_eq_true, if_false] at hs
      rw [perform_step ha, perform_step ha, ih hs]
  | afterScope head body context ih =>
    rcases hb : perform .native body (head.inner s) with ⟨trace, t, ended⟩
    rw [arrival, head.perform_native hb] at hs
    rw [fill, fill]
    cases hended : head.outcome ended with
    | panicked => rw [perform_scope_of_panicked hb hended, perform_scope_of_panicked hb hended]
    | returned u =>
      simp only [hended] at hs
      rw [perform_scope hb hended, perform_scope hb hended, ih hs]
  | inside head context rest ih =>
    -- The body runs the same, so the step around it does.
    rcases hb : perform .native (context.fill q) (head.inner s) with ⟨trace, t, ended⟩
    have hb' := (ih (s := head.inner s) hs).trans hb
    rw [fill, fill]
    cases hended : head.outcome ended with
    | panicked => rw [perform_scope_of_panicked hb hended, perform_scope_of_panicked hb' hended]
    | returned u => rw [perform_scope hb hended, perform_scope hb' hended]

end Script.Context

end PosixBridge
