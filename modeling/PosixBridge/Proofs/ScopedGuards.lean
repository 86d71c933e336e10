import PosixBridge.Proofs.Context
import PosixBridge.Proofs.NamedGuards

/-!
# A scoped guard is a named guard that is dropped at the end of the scope

Errno can be guarded in two ways: by a scope, which restores it on every way out, and by a name,
under which a step captures it and a later step drops it again. With a name of its own, one
way does for the other as long as the body in between returns. If a panic leaves the body,
nobody comes to the step that drops the name.

> `guard_as_capture_drop`: anywhere in a program, a guard around a body that returns can be
> replaced by a capture, the body and a drop; all other events and the final state stay the
> same. Where a panic leaves the body, the name stays in use, and errno as the body has it.

The body does not know of a number that is saved under a name it does not use, which is
`Program.perform_saving`: a run with it and one without it are the same run, step by step.
-/

namespace PosixBridge

open Procedure

/-- The state with a number saved under one more name. -/
def State.saving (s : State) (slot : String) (value : Int32) : State :=
  { s with slots := s.slots.insert slot value }

namespace Program

/-- A guard around a body. -/
def guarded (body : Program) : Program := .scope .guard body .done

/-- The body between a capture and a drop of the name. -/
def captured (slot : String) (body : Program) : Program :=
  .step (.capture slot) (body.append (.step (.drop slot) .done))

end Program

section
variable {slot : String} {value : Int32}

/-! ## A name that is not used -/

/-- A step that does not use the name reports the same. -/
theorem Action.reported_saving {a : Action Call} (ha : a.slot? ≠ some slot) (s : State) :
    a.reported (s.saving slot value) = a.reported s := by
  cases a with
  | set | stub | log | panic => rfl
  | capture name | saved name | drop name =>
    have hne : name ≠ slot := fun heq => ha (congrArg some heq)
    simp only [reported, State.saving, Slots.get?_insert_of_ne _ _ hne]

/-- A step that does not use the name does the same, and the number stays saved. -/
theorem Action.after_saving {a : Action Call} (ha : a.slot? ≠ some slot) (s : State) :
    a.after (s.saving slot value) = (a.after s).saving slot value := by
  cases a with
  | set | saved | stub | log | panic => rfl
  | capture name =>
    have hne : name ≠ slot := fun heq => ha (congrArg some heq)
    cases hs : s.slots.get? name with
    | none =>
      simp [after, State.saving, Slots.get?_insert_of_ne _ _ hne, hs,
        Slots.insert_comm _ _ _ hne]
    | some held => simp [after, State.saving, Slots.get?_insert_of_ne _ _ hne, hs]
  | drop name =>
    have hne : name ≠ slot := fun heq => ha (congrArg some heq)
    cases hs : s.slots.get? name with
    | none => simp [after, State.saving, Slots.get?_insert_of_ne _ _ hne, hs]
    | some held =>
      simp [after, State.saving, Slots.get?_insert_of_ne _ _ hne, hs,
        Slots.erase_insert_of_ne _ _ hne]

namespace State

theorem join_saving (s : State) : (s.saving slot value).join = s.join.saving slot value := by
  obtain ⟨errno, waiting, slots, log⟩ := s
  cases waiting with
  | nil => rfl
  | cons => rfl

end State

namespace Scope

variable (head : Scope HostedCall) (s t : State)

theorem inner_saving : head.inner (s.saving slot value) = (head.inner s).saving slot value := by
  cases head <;> rfl

theorem after_saving :
    head.after (s.saving slot value) (t.saving slot value) =
      (head.after s t).saving slot value := by
  cases head with
  | call | guard | posix | recover => rfl
  | thread => exact t.join_saving

theorem opening_saving : head.opening (s.saving slot value) = head.opening s := by
  cases head <;> rfl

theorem closing_saving :
    head.closing (s.saving slot value) (t.saving slot value) = head.closing s t := by
  cases head with
  | call | guard | posix | recover => rfl
  | thread =>
    show [(⟨.left .thread, (t.saving slot value).join.errno⟩ : Mark)] = _
    rw [t.join_saving]
    rfl

/-- What a scope reports does not tell of the number. -/
theorem ending_saving (ended : Outcome Unit) :
    head.ending (s.saving slot value) (t.saving slot value) ended = head.ending s t ended := by
  unfold ending
  rw [after_saving]
  cases head <;> rfl

end Scope

namespace Program

/-- A program does the same whether or not a number is saved under a name that it does not
use, and leaves the number there. -/
theorem perform_saving {p : Program} (hp : ∀ a ∈ p.actions, a.slot? ≠ some slot) (s : State) :
    perform .native p (s.saving slot value) =
      let r := perform .native p s
      ⟨r.trace, r.state.saving slot value, r.outcome⟩ := by
  induction p generalizing s with
  | done => rfl
  | step a rest ih =>
    have hstep := hp a (List.mem_cons_self ..)
    have hrest := ih (fun b hb => hp b (List.mem_cons_of_mem _ hb))
    cases ha : a.panics with
    | true =>
      rw [perform_step_of_panics ha, perform_step_of_panics ha, a.after_saving hstep,
        a.reported_saving hstep]
      rfl
    | false =>
      rw [perform_step ha, perform_step ha, a.after_saving hstep, a.reported_saving hstep, hrest]
      rfl
  | scope head body rest ihb ihr =>
    -- The scope's own marks and report are the same, and it leaves the slots to its body.
    have hbody := ihb (fun b hb => hp b (List.mem_append_left _ hb)) (head.inner s)
    have hrest := ihr (fun b hb => hp b (List.mem_append_right _ hb))
    rcases hb : perform .native body (head.inner s) with ⟨trace, t, ended⟩
    rw [hb, ← head.inner_saving] at hbody
    cases hended : head.outcome ended with
    | panicked =>
      rw [perform_scope_of_panicked hb hended, perform_scope_of_panicked hbody hended,
        head.opening_saving, head.closing_saving, head.after_saving]
    | returned =>
      rw [perform_scope hb hended, perform_scope hbody hended, head.opening_saving,
        head.closing_saving, head.ending_saving, head.after_saving, hrest]

/-- A name that a program does not use is after it as it was before. -/
theorem get?_perform {p : Program} (hp : ∀ a ∈ p.actions, a.slot? ≠ some slot) (s : State) :
    (perform .native p s).state.slots.get? slot = s.slots.get? slot := by
  exact perform_shared_eq (fun slots _ => slots.get? slot)
    (fun a ha s => Guard.get?_after (hp a ha) s) s

end Program

end

namespace Program

variable {slot : String} {body : Program} {s t : State} {trace : Trace}

/-! ## The two forms of a guard -/

/-- The run of a guard around a body, in terms of the body's. -/
theorem perform_guarded {ended : Outcome Unit} (hb : perform .native body s = ⟨trace, t, ended⟩) :
    perform .native (guarded body) s =
      ⟨⟨.entered .keeping, s.errno⟩ :: (trace ++ ⟨.left .keeping, s.errno⟩ ::
          (match ended with
            | .returned _ => [⟨.reported (.guard s.errno t.errno), s.errno⟩]
            | .panicked => [])),
        { t with errno := s.errno }, ended⟩ := by
  have hinner : perform .native body (Scope.guard.inner s) = ⟨trace, t, ended⟩ := hb
  cases ended with
  | panicked =>
    rw [guarded, perform_scope_of_panicked hinner rfl]
    rfl
  | returned =>
    rw [guarded, perform_scope hinner rfl, perform, pure_apply]
    simp [Scope.opening, Scope.closing, Scope.ending, Scope.outcome, Scope.reported, Scope.after]

/-- The capture and the body of a guard under a name that is free and that the body does not use:
the body runs as ever, with the number saved. -/
theorem perform_captured_body (hfree : s.slots.get? slot = none)
    (hunused : ∀ a ∈ body.actions, a.slot? ≠ some slot) {ended : Outcome Unit}
    (hb : perform .native body s = ⟨trace, t, ended⟩) :
    (Action.capture slot).perform s =
        ⟨[⟨.reported (.capture slot (some s.errno)), s.errno⟩], s.saving slot s.errno,
          .returned ()⟩ ∧
      perform .native body (s.saving slot s.errno) = ⟨trace, t.saving slot s.errno, ended⟩ := by
  refine ⟨?_, ?_⟩
  · rw [Action.perform_apply]
    simp [Action.reported, Action.after, Action.outcome, Action.panics, State.saving, hfree]
  · rw [perform_saving hunused, hb]

/-- The name is free after the body as it was before. -/
theorem get?_of_unused (hfree : s.slots.get? slot = none)
    (hunused : ∀ a ∈ body.actions, a.slot? ≠ some slot) {ended : Outcome Unit}
    (hb : perform .native body s = ⟨trace, t, ended⟩) : t.slots.get? slot = none := by
  have hkept := get?_perform hunused s
  rw [hb, hfree] at hkept
  exact hkept

/-- The run of a capture, a body that returns and a drop, in terms of the body's. -/
theorem perform_captured (hfree : s.slots.get? slot = none)
    (hunused : ∀ a ∈ body.actions, a.slot? ≠ some slot)
    (hb : perform .native body s = ⟨trace, t, .returned ()⟩) :
    perform .native (captured slot body) s =
      ⟨⟨.reported (.capture slot (some s.errno)), s.errno⟩ ::
          (trace ++ [⟨.reported (.drop slot (some s.errno)), s.errno⟩]),
        { t with errno := s.errno }, .returned ()⟩ := by
  obtain ⟨hcapture, hbody⟩ := perform_captured_body hfree hunused hb
  have hfree' := get?_of_unused hfree hunused hb
  have hdrop : (Action.drop slot).perform (t.saving slot s.errno) =
      ⟨[⟨.reported (.drop slot (some s.errno)), s.errno⟩], { t with errno := s.errno },
        .returned ()⟩ := by
    rw [Action.perform_apply]
    simp [Action.reported, Action.after, Action.outcome, Action.panics, State.saving,
      Slots.erase_insert _ _ hfree']
  rw [captured, perform, bind_of_returned hcapture, perform_append, bind_of_returned hbody,
    perform, bind_of_returned hdrop]
  simp [perform, pure_apply]

/-- If the body panics, the drop is not reached and the number stays saved. -/
theorem perform_captured_of_panicked (hfree : s.slots.get? slot = none)
    (hunused : ∀ a ∈ body.actions, a.slot? ≠ some slot)
    (hb : perform .native body s = ⟨trace, t, .panicked⟩) :
    perform .native (captured slot body) s =
      ⟨⟨.reported (.capture slot (some s.errno)), s.errno⟩ :: trace,
        t.saving slot s.errno, .panicked⟩ := by
  obtain ⟨hcapture, hbody⟩ := perform_captured_body hfree hunused hb
  rw [captured, perform, bind_of_returned hcapture, perform_append, bind_of_panicked hbody]
  rfl

theorem events_guarded (hb : perform .native body s = ⟨trace, t, .returned ()⟩) :
    (perform .native (guarded body) s).trace.events =
      trace.events ++ [⟨.guard s.errno t.errno, s.errno⟩] := by
  rw [perform_guarded hb]
  simp [Trace.events_append]

theorem events_captured (hfree : s.slots.get? slot = none)
    (hunused : ∀ a ∈ body.actions, a.slot? ≠ some slot)
    (hb : perform .native body s = ⟨trace, t, .returned ()⟩) :
    (perform .native (captured slot body) s).trace.events =
      ⟨.capture slot (some s.errno), s.errno⟩ :: trace.events ++
        [⟨.drop slot (some s.errno), s.errno⟩] := by
  rw [perform_captured hfree hunused hb]
  simp [Trace.events_append]

end Program

open Program in
/-- **A scoped guard is a capture and a drop.** Put a guard around a body anywhere in a program,
and take a name that is free where the guard is reached and that the body does not use.

* If the body returns, the guard can be replaced by a capture, the body and a drop: the run ends
  in the same state, all other events are the same, and the guard's event gives way to those
  of the capture and the drop, with the number that the guard has saved. The name is free again.
* If the body panics, its events are the same still. The states differ in two things: after the
  capture the name stays in use, with the errno of the start, and errno is the body's last one
  where the guard restores that of the start.
* If the guard is not reached, it makes no difference what stands there. -/
theorem guard_as_capture_drop (place : Program.Context) {body : Program} {slot : String}
    (hunused : ∀ a ∈ body.actions, a.slot? ≠ some slot) :
    let byScope := place.fill (guarded body)
    let byName := place.fill (captured slot body)
    (∀ u, place.arrival .initial = some u → u.slots.get? slot = none →
      let inside := perform .native body u
      let guard := perform .native (guarded body) u
      let pair := perform .native (captured slot body) u
      (inside.outcome = .returned () →
        (execute .native byName).state = (execute .native byScope).state ∧
        pair.state = guard.state ∧ pair.state.slots.get? slot = none ∧
        ∃ past future,
          events .native byScope = past ++ (inside.trace.events ++
            [⟨.guard u.errno inside.state.errno, u.errno⟩]) ++ future ∧
          events .native byName = past ++ (⟨.capture slot (some u.errno), u.errno⟩ ::
            inside.trace.events ++ [⟨.drop slot (some u.errno), u.errno⟩]) ++ future) ∧
      (inside.outcome = .panicked →
        guard.outcome = .panicked ∧ pair.outcome = .panicked ∧
        guard.trace.events = inside.trace.events ∧
        pair.trace.events =
          ⟨.capture slot (some u.errno), u.errno⟩ :: inside.trace.events ∧
        guard.state.errno = u.errno ∧ guard.state.slots.get? slot = none ∧
        pair.state = { guard.state with
          errno := inside.state.errno, slots := guard.state.slots.insert slot u.errno })) ∧
    (place.arrival .initial = none → execute .native byName = execute .native byScope) := by
  intro byScope byName
  refine ⟨?_, ?_⟩
  · intro u hu hfree inside guard pair
    rcases hb : perform .native body u with ⟨trace, t, ended⟩
    have hinside : inside = ⟨trace, t, ended⟩ := hb
    have hguard : guard = _ := perform_guarded hb
    have hkept := get?_of_unused hfree hunused hb
    rw [hinside]
    refine ⟨?_, ?_⟩
    · -- The drop takes the number back, so the rest of the program finds the same state.
      intro hreturns
      obtain rfl : ended = .returned () := hreturns
      have hpair : pair = _ := perform_captured hfree hunused hb
      have hstate : pair.state = guard.state := by rw [hpair, hguard]
      have houtcome : pair.outcome = guard.outcome := by rw [hpair, hguard]
      have hruns := (place.fill_differAt hu hstate houtcome).execute
      obtain ⟨past, future, hfirst, hsecond⟩ := hruns.events
      rw [events_guarded hb] at hfirst
      rw [events_captured hfree hunused hb] at hsecond
      refine ⟨hruns.state_eq, hstate, ?_, past, future, hfirst, hsecond⟩
      rw [hpair]
      exact hkept
    · intro hpanics
      obtain rfl : ended = .panicked := hpanics
      have hpair : pair = _ := perform_captured_of_panicked hfree hunused hb
      rw [hguard, hpair]
      refine ⟨rfl, rfl, ?_, rfl, rfl, hkept, rfl⟩
      simp [Trace.events_append]
  · intro hmissed
    show execute .native (place.fill (captured slot body)) = _
    rw [execute_apply, execute_apply, place.fill_of_not_reached hmissed (guarded body)]

open Program in
/-- On a thread with errno 3, a call in the guard fails and errno is set to 9, while the name
"outer" is in use: both forms bring back 3. If the body then panics, under a recovery of
a program that starts with it, the guard brings back 0 and the capture leaves 9. -/
theorem guard_as_capture_drop_on_thread :
    let place : Program.Context :=
      .afterStep (.capture "outer")
        (.inside .thread (.afterStep (.set 3) (.before (.step (.drop "outer") .done))) .done)
    let body : Program :=
      .scope (.call .int ReturnType.int.sentinel) (.step (.set 7) .done) (.step (.set 9) .done)
    let panics : Program := body.append (.step .panic .done)
    let u : State :=
      { State.initial with errno := 3, waiting := [0], slots := Slots.empty.insert "outer" 0 }
    place.arrival .initial = some u ∧ (perform .native body u).outcome = .returned () ∧
      (perform .native panics .initial).outcome = .panicked ∧
      (∃ past future,
        events .native (place.fill (guarded body)) = past ++
          ((perform .native body u).trace.events ++ [⟨.guard 3 9, 3⟩]) ++ future ∧
        events .native (place.fill (captured "inner" body)) = past ++
          (⟨.capture "inner" (some 3), 3⟩ :: (perform .native body u).trace.events ++
            [⟨.drop "inner" (some 3), 3⟩]) ++ future) ∧
      (perform .native (guarded panics) .initial).state.errno = 0 ∧
      (perform .native (captured "inner" panics) .initial).state.errno = 9 := by
  intro place body panics u
  have hbody : ∀ a ∈ body.actions, a.slot? ≠ some "inner" := by decide
  have hpanics : ∀ a ∈ panics.actions, a.slot? ≠ some "inner" := by decide
  obtain ⟨hreached, -⟩ := guard_as_capture_drop place hbody
  obtain ⟨hreturns, -⟩ := hreached u rfl (by decide)
  obtain ⟨-, -, -, hevents⟩ := hreturns rfl
  have hpanicked : (perform .native panics .initial).outcome = .panicked :=
    (perform_outcome panics .initial).trans rfl
  obtain ⟨hrecovered, -⟩ :=
    guard_as_capture_drop (.inside .recover (.before .done) .done) hpanics
  obtain ⟨-, hescapes⟩ := hrecovered .initial rfl rfl
  obtain ⟨-, -, -, -, herrno, -, hstate⟩ := hescapes hpanicked
  exact ⟨rfl, rfl, hpanicked, hevents, herrno, congrArg (·.errno) hstate⟩

end PosixBridge
