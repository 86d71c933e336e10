import PosixBridge.Proofs.Course
import PosixBridge.Proofs.Threads

/-!
# A call nobody notices

Calls, guards, forwarded operations and threads bring errno back to what it was, and a
refused operation does not touch it. So one more of them, put anywhere into a program,
leaves the state in which it has found it, as long as nothing is done in its body that no
scope takes back: slots and log settings are shared by all (`Action.lasting`).

> `discreet_step_invisible`: the events of the larger program are those of the smaller one
> with the events of the step put in between, and with nothing in between if the place is
> not reached.

For a host that makes such a call after its own failure, this says that the errno which the
call around it encodes is safe. The proof is the replacement lemma for contexts, applied to
a step that ends in the state in which it starts (`Discreet.state_eq`). That it ends there
needs to be known of its body, which may disturb errno, but no waiting thread's, and not what
the threads share (`perform_shared`).
-/

namespace PosixBridge

open Procedure Bridge

/-- Whether the step changes what no scope restores: the slots or the log settings. -/
def Action.lasting {γ : Type} : Action γ → Bool
  | .capture _ | .drop _ | .log _ => true
  | .set _ | .saved _ | .stub _ | .panic => false

/-- Whether errno comes out of the scope as it went in. -/
def Scope.keepsErrno {δ : Type} : Scope δ → Bool
  | .call .. | .guard | .posix _ | .thread => true
  | .recover => false

/-- The host that does as the given one and runs a program before it returns. -/
def Host.beforeReturning (program : Program) (host : Host) : Host := fun op args => do
  let answer ← host op args
  program.perform .native
  return answer

namespace Program

/-- One step that keeps errno, and in whose body nothing else is changed for good. -/
inductive Discreet : Program → Prop
  | stub (c : Call) : Discreet (.step (.stub c) .done)
  | scope {head : Scope HostedCall} {body : Program} (hhead : head.keepsErrno = true)
      (hbody : ∀ a ∈ body.actions, a.lasting = false) : Discreet (.scope head body .done)

/-! ## From the start of a run to its end -/

/-- Slots and log settings are changed by lasting steps, and by these only. -/
theorem perform_shared {p : Program} (hp : ∀ a ∈ p.actions, a.lasting = false) (s : State) :
    (perform .native p s).state.slots = s.slots ∧ (perform .native p s).state.log = s.log := by
  refine Prod.mk.inj (perform_shared_eq Prod.mk (fun a ha s => ?_) s)
  cases a with
  | set | saved | stub | panic => rfl
  | capture | drop | log => exact absurd (hp _ ha) (by simp [Action.lasting])

/-! ## Discreet steps -/

namespace Discreet

variable {t : Program}

/-- A discreet step ends in the state in which it has started, errno of all threads, slots
and log settings. -/
theorem state_eq (ht : Discreet t) (s : State) : (perform .native t s).state = s := by
  cases ht with
  | stub c => rw [perform_step rfl]; rfl
  | @scope head body hhead hbody =>
    have hwaiting := (local_perform .native body).waiting_eq (head.inner s)
    have hshared := perform_shared hbody (head.inner s)
    rcases hb : perform .native body (head.inner s) with ⟨trace, u, ended⟩
    rw [hb] at hwaiting hshared
    obtain ⟨errno, waiting, slots, log⟩ := u
    obtain rfl : waiting = (head.inner s).waiting := hwaiting
    obtain rfl : slots = (head.inner s).slots := hshared.1
    obtain rfl : log = (head.inner s).log := hshared.2
    have hafter : head.after s ⟨errno, (head.inner s).waiting, (head.inner s).slots,
        (head.inner s).log⟩ = s := by
      cases head with
      | call | guard | posix | thread => rfl
      | recover => exact absurd hhead Bool.false_ne_true
    cases hended : head.outcome ended with
    | panicked => rw [perform_scope_of_panicked hb hended]; exact hafter
    | returned => rw [perform_scope hb hended]; exact hafter

/-- Whether a step panics does not depend on the state in which it runs. -/
theorem outcome_eq {s₀ : State} (hreturns : (perform .native t s₀).outcome = .returned ())
    (s : State) : (perform .native t s).outcome = .returned () := by
  rw [← hreturns, perform_outcome, perform_outcome]

/-- The step comes after the host's last change of errno, and is over before it is read. -/
theorem beforeReturning_apply (ht : Discreet t) {s₀ : State}
    (hreturns : (perform .native t s₀).outcome = .returned ()) (host : Host) (op : Operation)
    (args : Arguments op.parameters) (s : State) :
    (host.beforeReturning t op args s).state = (host op args s).state ∧
      (host.beforeReturning t op args s).outcome = (host op args s).outcome := by
  rw [Host.beforeReturning]
  rcases hhost : host op args s with ⟨trace, u, ended⟩
  cases ended with
  | panicked => rw [bind_of_panicked hhost]; exact ⟨rfl, rfl⟩
  | returned answer =>
    rcases hrun : perform .native t u with ⟨trace', u', ended'⟩
    have hu := ht.state_eq u
    have hret := outcome_eq hreturns u
    rw [hrun] at hu hret
    obtain rfl : u' = u := hu
    obtain rfl : ended' = .returned () := hret
    rw [bind_of_returned hhost, bind_of_returned hrun]
    exact ⟨rfl, rfl⟩

end Discreet

end Program

open Program in
/-- **A discreet step is invisible to everything around it.** Let `t` be a stub, or a call, a
guard, a forwarded operation or a thread with nothing lasting in its body, and let it
return. Put at any place of any native program, it leaves the final state as it was, and adds
its own events to the run, in one piece, or none if the place is not reached; all other events
are the same. In particular a host that makes the call `t` between its own work and its
return gets the same answer through to its caller. -/
theorem discreet_step_invisible (place : Program.Context) {t : Program} (ht : t.Discreet)
    {s₀ : State} (hreturns : (perform .native t s₀).outcome = .returned ()) :
    (execute .native (place.fill t)).state = (execute .native (place.fill .done)).state ∧
    (∀ s, place.arrival .initial = some s → ∃ past future,
      events .native (place.fill .done) = past ++ future ∧
      events .native (place.fill t) =
        past ++ (perform .native t s).trace.events ++ future) ∧
    (place.arrival .initial = none →
      events .native (place.fill t) = events .native (place.fill .done)) ∧
    ∀ (host : Host) op args s,
      (exported .native (host.beforeReturning t) op args s).outcome =
        (exported .native host op args s).outcome := by
  have hstate (s : State) : (perform .native t s).state = (perform .native .done s).state :=
    ht.state_eq s
  have houtcome (s : State) : (perform .native t s).outcome = (perform .native .done s).outcome :=
    Discreet.outcome_eq hreturns s
  have hreached {s : State} (hs : place.arrival .initial = some s) :=
    (place.fill_differAt hs (hstate s) (houtcome s)).execute
  have hmissed (hs : place.arrival .initial = none) :
      execute .native (place.fill t) = execute .native (place.fill .done) := by
    rw [execute_apply, execute_apply, place.fill_of_not_reached hs .done t]
  refine ⟨?_, ?_, ?_, ?_⟩
  · cases hs : place.arrival .initial with
    | none => rw [hmissed hs]
    | some s => exact (hreached hs).state_eq
  · intro s hs
    obtain ⟨past, future, hwithout, hwith⟩ := (hreached hs).events
    have hnothing : (perform .native .done s).trace.events = [] := rfl
    rw [hnothing, List.append_nil] at hwithout
    exact ⟨past, future, hwithout, hwith⟩
  · intro hs
    rw [events, events, hmissed hs]
  · intro host op args s
    obtain ⟨hends, hanswers⟩ := ht.beforeReturning_apply hreturns host op args s
    rw [exported_native_apply, exported_native_apply, hends, hanswers]

open Program in
/-- A host has set errno to 2 for its failure when a call inside it fails with code 7: two
events more, and the outer call still answers with the code 2. -/
theorem discreet_step_invisible_in_host :
    let close : HostedCall := ⟨⟨.close, .cons 3#32 .nil⟩, ReturnType.int.sentinel⟩
    let place : Program.Context :=
      .inside (.posix close) (.afterStep (.set 2) (.before .done)) .done
    let t : Program := .scope (.call .int ReturnType.int.sentinel) (.step (.set 7) .done) .done
    let failing : Host := fun op _ => do
      setErrno 2
      return op.hostResult.sentinel
    (perform .native t .initial).outcome = .returned () ∧
      place.arrival .initial = some { State.initial with errno := 2 } ∧
      (∃ past future, events .native (place.fill .done) = past ++ future ∧
        events .native (place.fill t) =
          past ++ [⟨.set 7, 7⟩, ⟨.call .int (ReturnType.int.encode 7), 2⟩] ++ future) ∧
      (exported .native (failing.beforeReturning t) .close close.args .initial).outcome =
        .returned ⟨ReturnType.int.encode 2, .silent⟩ := by
  intro close place t failing
  have hdiscreet : Discreet t := .scope rfl (by simp [Script.actions, Action.lasting])
  have hreturns : (perform .native t .initial).outcome = .returned () := rfl
  obtain ⟨-, hreached, -, hanswer⟩ := discreet_step_invisible place hdiscreet hreturns
  refine ⟨hreturns, rfl, hreached { State.initial with errno := 2 } rfl, ?_⟩
  rw [hanswer failing .close close.args .initial, exported_native_apply]
  have hcode : ReturnType.int.inBand ReturnType.int.sentinel 2 = ReturnType.int.encode 2 := by
    decide
  exact congrArg (fun v => Outcome.returned (Reply.mk v Output.silent)) hcode

end PosixBridge
