import PosixBridge.Proofs.InBand

/-!
# One mechanism, under three names

A client meets the bridge in three forms: a guard around some code, a call of its own, and an
exported operation. All of them run a body with errno kept, and look at the errno that the
body has left, after its last step and before the restoration. What they make of this number
is all the difference: a guard shows it, a call puts it into a word in place of the sentinel,
and an operation is a call whose body is the host's.

> `call_guard_operation_alike`: around one body, all three leave the same state and add nothing
> to the body's events but their own, whichever way the body ends.

Looking before restoring has a price when a call is made around a call: the outer one looks at
an errno that the inner one has restored, its caller's.

> `nested_call_exact`: this shows only where the inner result is the sentinel again, which is
> the encoding of the code 1.
-/

namespace PosixBridge

open Procedure Bridge

namespace ReturnType

variable {t : ReturnType}

/-- Encoding twice, the second time with another errno, is encoding once, unless the first time
has given the sentinel. -/
theorem inBand_inBand_eq_iff {r : t.Word} {first second : Int32} :
    t.inBand (t.inBand r first) second = t.inBand r first ↔
      ¬ (r = t.sentinel ∧ first = 1 ∧ second ≠ 1) := by
  by_cases hr : r = t.sentinel
  · rw [hr, inBand_sentinel]
    by_cases hone : t.encode first = t.sentinel
    · -- The first result is the sentinel again, and the second errno is encoded in its place.
      rw [hone, inBand_sentinel, encode_eq_sentinel_iff]
      simp [encode_eq_sentinel_iff.mp hone]
    · rw [inBand_of_ne hone]
      exact iff_of_true rfl (fun hc => hone (encode_eq_sentinel_iff.mpr hc.2.1))
  · rw [inBand_of_ne hr, inBand_of_ne hr]
    exact iff_of_true rfl (fun hc => hr hc.1)

end ReturnType

/-! ## Three forms of one body -/

namespace Bridge

/-- The host behind an operation, as the bridge calls it: it reports the call, runs the body, and
gives its answer in the declared type. -/
def hosted (c : HostedCall) (body : Procedure Unit) : Procedure c.op.result.Word := do
  report (.host c.op c.args)
  body
  return c.op.ofHost c.answer

/-- The scripted host, read at the declared type, is the hosted closure. -/
theorem ofHost_scripted (c : HostedCall) (body : Procedure Unit) :
    c.op.ofHost <$> Host.scripted (c.answer.setWidth 64) body c.op c.args = hosted c body := by
  simp only [Host.scripted, Host.setWidth_answer, hosted, map_eq_pure_bind, bind_assoc,
    pure_bind]

/-- A forwarded operation is a call with the host for its body. -/
theorem perform_posix (c : HostedCall) (body : Procedure Unit) :
    (Scope.posix c).perform .native body = (do
      let v ← call c.op.result (hosted c body)
      report (.posix c.op ⟨v, .silent⟩)) := by
  have hforward : forward (.scripted (c.answer.setWidth 64) body) c.op c.args =
      call c.op.result (hosted c body) := by
    rw [forward, ofHost_scripted]
  show (do
    let v ← forward (.scripted (c.answer.setWidth 64) body) c.op c.args
    return ⟨v, .silent⟩) >>= (fun reply => report (.posix c.op reply)) = _
  rw [hforward, bind_assoc]
  simp only [pure_bind]

/-- The closure reports the call, runs the body and answers. -/
theorem hosted_apply (c : HostedCall) {body : Procedure Unit} {s t : State} {trace : Trace}
    {ended : Outcome Unit} (h : body s = ⟨trace, t, ended⟩) :
    hosted c body s =
      ⟨⟨.reported (.host c.op c.args), s.errno⟩ :: trace, t,
        ended.map fun _ => c.op.ofHost c.answer⟩ := by
  have hscripted := Host.scripted_apply (c.answer.setWidth 64) c.op c.args h
  rw [← ofHost_scripted, map_apply hscripted, Host.setWidth_answer]
  cases ended <;> rfl

end Bridge

/-- **Calls, guards and operations are one mechanism.** A call and a guard around one body leave
the same state, the body's with the errno of the start, and end as the body ends. The body's
events come first in both, and if it panics nothing comes after. If it returns, one event
follows: the guard shows the errno that the body has left, and the call has the encoding of
this number for its result, or the given word if that is not the sentinel. An operation does
what a call does whose body is the host, which reports the operation and its arguments, runs
the body, and answers. -/
theorem call_guard_operation_alike (body : Procedure Unit) (s : State) :
    (∀ (t : ReturnType) (raw : t.Word),
      let inside := body s
      let called := (Scope.call t raw).perform .native body s
      let guarded := Scope.guard.perform .native body s
      called.state = { inside.state with errno := s.errno } ∧ guarded.state = called.state ∧
      called.outcome = inside.outcome ∧ guarded.outcome = inside.outcome ∧
      (inside.outcome = .panicked →
        called.trace.events = inside.trace.events ∧
        guarded.trace.events = inside.trace.events) ∧
      (inside.outcome = .returned () → ∃ inner result,
        guarded.trace.events = inside.trace.events ++ [⟨.guard s.errno inner, s.errno⟩] ∧
        called.trace.events = inside.trace.events ++ [⟨.call t result, s.errno⟩] ∧
        result = if raw = t.sentinel then t.encode inner else raw)) ∧
    ∀ c : HostedCall,
      let inside := body s
      let run := call c.op.result (hosted c body) s
      (Scope.posix c).perform .native body = (do
        let v ← call c.op.result (hosted c body)
        report (.posix c.op ⟨v, .silent⟩)) ∧
      run.trace.events = ⟨.host c.op c.args, s.errno⟩ :: inside.trace.events ∧
      run.state = { inside.state with errno := s.errno } ∧
      run.outcome = inside.outcome.map
        fun _ => c.op.result.inBand (c.op.ofHost c.answer) inside.state.errno := by
  rcases hbody : body s with ⟨trace, u, ended⟩
  refine ⟨?_, ?_⟩
  · intro t raw inside called guarded
    have hcalled : called = _ := (Scope.call t raw).perform_native hbody
    have hguarded : guarded = _ := Scope.guard.perform_native hbody
    rw [hcalled, hguarded]
    refine ⟨rfl, rfl, rfl, rfl, ?_, ?_⟩
    · intro hpanics
      obtain rfl : ended = .panicked := hpanics
      rw [Scope.events_step, Scope.events_step]
      exact ⟨List.append_nil _, List.append_nil _⟩
    · intro hreturns
      obtain rfl : ended = .returned () := hreturns
      rw [Scope.events_step, Scope.events_step]
      refine ⟨u.errno, t.inBand raw u.errno, rfl, rfl, ?_⟩
      simp only [ReturnType.inBand, ReturnType.isSentinel_iff]
  · intro c inside run
    have hrun : run = _ := call_apply c.op.result (hosted c body) s
    rw [hosted_apply c hbody] at hrun
    rw [hrun]
    refine ⟨perform_posix c body, ?_, rfl, ?_⟩
    · simp [Trace.events_append, inside]
    · cases ended <;> rfl

/-- A body that sets errno 2, with and without a panic at its end, in a state with errno 7. -/
theorem call_guard_operation_alike_failing :
    let fails : Procedure Unit := setErrno 2
    let panics : Procedure Unit := do
      setErrno 2
      panicking
    let s : State := { State.initial with errno := 7 }
    let called := (Scope.call .pointer ReturnType.pointer.sentinel).perform .native
    (fails s).outcome = .returned () ∧ (panics s).outcome = .panicked ∧
      (∃ inner result,
        (Scope.guard.perform .native fails s).trace.events = [⟨.guard 7 inner, 7⟩] ∧
        (called fails s).trace.events = [⟨.call .pointer result, 7⟩] ∧
        result = ReturnType.pointer.encode inner) ∧
      (called panics s).trace.events = [] ∧ (called panics s).state.errno = 7 := by
  intro fails panics s called
  obtain ⟨hreturning, -⟩ := call_guard_operation_alike fails s
  obtain ⟨hpanicking, -⟩ := call_guard_operation_alike panics s
  obtain ⟨-, -, -, -, -, hends⟩ := hreturning .pointer ReturnType.pointer.sentinel
  obtain ⟨hstate, -, -, -, hpanics, -⟩ := hpanicking .pointer ReturnType.pointer.sentinel
  obtain ⟨inner, result, hguard, hcall, hresult⟩ := hends rfl
  rw [if_pos rfl] at hresult
  exact ⟨rfl, rfl, ⟨inner, result, hguard, hcall, hresult⟩, (hpanics rfl).1,
    congrArg State.errno hstate⟩

/-! ## A call in a call -/

/-- **A call around a call does no harm, unless the host fails with code 1.** Both leave the
caller's errno, and the same state and events. They have the same result unless the host has
answered with the sentinel and left the code 1 to a caller whose errno is another. Then the
inner result is the encoding of 1, which is the sentinel, and the outer call takes it for a
failure of its own, with the errno that the inner call has restored. -/
theorem nested_call_exact (t : ReturnType) (raw : Procedure t.Word) (s : State) {r : t.Word}
    (h : (raw s).outcome = .returned r) :
    let errno := (raw s).state.errno
    let once := call t raw s
    let twice := call t (call t raw) s
    once.state.errno = s.errno ∧ twice.state = once.state ∧
    twice.trace.events = once.trace.events ∧
    ∃ v w, once.outcome = .returned v ∧ twice.outcome = .returned w ∧
      (w = v ↔ ¬ (r = t.sentinel ∧ errno = 1 ∧ s.errno ≠ 1)) ∧
      (r = t.sentinel → errno = 1 →
        v = t.encode 1 ∧ v = t.sentinel ∧ w = t.encode s.errno) := by
  rcases hraw : raw s with ⟨trace, u, ended⟩
  rw [hraw] at h
  obtain rfl : ended = .returned r := h
  intro errno once twice
  have honce : once = _ := call_of_returned hraw
  have htwice : twice = _ := call_of_returned honce
  rw [honce, htwice]
  refine ⟨rfl, rfl, ?_, _, _, rfl, rfl, ReturnType.inBand_inBand_eq_iff, ?_⟩
  · simp [Trace.events_append]
  · intro hr hone
    have hsentinel : t.encode 1 = t.sentinel := ReturnType.encode_eq_sentinel_iff.mpr rfl
    have hinner : t.inBand r u.errno = t.encode 1 := by
      rw [hr, ReturnType.inBand_sentinel]
      exact congrArg t.encode hone
    refine ⟨hinner, hinner.trans hsentinel, ?_⟩
    rw [hinner, hsentinel, ReturnType.inBand_sentinel]

/-- A caller with errno 5 whose host fails with code 1 learns of a failure with code 5 from the
outer call. -/
theorem nested_call_exact_stale :
    let s : State := { State.initial with errno := 5 }
    let fails : Procedure ReturnType.int.Word := do
      setErrno 1
      return ReturnType.int.sentinel
    (fails s).outcome = .returned ReturnType.int.sentinel ∧
      ∃ v w, (call .int fails s).outcome = .returned v ∧
        (call .int (call .int fails) s).outcome = .returned w ∧ w ≠ v ∧ w.toInt = -5 := by
  intro s fails
  have hreturns : (fails s).outcome = .returned ReturnType.int.sentinel := rfl
  obtain ⟨-, -, -, v, w, hv, hw, hsame, hstale⟩ := nested_call_exact .int fails s hreturns
  obtain ⟨-, -, hcode⟩ := hstale rfl rfl
  refine ⟨hreturns, v, w, hv, hw, fun heq => hsame.mp heq ⟨rfl, rfl, by decide⟩, ?_⟩
  rw [hcode]
  decide

end PosixBridge
