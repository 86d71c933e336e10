import PosixBridge.Proofs.Course
import PosixBridge.Proofs.InBand
import PosixBridge.Proofs.Stubs

/-!
# Every refusal is told once, where the log settings send it

An operation that is refused answers with `ENOSYS` and says so in one line,

> Syscalls not supported on this OS. (*name*)

Which channel the line goes to depends on the log settings at that moment, and these are
whatever the last log step of the run has made them, on whichever thread and in whichever scope
that was: settings are not restored when a scope is left. `outputs` says what is written at each
stage of a course; it goes along the steps that are performed, and knows the text, the target
and the settings at the start as they are printed here, not as the bridge composes them.

> `refusals_told_once`: a run writes at each of its points what `outputs` says of its course. So
> each refusal fills one channel, chosen by the last log step, and all else is silent; what is
> written names the refused operations in their order. A refusal answers with the encoded code
> and leaves errno alone.

The proof is about native programs: the unsupported build runs a program as its `stubbed` form,
and retelling a forwarded operation as a stub (`Mark.asStub`) changes nothing of what it writes.
-/

namespace PosixBridge

open Procedure Bridge

/-! ## What there is to be written -/

/-- Whether the log shows warnings of the bridge. -/
def LogSettings.TakesWarnings (s : LogSettings) : Prop :=
  s.max ∈ [some .warn, some .info, some .debug, some .trace] ∧
    (s.accept = .everything ∨ s.accept = .only "lind_posix")

instance (s : LogSettings) : Decidable s.TakesWarnings := inferInstanceAs (Decidable (_ ∧ _))

namespace Operation

/-- The line that refuses an operation. -/
def refusalText (op : Operation) : String :=
  "Syscalls not supported on this OS. (" ++ op.name ++ ")"

/-- What the refusal of an operation writes: one warning, or one line on standard error. -/
def refusal (op : Operation) (log : LogSettings) : Output :=
  if log.TakesWarnings then ⟨[⟨.warn, "lind_posix", op.refusalText⟩], ""⟩
  else ⟨[], op.refusalText ++ "\n"⟩

/-- Whether an output is one diagnostic that names the operation. -/
def NamedBy (op : Operation) (output : Output) : Prop :=
  output = ⟨[⟨.warn, "lind_posix", op.refusalText⟩], ""⟩ ∨
    output = ⟨[], op.refusalText ++ "\n"⟩

end Operation

namespace Stage

/-- The operation that a stage refuses, if it refuses one. -/
def refused? : Stage → Option Operation
  | .acted (.stub c) => some c.op
  | _ => none

/-- What is written at a stage, under the settings before it. -/
def output (log : LogSettings) (stage : Stage) : Output :=
  match stage.refused? with
  | some op => op.refusal log
  | none => ⟨[], ""⟩

/-- The settings after a stage: a log step brings its own. -/
def settings (log : LogSettings) : Stage → LogSettings
  | .acted (.log settings) => settings
  | _ => log

end Stage

/-- What is written at each stage, the settings being those of the last log step before it. -/
def outputs (log : LogSettings) : List Stage → List Output
  | [] => []
  | stage :: rest => stage.output log :: outputs (stage.settings log) rest

/-- The settings of the last log step, or those of the start if there is none. -/
def lastSettings (log : LogSettings) (stages : List Stage) : LogSettings :=
  stages.foldl Stage.settings log

/-- What a report says on the log and on standard error. -/
def Report.output : Report → Output
  | .posix _ reply | .stub _ reply => reply.output
  | _ => ⟨[], ""⟩

/-- What is written at a point of a run. -/
def Mark.output (m : Mark) : Output :=
  match m.point with
  | .reported r => r.output
  | .entered _ | .left _ => ⟨[], ""⟩

/-- What the events of a run say on the log and on standard error, without silence. -/
def diagnostics (events : List Event) : List Output :=
  (events.map (·.report.output)).filter (· ≠ ⟨[], ""⟩)

/-- The program as a build performs it. -/
def Program.asBuilt : Build → Program → Program
  | .native, p => p
  | .unsupported, p => p.stubbed

/-- Whether a mark is the mark of a stage, by the name that the build gives to a refusal. -/
def Mark.ShowsIn (build : Build) (m : Mark) (stage : Stage) : Prop :=
  match build with
  | .native => m.Shows stage
  | .unsupported => m.asStub.Shows stage

/-- Whether a report is a refusal: a stub's, and in the unsupported build that of a forwarded
operation as well. -/
def Report.Refuses (r : Report) (build : Build) (op : Operation) (reply : Reply op.result) :
    Prop :=
  r = .stub op reply ∨ build = .unsupported ∧ r = .posix op reply

/-! ## The line -/

namespace Operation

theorem name_one_line (op : Operation) : '\n' ∉ op.name.toList := by
  have hall : ∀ op ∈ all, '\n' ∉ op.name.toList := by decide +kernel
  exact hall op op.mem_all

/-- A refusal is told in one line. -/
theorem refusalText_one_line (op : Operation) : '\n' ∉ op.refusalText.toList := by
  unfold refusalText
  simp [String.toList_append, op.name_one_line]

/-- The line tells which operation was refused. -/
theorem refusalText_injective {op op' : Operation} (h : op.refusalText = op'.refusalText) :
    op = op' := by
  have hname : op.name = op'.name := by
    unfold refusalText at h
    exact (String.append_right_inj _).mp ((String.append_left_inj _).mp h)
  exact Option.some.inj (by rw [← ofName?_name, ← ofName?_name, hname])

end Operation

/-- The settings that show a warning of the bridge are those that the bridge asks for. -/
theorem LogSettings.enabled_iff (s : LogSettings) :
    s.enabled .warn Diagnostic.target = true ↔ s.TakesWarnings := by
  obtain ⟨max, accept⟩ := s
  have htarget : accept.allows Diagnostic.target = true ↔
      accept = .everything ∨ accept = .only "lind_posix" := by
    cases accept with
    | everything => simp [Accept.allows]
    | only target => simp [Accept.allows, Diagnostic.target]
  rw [enabled, Bool.and_eq_true]
  refine and_congr ?_ htarget
  cases max with
  | none => simp
  | some level => cases level <;> simp [LogLevel.verbosity]

/-- The message is the notice and the name in brackets. -/
theorem Diagnostic.message_eq (name : String) :
    message name = "Syscalls not supported on this OS. (" ++ name ++ ")" := by
  simp [message, notice]

/-- A stub writes the refusal of its operation. -/
theorem Operation.diagnostic_eq_refusal (op : Operation) (log : LogSettings) :
    Output.diagnostic log (Diagnostic.message op.name) = op.refusal log := by
  unfold Output.diagnostic refusal refusalText
  rw [Diagnostic.message_eq]
  by_cases h : log.TakesWarnings
  · rw [if_pos (log.enabled_iff.mpr h), if_pos h]
    rfl
  · rw [if_neg (fun he => h (log.enabled_iff.mp he)), if_neg h]

/-- A refusal names its operation on either channel. -/
theorem Operation.namedBy_refusal (op : Operation) (log : LogSettings) :
    op.NamedBy (op.refusal log) := by
  unfold refusal
  split
  · exact .inl rfl
  · exact .inr rfl

theorem Operation.NamedBy.not_silent {op : Operation} {output : Output}
    (h : op.NamedBy output) : output ≠ ⟨[], ""⟩ := by
  rcases h with rfl | rfl
  · simp
  · simp

/-! ## What a run writes -/

/-- The second part of a course is written under the settings at the end of the first. -/
theorem outputs_append (log : LogSettings) (as bs : List Stage) :
    outputs log (as ++ bs) = outputs log as ++ outputs (lastSettings log as) bs := by
  induction as generalizing log with
  | nil => rfl
  | cons stage as ih => exact congrArg (List.cons _) (ih _)

theorem lastSettings_append (log : LogSettings) (as bs : List Stage) :
    lastSettings log (as ++ bs) = lastSettings (lastSettings log as) bs := List.foldl_append

/-- A part of a run writes what its stages say, and leaves the settings that they say. -/
structure Tells (s : State) (trace : Trace) (stages : List Stage) (t : State) : Prop where
  outputs_eq : trace.map Mark.output = outputs s.log stages
  log_eq : t.log = lastSettings s.log stages

namespace Tells

variable {s t u : State} {xs ys : Trace} {as bs : List Stage}

theorem append (hx : Tells s xs as t) (hy : Tells t ys bs u) :
    Tells s (xs ++ ys) (as ++ bs) u := by
  refine ⟨?_, ?_⟩
  · rw [List.map_append, outputs_append, hx.outputs_eq, hy.outputs_eq, hx.log_eq]
  · rw [lastSettings_append, hy.log_eq, hx.log_eq]

/-- Entering a scope or a thread writes nothing, and neither does the host's call. -/
theorem opening (head : Scope HostedCall) (s : State) :
    Tells s (head.opening s) head.before (head.inner s) := by
  cases head <;> exact ⟨rfl, rfl⟩

/-- Settings are not restored when a scope is left. -/
theorem closing (head : Scope HostedCall) (s t : State) :
    Tells t (head.closing s t) head.behind (head.after s t) := by
  cases head with
  | call | guard | posix | recover => exact ⟨rfl, rfl⟩
  | thread => exact ⟨rfl, t.log_join⟩

/-- A native step with a body is silent, whatever it answers. -/
theorem ended (head : Scope HostedCall) (s t : State) (ended : Outcome Unit) :
    Tells (head.after s t) [⟨.reported (head.reported s t ended), (head.after s t).errno⟩]
      [.ended head] (head.after s t) := by
  cases head <;> exact ⟨rfl, rfl⟩

/-- A simple step writes if it is a stub, and changes the settings if it is a log step. -/
theorem action (a : Action Call) (s : State) :
    Tells s [⟨.reported (a.reported s), (a.after s).errno⟩] [.acted a] (a.after s) := by
  cases a with
  | set | saved | log | panic => exact ⟨rfl, rfl⟩
  | stub c => exact ⟨congrArg ([·]) (c.op.diagnostic_eq_refusal s.log), rfl⟩
  | capture slot | drop slot =>
    refine ⟨rfl, ?_⟩
    unfold Action.after
    dsimp only
    split <;> rfl

/-- So what is written goes along the course. -/
theorem composes : Program.Composes Tells where
  nil _ := ⟨rfl, rfl⟩
  append := append
  scope head s t _ _ hbody := (opening head s).append (hbody.append (closing head s t))
  ended := ended
  uncaught _ := ⟨rfl, rfl⟩

end Tells

/-- Retelling a refusal changes nothing of what it writes. -/
theorem Mark.output_asStub (m : Mark) : m.asStub.output = m.output := by
  obtain ⟨point, errno⟩ := m
  cases point with
  | reported r => cases r <;> rfl
  | entered | left => rfl

namespace Program

/-- Either build writes what the native build writes of the program as it is built. -/
theorem output_execute_asBuilt (build : Build) (p : Program) :
    (p.execute build).trace.map Mark.output =
      ((p.asBuilt build).execute .native).trace.map Mark.output := by
  cases build with
  | native => rfl
  | unsupported =>
    show _ = (p.stubbed.execute .native).trace.map Mark.output
    rw [← asStub_execute_unsupported, Run.asStub, List.map_map]
    exact List.map_congr_left fun m _ => m.output_asStub.symm

/-- Either build writes what its stages say, the log being off at first. -/
theorem outputs_execute (build : Build) (p : Program) :
    (p.execute build).trace.map Mark.output =
      outputs ⟨none, .everything⟩ (p.asBuilt build).wholeCourse := by
  rw [output_execute_asBuilt]
  exact (execute_rel Tells.composes _ fun a _ s => Tells.action a s).outputs_eq

/-- The run of either build goes through the course of the program as it is built. -/
theorem showsIn_execute (build : Build) (p : Program) :
    List.Forall₂ (Mark.ShowsIn build) (p.execute build).trace (p.asBuilt build).wholeCourse := by
  cases build with
  | native => exact p.shows_execute
  | unsupported =>
    have hshows := p.stubbed.shows_execute
    rw [← asStub_execute_unsupported, Run.asStub, List.forall₂_map_left_iff] at hshows
    exact hshows

end Program

/-! ## The refused operations, in order -/

/-- What is not an event writes nothing. -/
theorem diagnostics_events (trace : Trace) :
    diagnostics trace.events = (trace.map Mark.output).filter (· ≠ ⟨[], ""⟩) := by
  induction trace with
  | nil => rfl
  | cons m trace ih =>
    obtain ⟨point, errno⟩ := m
    cases point with
    | reported r =>
      rw [Trace.events_reported, List.map_cons, List.filter_cons, ← ih]
      exact List.filter_cons
    | entered | left => exact ih

/-- What is written along a course names the refused operations. -/
theorem namedBy_outputs (log : LogSettings) (stages : List Stage) :
    List.Forall₂ Operation.NamedBy (stages.filterMap Stage.refused?)
      ((outputs log stages).filter (· ≠ ⟨[], ""⟩)) := by
  induction stages generalizing log with
  | nil => exact .nil
  | cons stage stages ih =>
    rw [outputs, List.filterMap_cons, Stage.output]
    cases stage.refused? with
    | none => exact ih _
    | some op =>
      have hnamed := op.namedBy_refusal log
      have hspoken : decide (op.refusal log ≠ ⟨[], ""⟩) = true :=
        decide_eq_true hnamed.not_silent
      dsimp only
      rw [List.filter_cons, if_pos hspoken]
      exact .cons hnamed (ih _)

/-- What a run writes names the operations that it refuses, in their order. -/
theorem Program.diagnostics_execute (build : Build) (p : Program) :
    List.Forall₂ Operation.NamedBy ((p.asBuilt build).wholeCourse.filterMap Stage.refused?)
      (diagnostics (p.events build)) := by
  rw [events, diagnostics_events, outputs_execute]
  exact namedBy_outputs _ _

/-! ## The answers -/

/-- No type loses the code of a refusal. -/
theorem ReturnType.not_loses_enosys (t : ReturnType) : ¬ t.Loses 38 := by
  unfold Loses
  cases t <;> decide

/-- An event that answers with the code of a refusal and leaves errno alone. -/
structure Moment.Declines (m : Moment) (op : Operation) (reply : Reply op.result) : Prop where
  value_eq : reply.value = op.result.encode 38
  decode_eq : op.result.decode reply.value = .error ⟨38⟩
  errno_eq : m.event.errno = m.before

/-- The moment with its report as a stub makes it. -/
def Moment.asStub (m : Moment) : Moment := { m with event := m.event.asStub }

/-- Retelling a trace changes nothing of the errno before its events. -/
theorem Trace.moments_map_asStub (errno : Int32) (trace : Trace) :
    moments errno (trace.map Mark.asStub) = (moments errno trace).map Moment.asStub := by
  induction trace generalizing errno with
  | nil => rfl
  | cons m trace ih =>
    obtain ⟨point, e⟩ := m
    cases point with
    | reported r => exact congrArg (List.cons _) (ih e)
    | entered | left => exact ih e

namespace Program

/-- A stub of a native run declines its operation. -/
theorem declines_native (p : Program) : ∀ m ∈ (p.execute .native).trace.moments 0,
    ∀ op reply, m.event.report = .stub op reply → m.Declines op reply := by
  refine forall_moments (fun a s => ?_) (fun _ _ _ _ h => absurd h (by simp))
    (fun head _ _ _ _ _ _ h => ?_) (fun _ _ _ h => absurd h (by simp)) p
  · intro op reply h
    cases a with
    | stub c =>
      obtain ⟨rfl, hreply⟩ := Report.stub.inj h
      obtain rfl := eq_of_heq hreply
      exact ⟨rfl, ReturnType.decode_encode c.op.result.not_loses_enosys, rfl⟩
    | set | capture | saved | drop | log | panic => exact absurd h (by simp [Action.reported])
  · cases head <;> exact absurd h (by simp [Scope.reported])

/-- Every refusal of either build declines its operation. -/
theorem declines_execute (build : Build) (p : Program) :
    ∀ m ∈ (p.execute build).trace.moments 0, ∀ op reply,
      m.event.report.Refuses build op reply → m.Declines op reply := by
  intro m hm op reply hrefuses
  cases build with
  | native =>
    rcases hrefuses with hstub | ⟨hbuild, -⟩
    · exact declines_native p m hm op reply hstub
    · exact absurd hbuild (by decide)
  | unsupported =>
    -- The run with all refusals told as stubs is a native run.
    have hstubbed : m.asStub ∈ (p.stubbed.execute .native).trace.moments 0 := by
      rw [← asStub_execute_unsupported, Run.asStub, Trace.moments_map_asStub]
      exact List.mem_map_of_mem hm
    have hreport : m.asStub.event.report = .stub op reply := by
      show m.event.report.asStub = _
      rcases hrefuses with hstub | ⟨-, hposix⟩
      · rw [hstub]; rfl
      · rw [hposix]; rfl
    have hdeclines := declines_native p.stubbed m.asStub hstubbed op reply hreport
    exact ⟨hdeclines.value_eq, hdeclines.decode_eq, hdeclines.errno_eq⟩

/-- A forwarded operation of the native build is silent. -/
theorem silent_posix (p : Program) : ∀ m ∈ (p.execute .native).trace.moments 0,
    ∀ op reply, m.event.report = .posix op reply → reply.output = ⟨[], ""⟩ := by
  refine forall_moments (fun a s op reply h => ?_) (fun _ _ _ _ h => absurd h (by simp))
    (fun head _ _ _ _ op reply h => ?_) (fun _ _ _ h => absurd h (by simp)) p
  · cases a <;> exact absurd h (by simp [Action.reported])
  · cases head with
    | posix c =>
      obtain ⟨rfl, hreply⟩ := Report.posix.inj h
      obtain rfl := eq_of_heq hreply
      rfl
    | call | guard | recover | thread => exact absurd h (by simp [Scope.reported])

end Program

/-- **Every refusal is told once and in the right place.** A run goes through the course of its
program, with a stub in place of each forwarded operation in the unsupported build, and writes
at each point what the stage says: at a refusal one warning to the log and nothing to standard
error, or one line to standard error and nothing to the log, by the last log step of the run so
far, the log being off at first; and nothing elsewhere, a forwarded operation of the native build
included. So what a run writes names the refused operations, in their order. A refusal answers
with the code 38 encoded for its result, which a caller decodes as a failure with this code, and
leaves the running thread's errno as it was; it changes no other thread's, nor anything else.
The text is one line, and another one for another operation. -/
theorem refusals_told_once (build : Build) (p : Program) :
    let trace := (p.execute build).trace
    let course := (p.asBuilt build).wholeCourse
    List.Forall₂ (Mark.ShowsIn build) trace course ∧
    trace.map Mark.output = outputs ⟨none, .everything⟩ course ∧
    List.Forall₂ Operation.NamedBy (course.filterMap Stage.refused?)
      (diagnostics (p.events build)) ∧
    (∀ m ∈ trace.moments 0, ∀ op reply, m.event.report.Refuses build op reply →
      m.Declines op reply) ∧
    (∀ m ∈ (p.execute .native).trace.moments 0, ∀ op reply,
      m.event.report = .posix op reply → reply.output = ⟨[], ""⟩) ∧
    (∀ (c : Call) s, ((Action.stub c).perform s).state = s) ∧
    (∀ (c : HostedCall) body s, ((Scope.posix c).perform .unsupported body s).state = s) ∧
    (∀ op : Operation, '\n' ∉ op.refusalText.toList) ∧
    ∀ op op' : Operation, op.refusalText = op'.refusalText → op = op' :=
  ⟨p.showsIn_execute build, p.outputs_execute build, p.diagnostics_execute build,
    p.declines_execute build, p.silent_posix, fun _ _ => rfl, fun _ _ _ => rfl,
    Operation.refusalText_one_line, fun _ _ => Operation.refusalText_injective⟩

end PosixBridge
