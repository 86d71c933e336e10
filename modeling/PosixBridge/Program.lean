import PosixBridge.Bridge
import PosixBridge.Script

/-!
# Programs that use the bridge

A program is a script of the things a client of the library can do: read and write errno
through its guards, call the bridge, change the log, start threads, and panic. Bodies are
what happens inside a scope: while the host runs, while a guard is held, on another
thread, or under a recovery from panics.

`Program.perform` is what a program does to a state; `Program.execute` runs a whole
program from the initial state and reports a panic that nobody recovered from.
-/

namespace PosixBridge

/-- An operation with the arguments of its prototype. -/
structure Call where
  op : Operation
  args : Arguments op.parameters

/-- An operation with arguments, and the host's answer to it. -/
structure HostedCall extends Call where
  answer : op.hostResult.Word

/-- The simple steps, over a form of calls. -/
inductive Action (γ : Type)
  | set (value : Int32)
  | capture (slot : String)
  | saved (slot : String)
  /-- Drops a slot, which sets errno to its number. -/
  | drop (slot : String)
  | stub (call : γ)
  | log (settings : LogSettings)
  | panic

/-- The steps that hold a body, over a form of calls with the host's answer. -/
inductive Scope (δ : Type)
  /-- Makes a call whose raw result is given and whose callee runs the body. -/
  | call (type : ReturnType) (raw : type.Word)
  | guard
  /-- Calls an exported operation, whose host runs the body. -/
  | posix (call : δ)
  /-- Recovers from a panic of the body. -/
  | recover
  /-- Runs the body on a thread of its own. -/
  | thread

/-- A script of steps whose calls are understood. -/
abbrev Program := Script (Action Call) (Scope HostedCall)

open Procedure Bridge

namespace Action

/-- What a simple step does. A slot that is not in the right condition is left alone. -/
def perform : Action Call → Procedure Unit
  | .set value => do
    setErrno value
    report (.set value)
  | .capture slot => do
    let s ← getState
    match s.slots.get? slot with
    | some _ => report (.capture slot none)
    | none =>
      modifyState ({ · with slots := s.slots.insert slot s.errno })
      report (.capture slot (some s.errno))
  | .saved slot => do
    report (.saved slot ((← getState).slots.get? slot))
  | .drop slot => do
    let s ← getState
    match s.slots.get? slot with
    | none => report (.drop slot none)
    | some held =>
      setErrno held
      modifyState ({ · with slots := s.slots.erase slot })
      report (.drop slot (some held))
  | .stub c => do
    report (.stub c.op (← Bridge.stub c.op c.args))
  | .log settings => do
    modifyState ({ · with log := settings })
    report (.log settings)
  | .panic => do
    report .panic
    panicking

end Action

namespace Scope

/-- What a step with a body does, given what the body does. -/
def perform (build : Build) (body : Procedure Unit) : Scope HostedCall → Procedure Unit
  | .call type raw => do
    report (.call type (← Bridge.call type do body; return raw))
  | .guard => do
    let saved ← getErrno
    let inner ← keepErrno do body; getErrno
    report (.guard saved inner)
  | .posix c => do
    let host := Host.scripted (c.answer.setWidth 64) body
    report (.posix c.op (← exported build host c.op c.args))
  | .recover => do
    report (.recover (← catching body))
  | .thread => do
    report (.thread (← onThread body))

end Scope

namespace Program

/-- What a program does: its steps one after another, up to a panic. -/
def perform (build : Build) : Program → Procedure Unit
  | .done => return ()
  | .step action rest => do
    action.perform
    perform build rest
  | .scope head body rest => do
    head.perform build (perform build body)
    perform build rest

/-- A whole program: a panic that nobody recovered from is reported at the end. -/
def performWhole (build : Build) (program : Program) : Procedure Unit := do
  if ← catching (program.perform build) then report .uncaught

/-- The run of a whole program from the initial state. -/
def execute (build : Build) (program : Program) : Run Unit :=
  program.performWhole build .initial

/-- The events of the run of a whole program. -/
def events (build : Build) (program : Program) : List Event :=
  (program.execute build).trace.events

end Program

end PosixBridge
