import PosixBridge.Program

/-!
# Which programs may run

Two conditions are checked before a program runs. A panic must not leave the host's code
or a thread: `Program.contained`. And an unsupported build offers neither calls nor
guards, so a program for it must do without: `Program.nativeStep?` finds the first step
that it lacks.
-/

namespace PosixBridge

/-- The steps that only a native build offers. -/
inductive NativeStep
  | call | guard | capture | saved | drop
  deriving DecidableEq, Repr

/-- The word that the step is written with. -/
def NativeStep.name : NativeStep → String
  | .call => "call"
  | .guard => "guard"
  | .capture => "capture"
  | .saved => "saved"
  | .drop => "drop"

/-- Why a program may not run. -/
inductive Refusal
  | unknownOperation
  /-- An argument is missing or does not fit its type. -/
  | badArgument (parameter : String)
  | surplusArguments
  /-- The host's answer is missing or does not fit its type. -/
  | badAnswer
  | escapingPanic
  | unavailable (step : NativeStep)
  deriving DecidableEq, Repr

/-- What is said of a program that may not run. -/
def Refusal.message : Refusal → String
  | .unknownOperation => "unknown operation"
  | .badArgument parameter => "bad argument " ++ parameter
  | .surplusArguments => "too many arguments"
  | .badAnswer => "bad host return"
  | .escapingPanic => "panic not allowed here"
  | .unavailable step => step.name

namespace Action

variable {γ : Type}

/-- Whether the step panics. -/
def panics : Action γ → Bool
  | .panic => true
  | _ => false

/-- The step, if only a native build offers it. -/
def nativeStep? : Action γ → Option NativeStep
  | .capture _ => some .capture
  | .saved _ => some .saved
  | .drop _ => some .drop
  | _ => none

end Action

namespace Scope

variable {δ : Type}

/-- Whether a panic in the body stays in the body. -/
def recovers : Scope δ → Bool
  | .recover => true
  | _ => false

/-- Whether no panic may leave the body. -/
def confines : Scope δ → Bool
  | .posix _ | .thread => true
  | _ => false

/-- The step, if only a native build offers it. -/
def nativeStep? : Scope δ → Option NativeStep
  | .call .. => some .call
  | .guard => some .guard
  | _ => none

end Scope

namespace Program

/-- Whether the program holds a panic with no recovery around it. -/
def mayPanic : Program → Bool
  | .done => false
  | .step action rest => action.panics || mayPanic rest
  | .scope head body rest => !head.recovers && mayPanic body || mayPanic rest

/-- Whether no panic could leave the host's code or a thread. -/
def contained : Program → Bool
  | .done => true
  | .step _ rest => contained rest
  | .scope head body rest =>
    !(head.confines && mayPanic body) && contained body && contained rest

/-- The first step that only a native build offers. -/
def nativeStep? : Program → Option NativeStep :=
  Script.findSome? Action.nativeStep? Scope.nativeStep?

/-- Checks a program before it runs in the given build. -/
def permit (build : Build) (program : Program) : Except Refusal Unit :=
  if program.contained then
    match build, program.nativeStep? with
    | .unsupported, some step => .error (.unavailable step)
    | _, _ => .ok ()
  else
    .error .escapingPanic

end Program

end PosixBridge
