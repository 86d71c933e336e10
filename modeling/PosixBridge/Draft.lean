import PosixBridge.Admission

/-!
# Drafts: programs as they are written

In a draft, operations are names and arguments are texts. `Draft.resolve` looks the names
up in the catalog and reads the texts at the types of the prototypes; what comes out is a
program, and no fault of that sort can show up later. `Draft.permit` also checks the
program for the build it is to run in.
-/

namespace PosixBridge

/-- A call as it is written: the name of an operation and a text for each argument. -/
structure WrittenCall where
  name : String
  args : List String
  deriving DecidableEq, Repr

/-- A call and the host's answer to it, as they are written. -/
structure WrittenHostedCall extends WrittenCall where
  answer : String
  deriving DecidableEq, Repr

/-- A program whose calls are written, not yet understood. -/
abbrev Draft := Script (Action WrittenCall) (Scope WrittenHostedCall)

namespace WrittenCall

/-- The operation and the arguments that are meant. -/
def resolve (w : WrittenCall) : Except Refusal Call :=
  match Operation.ofName? w.name with
  | none => .error .unknownOperation
  | some op =>
    match Arguments.read op.parameters w.args with
    | .ok args => .ok ⟨op, args⟩
    | .error (.bad parameter) => .error (.badArgument parameter)
    | .error .surplus => .error .surplusArguments

end WrittenCall

namespace WrittenHostedCall

/-- The call and the answer that are meant. -/
def resolve (w : WrittenHostedCall) : Except Refusal HostedCall := do
  let call ← w.toWrittenCall.resolve
  match call.op.hostResult.read? w.answer with
  | none => .error .badAnswer
  | some answer => .ok { call with answer }

end WrittenHostedCall

namespace Action

def resolve : Action WrittenCall → Except Refusal (Action Call)
  | .set value => .ok (.set value)
  | .capture slot => .ok (.capture slot)
  | .saved slot => .ok (.saved slot)
  | .drop slot => .ok (.drop slot)
  | .stub w => w.resolve.map .stub
  | .log settings => .ok (.log settings)
  | .panic => .ok .panic

end Action

namespace Scope

def resolve : Scope WrittenHostedCall → Except Refusal (Scope HostedCall)
  | .call type raw => .ok (.call type raw)
  | .guard => .ok .guard
  | .posix w => w.resolve.map .posix
  | .recover => .ok .recover
  | .thread => .ok .thread

end Scope

namespace Draft

/-- The program that is meant, or the first fault in the order of the script. -/
def resolve (draft : Draft) : Except Refusal Program :=
  draft.traverse Action.resolve Scope.resolve

/-- The program that is meant, if it may run in the given build. -/
def permit (build : Build) (draft : Draft) : Except Refusal Program := do
  let program ← resolve draft
  program.permit build
  return program

end Draft

end PosixBridge
