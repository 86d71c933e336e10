import PosixBridge.Operation

/-!
# Arguments of a call

An argument list is typed by the parameters it is for: one word of the right width for
each, in order. A call with a missing, surplus or ill-sized argument cannot be written
down, so the operations never meet one; reading a list of texts is where such faults show.
-/

namespace PosixBridge

/-- One word for each parameter. -/
inductive Arguments : List Parameter → Type
  | nil : Arguments []
  | cons {p : Parameter} {ps : List Parameter} (value : p.type.Word) (rest : Arguments ps) :
      Arguments (p :: ps)

/-- Why a list of texts is no argument list. -/
inductive ArgumentFault
  /-- The argument for the named parameter is missing or does not fit its type. -/
  | bad (parameter : String)
  | surplus
  deriving DecidableEq, Repr

namespace Arguments

/-- The arguments in writing, each as its parameter's type has it. -/
def render {ps : List Parameter} : Arguments ps → List String
  | .nil => []
  | .cons (p := p) value rest => p.type.render value :: rest.render

/-- Reads written arguments for the given parameters. -/
def read : (ps : List Parameter) → List String → Except ArgumentFault (Arguments ps)
  | [], [] => .ok .nil
  | [], _ :: _ => .error .surplus
  | p :: _, [] => .error (.bad p.name)
  | p :: ps, text :: texts =>
    match p.type.read? text with
    | none => .error (.bad p.name)
    | some value => (read ps texts).map (.cons value)

end Arguments

end PosixBridge
